import StorageLifecycle.Json.Decode
import StorageLifecycle.Text.Literal
import StorageLifecycle.Text.Word

/-!
# Refusals

What the cluster answers when it refuses a request, and what it is taken for when its answer says
nothing of the kind.
-/

namespace StorageLifecycle

structure Refusal where
  status : String
  message : String
  reason : String
  code : Nat
deriving DecidableEq, Repr

namespace Refusal

open Json Decoder

/-- A refusal as a record; the message and the reason may be missing. -/
def decoder : Decoder Refusal :=
  record .refuse
    [required "status" text fun r status => { r with status },
     defaulted "message" text fun r message => { r with message },
     defaulted "reason" text fun r reason => { r with reason },
     required "code" (natural (Word.bound 16)) fun r code => { r with code }]
    ⟨"", "", "", 0⟩

/-- The refusal with all its fields, as a value in a message. -/
def describe (r : Refusal) : String :=
  "ErrorResponse \x7b status: " ++ Literal.write r.status
    ++ ", message: " ++ Literal.write r.message
    ++ ", reason: " ++ Literal.write r.reason
    ++ ", code: " ++ toString r.code ++ " \x7d"

/-- The text of the error that the refusal is. -/
def display (r : Refusal) : String :=
  "ApiError: " ++ r.message ++ ": " ++ r.reason ++ " (" ++ r.describe ++ ")"

/-! ## Statuses -/

/-- The registered names of statuses that refuse a request. -/
def statusNames : List (Nat × String) :=
  [(400, "Bad Request"), (401, "Unauthorized"), (402, "Payment Required"), (403, "Forbidden"),
    (404, "Not Found"), (405, "Method Not Allowed"), (406, "Not Acceptable"),
    (407, "Proxy Authentication Required"), (408, "Request Timeout"), (409, "Conflict"),
    (410, "Gone"), (411, "Length Required"), (412, "Precondition Failed"),
    (413, "Payload Too Large"), (414, "URI Too Long"), (415, "Unsupported Media Type"),
    (416, "Range Not Satisfiable"), (417, "Expectation Failed"), (418, "I'm a teapot"),
    (421, "Misdirected Request"), (422, "Unprocessable Entity"), (423, "Locked"),
    (424, "Failed Dependency"), (425, "Too Early"), (426, "Upgrade Required"),
    (428, "Precondition Required"), (429, "Too Many Requests"),
    (431, "Request Header Fields Too Large"), (451, "Unavailable For Legal Reasons"),
    (500, "Internal Server Error"), (501, "Not Implemented"), (502, "Bad Gateway"),
    (503, "Service Unavailable"), (504, "Gateway Timeout"), (505, "HTTP Version Not Supported"),
    (506, "Variant Also Negotiates"), (507, "Insufficient Storage"), (508, "Loop Detected"),
    (510, "Not Extended"), (511, "Network Authentication Required")]

/-- Does a status refuse the request? -/
def isRefused (status : Nat) : Bool := 400 ≤ status && status < 600

/-- A status with its name. -/
def statusText (status : Nat) : String :=
  toString status ++ " " ++ (statusNames.lookup status).getD "<unknown status code>"

/-- The refusal that the body of an answer is, or stands for. -/
def ofBody (status : Nat) (body : String) : Refusal :=
  match (Json.read body).decode decoder with
  | .ok r => r
  | .error _ => ⟨statusText status, Literal.write body, "Failed to parse error data", status⟩

end Refusal

end StorageLifecycle

import StorageLifecycle.Proofs.Cluster.Following
import StorageLifecycle.Proofs.Cluster.Waiting

/-!
# The course of a watch

A watch goes from window to window. Each window is asked for from the version that all items before it come
to, and the watch ends when its deadline comes or when a window is refused. What a pump has asked for, what it
has passed on, what it has answered and how it has ended are all read off such a course.
-/

namespace StorageLifecycle

/-- A window that was opened: when, and what was heard of it. -/
structure Hearing where
  openedAt : Tick
  items : List StreamItem
deriving DecidableEq, Repr

/-- What an answer yields: the items of its window up to the first failure. -/
def Opening.yield (o : Opening) : List StreamItem :=
  match o.result with
  | .ok window => StreamItem.untilFailure (window.items.map Prod.snd)
  | .error _ => []

/-- The wait before the next window, after these items. -/
def WatchTerms.pause (w : WatchTerms) (t : Tick) (before : List StreamItem) : Nat :=
  (Resume.start.takeAll before).backoff (Tick.nanos * (w.deadline - t)) / Tick.nanos

/-- The request for the next window, after these items and before the deadline. -/
structure WatchTerms.Asks (w : WatchTerms) (t : Tick) (before : List StreamItem) (r : WindowRequest) :
    Prop where
  moment : r.moment = t + w.pause t before
  early : r.moment < w.deadline
  version : r.version = resumption before

/-- The course of a watch from a moment on, after the items before it: given what stands against a request and
the answers, the requests that are made, the windows that are opened, and the refusal that ends the watch, if
one does. -/
inductive WatchCourse (objection : WindowRequest → Option String) (w : WatchTerms) :
    Tick → List StreamItem → List Opening → List WindowRequest → List Hearing →
      Option (Tick × String) → Prop where
  /-- The deadline comes before the next window, or the reader leaves. -/
  | ended {t : Tick} {before : List StreamItem} {openings : List Opening} :
    w.deadline ≤ t + w.pause t before ∨ w.leaves → WatchCourse objection w t before openings [] [] none
  /-- The next window cannot be asked for. -/
  | unasked {t : Tick} {before : List StreamItem} {openings : List Opening} {r : WindowRequest}
    {reason : String} :
    w.Asks t before r → objection r = some reason →
      WatchCourse objection w t before openings [] [] (some (r.moment, reason))
  /-- There are no more answers, and nothing happens any more. -/
  | silent {t : Tick} {before : List StreamItem} {r : WindowRequest} :
    w.Asks t before r → objection r = none →
      WatchCourse objection w t before [] [r] [⟨r.moment, []⟩] none
  | refused {t : Tick} {before : List StreamItem} {o : Opening} {more : List Opening} {r : WindowRequest}
    {reason : String} :
    w.Asks t before r → objection r = none → o.result = .error reason →
      WatchCourse objection w t before (o :: more) [r] [] (some (r.moment + o.delay, reason))
  /-- The watch ends with this window. -/
  | last {t : Tick} {before : List StreamItem} {o : Opening} {more : List Opening} {r : WindowRequest}
    {window : Window} {heard : List StreamItem} :
    w.Asks t before r → objection r = none → o.result = .ok window →
      Heard w window.closing (r.moment + o.delay) window.items heard none →
        WatchCourse objection w t before (o :: more) [r] [⟨r.moment + o.delay, heard⟩] none
  | next {t t' : Tick} {before : List StreamItem} {o : Opening} {more : List Opening} {r : WindowRequest}
    {window : Window} {heard : List StreamItem} {requests : List WindowRequest} {windows : List Hearing}
    {refusal : Option (Tick × String)} :
    w.Asks t before r → objection r = none → o.result = .ok window →
      Heard w window.closing (r.moment + o.delay) window.items heard (some t') →
        WatchCourse objection w t' (before ++ heard) more requests windows refusal →
          WatchCourse objection w t before (o :: more) (r :: requests) (⟨r.moment + o.delay, heard⟩ :: windows)
            refusal

namespace WatchCourse

variable {objection : WindowRequest → Option String} {w : WatchTerms} {t : Tick}
  {before : List StreamItem} {openings : List Opening} {requests : List WindowRequest}
  {windows : List Hearing} {refusal : Option (Tick × String)}

/-- Each window is asked for from the version that all that was heard before comes to. -/
theorem version (h : WatchCourse objection w t before openings requests windows refusal) {i : Nat}
    {r : WindowRequest} (hr : requests[i]? = some r) :
    r.version = resumption (before ++ (windows.take i).flatMap Hearing.items) := by
  induction h generalizing i with
  | ended _ => exact nomatch hr
  | unasked _ _ => exact nomatch hr
  | silent hasks _ | refused hasks _ _ | last hasks _ _ _ =>
      cases i with
      | zero =>
          cases hr
          rw [hasks.version, List.take_zero, List.flatMap_nil, List.append_nil]
      | succ i => exact nomatch hr
  | next hasks _ _ _ _ ih =>
      cases i with
      | zero =>
          cases hr
          rw [hasks.version, List.take_zero, List.flatMap_nil, List.append_nil]
      | succ i =>
          rw [ih hr, List.take_succ_cons, List.flatMap_cons, List.append_assoc]

/-- Of the windows before another one all is heard up to the first failure. -/
theorem items_eq_yield (h : WatchCourse objection w t before openings requests windows refusal) {i : Nat}
    {r : WindowRequest} (hr : requests[i]? = some r) :
    (windows.take i).flatMap Hearing.items = (openings.take i).flatMap Opening.yield := by
  induction h generalizing i with
  | ended _ => exact nomatch hr
  | unasked _ _ => exact nomatch hr
  | silent _ _ | refused _ _ _ | last _ _ _ _ =>
      cases i with
      | zero => rfl
      | succ i => exact nomatch hr
  | next _ _ hopened hheard _ ih =>
      cases i with
      | zero => rfl
      | succ i =>
          rw [List.take_succ_cons, List.take_succ_cons, List.flatMap_cons, List.flatMap_cons, ih hr]
          refine congrArg (· ++ _) ?_
          rw [Opening.yield, hopened]
          exact hheard.eq_untilFailure (Option.some_ne_none _)

/-- What is heard is what the answers yield, from the first of it on. -/
theorem items_prefix_yield (h : WatchCourse objection w t before openings requests windows refusal) :
    windows.flatMap Hearing.items <+: openings.flatMap Opening.yield := by
  induction h with
  | ended _ => exact List.nil_prefix
  | unasked _ _ => exact List.nil_prefix
  | silent _ _ => exact List.nil_prefix
  | refused _ _ _ => exact List.nil_prefix
  | last _ _ hopened hheard =>
      rw [List.flatMap_singleton, List.flatMap_cons, Opening.yield, hopened]
      exact hheard.prefix_untilFailure.trans (List.prefix_append _ _)
  | next _ _ hopened hheard _ ih =>
      rw [List.flatMap_cons, List.flatMap_cons, Opening.yield, hopened]
      dsimp only
      rw [hheard.eq_untilFailure (Option.some_ne_none _)]
      exact (List.prefix_append_right_inj _).mpr ih

/-- A window that is asked for and not refused is open from the answer on. -/
theorem openedAt (h : WatchCourse objection w t before openings requests windows refusal) {i : Nat}
    {r : WindowRequest} {o : Opening} {window : Window} (hr : requests[i]? = some r)
    (ho : openings[i]? = some o) (hopened : o.result = .ok window) :
    windows[i]?.map Hearing.openedAt = some (r.moment + o.delay) := by
  induction h generalizing i with
  | ended _ => exact nomatch hr
  | unasked _ _ => exact nomatch hr
  | silent _ _ => exact nomatch ho
  | refused _ _ hrefused =>
      cases i with
      | zero =>
          cases ho
          exact nomatch hrefused.symm.trans hopened
      | succ i => exact nomatch hr
  | last _ _ _ _ =>
      cases i with
      | zero =>
          cases hr
          cases ho
          rfl
      | succ i => exact nomatch hr
  | next _ _ _ _ _ ih =>
      cases i with
      | zero =>
          cases hr
          cases ho
          rfl
      | succ i => exact ih hr ho

/-- The first refusal ends the watch. -/
theorem refused_at (h : WatchCourse objection w t before openings requests windows refusal) {i : Nat}
    {r : WindowRequest} {o : Opening} {reason : String} (hr : requests[i]? = some r)
    (ho : openings[i]? = some o) (hrefused : o.result = .error reason) :
    requests.length = i + 1 ∧ windows.length = i ∧ refusal = some (r.moment + o.delay, reason) := by
  induction h generalizing i with
  | ended _ => exact nomatch hr
  | unasked _ _ => exact nomatch hr
  | silent _ _ => exact nomatch ho
  | refused _ _ hresult =>
      cases i with
      | zero =>
          cases hr
          cases ho
          cases hresult.symm.trans hrefused
          exact ⟨rfl, rfl, rfl⟩
      | succ i => exact nomatch hr
  | last _ _ hopened _ =>
      cases i with
      | zero =>
          cases ho
          exact nomatch hopened.symm.trans hrefused
      | succ i => exact nomatch hr
  | next _ _ hopened _ _ ih =>
      cases i with
      | zero =>
          cases ho
          exact nomatch hopened.symm.trans hrefused
      | succ i =>
          obtain ⟨hrequests, hwindows, hrefusal⟩ := ih hr ho
          exact ⟨congrArg (· + 1) hrequests, congrArg (· + 1) hwindows, hrefusal⟩

end WatchCourse

/-! ## What a pump does -/

/-- A window is asked for before the deadline, and for the whole seconds that are left, from one to 290. -/
structure WindowRequest.InTime (deadline : Tick) (r : WindowRequest) : Prop where
  early : r.moment < deadline
  secs : r.secs.toNat = min 290 (max 1 ((deadline - r.moment) / 1000))

namespace Pump

variable {p p' : Pump} {objection : WindowRequest → Option String}

/-- What a pump has become that has gone a course. -/
structure Went (p : Pump) (requests : List WindowRequest) (windows : List Hearing)
    (refusal : Option (Tick × String)) (p' : Pump) : Prop where
  kind : p'.kind = p.kind
  reader : p'.reader = p.reader
  deadline : p'.deadline = p.deadline
  passages : p.passages <+: p'.passages
  messages : p.reader.Stays →
    p'.messages = p.messages ++ (windows.flatMap Hearing.items).flatMap StreamItem.messages
  inTime : ∀ r ∈ requests, r.InTime p.deadline
  requests : p'.requests = p.requests ++ requests
  openedAt : p'.openedAt = p.openedAt.or (windows.head?.map Hearing.openedAt)
  failure : p'.failure =
    (refusal.map fun r => ObserverError.watchOpen p.kind.label r.2).or p.failure
  clock : ∀ r ∈ refusal, p'.clock = r.1

theorem Went.at_clock (p : Pump) (t : Tick) : p.Went [] [] none { p with clock := t } :=
  ⟨rfl, rfl, rfl, List.prefix_refl _, fun _ => (List.append_nil _).symm, List.forall_mem_nil _,
    (List.append_nil _).symm, (Option.or_none).symm, rfl, fun _ h => nomatch h⟩

/-- A pump that is refused a window ends. -/
theorem Went.refused (p : Pump) (t : Tick) {requests : List WindowRequest}
    (hrequests : ∀ r ∈ requests, r.InTime p.deadline) (reason : String) :
    p.Went requests [] (some (t, reason))
      ({ p with clock := t, requests := p.requests ++ requests }.refused reason) := by
  unfold Pump.refused
  dsimp only
  split
  all_goals
    refine ⟨rfl, rfl, rfl, List.prefix_refl _, fun _ => (List.append_nil _).symm, hrequests, rfl,
      (Option.or_none).symm, rfl, ?_⟩
    rintro r ⟨⟩
    rfl

/-- A pump opens a window, and what it does then counts from there. -/
theorem Went.opened {requests : List WindowRequest} {windows : List Hearing}
    {refusal : Option (Tick × String)} {heard : List StreamItem} {r : WindowRequest} {t : Tick} {p'' : Pump}
    (h : ({ p with clock := t, requests := p.requests ++ [r] }.opened).Brought heard p')
    (hr : r.InTime p.deadline) (h' : p'.Went requests windows refusal p'') :
    p.Went (r :: requests) (⟨t, heard⟩ :: windows) refusal p'' where
  kind := h'.kind.trans h.kind
  reader := h'.reader.trans h.reader
  deadline := h'.deadline.trans h.deadline
  passages := h.passages.trans h'.passages
  messages hstays := by
    have hfirst : p'.messages = p.messages ++ _ := h.messages hstays
    rw [h'.messages (h.reader ▸ hstays), hfirst, List.flatMap_cons, List.flatMap_append, List.append_assoc]
  inTime := List.forall_mem_cons.mpr ⟨hr, h.deadline ▸ h'.inTime⟩
  requests := by
    rw [h'.requests, h.requests]
    exact (List.append_cons _ _ _).symm
  openedAt := by
    have hfirst : p'.openedAt = p.openedAt.or (some t) := h.openedAt.trans Option.orElse_eq_or
    rw [h'.openedAt, hfirst, Option.or_assoc]
    rfl
  failure := by
    rw [h'.failure, h.failure, h.kind]
    rfl
  clock := h'.clock

/-- Before the next window a pump waits, unless the reader leaves. -/
theorem backOff_cases (p : Pump) :
    p.backOff = .reached { p with clock := p.clock + p.backoff } ∨
      ∃ t, p.backOff = .ended { p with clock := t } ∧ ¬p.reader.Stays := by
  unfold backOff
  dsimp only
  by_cases hzero : p.backoff = 0
  · rw [if_pos hzero, hzero]
    exact .inl rfl
  rw [if_neg hzero]
  cases hleft : p.leftAt?.filter _ with
  | none => exact .inl rfl
  | some t =>
      refine .inr ⟨_, rfl, fun hstays => ?_⟩
      rw [leftAt?_of_stays hstays] at hleft
      exact nomatch hleft

/-- The reader takes more and more. -/
theorem Went.heard_mono {requests : List WindowRequest} {windows : List Hearing}
    {refusal : Option (Tick × String)} {closing : Option Nat} {t : Tick} {items : List (Nat × StreamItem)}
    {heard : List StreamItem} {goesOn : Option Tick} (h : p.Went requests windows refusal p')
    (hheard : Heard p.terms closing t items heard goesOn) : Heard p'.terms closing t items heard goesOn := by
  refine hheard.mono h.deadline ?_ (congrArg (fun r : Reader => ¬r.Stays) h.reader)
  rintro t ⟨d, hd, htaken⟩
  exact ⟨d, h.passages.mem hd, htaken⟩

/-- The wait of a pump is the one after the items that it was brought. -/
theorem pause_terms (p' : Pump) {before : List StreamItem} (hresume : p.resume = Resume.start.takeAll before)
    (hdeadline : p'.deadline = p.deadline) : p'.terms.pause p.clock before = p.backoff := by
  unfold WatchTerms.pause backoff
  rw [hresume]
  show (Resume.start.takeAll before).backoff (Tick.nanos * (p'.deadline - p.clock)) / Tick.nanos = _
  rw [hdeadline]

/-- The request of a pump after its wait. -/
def nextRequest (p : Pump) (secs : UInt32) : WindowRequest :=
  { p with clock := p.clock + p.backoff }.windowRequest secs

/-- The pump has made its request. -/
def asking (p : Pump) (secs : UInt32) : Pump :=
  { p with clock := p.clock + p.backoff, requests := p.requests ++ [p.nextRequest secs] }

/-- The request of a pump is the one after the items that it was brought. -/
theorem asks_nextRequest {before : List StreamItem} (hresume : p.resume = Resume.start.takeAll before)
    (hdeadline : p'.deadline = p.deadline) (hearly : p.clock + p.backoff < p.deadline) (secs : UInt32) :
    p'.terms.Asks p.clock before (p.nextRequest secs) where
  moment := by
    rw [pause_terms p' hresume hdeadline]
    rfl
  early := by
    show p.clock + p.backoff < p'.deadline
    rw [hdeadline]
    exact hearly
  version := by
    show p.resume.version = _
    rw [hresume, Resume.version_takeAll]

theorem nextWindow_cases (deadline t : Tick) :
    deadline ≤ t ∧ Resume.nextWindow (Tick.nanos * deadline) (Tick.nanos * t) = none ∨
      t < deadline ∧ ∃ secs, Resume.nextWindow (Tick.nanos * deadline) (Tick.nanos * t) = some secs ∧
        secs.toNat = min 290 (max 1 ((deadline - t) / 1000)) := by
  rcases Nat.lt_or_ge t deadline with hlt | hle
  · have hnanos : 0 < Tick.nanos := by decide
    have hleft : (Tick.nanos * deadline - Tick.nanos * t) / 1000000000 = (deadline - t) / 1000 := by
      rw [← Nat.mul_sub]
      exact Nat.mul_div_mul_left _ 1000 hnanos
    refine .inr ⟨hlt, _, Resume.nextWindow_of_lt (Nat.mul_lt_mul_of_pos_left hlt hnanos), ?_⟩
    rw [Resume.toNat_windowSecs, hleft]
  · exact .inl ⟨hle, Resume.nextWindow_of_le (Nat.mul_le_mul_left _ hle)⟩

/-- The pump has gone a course of the watch on the way to another pump. -/
def Goes (objection : WindowRequest → Option String) (before : List StreamItem) (openings : List Opening)
    (p p' : Pump) : Prop :=
  ∃ requests windows refusal,
    WatchCourse objection p'.terms p.clock before openings requests windows refusal ∧
      p.Went requests windows refusal p'

/-- A pump ends before it has asked for a window, or it asks for one in time. -/
theorem ask_cases (objection : WindowRequest → Option String) (p : Pump) {before : List StreamItem}
    (hresume : p.resume = Resume.start.takeAll before) :
    (∃ p', p.ask objection = .ended p' ∧ ∀ openings, p.Goes objection before openings p') ∨
    ∃ secs, p.ask objection = .reached (p.asking secs) ∧ objection (p.nextRequest secs) = none ∧
      (p.nextRequest secs).InTime p.deadline := by
  unfold ask
  rcases backOff_cases p with hback | ⟨t, hback, hleaves⟩
  · rw [hback]
    rcases nextWindow_cases p.deadline (p.clock + p.backoff) with
      ⟨hlate, hnext⟩ | ⟨hearly, secs, hnext, hsecs⟩
    · dsimp only
      rw [hnext]
      refine .inl ⟨_, rfl, fun openings => ⟨[], [], none, .ended (.inl ?_), .at_clock p _⟩⟩
      rw [pause_terms { p with clock := p.clock + p.backoff } hresume rfl]
      exact hlate
    · dsimp only
      rw [hnext]
      dsimp only
      cases hobjection : objection _ with
      | some reason =>
          have hwent := Went.refused p (p.clock + p.backoff) (List.forall_mem_nil _) reason
          rw [List.append_nil] at hwent
          have hasks := asks_nextRequest hresume hwent.deadline hearly secs
          exact .inl ⟨_, rfl, fun openings => ⟨[], [], _, .unasked hasks hobjection, hwent⟩⟩
      | none => exact .inr ⟨secs, rfl, hobjection, hearly, hsecs⟩
  · rw [hback]
    exact .inl ⟨_, rfl, fun openings => ⟨[], [], none, .ended (.inr hleaves), .at_clock p t⟩⟩

/-- A pump that has asked for a window is refused it, or it hears of it. -/
theorem hear_cases (o : Opening) (p : Pump) :
    (∃ reason, o.result = .error reason ∧
      p.hear o = .ended ({ p with clock := p.clock + o.delay }.refused reason)) ∨
    ∃ window heard, o.result = .ok window ∧
      Heard (p.hear o).pump.terms window.closing (p.clock + o.delay) window.items heard (p.hear o).goesOn ∧
      { p with clock := p.clock + o.delay }.opened.Brought heard (p.hear o).pump := by
  unfold hear
  cases hresult : o.result with
  | error reason => exact .inl ⟨reason, rfl, rfl⟩
  | ok window =>
      obtain ⟨heard, hheard, hbrought⟩ :=
        follow_heard window.closing window.items { p with clock := p.clock + o.delay }.opened
      exact .inr ⟨window, heard, rfl, hheard, hbrought⟩

/-- A pump goes the course of its watch. -/
theorem run_goes (objection : WindowRequest → Option String) (openings : List Opening) (p : Pump)
    (before : List StreamItem) (hresume : p.resume = Resume.start.takeAll before) :
    p.Goes objection before openings (run objection openings p) := by
  induction openings generalizing p before with
  | nil =>
      unfold run
      rcases ask_cases objection p hresume with ⟨p', hask, hgoes⟩ | ⟨secs, hask, hobjection, hintime⟩
      · rw [hask]
        exact hgoes []
      rw [hask]
      rcases await_cases (p.asking secs).opened none with ⟨n, hnone, _⟩ | ⟨t, hawait, _⟩
      · exact nomatch hnone
      · dsimp only
        rw [hawait]
        have hwent :=
          Went.opened (p := p) (Brought.at_clock (p.asking secs).opened t) hintime (Went.at_clock _ t)
        have hasks := asks_nextRequest hresume hwent.deadline hintime.early secs
        exact ⟨_, _, none, .silent hasks hobjection, hwent⟩
  | cons o more ih =>
      unfold run
      rcases ask_cases objection p hresume with ⟨p', hask, hgoes⟩ | ⟨secs, hask, hobjection, hintime⟩
      · rw [hask]
        exact hgoes (o :: more)
      rw [hask]
      dsimp only
      rcases hear_cases o (p.asking secs) with
        ⟨reason, hresult, hhear⟩ | ⟨window, heard, hresult, hheard, hbrought⟩
      · rw [hhear]
        have hwent := Went.refused p (p.clock + p.backoff + o.delay)
          (List.forall_mem_singleton.mpr hintime) reason
        have hasks := asks_nextRequest hresume hwent.deadline hintime.early secs
        exact ⟨_, _, _, .refused hasks hobjection hresult, hwent⟩
      cases hhear : (p.asking secs).hear o with
      | ended p' =>
          rw [hhear] at hheard hbrought
          have hwent := Went.opened (p := p) hbrought hintime (Went.at_clock p' p'.clock)
          have hasks := asks_nextRequest hresume hwent.deadline hintime.early secs
          exact ⟨_, _, _, .last hasks hobjection hresult hheard, hwent⟩
      | reached p' =>
          rw [hhear] at hheard hbrought
          change Brought _ heard p' at hbrought
          have hresume' : p'.resume = Resume.start.takeAll (before ++ heard) := by
            rw [hbrought.resume, Resume.takeAll_append, ← hresume]
            rfl
          obtain ⟨requests, windows, refusal, hcourse, hafter⟩ := ih p' _ hresume'
          have hwent := Went.opened (p := p) hbrought hintime hafter
          have hasks := asks_nextRequest hresume hwent.deadline hintime.early secs
          exact ⟨_, _, _, .next hasks hobjection hresult (hafter.heard_mono hheard) hcourse, hwent⟩

/-! ## What is relayed -/

/-- What a pump has relayed to a reader who takes everything. -/
structure Relayed (objection : WindowRequest → Option String) (kind : ResourceKind) (clock deadline : Tick)
    (openings : List Opening) (p : Pump) (windows : List Hearing) (refusal : Option (Tick × String)) :
    Prop where
  /-- The watch has gone its course up to the deadline. -/
  course : WatchCourse objection p.terms clock [] openings p.requests windows refusal
  deadline : p.terms.deadline = deadline
  stays : ¬p.terms.leaves
  /-- What was heard is what the answers yield, from the first of it on. -/
  heard : windows.flatMap Hearing.items <+: openings.flatMap Opening.yield
  /-- Each message of what was heard was passed on, in order. -/
  messages : p.messages = (windows.flatMap Hearing.items).flatMap StreamItem.messages
  /-- Each window was asked for from the version that all windows before it come to. -/
  version : ∀ i r, p.requests[i]? = some r →
    r.version = resumption ((openings.take i).flatMap Opening.yield)
  /-- The first answer says whether the watch is open. -/
  opening : ∀ r o, p.requests[0]? = some r → openings[0]? = some o →
    p.opening = match o.result with
      | .ok _ => .ok (r.moment + o.delay)
      | .error reason => .error (.watchOpen kind.label reason)
  /-- No window is asked for behind a refusal. -/
  refused : ∀ i r o reason, p.requests[i]? = some r → openings[i]? = some o → o.result = .error reason →
    p.requests.length = i + 1 ∧ p.clock = r.moment + o.delay ∧
      p.failure = some (.watchOpen kind.label reason)

/-- What a pump that starts relays to a reader who takes everything. -/
theorem run_relayed (objection : WindowRequest → Option String) (openings : List Opening)
    (kind : ResourceKind) {reader : Reader} (clock deadline : Tick) (hstays : reader.Stays) :
    ∃ windows refusal, Relayed objection kind clock deadline openings
      (run objection openings (start kind reader clock deadline)) windows refusal := by
  obtain ⟨requests, windows, refusal, hcourse, hwent⟩ :=
    run_goes objection openings (start kind reader clock deadline) [] rfl
  have hrequests : (run objection openings (start kind reader clock deadline)).requests = requests :=
    hwent.requests
  have hopenedAt : _ = windows.head?.map Hearing.openedAt := hwent.openedAt.trans Option.none_or
  have hfailure : _ = refusal.map fun r => ObserverError.watchOpen kind.label r.2 :=
    hwent.failure.trans Option.or_none
  rw [← hrequests] at hcourse
  refine ⟨windows, refusal, hcourse, hwent.deadline, fun hleaves => hleaves (hwent.reader ▸ hstays),
    hcourse.items_prefix_yield, hwent.messages hstays, fun i r hr => ?_, fun r o hr ho => ?_,
    fun i r o reason hr ho hrefused => ?_⟩
  · rw [← hcourse.items_eq_yield hr]
    exact hcourse.version hr
  · unfold Pump.opening
    cases hresult : o.result with
    | ok window =>
        have hwindow := hcourse.openedAt hr ho hresult
        rw [← List.head?_eq_getElem?] at hwindow
        rw [hopenedAt, hwindow]
    | error reason =>
        obtain ⟨-, hwindows, hrefusal⟩ := hcourse.refused_at hr ho hresult
        rw [hopenedAt, hfailure, List.length_eq_zero_iff.mp hwindows, hrefusal]
        rfl
  · obtain ⟨hlength, -, hrefusal⟩ := hcourse.refused_at hr ho hrefused
    refine ⟨hlength, hwent.clock _ hrefusal, ?_⟩
    rw [hfailure, hrefusal]
    rfl

/-- A pod is added and marked by a bookmark; its version is forgotten in the next window and the stream of
another one breaks, from where the watch is refused. -/
theorem relayed_until_refused :
    let pod := Snapshot.pod ⟨"db-0", "u1", none, false, none⟩
    let openings : List Opening :=
      [⟨0, .ok ⟨[(10, .event (.added ⟨some "42", pod⟩)), (10, .event (.bookmark "50"))], some 0⟩⟩,
       ⟨5, .ok ⟨[(0, .event (.modified ⟨none, pod⟩)), (0, .event (.error 410))], some 0⟩⟩,
       ⟨0, .ok ⟨[(0, .failure .notText)], some 0⟩⟩,
       ⟨0, .error "gone away"⟩]
    let p := run (fun _ => none) openings (start .pod ⟨16, 0, none, none⟩ 0 60000)
    p.requests.map WindowRequest.version = ["0", "50", "0", "0"] ∧
      p.messages = [(.added, some pod), (.modified, some pod), (.other "ERROR 410", none)] ∧
      p.opening = .ok 0 ∧
      ∃ windows refusal, Relayed (fun _ => none) .pod 0 60000 openings p windows refusal := by
  refine ⟨by decide +kernel, by decide +kernel, by decide +kernel, run_relayed _ _ _ _ _ ?_⟩
  decide

end Pump

end StorageLifecycle

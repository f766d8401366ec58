import Mathlib.Data.List.Induction
import StorageLifecycle.Cluster.Pump

/-!
# What the items of a watch come to

A watch brings items, window after window. Two things are read off them without regard to windows: what is
passed on to the reader, item by item, and the version from which the watch is resumed, which is the last one
that was brought since the watch was told that its version is forgotten. The state from which a pump
resumes keeps this version, item by item.
-/

namespace StorageLifecycle

namespace StreamItem

/-- What is passed on of an item: an object with its change, an error with its code, and nothing of a
bookmark or of a failure of the stream. -/
def messages : StreamItem → List (Change × Option Snapshot)
  | event (.added o) => [(.added, some o.snapshot)]
  | event (.modified o) => [(.modified, some o.snapshot)]
  | event (.deleted o) => [(.deleted, some o.snapshot)]
  | event (.error code) => [(.other ("ERROR " ++ toString code), none)]
  | event (.bookmark _) | failure _ => []

/-- The version that an item brings. A bookmark has one, and an object may have one. -/
def version? : StreamItem → Option String
  | event (.added o) | event (.modified o) | event (.deleted o) => o.version
  | event (.bookmark v) => some v
  | event (.error _) | failure _ => none

/-- Is the item an object or a bookmark? -/
def isProgress : StreamItem → Bool
  | event (.error _) | failure _ => false
  | event _ => true

/-- Is the item the event of the error for a forgotten version? -/
def isGone : StreamItem → Bool
  | event (.error code) => code == 410
  | _ => false

theorem messages_event (e : WatchEvent) : (event e).messages = e.message?.toList := by
  cases e <;> rfl

theorem version?_eq_none {i : StreamItem} (h : i.isProgress = false) : i.version? = none := by
  cases i with
  | failure _ => rfl
  | event e => cases e <;> first | rfl | exact nomatch h

/-- The items up to the first failure of the stream, behind which nothing is heard of a window. -/
def untilFailure : List StreamItem → List StreamItem
  | [] => []
  | event e :: rest => event e :: untilFailure rest
  | failure e :: _ => [failure e]

/-- A failure is the last item. -/
theorem eq_nil_of_untilFailure {items earlier later : List StreamItem} {e : StreamError}
    (h : untilFailure items = earlier ++ failure e :: later) : later = [] := by
  induction items generalizing earlier with
  | nil => cases earlier <;> exact nomatch h
  | cons i rest ih =>
      cases i with
      | failure e' =>
          cases earlier with
          | nil =>
              cases h
              rfl
          | cons x earlier =>
              obtain ⟨-, h⟩ := List.cons.inj h
              cases earlier <;> exact nomatch h
      | event e' =>
          cases earlier with
          | nil => exact nomatch h
          | cons x earlier => exact ih (List.cons.inj h).2

end StreamItem

open StreamItem

/-- The version from which a watch is resumed that has brought these items: the last version among them
since the event that the version is forgotten, if there was one, and else all there is. -/
def resumption (items : List StreamItem) : String :=
  ((items.reverse.takeWhile fun i => !i.isGone).findSome? version?).getD "0"

theorem resumption_append_singleton (items : List StreamItem) (i : StreamItem) :
    resumption (items ++ [i]) = if i.isGone then "0" else i.version?.getD (resumption items) := by
  unfold resumption
  rw [List.reverse_append, List.reverse_singleton, List.singleton_append]
  cases hgone : i.isGone with
  | true => rw [List.takeWhile_cons_of_neg (by simp [hgone]), if_pos rfl]; rfl
  | false =>
      rw [List.takeWhile_cons_of_pos (by simp [hgone]), if_neg Bool.false_ne_true, List.findSome?_cons]
      cases i.version? <;> rfl

/-- Items that bring no version change nothing but for the event that the version is forgotten. -/
theorem resumption_append {items later : List StreamItem} (h : ∀ i ∈ later, i.isProgress = false) :
    resumption (items ++ later) = if later.any isGone then "0" else resumption items := by
  induction later using List.reverseRecOn with
  | nil => rw [List.append_nil]; rfl
  | append_singleton later i ih =>
      obtain ⟨hlater, hi⟩ := List.forall_mem_append.mp h
      rw [← List.append_assoc, resumption_append_singleton,
        version?_eq_none (hi i (List.mem_singleton.mpr rfl)), Option.getD_none, ih hlater,
        List.any_append, List.any_cons, List.any_nil, Bool.or_false]
      cases i.isGone <;> simp

namespace Resume

/-- After an item. -/
def take (r : Resume) : StreamItem → Resume
  | .event e => r.after e
  | .failure _ => r.broken

/-- After items. -/
def takeAll (r : Resume) (items : List StreamItem) : Resume := items.foldl take r

theorem takeAll_append (r : Resume) (items later : List StreamItem) :
    r.takeAll (items ++ later) = (r.takeAll items).takeAll later :=
  List.foldl_append

theorem version_take (r : Resume) (i : StreamItem) :
    (r.take i).version = if i.isGone then "0" else i.version?.getD r.version := by
  cases i with
  | failure _ => rfl
  | event e =>
      cases e with
      | error code =>
          show (if code = gone then fromStart else r.version) = if (code == 410) = true then "0" else r.version
          simp only [beq_iff_eq]
          rfl
      | _ => rfl

/-- The version that is kept while the items come is the one that is read off all of them. -/
theorem version_takeAll (items : List StreamItem) : (start.takeAll items).version = resumption items := by
  induction items using List.reverseRecOn with
  | nil => rfl
  | append_singleton items i ih =>
      rw [takeAll_append, resumption_append_singleton, ← ih]
      exact version_take _ i

end Resume

end StorageLifecycle

import StorageLifecycle.Proofs.Crew.Attendance

/-!
# Runs of a crew

The watchings of a crew have their turns in any order, and tokens are cancelled in between. All of them
share one store and one registry: what one leaves is what the next finds.
-/

namespace StorageLifecycle

/-- What happens to a crew. -/
inductive Happening where
  /-- The watching at this place has its turn. -/
  | turn (i : Nat) (visit : Visit)
  | cancel (k : Token)

/-- The claim or the pod that comes to a watching. -/
def Visit.owner? : Visit → Option Session.Owner
  | .feed (some (.notification n)) => n.object.bind Snapshot.owner?
  | _ => none

/-- The claims and pods that a run tells of. -/
def Happening.owners (happenings : List Happening) : List Session.Owner :=
  happenings.filterMap fun
    | .turn _ visit => visit.owner?
    | .cancel _ => none

namespace Crew

variable {σ : Type} [EventStore σ]

/-- The watching at a place has its turn. -/
def attend (c : Crew) (w : Shared σ) (i : Nat) (visit : Visit) : Crew × Shared σ :=
  c.update w i fun x w => x.attend c.tokens w visit

def happen (c : Crew) (w : Shared σ) : Happening → Crew × Shared σ
  | .turn i visit => c.attend w i visit
  | .cancel k => (c.cancel k, w)

/-- The crew and what it shares after a run. -/
def proceed (c : Crew) (w : Shared σ) : List Happening → Crew × Shared σ
  | [] => (c, w)
  | h :: rest => (c.happen w h).1.proceed (c.happen w h).2 rest

/-- All watchings of the crew wait for their feeds, each for one of these test cases. -/
def IsNew (cases : TestCaseId → Prop) (c : Crew) : Prop :=
  ∀ x ∈ c.watchings, x.phase = .opening ∧ cases x.testCase

/-- The entities of the events that the sessions of a crew hold. -/
def heldEntities (c : Crew) : List (List EntityId) :=
  c.watchings.map fun x =>
    match x.phase with
    | .live s => s.buffer.map (·.event.entity)
    | _ => []

variable {c : Crew} {w : Shared σ}

theorem proceed_append (c : Crew) (w : Shared σ) (hs hs' : List Happening) :
    c.proceed w (hs ++ hs') = (c.proceed w hs).1.proceed (c.proceed w hs).2 hs' := by
  induction hs generalizing c w with
  | nil => rfl
  | cons h rest ih => exact ih _ _

/-- What a turn does to a crew: nothing if nobody is at the place, or the turn of the watching there. -/
theorem attend_cases (c : Crew) (w : Shared σ) (i : Nat) (visit : Visit) :
    (c.watchings[i]? = none ∧ c.attend w i visit = (c, w)) ∨
      ∃ x, c.watchings[i]? = some x ∧
        c.attend w i visit =
          ({ c with watchings := c.watchings.set i (x.attend c.tokens w visit).1 },
            (x.attend c.tokens w visit).2) := by
  unfold attend update
  cases hx : c.watchings[i]? with
  | none => exact Or.inl ⟨rfl, rfl⟩
  | some x => exact Or.inr ⟨x, rfl, rfl⟩

/-- What a watching keeps at its turns, the crew keeps place by place. -/
theorem attend_map {α : Type} {f : Watching → α}
    (hf : ∀ x t (w : Shared σ) visit, f (x.attend t w visit).1 = f x) (c : Crew) (w : Shared σ) (i : Nat)
    (visit : Visit) : (c.attend w i visit).1.watchings.map f = c.watchings.map f := by
  rcases attend_cases c w i visit with ⟨_, heq⟩ | ⟨x, hx, heq⟩
  · rw [heq]
  · rw [heq, List.map_set, hf]
    obtain ⟨hi, rfl⟩ := List.getElem?_eq_some_iff.mp hx
    apply List.ext_getElem?
    intro j
    by_cases hj : i = j
    · subst hj
      rw [List.getElem?_set_self (by rwa [List.length_map]), List.getElem?_map, hx]
      rfl
    · rw [List.getElem?_set_ne hj]

/-- What every save keeps, every run keeps. -/
theorem proceed_lasting {P : σ → Prop} (hP : Lasting P) (h : P w.store) (as : List Happening) :
    P (c.proceed w as).2.store := by
  induction as generalizing c w with
  | nil => exact h
  | cons a rest ih =>
      apply ih
      cases a with
      | cancel k => exact h
      | turn i visit =>
          show P (c.attend w i visit).2.store
          rcases attend_cases c w i visit with ⟨_, heq⟩ | ⟨x, _, heq⟩
          · rw [heq]
            exact h
          · rw [heq]
            exact hP.attend x c.tokens visit h

end Crew

end StorageLifecycle

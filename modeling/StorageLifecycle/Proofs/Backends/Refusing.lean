import StorageLifecycle.Proofs.Backends.Acceptance
import StorageLifecycle.Proofs.Store.Batches

/-!
# Why a store refuses what a session holds

A store that has the entities of a batch refuses it for one reason: a name is in use, or it stands in the
batch twice. Then it takes nothing of it. What the relational store alone can run out of is ids.
-/

namespace StorageLifecycle

open Relational

/-- The name, as stores keep it. -/
def Event.nameCell (e : Event) : Cell := .text e.name

/-- The names of the batch are different from each other and from those in use. -/
def NewNames (used : Multiset Cell) (batch : List Event) : Prop :=
  (batch.map (·.name)).Nodup ∧ ∀ e ∈ batch, e.nameCell ∉ used

/-- The names that are in use in a store, where a kept event has this name. -/
def StoreView.names {σ ε κ : Type} (v : StoreView σ ε κ) (name : ε → Cell) (s : σ) : Multiset Cell :=
  (v.events s).map name

/-- What comes of storing events and samples: the answer, and the store afterwards. Either the names are new
and all of it is stored, or they are not and nothing is, or there is no room for the rows. -/
inductive Verdict {σ ε κ : Type} (v : StoreView σ ε κ) (before : σ) (batch : List Event)
    (samples : List CountSample) (new room : Prop) : Except StoreError Unit → σ → Prop
  | stored {after : σ} (names : new) (gained : v.Gained before after (v.batch batch) (v.series samples)) :
      Verdict v before batch samples new room (.ok ()) after
  | duplicate (name : String) (names : ¬new) :
      Verdict v before batch samples new room (.error (.duplicate name)) before
  | full {after : σ} (ids : ¬room) : Verdict v before batch samples new room (.error full) after

theorem newNames_of_nil {used : Multiset Cell} {batch : List Event} (h : batch = []) :
    NewNames used batch := by
  rw [h]
  exact ⟨List.nodup_nil, List.forall_mem_nil _⟩

/-- More room may be asked for. -/
theorem Verdict.mono {σ ε κ : Type} {v : StoreView σ ε κ} {before after : σ} {batch : List Event}
    {samples : List CountSample} {new room room' : Prop} {answer : Except StoreError Unit}
    (h : Verdict v before batch samples new room answer after) (hroom : room' → room) :
    Verdict v before batch samples new room' answer after := by
  cases h with
  | stored names gained => exact .stored names gained
  | duplicate name names => exact .duplicate name names
  | full ids => exact .full fun h => ids (hroom h)

theorem Verdict.ok_of_new {σ ε κ : Type} {v : StoreView σ ε κ} {before after : σ} {batch : List Event}
    {samples : List CountSample} {new room : Prop} {answer : Except StoreError Unit}
    (h : Verdict v before batch samples new room answer after) (hnew : new) (hroom : room) :
    answer = .ok () := by
  cases h with
  | stored _ _ => rfl
  | duplicate _ names => exact absurd hnew names
  | full ids => exact absurd hroom ids

/-- A table that gives out no id has no room for a row. -/
theorem Relational.Table.hasRoom_of_error {ρ : Type} {t : Table ρ} {idOf : ρ → Int} {err : StoreError}
    (h : t.next idOf = .error err) (n : Nat) : err = full ∧ ¬t.HasRoom idOf (n + 1) := by
  constructor
  · unfold next at h
    dsimp only at h
    split at h
    · exact nomatch h
    · exact (Except.error.inj h).symm
  · intro hroom
    obtain ⟨id, hok⟩ := hroom.next
    exact nomatch h.symm.trans hok

/-! ## Batches of events -/

theorem MemoryStore.verdict {m : MemoryStore} {batch : List Event}
    (hknown : ∀ e ∈ batch, e.entity ∈ m.entities.map (·.id)) :
    let saved := (EventStore.saveEvents batch).perform m
    Verdict view m batch [] (NewNames (view.names Event.nameCell m) batch) True saved.1 saved.2 := by
  intro saved
  have hvalid : NewNames (view.names Event.nameCell m) batch ↔ m.Valid batch := by
    have hused : ∀ name, Cell.text name ∈ view.names Event.nameCell m ↔
        name ∈ m.events.map (·.name) := by
      intro name
      simp [StoreView.names, view, StoreView.ofLists, Event.unsaved, Event.nameCell]
    constructor
    · rintro ⟨hnodup, hnew⟩
      exact ⟨hknown, hnodup, fun e he hmem => hnew e he ((hused e.name).mpr hmem)⟩
    · rintro ⟨-, hnodup, hnew⟩
      exact ⟨hnodup, fun e he hmem => hnew e he ((hused e.name).mp hmem)⟩
  unfold saved
  rw [perform_saveEvents]
  rcases checkEvents_stored_cases m batch with ⟨hcheck, hbatch⟩ | ⟨err, hcheck, hfirst⟩
  · rw [hcheck]
    exact .stored (hvalid.mpr hbatch) (saveEvents_gained (saveEvents_eq_ok_iff.mpr ⟨hcheck, rfl⟩))
  · have hnot : ¬NewNames (view.names Event.nameCell m) batch :=
      fun hnew => hfirst.not_valid (hvalid.mp hnew)
    rw [hcheck]
    obtain ⟨earlier, e, later, rfl, -, hoffends⟩ := hfirst
    cases hoffends with
    | missing hmissing => exact absurd (hknown e (by simp)) hmissing
    | taken _ _ => exact .duplicate e.name hnot

namespace RelationalStore

variable {s : RelationalStore} {batch : List Event} {err : StoreError}

theorem names_eq (s : RelationalStore) :
    view.names EventRow.name s = ↑(s.events.rows.map EventRow.name) := by
  show (↑((s.events.rows.map EventRow.unnumbered).map EventRow.name) : Multiset Cell) = _
  rw [List.map_map]
  rfl

/-- Why a batch of events of test cases and entities that are there is refused. -/
theorem saveEvents_of_error
    (hknown : ∀ e ∈ batch, s.hasTestCase e.testCase = true ∧ s.hasEntity e.entity = true)
    (h : s.saveEvents batch = .error err) :
    (err = full ∧ ¬s.events.HasRoom EventRow.id batch.length) ∨
      ∃ name, err = .duplicate name ∧ ¬NewNames ↑(s.events.rows.map EventRow.name) batch := by
  unfold saveEvents at h
  induction batch generalizing s with
  | nil => exact nomatch h
  | cons e rest ih =>
      obtain ⟨⟨hcase, hentity⟩, hrest⟩ := List.forall_mem_cons.mp hknown
      rw [List.foldlM_cons, insertEvent] at h
      cases hid : s.events.next EventRow.id with
      | error err' =>
          rw [hid] at h
          cases h
          exact .inl (Table.hasRoom_of_error hid rest.length)
      | ok id =>
          rw [hid, ok_bind] at h
          split at h
          · rename_i hany
            cases h
            obtain ⟨r, hr, hname⟩ := List.any_eq_true.mp hany
            refine .inr ⟨e.name, rfl, fun hnew => hnew.2 e List.mem_cons_self ?_⟩
            exact Multiset.mem_coe.mpr (List.mem_map.mpr ⟨r, hr, eq_of_beq hname⟩)
          · rw [hcase, hentity] at h
            rcases ih (s := { s with events := s.events.push id (.ofEvent id e) }) hrest h with
              ⟨rfl, hroom⟩ | ⟨name, rfl, hnew⟩
            · exact .inl ⟨rfl, fun h => hroom ((Table.hasRoom_push hid rfl).mpr h)⟩
            · refine .inr ⟨name, rfl, ?_⟩
              -- The row of the first event has its name, which the rest of the batch must not have either.
              rintro ⟨hnodup, hunused⟩
              rw [List.map_cons, List.nodup_cons] at hnodup
              refine hnew ⟨hnodup.2, fun x hx hmem => ?_⟩
              obtain ⟨r, hr, hname⟩ := List.mem_map.mp (Multiset.mem_coe.mp hmem)
              rcases List.mem_append.mp hr with hold | hadded
              · refine hunused x (List.mem_cons_of_mem _ hx) (Multiset.mem_coe.mpr ?_)
                exact List.mem_map.mpr ⟨r, hold, hname⟩
              · rw [List.mem_singleton.mp hadded] at hname
                have hsame : e.name = x.name := Cell.text.inj hname
                exact hnodup.1 (hsame ▸ List.mem_map_of_mem hx)

theorem verdict (hknown : ∀ e ∈ batch, s.hasTestCase e.testCase = true ∧ s.hasEntity e.entity = true) :
    let saved := (EventStore.saveEvents batch).perform s
    Verdict view s batch [] (NewNames (view.names EventRow.name s) batch)
      (s.events.HasRoom EventRow.id batch.length) saved.1 saved.2 := by
  intro saved
  rw [names_eq]
  cases hsaved : saved with
  | mk answer after =>
      have hrun : (EventStore.saveEvents batch).perform s = (answer, after) := hsaved
      cases answer with
      | error err =>
          obtain ⟨herror, rfl⟩ := StoreM.change_of_error hrun
          rcases saveEvents_of_error hknown herror with ⟨rfl, hroom⟩ | ⟨name, rfl, hnew⟩
          · exact .full hroom
          · exact .duplicate name hnew
      | ok u =>
          have hok : s.saveEvents batch = .ok after := StoreM.change_of_ok hrun
          obtain ⟨-, -, hnodup, hnew⟩ := exists_saveEvents_iff.mp ⟨after, hok⟩
          refine .stored ⟨hnodup, fun e he hmem => ?_⟩ (saveEvents_of_ok hok).gained
          obtain ⟨r, hr, hname⟩ := List.mem_map.mp (Multiset.mem_coe.mp hmem)
          exact hnew e he r hr hname

/-- Samples of test cases that are there are refused only for want of ids. -/
theorem saveCounts_of_error {samples : List CountSample}
    (hcases : ∀ c ∈ samples, s.hasTestCase c.testCase = true) (h : s.saveCounts samples = .error err) :
    err = full ∧ ¬s.counts.HasRoom CountRow.id samples.length := by
  unfold saveCounts at h
  induction samples generalizing s with
  | nil => exact nomatch h
  | cons c rest ih =>
      obtain ⟨hcase, hrest⟩ := List.forall_mem_cons.mp hcases
      rw [List.foldlM_cons] at h
      unfold insertCount at h
      cases hid : s.counts.next CountRow.id with
      | error err' =>
          rw [hid] at h
          cases h
          exact Table.hasRoom_of_error hid rest.length
      | ok id =>
          rw [hid, ok_bind, hcase, if_pos rfl] at h
          have hlater := ih (s := { s with counts := s.counts.push id (.ofSample id c) }) hrest h
          exact ⟨hlater.1, fun hroom => hlater.2 ((Table.hasRoom_push hid rfl).mpr hroom)⟩

end RelationalStore

end StorageLifecycle

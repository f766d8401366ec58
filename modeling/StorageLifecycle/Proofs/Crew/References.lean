import StorageLifecycle.Proofs.Crew.Rooting
import StorageLifecycle.Proofs.Store.Atomicity

/-!
# References between sessions

The attachment session uses ids of entities that it never saved. They come from the store, by way of the
session of the claims and of the registry. Whatever the sessions of a crew do, and however many saves of
entities fail on the way, each id that any of them holds has its row, so that no flush is ever refused
for want of an entity.
-/

namespace StorageLifecycle

variable {σ : Type} {v : RowView σ} {cases : TestCaseId → Prop} {admits : Session.Owner → Prop}

namespace RowView

/-- What is asked of a store that answers: it does not miss a row that is there. -/
structure Finds [EventStore σ] (v : RowView σ) (cases : TestCaseId → Prop) : Prop where
  saveEvents : ∀ {batch : List Event} {s s' : σ} {what : String}, v.sound s →
    (∀ e ∈ batch, cases e.testCase ∧ v.has s e.type.entityType e.entity) →
    (EventStore.saveEvents batch).perform s ≠ (.error (.notFound what), s')
  saveCounts : ∀ {batch : List CountSample} {s s' : σ} {what : String}, v.sound s →
    (EventStore.saveCounts batch).perform s ≠ (.error (.notFound what), s')

end RowView

/-! ## Rows of the stores -/

namespace MemoryStore

/-- The rows of a store in memory, whatever their types. -/
def rows : RowView MemoryStore := ⟨fun _ => True, fun m _ id => id ∈ m.entities.map (·.id)⟩

theorem rows_lawful : rows.Lawful cases admits where
  saveEntity {o id m m' answer} _ _ _ hrun := by
    cases hrun
    refine ⟨⟨trivial, ?_⟩, ?_⟩
    · intro _ id' hid'
      obtain ⟨row, hrow, rfl⟩ := List.mem_map.mp hid'
      exact List.mem_map_of_mem (saveEntity_mem _ hrow)
    · rintro ids ⟨⟩
      exact saveEntity_known m _
  saveEvents {batch m m' answer} _ _ hrun := by
    cases answer with
    | error e =>
        obtain ⟨_, rfl⟩ := StoreM.change_of_error hrun
        exact RowView.Keeps.refl trivial
    | ok u =>
        obtain ⟨_, _, _, _, hrows, _⟩ := saveEvents_of_ok (StoreM.change_of_ok hrun)
        refine ⟨trivial, ?_⟩
        intro _ id hid
        show id ∈ m'.entities.map (·.id)
        rw [hrows]
        exact hid
  saveCounts _ hrun := by
    cases hrun
    exact ⟨trivial, fun _ _ hid => hid⟩

theorem rows_finds : rows.Finds cases where
  saveEvents _ hbatch hrun :=
    saveEvents_ne_notFound (fun e he => (hbatch e he).2) _ (StoreM.change_of_error hrun).1
  saveCounts _ hrun := nomatch congrArg Prod.fst hrun

end MemoryStore

namespace RelationalStore

/-- The rows of a relational store that has the test cases, whatever their types. -/
def rows (cases : TestCaseId → Prop) : RowView RelationalStore :=
  ⟨fun s => ∀ id, cases id → s.hasTestCase id = true, fun s _ id => s.hasEntity id = true⟩

variable {s s' : RelationalStore}

theorem Widened.keeps (h : s.Widened s') (hsound : (rows cases).sound s) :
    (rows cases).Keeps s s' where
  sound id hid := (h.hasTestCase id).trans (hsound id hid)
  has _ _ hid := h.hasEntity hid

/-- Rows of entities stay as long as their table does. -/
theorem keeps_of_eq (hsound : (rows cases).sound s) (htests : s'.testCases = s.testCases)
    (hentities : s'.entities = s.entities) : (rows cases).Keeps s s' := by
  constructor
  · intro id hid
    unfold hasTestCase
    rw [htests]
    exact hsound id hid
  · intro _ id hid
    show s'.hasEntity id = true
    unfold hasEntity
    rw [hentities]
    exact hid

theorem rows_lawful : (rows cases).Lawful cases admits where
  saveEntity {o id s s' answer} hsound _ _ hrun := by
    have hsaved : s.saveEntities [.fresh o.name o.uid o.type id] = (answer, s') := hrun
    have hwidened := saveEntities_widened (s := s) [.fresh o.name o.uid o.type id]
    rw [hsaved] at hwidened
    refine ⟨hwidened.keeps hsound, ?_⟩
    rintro ids rfl
    exact saveEntities_of_ok hsaved
  saveEvents {batch s s' answer} hsound _ hrun := by
    cases answer with
    | error e =>
        obtain ⟨_, rfl⟩ := StoreM.change_of_error hrun
        exact RowView.Keeps.refl hsound
    | ok u =>
        have hlogged := saveEvents_of_ok (StoreM.change_of_ok hrun)
        exact keeps_of_eq hsound hlogged.testCases hlogged.entities
  saveCounts {batch s s' answer} hsound hrun := by
    cases answer with
    | error e =>
        obtain ⟨_, rfl⟩ := StoreM.change_of_error hrun
        exact RowView.Keeps.refl hsound
    | ok u =>
        have hsampled := saveCounts_of_ok (StoreM.change_of_ok hrun)
        exact keeps_of_eq hsound hsampled.testCases hsampled.entities

theorem rows_finds : (rows cases).Finds cases where
  saveEvents {batch s s' what} hsound hbatch hrun := by
    refine saveEvents_ne_notFound ?_ what (StoreM.change_of_error hrun).1
    intro e he
    obtain ⟨hcase, hrow⟩ := hbatch e he
    exact ⟨hsound _ hcase, hrow⟩
  saveCounts {batch s s' what} _ hrun :=
    saveCounts_ne_notFound batch what (StoreM.change_of_error hrun).1

end RelationalStore

/-! ## Saves of entities that fail -/

namespace Faulty

/-- The faults are for saves of entities only. -/
def sparing (plan : List (StoreMethod × Fault)) : Prop := ∀ p ∈ plan, p.1 = .saveEntities

/-- From now on the saves of entities fail as these faults say, and nothing else does. -/
def hindered (f : Faulty σ) (faults : List Fault) : Faulty σ :=
  { f with plan := faults.map fun fault => (.saveEntities, fault) }

theorem sparing_hindered (f : Faulty σ) (faults : List Fault) : sparing (f.hindered faults).plan := by
  intro p hp
  obtain ⟨fault, _, rfl⟩ := List.mem_map.mp hp
  rfl

/-- What is due is taken from the plan, which stays a plan for the same operations. -/
theorem due_methods (plan : List (StoreMethod × Fault)) (m : StoreMethod) :
    (due plan m).2.map Prod.fst = plan.map Prod.fst := by
  induction plan with
  | nil => rfl
  | cons p rest ih =>
      obtain ⟨k, fault⟩ := p
      unfold due
      split
      · split <;> rfl
      · rw [List.map_cons, List.map_cons, ih]

theorem sparing_due {plan : List (StoreMethod × Fault)} (h : sparing plan) (m : StoreMethod) :
    sparing (due plan m).2 := by
  intro p hp
  have hmem : p.1 ∈ plan.map Prod.fst := due_methods plan m ▸ List.mem_map_of_mem hp
  obtain ⟨q, hq, hsame⟩ := List.mem_map.mp hmem
  exact hsame ▸ h q hq

/-- An operation that the plan spares is due nothing. -/
theorem due_of_sparing {plan : List (StoreMethod × Fault)} (h : sparing plan) {m : StoreMethod}
    (hm : m ≠ .saveEntities) : (due plan m).1 = none := by
  induction plan with
  | nil => rfl
  | cons p rest ih =>
      obtain ⟨k, fault⟩ := p
      obtain rfl : k = .saveEntities := h (k, fault) List.mem_cons_self
      unfold due
      rw [if_neg hm.symm]
      exact ih fun q hq => h q (List.mem_cons_of_mem _ hq)

theorem sparing_guarded {α : Type} {m : StoreMethod} {op : StoreM σ α} {f f' : Faulty σ}
    {answer : Except StoreError α} (h : sparing f.plan)
    (hrun : (guarded m op).perform f = (answer, f')) : sparing f'.plan := by
  have hplan := sparing_due h m
  unfold guarded StoreM.perform at hrun
  dsimp only at hrun
  split at hrun
  · rename_i hdue
    cases hrun
    rw [hdue] at hplan
    exact hplan
  · rename_i hdue
    cases hrun
    rw [hdue] at hplan
    exact hplan

/-- An operation that the plan spares does what the store does. -/
theorem guarded_of_sparing {α : Type} {m : StoreMethod} {op : StoreM σ α} {f f' : Faulty σ}
    {answer : Except StoreError α} (h : sparing f.plan) (hm : m ≠ .saveEntities)
    (hrun : (guarded m op).perform f = (answer, f')) : op.perform f.store = (answer, f'.store) := by
  have hnone := due_of_sparing h hm
  unfold guarded StoreM.perform at hrun
  dsimp only at hrun
  split at hrun
  · rename_i hdue
    rw [hdue] at hnone
    exact nomatch hnone
  · cases hrun
    rfl

/-- The rows of a store in which only saves of entities may fail. -/
def rows (v : RowView σ) : RowView (Faulty σ) :=
  ⟨fun f => v.sound f.store ∧ sparing f.plan, fun f => v.has f.store⟩

/-- An operation keeps the rows if the store keeps them when it is reached. -/
theorem keeps_of_guarded {α : Type} {m : StoreMethod} {op : StoreM σ α} {f f' : Faulty σ}
    {answer : Except StoreError α} (h : (rows v).sound f)
    (hrun : (guarded m op).perform f = (answer, f'))
    (hstore : op.perform f.store = (answer, f'.store) → v.Keeps f.store f'.store) :
    (rows v).Keeps f f' := by
  have hkeeps : v.Keeps f.store f'.store := by
    rcases guarded_cases hrun with ⟨_, _, hsame⟩ | hdone
    · exact .of_eq h.1 hsame
    · exact hstore hdone
  exact ⟨⟨hkeeps.sound, sparing_guarded h.2 hrun⟩, hkeeps.has⟩

theorem keeps_hindered {f : Faulty σ} (h : (rows v).sound f) (faults : List Fault) :
    (rows v).Keeps f (f.hindered faults) :=
  ⟨⟨h.1, sparing_hindered f faults⟩, fun _ _ => id⟩

variable [EventStore σ]

theorem rows_lawful (hv : v.Lawful cases admits) : (rows v).Lawful cases admits where
  saveEntity {o id f f' answer} hf hid ho hrun := by
    refine ⟨keeps_of_guarded hf hrun fun hdone => (hv.saveEntity hf.1 hid ho hdone).1, ?_⟩
    rintro ids rfl
    rcases guarded_cases hrun with ⟨_, herror, _⟩ | hdone
    · exact nomatch herror
    · exact (hv.saveEntity hf.1 hid ho hdone).2 ids rfl
  saveEvents hf hbatch hrun := keeps_of_guarded hf hrun (hv.saveEvents hf.1 hbatch)
  saveCounts hf hrun := keeps_of_guarded hf hrun (hv.saveCounts hf.1)

theorem rows_finds (hv : v.Finds cases) : (rows v).Finds cases where
  saveEvents hf hbatch hrun :=
    hv.saveEvents hf.1 hbatch (guarded_of_sparing (m := .saveEvents) hf.2 nofun hrun)
  saveCounts hf hrun :=
    hv.saveCounts hf.1 (guarded_of_sparing (m := .saveCounts) hf.2 nofun hrun)

end Faulty

/-! ## Flushes -/

/-- A flush of events that stand on rows is not refused for want of one. -/
theorem Session.Rooted.flush_ne_notFound [EventStore σ] (hv : v.Lawful cases admits)
    (hfinds : v.Finds cases) {s : Session} {w : Shared σ} {k : ObserverKind} {id : TestCaseId}
    (hid : cases id) (hsound : v.sound w.store) (h : s.Rooted v w.store k id)
    (hbacks : v.Backs w.store w.registry) (what : String) :
    (s.flush w).1 ≠ .error (.notFound what) := by
  intro herror
  rw [flush_eq, (flushTrying_eq _).1] at herror
  have hbatch : ∀ e ∈ (s.settle w (s.lastTries w)).1.batch,
      cases e.testCase ∧ v.has w.store e.type.entityType e.entity := by
    intro e he
    obtain ⟨hcase, hrow⟩ := (h.settle hbacks).batch e he
    exact ⟨hcase ▸ hid, hrow⟩
  rcases save_of_error (Prod.ext herror rfl) with hevents | ⟨between, hevents, hcounts⟩
  · exact hfinds.saveEvents hsound hbatch hevents
  · have hbetween : v.sound between := by
      rcases saveUnlessEmpty_of_ok hevents with ⟨_, rfl⟩ | hstored
      · exact hsound
      · exact (hv.saveEvents hsound hbatch hstored).sound
    exact hfinds.saveCounts hbetween hcounts

/-! ## Runs -/

namespace Crew

/-- Each id of an entity that a crew holds is that of a row, and no flush misses one. -/
structure Refers [EventStore σ] (has : EntityId → Prop) (c : Crew) (w : Shared (Faulty σ)) : Prop where
  cached : ∀ x ∈ c.watchings, ∀ s, x.phase = .live s →
    ∀ name e, s.entities.find? name = some e → has e.id
  registry : ∀ volume e, w.registry.lookup volume = some e → has e.id
  buffered : ∀ x ∈ c.watchings, ∀ s, x.phase = .live s → ∀ r ∈ s.buffer, has r.event.entity
  /-- The session may be the next to flush, whatever saves of entities would fail then. -/
  flushed : ∀ x ∈ c.watchings, ∀ s, x.phase = .live s → ∀ faults what,
    (s.flush { w with store := w.store.hindered faults }).1 ≠ .error (.notFound what)

variable {c : Crew} {w : Shared (Faulty σ)}

theorem Rooted.hindered (h : c.Rooted (Faulty.rows v) cases w) (faults : List Fault) :
    c.Rooted (Faulty.rows v) cases { w with store := w.store.hindered faults } := by
  have hkeeps := Faulty.keeps_hindered h.sound faults
  exact ⟨hkeeps.sound, h.testCase, fun x hx s hs => (h.rooted x hx s hs).mono hkeeps,
    h.backs.mono hkeeps⟩

variable [EventStore σ]

/-- The crew and what it shares after a run in which saves of entities fail: before each happening the
store is given new faults. -/
def struggle (c : Crew) (w : Shared (Faulty σ)) :
    List (List Fault × Happening) → Crew × Shared (Faulty σ)
  | [] => (c, w)
  | (faults, a) :: rest =>
    let hindered := { w with store := w.store.hindered faults }
    (c.happen hindered a).1.struggle (c.happen hindered a).2 rest

theorem Rooted.struggle (hv : v.Lawful cases fun _ => True) (h : c.Rooted (Faulty.rows v) cases w)
    (run : List (List Fault × Happening)) :
    (c.struggle w run).1.Rooted (Faulty.rows v) cases (c.struggle w run).2 := by
  induction run generalizing c w with
  | nil => exact h
  | cons step rest ih =>
      obtain ⟨faults, a⟩ := step
      exact ih ((h.hindered faults).happen (Faulty.rows_lawful hv) fun _ _ => trivial).2

theorem Rooted.refers (hv : v.Lawful cases fun _ => True) (hfinds : v.Finds cases)
    (h : c.Rooted (Faulty.rows v) cases w) {has : EntityId → Prop}
    (hhas : ∀ type id, v.has w.store.store type id → has id) : c.Refers has w where
  cached x hx s hs name e he := hhas _ _ ((h.rooted x hx s hs).cached name e he)
  registry volume e he := hhas _ _ (h.backs volume e he)
  buffered x hx s hs r hr := hhas _ _ ((h.rooted x hx s hs).buffered r hr)
  flushed x hx s hs faults what := by
    have hnow := h.hindered faults
    exact (hnow.rooted x hx s hs).flush_ne_notFound (Faulty.rows_lawful hv)
      (Faulty.rows_finds hfinds) (h.testCase x hx) hnow.sound hnow.backs what

/-- Whatever happens to a crew over one store and one registry that is empty at first, and whatever
saves of entities fail on the way, the ids that its sessions and the registry hold are ids of rows, and
no flush is refused for want of one. This holds over a store in memory, and over a relational store that
has the test cases. -/
theorem references_kept (hnew : ∀ x ∈ c.watchings, x.phase = .opening)
    (run : List (List Fault × Happening)) (supply : Supply) (signals : List Signal) :
    (∀ m : MemoryStore,
      let after := c.struggle ⟨.sound m, .empty, supply, signals⟩ run
      after.1.Refers (· ∈ after.2.store.store.entities.map (·.id)) after.2) ∧
    ∀ s : RelationalStore, (∀ x ∈ c.watchings, s.hasTestCase x.testCase = true) →
      let after := c.struggle ⟨.sound s, .empty, supply, signals⟩ run
      after.1.Refers (fun id => after.2.store.store.hasEntity id = true) after.2 := by
  constructor
  · intro m after
    have hfirst : c.IsNew fun _ => True := fun x hx => ⟨hnew x hx, trivial⟩
    have hstart : c.Rooted (Faulty.rows MemoryStore.rows) (fun _ => True)
        ⟨.sound m, .empty, supply, signals⟩ := rooted_of_new hfirst ⟨trivial, nofun⟩ rfl
    exact (hstart.struggle MemoryStore.rows_lawful run).refers MemoryStore.rows_lawful
      MemoryStore.rows_finds fun _ _ hid => hid
  · intro s hcases after
    have hfirst : c.IsNew fun id => s.hasTestCase id = true := fun x hx => ⟨hnew x hx, hcases x hx⟩
    have hstart : c.Rooted (Faulty.rows (RelationalStore.rows fun id => s.hasTestCase id = true)) _
        ⟨.sound s, .empty, supply, signals⟩ := rooted_of_new hfirst ⟨fun _ => id, nofun⟩ rfl
    exact (hstart.struggle RelationalStore.rows_lawful run).refers RelationalStore.rows_lawful
      RelationalStore.rows_finds fun _ _ hid => hid

/-- All four kinds are watched. -/
def fourWatchers : Crew where
  tokens := .empty
  watchings := [⟨.claim, 1, 0, 4, .opening⟩, ⟨.pod, 1, 1, 4, .opening⟩,
    ⟨.attachment, 1, 2, 4, .opening⟩, ⟨.count, 1, 3, 4, .opening⟩]

/-- A relational store with an open test case. -/
def caseOpen : RelationalStore :=
  { RelationalStore.empty with
    testCases := ⟨[.ofTestCase 1 ⟨1, "pvc", "nightly", .epoch, none, none⟩], 1⟩ }

/-- The first save of a claim fails; its attachment is seen before the claim is saved. -/
def savedLate : List (List Fault × Happening) :=
  [([], .turn 0 (.answer (.ok ()))), ([], .turn 2 (.answer (.ok ()))),
    ([⟨.query "disk I/O error", some 1⟩], .turn 0 (.feed (some (.notification
      ⟨.added, some (.claim ⟨"data", "u1", some "Bound", some "pv", none⟩), ⟨2⟩⟩)))),
    ([], .turn 2 (.feed (some (.notification (Session.sighting "va" false 3))))),
    ([], .turn 0 (.feed (some (.notification
      ⟨.modified, some (.claim ⟨"data", "u1", some "Bound", some "pv", none⟩), ⟨4⟩⟩)))),
    ([], .turn 2 (.feed (some (.notification (Session.sighting "va" true 5)))))]

theorem references_kept_savedLate :
    let after := fourWatchers.struggle ⟨.sound caseOpen, .empty, .counting, []⟩ savedLate
    after.1.heldEntities = [[1, 1], [], [1, 1], []] ∧
      after.1.Refers (fun id => after.2.store.store.hasEntity id = true) after.2 :=
  ⟨by decide +kernel,
    (references_kept (by decide) savedLate .counting []).2 caseOpen (by decide)⟩

end Crew

end StorageLifecycle

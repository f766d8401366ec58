import StorageLifecycle.Proofs.Observation.Archive
import StorageLifecycle.Proofs.Store.Atomicity
import StorageLifecycle.Proofs.Store.Integrity

/-!
# Both stores are archives

The store in memory and the relational store are such as an observation asks for, if no row is there of a
test case that was not created. The relational store must have a key in its table of entities, and the
calendar must reach the moment at which a test case is closed, since it reads that moment back from whole
microseconds.
-/

namespace StorageLifecycle

/-! ## The store in memory -/

namespace MemoryStore

variable {m m' : MemoryStore}

/-- No row is of a test case that was not created. -/
structure NoStrays (m : MemoryStore) : Prop where
  entities : ∀ id, (∀ tc ∈ m.testCases, tc.id ≠ id) → ∀ e ∈ m.entities, e.testCase ≠ id
  events : ∀ id, (∀ tc ∈ m.testCases, tc.id ≠ id) → ∀ e ∈ m.events, e.testCase ≠ id
  counts : ∀ id, (∀ tc ∈ m.testCases, tc.id ≠ id) → ∀ c ∈ m.counts, c.testCase ≠ id

theorem noStrays_empty : empty.NoStrays where
  entities _ _ := List.forall_mem_nil _
  events _ _ := List.forall_mem_nil _
  counts _ _ := List.forall_mem_nil _

/-- The first test case with the id is the one that was closed. -/
theorem closeFirst_of_some {id : TestCaseId} {success : Bool} {now : Instant}
    {tcs tcs' : List TestCase} (h : closeFirst id success now tcs = some tcs') :
    ∃ tc, tcs'.find? (fun tc => tc.id == id) = some tc ∧ CaseView.Closed id success tc := by
  induction tcs generalizing tcs' with
  | nil => exact nomatch h
  | cons tc rest ih =>
      unfold closeFirst at h
      by_cases hid : tc.id = id
      · rw [if_pos hid] at h
        cases h
        refine ⟨{ tc with endedAt := some now, success := some success }, ?_, hid, rfl, rfl⟩
        simp [hid]
      · rw [if_neg hid] at h
        obtain ⟨closed, hclosed, rfl⟩ := Option.map_eq_some_iff.mp h
        obtain ⟨tc', hfind, htc'⟩ := ih hclosed
        refine ⟨tc', ?_, htc'⟩
        rw [List.find?_cons_of_neg (by simpa using hid)]
        exact hfind

theorem sound_lasting : Lasting Sound where
  saveEntities {batch m m' answer} hm hrun := by
    cases hrun
    exact hm.saveEntities batch
  saveEvents {batch m m' answer} hm hrun := by
    cases answer with
    | error e =>
        obtain ⟨_, rfl⟩ := StoreM.change_of_error hrun
        exact hm
    | ok u => exact hm.saveEvents (StoreM.change_of_ok hrun)
  saveCounts {batch m m' answer} hm hrun := by
    cases hrun
    exact ⟨hm.nodup, hm.le_last, hm.known⟩

/-- What belongs to a test case is what carries its id. -/
def caseView : CaseView MemoryStore Event CountSample where
  toStoreView := view
  eventOf id e := e.testCase == id
  sampleOf id c := c.testCase == id
  has m id := id ∈ m.entities.map (·.id)
  ready m := m.Reachable ∧ m.NoStrays
  sound _ m := m.Sound

/-- Nothing belongs to a test case that was just created. -/
theorem NoStrays.opened (h : m.NoStrays) (hreach : m.Reachable) {tc : TestCase} {id : TestCaseId}
    (hrun : (EventStore.createTestCase tc).perform m = (.ok id, m')) :
    m'.Sound ∧ caseView.eventsOf m' id = 0 ∧ caseView.samplesOf m' id = 0 := by
  cases hrun
  have hnew : ∀ tc ∈ m.testCases, tc.id ≠ m.lastTestCase + 1 := by
    intro tc htc
    exact Int.ne_of_lt (Int.lt_add_one_of_le (hreach.regular.testCase_le tc htc))
  refine ⟨(hreach.createTestCase tc).sound, ?_, ?_⟩
  · apply Multiset.filter_eq_nil.mpr
    intro e he hof
    obtain ⟨e', he', rfl⟩ := List.mem_map.mp he
    exact h.events _ hnew e' he' (eq_of_beq hof)
  · apply Multiset.filter_eq_nil.mpr
    intro c hc hof
    exact h.counts _ hnew c hc (eq_of_beq hof)

theorem caseView_archives (now : Instant) : caseView.Archives now where
  atomic := view_atomic
  readable := ⟨fun h => (congrArg Prod.snd h).symm, fun h => (congrArg Prod.snd h).symm,
    fun h => (congrArg Prod.snd h).symm, fun h => (congrArg Prod.snd h).symm,
    fun h => (congrArg Prod.snd h).symm⟩
  event h := beq_iff_eq.mpr h
  sample h := beq_iff_eq.mpr h
  opens hready hrun := hready.2.opened hready.1 hrun
  lasting _ := sound_lasting
  closes {id success m m'} hm hrun := by
    obtain ⟨testCases, hclose, rfl⟩ := finishTestCase_of_ok (StoreM.change_of_ok hrun)
    refine ⟨⟨hm.nodup, hm.le_last, hm.known⟩, ⟨(add_zero _).symm, (add_zero _).symm⟩, ?_⟩
    intro tc m'' hread
    cases hread
    exact closeFirst_of_some hclose
  own {id own m m'} hm hrun := by
    cases hrun
    exact hm.nodup.sublist (List.filter_sublist.map _)
  log {id events m m'} hm hrun := by
    cases hrun
    constructor
    · exact (filter_kept m.events Event.unsaved fun e => e.testCase == id).symm
    · exact fun e he => hm.known e (List.mem_filter.mp he).1
  byId {id ids rows m m'} hm _ hrun := by
    cases hrun
    refine ⟨hm.nodup.sublist (List.filter_sublist.map _), ?_, ?_⟩
    · intro i hi
      obtain ⟨row, hrow, rfl⟩ := List.mem_map.mp hi
      simpa using (List.mem_filter.mp hrow).2
    · intro i hi hhas
      obtain ⟨row, hrow, rfl⟩ := List.mem_map.mp hhas
      exact List.mem_map_of_mem (List.mem_filter.mpr ⟨hrow, by simpa using hi⟩)
  series {id samples m m'} hrun := by
    cases hrun
    have hkept := filter_kept m.counts (fun c => c) fun c => c.testCase == id
    rw [List.map_id', List.map_id'] at hkept
    exact congrArg Multiset.card hkept.symm

end MemoryStore

/-! ## The relational store -/

namespace Relational

theorem readText_of_ok {c : Cell} {index : Nat} {column s : String}
    (h : c.readText index column = .ok s) : c = .text s := by
  cases c with
  | text t =>
      cases h
      rfl
  | null | integer i | real x => exact nomatch h

theorem readInt_of_ok {c : Cell} {index : Nat} {column : String} {i : Int}
    (h : c.readInt index column = .ok i) : c = .integer i := by
  cases c with
  | integer j =>
      cases h
      rfl
  | null | text t | real x => exact nomatch h

theorem moment_of_ok {micros : Int} {t : Instant} (h : moment micros = .ok t) :
    t = .ofMicros micros := by
  unfold moment moment? at h
  split at h
  · rename_i hsome
    cases h
    dsimp only at hsome
    split at hsome
    · exact (Option.some.inj hsome).symm
    · exact nomatch hsome
  · exact nomatch h

/-- What is read of a row says what the row says. -/
theorem EventRow.form_of_read {r : EventRow} {e : Event} (h : r.read = .ok e) :
    EventRow.ofEvent 0 e = r.unnumbered := by
  unfold EventRow.read at h
  obtain ⟨name, hname, h⟩ := bind_of_ok h
  obtain ⟨testCase, hcase, h⟩ := bind_of_ok h
  obtain ⟨entity, hentity, h⟩ := bind_of_ok h
  obtain ⟨label, hlabel, h⟩ := bind_of_ok h
  obtain ⟨micros, hmicros, h⟩ := bind_of_ok h
  split at h
  · exact nomatch h
  · rename_i type htype
    obtain ⟨t, ht, h⟩ := bind_of_ok h
    cases h
    have hsame : type.label = label := by simpa using List.find?_some htype
    unfold EventRow.ofEvent EventRow.unnumbered
    simp only [hsame, moment_of_ok ht, Instant.micros_ofMicros]
    rw [← readText_of_ok hname, ← readInt_of_ok hcase, ← readInt_of_ok hentity,
      ← readText_of_ok hlabel, ← readInt_of_ok hmicros]

theorem EntityRow.id_of_read {r : EntityRow} {x : Entity} (h : r.read = .ok x) : x.id = r.id := by
  unfold EntityRow.read at h
  obtain ⟨type, _, h⟩ := bind_of_ok h
  obtain ⟨name, _, h⟩ := bind_of_ok h
  obtain ⟨uid, _, h⟩ := bind_of_ok h
  obtain ⟨testCase, _, h⟩ := bind_of_ok h
  cases h
  rfl

end Relational

namespace RelationalStore

open Relational

variable {s s' : RelationalStore} {id : TestCaseId}

/-- No row is of a test case that was not created. -/
structure NoStrays (s : RelationalStore) : Prop where
  entities : ∀ id, s.hasTestCase id = false → ∀ r ∈ s.entities.rows, r.testCase ≠ .integer id
  events : ∀ id, s.hasTestCase id = false → ∀ r ∈ s.events.rows, r.testCase ≠ .integer id
  counts : ∀ id, s.hasTestCase id = false → ∀ r ∈ s.counts.rows, r.testCase ≠ .integer id

theorem noStrays_empty : empty.NoStrays where
  entities _ _ := List.forall_mem_nil _
  events _ _ := List.forall_mem_nil _
  counts _ _ := List.forall_mem_nil _

/-- The ids of entities are a key, and each event of the test case refers to one of them. -/
structure Sound (id : TestCaseId) (s : RelationalStore) : Prop where
  key : (s.entities.rows.map EntityRow.id).Nodup
  refers : ∀ r ∈ s.events.rows, r.testCase = .integer id →
    ∃ i, r.entity = .integer i ∧ s.hasEntity i = true

theorem Widened.sound (h : s.Widened s') (hs : s.Sound id) : s'.Sound id where
  key := h.nodup hs.key
  refers := by
    rw [h.events]
    intro r hr hcase
    obtain ⟨i, hi, hhas⟩ := hs.refers r hr hcase
    exact ⟨i, hi, h.hasEntity hhas⟩

theorem Logged.sound {batch : List Event} (h : s.Logged batch s') (hs : s.Sound id) :
    s'.Sound id := by
  obtain ⟨added, hadded, hsame⟩ := h.events
  have hhas : s'.hasEntity = s.hasEntity := by
    funext i
    unfold hasEntity
    rw [h.entities]
  constructor
  · rw [h.entities]
    exact hs.key
  · rw [hadded, hhas]
    intro r hr hcase
    rcases List.mem_append.mp hr with hr | hr
    · exact hs.refers r hr hcase
    · have hmem : r.unnumbered ∈ batch.map (EventRow.ofEvent 0) := hsame ▸ List.mem_map_of_mem hr
      obtain ⟨e, he, hform⟩ := List.mem_map.mp hmem
      have hentity : Cell.integer e.entity = r.entity := congrArg EventRow.entity hform
      exact ⟨e.entity, hentity.symm, (h.known e he).2⟩

theorem Sampled.sound {batch : List CountSample} (h : s.Sampled batch s') (hs : s.Sound id) :
    s'.Sound id := by
  constructor
  · rw [h.entities]
    exact hs.key
  · unfold hasEntity
    rw [h.entities, h.events]
    exact hs.refers

theorem sound_lasting (id : TestCaseId) : Lasting (Sound id) where
  saveEntities {batch s s' answer} hs hrun := by
    have hwidened := saveEntities_widened (s := s) batch
    rw [show (s.saveEntities batch).2 = s' from congrArg Prod.snd hrun] at hwidened
    exact hwidened.sound hs
  saveEvents {batch s s' answer} hs hrun := by
    cases answer with
    | error e =>
        obtain ⟨_, rfl⟩ := StoreM.change_of_error hrun
        exact hs
    | ok u => exact (saveEvents_of_ok (StoreM.change_of_ok hrun)).sound hs
  saveCounts {batch s s' answer} hs hrun := by
    cases answer with
    | error e =>
        obtain ⟨_, rfl⟩ := StoreM.change_of_error hrun
        exact hs
    | ok u => exact (saveCounts_of_ok (StoreM.change_of_ok hrun)).sound hs

/-- The rows that are found under ids are those of the ids that have one. -/
theorem ids_of_found (s : RelationalStore) (ids : List EntityId) :
    (ids.filterMap fun i => s.entities.rows.find? fun r => r.id == i).map EntityRow.id =
      ids.filter s.hasEntity := by
  induction ids with
  | nil => rfl
  | cons i rest ih =>
      cases hfind : s.entities.rows.find? fun r => r.id == i with
      | none =>
          have hnone : ¬s.hasEntity i = true := by
            intro hhas
            obtain ⟨r, hr, hid⟩ := hasEntity_iff.mp hhas
            exact List.find?_eq_none.mp hfind r hr (beq_iff_eq.mpr hid)
          simp only [List.filterMap_cons, hfind]
          rw [List.filter_cons_of_neg hnone]
          exact ih
      | some r =>
          have hid : r.id = i := by simpa using List.find?_some hfind
          have hhas : s.hasEntity i = true :=
            hasEntity_iff.mpr ⟨r, List.mem_of_find?_eq_some hfind, hid⟩
          simp only [List.filterMap_cons, hfind]
          rw [List.filter_cons_of_pos hhas, List.map_cons, ih, hid]

theorem closed_of_read {now : Instant} (hnow : (moment? now.micros).isSome = true) {success : Bool}
    {r : TestCaseRow} {tc : TestCase} (h : (closedRow now success r).read = .ok tc) :
    CaseView.Closed r.id success tc := by
  unfold TestCaseRow.read at h
  obtain ⟨started, _, h⟩ := bind_of_ok h
  obtain ⟨ended, hended, h⟩ := bind_of_ok h
  obtain ⟨name, _, h⟩ := bind_of_ok h
  obtain ⟨runName, _, h⟩ := bind_of_ok h
  obtain ⟨outcome, houtcome, h⟩ := bind_of_ok h
  cases h
  cases hended
  cases success with
  | true | false =>
      cases houtcome
      exact ⟨rfl, hnow, rfl⟩

/-- A test case that was closed is read back as closed. -/
theorem closed_of_finishTestCase {success : Bool} {now : Instant}
    (hnow : (moment? now.micros).isSome = true) (h : s.finishTestCase id success now = .ok s')
    {tc : Option TestCase} (hread : s'.testCase id = .ok tc) :
    ∃ closed, tc = some closed ∧ CaseView.Closed id success closed := by
  obtain ⟨hhas, rfl⟩ := finishTestCase_of_ok h
  obtain ⟨r, hr, hid⟩ := hasTestCase_iff.mp hhas
  unfold testCase at hread
  split at hread
  · rename_i row hfind
    obtain ⟨r', hr', rfl⟩ := List.mem_map.mp (List.mem_of_find?_eq_some hfind)
    have hfound := List.find?_some hfind
    by_cases hr'id : r'.id = id
    · rw [if_pos hr'id] at hread
      cases hclosed : (closedRow now success r').read with
      | error e =>
          rw [hclosed] at hread
          exact nomatch hread
      | ok closed =>
          rw [hclosed] at hread
          cases hread
          exact ⟨closed, rfl, hr'id ▸ closed_of_read hnow hclosed⟩
    · rw [if_neg hr'id] at hfound
      exact absurd (eq_of_beq hfound) hr'id
  · rename_i hfind
    have hmem : closedRow now success r ∈
        s.testCases.rows.map fun r => if r.id = id then closedRow now success r else r :=
      List.mem_map.mpr ⟨r, hr, if_pos hid⟩
    exact absurd (beq_iff_eq.mpr hid) (List.find?_eq_none.mp hfind (closedRow now success r) hmem)

/-- What belongs to a test case is what carries its id. -/
def caseView : CaseView RelationalStore EventRow CountRow where
  toStoreView := view
  eventOf id r := r.testCase == .integer id
  sampleOf id r := r.testCase == .integer id
  has s id := s.hasEntity id = true
  ready s := (s.entities.rows.map EntityRow.id).Nodup ∧ s.NoStrays
  sound := Sound

/-- Nothing belongs to a test case that was just created. -/
theorem NoStrays.opened (h : s.NoStrays) (hkey : (s.entities.rows.map EntityRow.id).Nodup)
    {tc : TestCase} (hrun : (EventStore.createTestCase tc).perform s = (.ok id, s')) :
    s'.Sound id ∧ caseView.eventsOf s' id = 0 ∧ caseView.samplesOf s' id = 0 := by
  obtain ⟨id', hnext, hdone⟩ := bind_of_ok (StoreM.writing_of_ok hrun)
  cases hdone
  have hnew : s.hasTestCase id = false := by
    apply Bool.eq_false_iff.mpr
    intro hhas
    obtain ⟨r, hr, hid⟩ := hasTestCase_iff.mp hhas
    exact Int.ne_of_lt (Table.lt_next hnext r hr) hid
  refine ⟨⟨hkey, ?_⟩, ?_, ?_⟩
  · intro r hr hcase
    exact absurd hcase (h.events id hnew r hr)
  · apply Multiset.filter_eq_nil.mpr
    intro e he hof
    obtain ⟨r, hr, rfl⟩ := List.mem_map.mp he
    exact h.events id hnew r hr (eq_of_beq hof)
  · apply Multiset.filter_eq_nil.mpr
    intro c hc hof
    obtain ⟨r, hr, rfl⟩ := List.mem_map.mp hc
    exact h.counts id hnew r hr (eq_of_beq hof)

/-- The events that are read are those that are kept, and refer to entities. -/
theorem Sound.eventsOf (h : s.Sound id) {events : List Event} (hread : s.eventsOf id = .ok events) :
    caseView.batch events = caseView.eventsOf s id ∧ ∀ e ∈ events, s.hasEntity e.entity = true := by
  have hforms := mapM_of_ok (fun _ _ => EventRow.form_of_read) hread
  constructor
  · refine (congrArg (fun l : List EventRow => (↑l : Multiset EventRow)) hforms).trans ?_
    exact (filter_kept s.events.rows EventRow.unnumbered fun r => r.testCase == .integer id).symm
  · intro e he
    have hmem : EventRow.ofEvent 0 e ∈ events.map (EventRow.ofEvent 0) := List.mem_map_of_mem he
    rw [hforms] at hmem
    obtain ⟨r, hr, hform⟩ := List.mem_map.mp hmem
    obtain ⟨hrow, hcase⟩ := List.mem_filter.mp hr
    obtain ⟨i, hi, hhas⟩ := h.refers r hrow (eq_of_beq hcase)
    have hentity : r.entity = .integer e.entity := congrArg EventRow.entity hform
    cases hi.symm.trans hentity
    exact hhas

theorem caseView_archives {now : Instant} (hnow : (moment? now.micros).isSome = true) :
    caseView.Archives now where
  atomic := view_atomic
  readable := ⟨fun h => (congrArg Prod.snd h).symm, fun h => (congrArg Prod.snd h).symm,
    fun h => (congrArg Prod.snd h).symm, fun h => (congrArg Prod.snd h).symm,
    fun h => (congrArg Prod.snd h).symm⟩
  event h := beq_iff_eq.mpr (congrArg Cell.integer h)
  sample h := beq_iff_eq.mpr (congrArg Cell.integer h)
  opens hready hrun := hready.2.opened hready.1 hrun
  lasting := sound_lasting
  closes {id success s s'} hs hrun := by
    have hfinish := StoreM.change_of_ok hrun
    obtain ⟨_, hrows⟩ := finishTestCase_of_ok hfinish
    refine ⟨?_, ?_, ?_⟩
    · rw [hrows]
      exact ⟨hs.key, hs.refers⟩
    · rw [hrows]
      exact ⟨(add_zero _).symm, (add_zero _).symm⟩
    · intro tc s'' hread
      exact closed_of_finishTestCase hnow hfinish (congrArg Prod.fst hread)
  own {id own s s'} hs hrun := by
    have hread : s.entitiesOf id = .ok own := congrArg Prod.fst hrun
    have hids := mapM_of_ok (k := fun x => x.id) (fun _ _ => EntityRow.id_of_read) hread
    rw [hids]
    exact hs.key.sublist (List.filter_sublist.map _)
  log hs hrun := hs.eventsOf (congrArg Prod.fst hrun)
  byId {id ids rows s s'} hs hnodup hrun := by
    have hread : s.entitiesById ids = .ok rows := congrArg Prod.fst hrun
    have hids := mapM_of_ok (k := fun x => x.id) (fun _ _ => EntityRow.id_of_read) hread
    rw [ids_of_found] at hids
    rw [hids]
    refine ⟨hnodup.sublist List.filter_sublist, List.filter_subset_self _, ?_⟩
    intro i hi hhas
    exact List.mem_filter.mpr ⟨hi, hhas⟩
  series {id samples s s'} hrun := by
    have hread : s.countsOf id = .ok samples := congrArg Prod.fst hrun
    have hkept := filter_kept s.counts.rows CountRow.unnumbered fun r => r.testCase == .integer id
    have hlength := length_of_mapM hread
    rw [List.length_mergeSort] at hlength
    have hcard := congrArg Multiset.card hkept
    rw [Multiset.coe_card, List.length_map] at hcard
    exact hlength.trans hcard.symm

end RelationalStore

end StorageLifecycle

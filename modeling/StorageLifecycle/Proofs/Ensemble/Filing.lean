import Mathlib.Data.List.Find
import StorageLifecycle.Proofs.Session.Owned
import StorageLifecycle.Proofs.Store.Memory

/-!
# The rows of a test case

Sessions that watch claims and pods store the entities of their resources while they run. Rows that
earlier test cases left behind are taken over by UID; for every other entity a row is added. So the
rows of a test case are the entities that its sessions know, without those that were there before.
-/

namespace StorageLifecycle

/-- The claims and pods that a feed tells of. -/
def ownersOf (ns : List Notification) : List Session.Owner :=
  ns.filterMap fun n => n.object.bind Snapshot.owner?

theorem mem_ownersOf {ns : List Notification} {n : Notification} {snapshot : Snapshot}
    {o : Session.Owner} (hn : n ∈ ns) (hobject : n.object = some snapshot)
    (howner : snapshot.owner? = some o) : o ∈ ownersOf ns := by
  refine List.mem_filterMap.mpr ⟨n, hn, ?_⟩
  rw [hobject]
  exact howner

/-- Claims and pods of different types or names have different UIDs. -/
def OneUid (owners : List Session.Owner) : Prop :=
  ∀ o ∈ owners, ∀ o' ∈ owners, o.uid = o'.uid → o.type = o'.type ∧ o.name = o'.name

/-- The oldest row with a UID. -/
def MemoryStore.withUid (m : MemoryStore) (uid : String) : Option Entity :=
  m.entities.find? fun row => row.uid == uid

/-- `cached` are the entities that the sessions of a test case know, over a store that was `initial`
before they started. -/
structure Filed (initial store : MemoryStore) (testCase : TestCaseId)
    (owners : List Session.Owner) (cached : List Entity) : Prop where
  sound : store.Sound
  rows : ∃ rows, store.entities = initial.entities ++ rows ∧
    rows.Perm (cached.filter fun x => (initial.withUid x.uid).isNone)
  earlier : ∀ x ∈ cached, ∀ row, initial.withUid x.uid = some row → x.id = row.id
  owned : ∀ x ∈ cached, x.testCase = testCase ∧
    ∃ o ∈ owners, o.type = x.type ∧ o.name = x.name ∧ o.uid = x.uid

section

variable {initial store store' : MemoryStore} {testCase : TestCaseId}
  {owners : List Session.Owner} {cached cached' : List Entity}

theorem Filed.perm (h : Filed initial store testCase owners cached) (hp : cached'.Perm cached) :
    Filed initial store testCase owners cached' := by
  obtain ⟨rows, hrows, hperm⟩ := h.rows
  refine ⟨h.sound, ⟨rows, hrows, hperm.trans (hp.symm.filter _)⟩, ?_, ?_⟩
  · exact fun x hx => h.earlier x (hp.mem_iff.mp hx)
  · exact fun x hx => h.owned x (hp.mem_iff.mp hx)

/-- Nothing but the rows of entities matters. -/
theorem Filed.of_entities (h : Filed initial store testCase owners cached) (hsound : store'.Sound)
    (hentities : store'.entities = store.entities) :
    Filed initial store' testCase owners cached := by
  obtain ⟨rows, hrows, hperm⟩ := h.rows
  exact ⟨hsound, ⟨rows, hentities.trans hrows, hperm⟩, h.earlier, h.owned⟩

/-- An entity that no session of the test case knows is the same as an earlier row with its UID, or
as none. -/
theorem Filed.findExisting (h : Filed initial store testCase owners cached)
    (hfresh : ∀ row ∈ initial.entities, row.testCase ≠ testCase) (huid : OneUid owners)
    {o : Session.Owner} (ho : o ∈ owners)
    (hnew : ∀ x ∈ cached, ¬(x.type = o.type ∧ x.name = o.name)) :
    store.findExisting (.fresh o.name o.uid o.type testCase) =
      (initial.withUid o.uid).map (·.id) := by
  obtain ⟨rows, hrows, hperm⟩ := h.rows
  -- An earlier row is of another test case, so it can be the same by its UID only.
  have hbefore : initial.entities.find? (fun row =>
      row.sameAs (.fresh o.name o.uid o.type testCase)) = initial.withUid o.uid := by
    refine List.find?_congr fun row hrow => ?_
    have hcase : (row.testCase == testCase) = false := beq_eq_false_iff_ne.mpr (hfresh row hrow)
    simp [Entity.sameAs, Entity.sameKey, Entity.fresh, hcase]
  -- A row of this test case is of an entity that is known, and has another UID.
  have hsince : rows.find? (fun row => row.sameAs (.fresh o.name o.uid o.type testCase)) = none := by
    refine List.find?_eq_none.mpr fun row hrow hsame => ?_
    have hcached : row ∈ cached := (List.mem_filter.mp (hperm.mem_iff.mp hrow)).1
    obtain ⟨_, o', ho', htype, hname, huid'⟩ := h.owned row hcached
    rcases Bool.or_eq_true_iff.mp hsame with hkey | hsameUid
    · simp only [Entity.sameKey, Entity.fresh, Bool.and_eq_true, beq_iff_eq] at hkey
      exact hnew row hcached ⟨hkey.1.1, hkey.1.2⟩
    · have heq : o'.uid = o.uid := huid'.trans (by simpa [Entity.fresh] using hsameUid)
      obtain ⟨htype', hname'⟩ := huid o' ho' o ho heq
      exact hnew row hcached ⟨htype.symm.trans htype', hname.symm.trans hname'⟩
  unfold MemoryStore.findExisting
  rw [hrows, List.find?_append, hbefore, hsince, Option.or_none]

/-- One more entity gets known, and a row is added for it unless there was one with its UID. -/
theorem Filed.append (h : Filed initial store testCase owners cached) (hsound : store'.Sound)
    {x : Entity}
    (hentities : store'.entities =
      store.entities ++ [x].filter fun x => (initial.withUid x.uid).isNone)
    (hearlier : ∀ row, initial.withUid x.uid = some row → x.id = row.id)
    (howned : x.testCase = testCase ∧ ∃ o ∈ owners, o.type = x.type ∧ o.name = x.name ∧ o.uid = x.uid) :
    Filed initial store' testCase owners (cached ++ [x]) where
  sound := hsound
  rows := by
    obtain ⟨rows, hrows, hperm⟩ := h.rows
    refine ⟨rows ++ [x].filter fun x => (initial.withUid x.uid).isNone, ?_, ?_⟩
    · rw [hentities, hrows, List.append_assoc]
    · rw [List.filter_append]
      exact hperm.append_right _
  earlier y hy := by
    rcases List.mem_append.mp hy with hy | hy
    · exact h.earlier y hy
    · rw [List.mem_singleton.mp hy]
      exact hearlier
  owned y hy := by
    rcases List.mem_append.mp hy with hy | hy
    · exact h.owned y hy
    · rw [List.mem_singleton.mp hy]
      exact howned

/-- A session saves an entity that none of the test case knows. -/
theorem Filed.lodge (h : Filed initial store testCase owners cached)
    (hfresh : ∀ row ∈ initial.entities, row.testCase ≠ testCase) (huid : OneUid owners)
    {o : Session.Owner} (ho : o ∈ owners)
    (hnew : ∀ x ∈ cached, ¬(x.type = o.type ∧ x.name = o.name)) {id : EntityId}
    (hsave : store.saveEntity (.fresh o.name o.uid o.type testCase) = (id, store')) :
    Filed initial store' testCase owners
      (cached ++ [{ Entity.fresh o.name o.uid o.type testCase with id := id }]) := by
  have hexisting := h.findExisting hfresh huid ho hnew
  have hsound : store'.Sound := by
    have hsaved := h.sound.saveEntity (.fresh o.name o.uid o.type testCase)
    rw [hsave] at hsaved
    exact hsaved
  cases hwith : initial.withUid o.uid with
  | some row =>
      rw [hwith] at hexisting
      have hanswer := hsave.symm.trans (MemoryStore.saveEntity_of_existing hexisting)
      refine h.append hsound ?_ ?_ ⟨rfl, o, ho, rfl, rfl, rfl⟩
      · rw [List.filter_cons_of_neg (by simp [Entity.fresh, hwith]), List.filter_nil, List.append_nil]
        exact congrArg (fun answer => answer.2.entities) hanswer
      · intro row' hrow'
        cases hwith.symm.trans hrow'
        exact congrArg Prod.fst hanswer
  | none =>
      rw [hwith] at hexisting
      have hanswer := hsave.symm.trans (MemoryStore.saveEntity_of_new hexisting)
      have hid : id = store.lastEntity + 1 := congrArg Prod.fst hanswer
      refine h.append hsound ?_ ?_ ⟨rfl, o, ho, rfl, rfl, rfl⟩
      · rw [List.filter_cons_of_pos (by simp [Entity.fresh, hwith]), List.filter_nil, hid]
        exact congrArg (fun answer => answer.2.entities) hanswer
      · exact fun row' hrow' => nomatch hwith.symm.trans hrow'

end

end StorageLifecycle

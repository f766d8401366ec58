import StorageLifecycle.Proofs.Backends.Identity
import StorageLifecycle.Proofs.Backends.Reading
import StorageLifecycle.Proofs.Metrics.Partition

/-!
# The metrics do not depend on the backend

The metrics of a test case are about its own entities and about those that its events name. Both stores
read the same ones, in orders of their own, and timelines are put in the order of ids, which is the order
of storage in both. So the timelines correspond one by one.
-/

namespace StorageLifecycle

open Relational

namespace MemoryStore

variable {m : MemoryStore} {tc : TestCaseId}

/-- Are the metrics of the test case about the entity? -/
def observes (m : MemoryStore) (tc : TestCaseId) (e : Entity) : Bool :=
  e.testCase == tc || ((m.eventsOf tc).map (·.entity)).contains e.id

/-- What is gathered for a test case are the rows that it observes, each once. -/
theorem observed_perm (hids : (m.entities.map (·.id)).Nodup) (tc : TestCaseId) :
    (m.observed tc).Perm (m.entities.filter (m.observes tc)) := by
  have hown : m.entitiesOf tc =
      (m.entities.filter (m.observes tc)).filter fun e => e.testCase == tc := by
    rw [List.filter_filter]
    refine List.filter_congr fun e _ => ?_
    rw [observes]
    cases e.testCase == tc <;> rfl
  have hcarried : m.entitiesById (CaseMetrics.carriedIds (m.entitiesOf tc) (m.eventsOf tc)) =
      (m.entities.filter (m.observes tc)).filter fun e => !(e.testCase == tc) := by
    rw [List.filter_filter]
    refine List.filter_congr fun e he => ?_
    have hmine : e.id ∈ (m.entitiesOf tc).map (·.id) ↔ e.testCase = tc := by
      constructor
      · intro hmem
        obtain ⟨x, hx, hid⟩ := List.mem_map.mp hmem
        obtain ⟨hx, hcase⟩ := List.mem_filter.mp hx
        exact List.inj_on_of_nodup_map hids hx he hid ▸ eq_of_beq hcase
      · exact fun hcase => List.mem_map_of_mem (List.mem_filter.mpr ⟨he, beq_iff_eq.mpr hcase⟩)
    rw [Bool.eq_iff_iff, List.contains_iff_mem, CaseMetrics.mem_carriedIds, hmine]
    simp only [observes, Bool.and_eq_true, Bool.or_eq_true, Bool.not_eq_true', beq_eq_false_iff_ne,
      beq_iff_eq, List.contains_iff_mem]
    tauto
  rw [observed, hcarried, hown]
  exact List.filter_append_perm _ _

end MemoryStore

namespace Twins

variable {t : Twins}

/-- The timelines of one row in both stores. -/
theorem Matching.rounds (h : t.Matching) (id : TestCaseId) {x : Entity} (hx : x ∈ t.memory.entities) :
    Timeline.Rounds t.translate
      ⟨x, Timeline.sortEvents ((t.memory.eventsOf id).filter fun e => e.entity == x.id)⟩
      ⟨x.renumber t.translate, Timeline.sortEvents
        (((t.memory.eventsOf id).map (Event.rounded t.translate)).filter fun e =>
          e.entity == (x.renumber t.translate).id)⟩ where
  entity := rfl
  events := by
    have hsame : ((t.memory.eventsOf id).map (Event.rounded t.translate)).filter (fun e =>
        e.entity == (x.renumber t.translate).id) =
          ((t.memory.eventsOf id).filter fun e => e.entity == x.id).map
            (Event.rounded t.translate) := by
      rw [List.filter_map]
      refine congrArg _ (List.filter_congr fun e he => ?_)
      rw [Function.comp_apply, Bool.eq_iff_iff, beq_iff_eq, beq_iff_eq]
      have hknown := h.regular.known e (List.mem_filter.mp he).1
      exact ⟨h.entities.injOn hknown (List.mem_map_of_mem hx), congrArg t.translate⟩
    rw [hsame]
    exact (List.mergeSort_perm _ _).trans ((List.mergeSort_perm _ _).symm.map _)
  ordered := Timeline.sortEvents_sorted _
  ordered' := Timeline.sortEvents_sorted _

/-- What is collected for a test case from both stores: the error that there is nothing, or metrics that
correspond. -/
inductive Collects (t : Twins) (id : TestCaseId) : Prop where
  | nothing :
    CaseMetrics.collect id t.memory = (.error (CaseMetrics.nothingObserved id), t.memory) →
    CaseMetrics.collect id t.relational = (.error (CaseMetrics.nothingObserved id), t.relational) →
    Collects t id
  | found {m m' : CaseMetrics} :
    CaseMetrics.collect id t.memory = (.ok m, t.memory) →
    CaseMetrics.collect id t.relational = (.ok m', t.relational) →
    m.Corresponds t.translate m' → Collects t id

/-- The rows that a test case observes, as both stores gather them. -/
theorem Matching.gathered (h : t.Matching) (id : TestCaseId) :
    ∃ carried, (EventStore.entitiesById (CaseMetrics.carriedIds
        ((t.memory.entitiesOf id).map (Entity.renumber t.translate))
        ((t.memory.eventsOf id).map (Event.rounded t.translate)))).perform t.relational =
          (.ok carried, t.relational) ∧
      (CaseMetrics.carriedIds ((t.memory.entitiesOf id).map (Entity.renumber t.translate))
        ((t.memory.eventsOf id).map (Event.rounded t.translate)) = [] → carried = []) ∧
      ((t.memory.entitiesOf id).map (Entity.renumber t.translate) ++ carried).Perm
        ((t.memory.observed id).map (Entity.renumber t.translate)) := by
  obtain ⟨carried, hread, hcarried⟩ := h.entitiesById (CaseMetrics.nodup_carriedIds
    ((t.memory.entitiesOf id).map (Entity.renumber t.translate))
    ((t.memory.eventsOf id).map (Event.rounded t.translate)))
  refine ⟨carried, congrArg (·, t.relational) hread, fun hnone => ?_, ?_⟩
  · rw [hnone] at hcarried
    simpa using hcarried
  rw [MemoryStore.observed, List.map_append]
  refine List.Perm.append_left _ (hcarried.trans (List.Perm.of_eq (congrArg _ ?_)))
  refine List.filter_congr fun e he => ?_
  rw [Bool.eq_iff_iff, List.contains_iff_mem, List.contains_iff_mem]
  refine CaseMetrics.mem_carriedIds_of_perm (fun i hi j hj => h.entities.injOn hi hj) ?_ ?_ ?_ ?_
    (List.mem_map_of_mem he)
  · rw [List.map_map, List.map_map]
    rfl
  · intro i hi
    obtain ⟨x, hx, rfl⟩ := List.mem_map.mp hi
    exact List.mem_map_of_mem (List.mem_filter.mp hx).1
  · rw [List.map_map, List.map_map]
    rfl
  · intro i hi
    obtain ⟨ev, hev, rfl⟩ := List.mem_map.mp hi
    exact h.regular.known ev (List.mem_filter.mp hev).1

theorem Matching.timelines (h : t.Matching) (id : TestCaseId) {gathered : List Entity}
    (hgathered : gathered.Perm ((t.memory.observed id).map (Entity.renumber t.translate))) :
    List.Forall₂ (Timeline.Rounds t.translate)
      (Timeline.build (t.memory.observed id) (t.memory.eventsOf id))
      (Timeline.build gathered ((t.memory.eventsOf id).map (Event.rounded t.translate))) := by
  have hobserved := MemoryStore.observed_perm h.regular.nodup_ids id
  have hsublist : (t.memory.entities.filter (t.memory.observes id)).Sublist t.memory.entities :=
    List.filter_sublist
  have hids : ((t.memory.entities.filter (t.memory.observes id)).map (·.id)).Pairwise (· < ·) := by
    refine List.Pairwise.sublist (hsublist.map _) ?_
    rw [h.regular.entityIds]
    exact MemoryStore.numbers_ascending _
  have hids' : (((t.memory.entities.filter (t.memory.observes id)).map
      (Entity.renumber t.translate)).map (·.id)).Pairwise (· < ·) := by
    rw [List.map_map]
    exact h.entities.ascending.sublist (hsublist.map _)
  rw [Timeline.build_eq_of_perm hobserved hids,
    Timeline.build_eq_of_perm (hgathered.trans (hobserved.map _)) hids', List.map_map]
  refine List.forall₂_map_left_iff.mpr (List.forall₂_map_right_iff.mpr (List.forall₂_same.mpr ?_))
  exact fun x hx => h.rounds id (hsublist.mem hx)

theorem Matching.collects (h : t.Matching) (id : TestCaseId) : t.Collects id := by
  obtain ⟨carried, hcarried, hnone, hgathered⟩ := h.gathered id
  obtain ⟨samples, hsamples, htallies⟩ := h.countsOf id
  obtain ⟨testCase, htestCase⟩ := h.testCase id
  have hmemory : CaseMetrics.collect id t.memory =
      (if (t.memory.observed id).isEmpty then .error (CaseMetrics.nothingObserved id)
        else .ok (.ofTimelines id (t.memory.testCase id)
          (Timeline.build (t.memory.observed id) (t.memory.eventsOf id)) (t.memory.countsOf id)),
        t.memory) :=
    CaseMetrics.collect_of_answers rfl rfl rfl
      (fun hnothing => by rw [hnothing]; exact List.filter_eq_nil_iff.mpr (by simp)) rfl rfl
  have hrelational := CaseMetrics.collect_of_answers (congrArg (·, t.relational) (h.entitiesOf id))
    (congrArg (·, t.relational) (h.eventsOf id)) hcarried hnone
    (congrArg (·, t.relational) hsamples) (congrArg (·, t.relational) htestCase)
  have hlength := hgathered.length_eq
  rw [List.length_map] at hlength
  by_cases hempty : t.memory.observed id = []
  · refine .nothing ?_ ?_
    · rw [hmemory, hempty]
      rfl
    · rw [hrelational, List.eq_nil_of_length_eq_zero (hlength.trans (congrArg List.length hempty))]
      rfl
  · have hne : ¬(t.memory.observed id).isEmpty = true := fun h => hempty (List.isEmpty_iff.mp h)
    have hne' : ¬((t.memory.entitiesOf id).map (Entity.renumber t.translate) ++ carried).isEmpty =
        true := by
      rw [List.isEmpty_iff_length_eq_zero, hlength, ← List.isEmpty_iff_length_eq_zero]
      exact hne
    rw [if_neg hne] at hmemory
    rw [if_neg hne'] at hrelational
    have hsame := htallies.map (·.tally)
    rw [List.map_map] at hsame
    exact .found hmemory hrelational
      (CaseMetrics.corresponds_of_rounds (h.timelines id hgathered) hsame id _ testCase)

end Twins

/-! ## Entities that match at most one row -/

theorem AtMostOne.unambiguous {m : MemoryStore} {e : Entity} (h : AtMostOne m e) :
    Unambiguous m e := by
  intro row hrow hkey
  have hmem : row ∈ m.entities.filter fun row => row.sameAs e :=
    List.mem_filter.mpr ⟨hrow, Entity.sameAs_iff.mpr (.inl hkey)⟩
  obtain ⟨only, honly⟩ := List.length_eq_one_iff.mp (Nat.le_antisymm h (List.length_pos_of_mem hmem))
  obtain rfl := List.mem_singleton.mp (honly ▸ hmem)
  rw [MemoryStore.findExisting, ← List.head?_filter, honly]
  rfl

namespace StoreWrite

theorem EachSave.imp {P Q : MemoryStore → Entity → Prop} (hPQ : ∀ m e, P m e → Q m e)
    {m : MemoryStore} {batch : List Entity} (h : EachSave P m batch) : EachSave Q m batch := by
  induction batch generalizing m with
  | nil => trivial
  | cons e rest ih => exact ⟨hPQ m e h.1, ih h.2⟩

theorem Along.imp {P Q : MemoryStore → StoreWrite → Prop} (hPQ : ∀ m w, P m w → Q m w)
    {m : MemoryStore} {ws : List StoreWrite} (h : Along P m ws) : Along Q m ws := by
  induction ws generalizing m with
  | nil => trivial
  | cons w rest ih => exact ⟨hPQ m w h.1, ih h.2⟩

end StoreWrite

namespace Twins

/-- Whatever is written to an empty store in memory and to an empty relational store, if each entity that
is saved matches at most one row: ids translate into each other along the saves, and the metrics of every
test case are missing from both stores or correspond. -/
theorem metrics_correspond {ws : List StoreWrite}
    (hfit : StoreWrite.Along StoreWrite.Fits .empty ws)
    (honce : StoreWrite.Along (StoreWrite.Saves AtMostOne) .empty ws) :
    UnlessFull (StoreWrite.sizes ws) (fun t => t.Agreed ∧ ∀ id, t.Collects id)
      (empty.run ws) := by
  have hclear : StoreWrite.Along (StoreWrite.Saves Unambiguous) .empty ws :=
    honce.imp fun _ _ hsaves => hsaves.imp fun _ _ => AtMostOne.unambiguous
  refine (matching_empty.run hfit (Nat.le_of_eq (Nat.zero_add _))).imp fun t ht => ?_
  obtain ⟨hmatching, _, hagreed⟩ := ht
  exact ⟨hagreed.mpr ⟨List.forall_mem_nil _, hclear⟩, hmatching.collects⟩

/-- A claim that an earlier test case stored is bound in a later one, in which a pod becomes ready after
thirteen hundred nanoseconds. -/
theorem metrics_correspond_carried :
    let ws := [.createTestCase (.fresh "first" "r" .epoch), .createTestCase (.fresh "second" "r" .epoch),
      .saveEntities [.fresh "data" "u1" .pvc 1], .finishTestCase 1 true ⟨5000⟩,
      .saveEntities [.fresh "data" "u1" .pvc 1, .fresh "web" "u2" .pod 2],
      .saveEvents [⟨none, "e1", 2, 1, .pvcBound, ⟨7100⟩⟩, ⟨none, "e2", 2, 2, .podAdded, ⟨7900⟩⟩,
        ⟨none, "e3", 2, 2, .podReady, ⟨9200⟩⟩],
      .saveCounts [⟨2, ⟨9300⟩, ⟨0, 1, 0, 0, 1, 0⟩⟩, ⟨2, ⟨9100⟩, ⟨1, 0, 0, 0, 1, 0⟩⟩]]
    ∃ t, empty.run ws = .ok t ∧ t.ids = [(1, 1), (1, 1), (2, 3)] ∧ t.Agreed ∧
      ∃ m m', CaseMetrics.collect 2 t.memory = (.ok m, t.memory) ∧
        CaseMetrics.collect 2 t.relational = (.ok m', t.relational) ∧ m.Corresponds t.translate m' ∧
        m.stage .podCreation = .ofSamples [⟨1300⟩] ∧ m'.count .podReady = 1 ∧
        m'.peaks = ⟨2, ⟨1, 1, 0, 0, 1, 0⟩⟩ := by
  intro ws
  have hfit : StoreWrite.Along StoreWrite.Fits .empty ws := by decide +kernel
  have honce : StoreWrite.Along (StoreWrite.Saves AtMostOne) .empty ws := by decide +kernel
  have hrun := metrics_correspond hfit honce
  obtain ⟨t, ht, hids, hanswers, hsome, hlasting, hready, hpeaks⟩ : ∃ t, empty.run ws = .ok t ∧
      t.ids = [(1, 1), (1, 1), (2, 3)] ∧ Answers t.memory t.memory.entities t.memory.events ∧
      t.memory.entities.filter (CaseMetrics.involves t.memory.events 2) ≠ [] ∧
      (t.memory.entities.filter (CaseMetrics.involves t.memory.events 2)).filterMap
        (CaseMetrics.lasting t.memory.events 2 .podCreation) = [⟨1300⟩] ∧
      (t.memory.events.countP fun e => e.testCase == 2 && e.type == .podReady) = 1 ∧
      Peaks.ofSamples (t.memory.countsOf 2) = ⟨2, ⟨1, 1, 0, 0, 1, 0⟩⟩ :=
    ⟨_, rfl, by decide +kernel, MemoryStore.answers (by decide +kernel) (by decide +kernel),
      by decide +kernel, by decide +kernel, by decide +kernel, by decide +kernel⟩
  obtain ⟨m, samples, hcollect, hsamples, hcount, hstage, hpeak⟩ := hanswers.collect_found 2 hsome
  cases hsamples
  rw [ht] at hrun
  refine ⟨t, ht, hids, hrun.1, m, ?_⟩
  cases hrun.2 2 with
  | nothing hmemory _ => exact nomatch congrArg Prod.fst (hcollect.symm.trans hmemory)
  | found hmemory hrelational hsame =>
      cases hcollect.symm.trans hmemory
      refine ⟨_, hmemory, hrelational, hsame, ?_, ?_, ?_⟩
      · rw [hstage, hlasting]
      · rw [← hready, ← hcount, CaseMetrics.count, CaseMetrics.count, hsame.eventCounts]
      · rw [hsame.peaks, hpeak, hpeaks]

end Twins

end StorageLifecycle

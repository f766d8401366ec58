import Mathlib.Algebra.BigOperators.Group.List.Basic
import Mathlib.Algebra.Ring.Nat
import Mathlib.Data.List.Nodup
import StorageLifecycle.Metrics.Collect
import StorageLifecycle.Proofs.Store.Basic

/-!
# How metrics are collected

To collect the metrics of a test case is to ask a store five questions. What comes of it is one of three
things: an error of the store, nothing at all, or the metrics of what was read. Each event is in one
timeline if its entity is among those that were read and no two of these share an id, so that the
counts add up to the number of events.
-/

namespace StorageLifecycle

/-! ## Timelines -/

namespace Timeline

/-- Dealing events out to entities with different ids loses none and doubles none. -/
theorem perm_of_dealt {entities : List Entity} (hids : (entities.map (·.id)).Nodup)
    {events : List Event} (hknown : ∀ e ∈ events, e.entity ∈ entities.map (·.id)) :
    (entities.flatMap fun x => events.filter fun e => e.entity == x.id).Perm events := by
  induction entities generalizing events with
  | nil =>
      have hnone : events = [] := List.eq_nil_iff_forall_not_mem.mpr fun e he => nomatch hknown e he
      rw [hnone]
      exact List.Perm.refl _
  | cons x rest ih =>
      rw [List.map_cons, List.nodup_cons] at hids
      obtain ⟨hx, hrest⟩ := hids
      -- The events of the first entity are taken away; the others are dealt out to the rest.
      have hothers : (rest.flatMap fun y => events.filter fun e => e.entity == y.id) =
          rest.flatMap fun y =>
            (events.filter fun e => !(e.entity == x.id)).filter fun e => e.entity == y.id := by
        apply List.flatMap_congr
        intro y hy
        rw [List.filter_filter]
        apply List.filter_congr
        intro e _
        by_cases hey : e.entity = y.id
        · have hne : e.entity ≠ x.id := by
            intro hex
            apply hx
            rw [← hex, hey]
            exact List.mem_map_of_mem hy
          simp [hey, hey ▸ hne]
        · simp [hey]
      have hleft : ∀ e ∈ events.filter fun e => !(e.entity == x.id), e.entity ∈ rest.map (·.id) := by
        intro e he
        obtain ⟨hmem, hne⟩ := List.mem_filter.mp he
        rcases List.mem_cons.mp (hknown e hmem) with heq | hin
        · simp [heq] at hne
        · exact hin
      rw [List.flatMap_cons, hothers]
      exact ((ih hrest hleft).append_left _).trans (List.filter_append_perm _ events)

/-- The timelines hold the events that were read, if their entities were. -/
theorem build_events_perm {entities : List Entity} (hids : (entities.map (·.id)).Nodup)
    {events : List Event} (hknown : ∀ e ∈ events, e.entity ∈ entities.map (·.id)) :
    ((build entities events).flatMap (·.events)).Perm events := by
  unfold build
  refine ((List.mergeSort_perm _ _).flatMap_right _).trans ?_
  rw [List.flatMap_map]
  refine List.Perm.trans ?_ (perm_of_dealt hids hknown)
  apply List.Perm.flatMap_left
  intro x _
  exact List.mergeSort_perm _ _

/-- Timelines stand in the order of the ids of their entities, however the entities were read. -/
theorem build_eq_of_perm {entities rows : List Entity} (hperm : entities.Perm rows)
    (hids : (rows.map (·.id)).Pairwise (· < ·)) (events : List Event) :
    build entities events =
      rows.map fun x => ⟨x, sortEvents (events.filter fun e => e.entity == x.id)⟩ := by
  let timeline (x : Entity) : Timeline := ⟨x, sortEvents (events.filter fun e => e.entity == x.id)⟩
  have hsorted : (rows.map timeline).Pairwise fun a b => a.entity.id < b.entity.id :=
    List.pairwise_map.mpr (List.pairwise_map.mp hids)
  have hbuilt : (build entities events).Pairwise fun a b => a.entity.id ≤ b.entity.id :=
    pairwise_mergeSort_by (fun l : Timeline => l.entity.id) _
  have hsame : (build entities events).Perm (rows.map timeline) :=
    (List.mergeSort_perm _ _).trans (hperm.map timeline)
  -- Two timelines of one id are one, since different rows have different ids.
  refine List.Perm.eq_of_pairwise ?_ hbuilt (hsorted.imp Int.le_of_lt) hsame
  intro a b ha hb hab hba
  have hkey : ((rows.map timeline).map fun l => l.entity.id).Nodup :=
    (List.pairwise_map.mpr hsorted).imp Int.ne_of_lt
  exact List.inj_on_of_nodup_map hkey (hsame.mem_iff.mp ha) hb (Int.le_antisymm hab hba)

end Timeline

/-- What is left of a list without repetitions is different. -/
theorem nodup_eraseDups {α : Type} [DecidableEq α] (l : List α) : l.eraseDups.Nodup := by
  match l with
  | [] => exact List.nodup_nil
  | a :: rest =>
      rw [List.eraseDups_cons, List.nodup_cons]
      constructor
      · simp
      · exact nodup_eraseDups (rest.filter fun b => !b == a)
termination_by l.length
decreasing_by exact Nat.lt_succ_of_le (List.length_filter_le _ _)

namespace CaseMetrics

theorem mem_carriedIds {entities : List Entity} {events : List Event} {i : EntityId} :
    i ∈ carriedIds entities events ↔
      i ∈ events.map (·.entity) ∧ i ∉ entities.map (·.id) := by
  unfold carriedIds
  rw [List.mem_eraseDups, List.mem_mergeSort, List.mem_filter]
  simp

theorem nodup_carriedIds (entities : List Entity) (events : List Event) :
    (carriedIds entities events).Nodup :=
  nodup_eraseDups _

/-- Without events there is nothing to carry. -/
theorem carriedIds_nil (entities : List Entity) : carriedIds entities [] = [] := by
  simp [carriedIds]

/-- Under other ids the same rows are carried over, if different rows have different new ids. -/
theorem mem_carriedIds_of_perm {own own' : List Entity} {events events' : List Event}
    {f : EntityId → EntityId} {known : List EntityId}
    (hinj : ∀ i ∈ known, ∀ j ∈ known, f i = f j → i = j)
    (hown : (own'.map (·.id)).Perm ((own.map (·.id)).map f)) (hownKnown : ∀ i ∈ own.map (·.id), i ∈ known)
    (hevents : (events'.map (·.entity)).Perm ((events.map (·.entity)).map f))
    (heventsKnown : ∀ i ∈ events.map (·.entity), i ∈ known) {i : EntityId} (hi : i ∈ known) :
    f i ∈ carriedIds own' events' ↔ i ∈ carriedIds own events := by
  have hback : ∀ ids : List EntityId, (∀ j ∈ ids, j ∈ known) → (f i ∈ ids.map f ↔ i ∈ ids) := by
    intro ids hids
    refine ⟨fun hmem => ?_, List.mem_map_of_mem⟩
    obtain ⟨j, hj, heq⟩ := List.mem_map.mp hmem
    exact hinj j (hids j hj) i hi heq ▸ hj
  rw [mem_carriedIds, mem_carriedIds, hevents.mem_iff, hown.mem_iff, hback _ heventsKnown,
    hback _ hownKnown]

/-- Each event is of one of the twelve types. -/
theorem sum_countP_types (events : List Event) :
    (EventType.all.map fun t => events.countP fun e => e.type == t).sum = events.length := by
  induction events with
  | nil => rfl
  | cons e rest ih =>
      have hone : (EventType.all.map fun t => if (e.type == t) = true then 1 else 0).sum = 1 := by
        cases e.type <;> rfl
      simp only [List.countP_cons, List.sum_map_add, List.length_cons]
      rw [ih, hone]

theorem sum_countEvents (timelines : List Timeline) :
    ((countEvents timelines).map (·.2)).sum = (timelines.flatMap (·.events)).length := by
  unfold countEvents
  rw [List.map_map]
  exact sum_countP_types _

end CaseMetrics

/-! ## What a collection comes to -/

/-- A question to a store that stays as it is fails with an error of the store, or the collection goes on
with the answer. -/
theorem CollectM.read_cases {σ α β : Type} {s s' : σ} {m : StoreM σ α} {f : α → CollectM σ β}
    {answer : Except CollectorError β} (h : (CollectM.read m >>= f) s = (answer, s'))
    (hm : ∀ {t r}, m.perform s = (r, t) → t = s) :
    (s' = s ∧ ∃ e, answer = .error (.store e)) ∨
      ∃ a, m.perform s = (.ok a, s) ∧ f a s = (answer, s') := by
  have hread : CollectM.read m s =
      ((m.perform s).1.mapError CollectorError.store, (m.perform s).2) := rfl
  cases hasked : m.perform s with
  | mk r t =>
      obtain rfl := hm hasked
      rw [hasked] at hread
      rcases bind_cases h with ⟨e, hrun, rfl⟩ | ⟨a, between, hrun, hrest⟩
      · rw [hread] at hrun
        cases r with
        | error e' =>
            cases hrun
            exact Or.inl ⟨rfl, e', rfl⟩
        | ok a => exact nomatch congrArg Prod.fst hrun
      · rw [hread] at hrun
        cases r with
        | error e' => exact nomatch congrArg Prod.fst hrun
        | ok a' =>
            cases hrun
            exact Or.inr ⟨a, rfl, hrest⟩

/-- A question that is answered by a store that stays as it is. -/
theorem CollectM.read_of_ok {σ α β : Type} {s : σ} {m : StoreM σ α} {a : α}
    (h : m.perform s = (.ok a, s)) (f : α → CollectM σ β) : (CollectM.read m >>= f) s = f a s := by
  have hread : CollectM.read m s = (.ok a, s) := by
    have hrun : m s = (.ok a, s) := h
    unfold CollectM.read
    rw [hrun]
    rfl
  show (ExceptT.bindCont f (CollectM.read m s).1 : StateM σ _) (CollectM.read m s).2 = _
  rw [hread]
  rfl

/-- A store that answers questions about a test case and stays as it is. -/
structure Readable (σ : Type) [EventStore σ] : Prop where
  entities : ∀ {id : TestCaseId} {s s' : σ} {answer : Except StoreError (List Entity)},
    (EventStore.entities id).perform s = (answer, s') → s' = s
  events : ∀ {id : TestCaseId} {s s' : σ} {answer : Except StoreError (List Event)},
    (EventStore.events id).perform s = (answer, s') → s' = s
  entitiesById : ∀ {ids : List EntityId} {s s' : σ} {answer : Except StoreError (List Entity)},
    (EventStore.entitiesById ids).perform s = (answer, s') → s' = s
  counts : ∀ {id : TestCaseId} {s s' : σ} {answer : Except StoreError (List CountSample)},
    (EventStore.counts id).perform s = (answer, s') → s' = s
  testCase : ∀ {id : TestCaseId} {s s' : σ} {answer : Except StoreError (Option TestCase)},
    (EventStore.testCase id).perform s = (answer, s') → s' = s

namespace CaseMetrics

variable {σ : Type} [EventStore σ] {s s' : σ} {id : TestCaseId}

/-- What is collected from a store that answers all questions. -/
theorem collect_of_answers {own carried : List Entity} {events : List Event}
    {samples : List CountSample} {testCase : Option TestCase}
    (hown : (EventStore.entities id).perform s = (.ok own, s))
    (hevents : (EventStore.events id).perform s = (.ok events, s))
    (hcarried : (EventStore.entitiesById (carriedIds own events)).perform s = (.ok carried, s))
    (hnone : carriedIds own events = [] → carried = [])
    (hsamples : (EventStore.counts id).perform s = (.ok samples, s))
    (htestCase : (EventStore.testCase id).perform s = (.ok testCase, s)) :
    collect id s = (if (own ++ carried).isEmpty then .error (nothingObserved id)
      else .ok (ofTimelines id testCase (Timeline.build (own ++ carried) events) samples), s) := by
  have hlast : (do
      if (own ++ carried).isEmpty then .fail (nothingObserved id)
      else
        let samples ← .read (EventStore.counts id)
        let testCase ← .read (EventStore.testCase id)
        return ofTimelines id testCase (Timeline.build (own ++ carried) events) samples :
          CollectM σ CaseMetrics) s = (if (own ++ carried).isEmpty then .error (nothingObserved id)
      else .ok (ofTimelines id testCase (Timeline.build (own ++ carried) events) samples), s) := by
    by_cases hempty : (own ++ carried).isEmpty = true
    · rw [if_pos hempty, if_pos hempty]
      rfl
    · rw [if_neg hempty, if_neg hempty, CollectM.read_of_ok hsamples, CollectM.read_of_ok htestCase]
      rfl
  unfold collect
  rw [CollectM.read_of_ok hown, CollectM.read_of_ok hevents]
  by_cases hnothing : (own.isEmpty && events.isEmpty) = true
  · obtain ⟨hnoOwn, hnoEvents⟩ := Bool.and_eq_true_iff.mp hnothing
    obtain rfl := List.isEmpty_iff.mp hnoOwn
    obtain rfl := List.isEmpty_iff.mp hnoEvents
    rw [hnone (carriedIds_nil _)]
    rfl
  · rw [if_neg hnothing, ← hlast]
    by_cases hempty : (carriedIds own events).isEmpty = true
    · rw [hnone (List.isEmpty_iff.mp hempty), List.append_nil]
      simp only [if_pos hempty, pure_bind]
    · simp only [if_neg hempty, bind_map_left]
      rw [CollectM.read_of_ok hcarried]

/-- What was read for a test case: its own entities, its events, and those entities that only its events
name. -/
structure Gathered (id : TestCaseId) (s : σ) (own carried : List Entity) (events : List Event) :
    Prop where
  ofCase : (EventStore.entities id).perform s = (.ok own, s)
  log : (EventStore.events id).perform s = (.ok events, s)
  byId : (carriedIds own events = [] ∧ carried = []) ∨
    (EventStore.entitiesById (carriedIds own events)).perform s = (.ok carried, s)

/-- What a collection comes to. -/
inductive Collected (id : TestCaseId) (s : σ) : Except CollectorError CaseMetrics → Prop
  | failed (e : StoreError) : Collected id s (.error (.store e))
  | nothing {own carried : List Entity} {events : List Event} :
    Gathered id s own carried events → own ++ carried = [] →
      Collected id s (.error (nothingObserved id))
  | found {own carried : List Entity} {events : List Event} {samples : List CountSample}
    (testCase : Option TestCase) : Gathered id s own carried events →
      (EventStore.counts id).perform s = (.ok samples, s) →
      Collected id s
        (.ok (ofTimelines id testCase (Timeline.build (own ++ carried) events) samples))

/-- The last part of a collection, when the entities are known. -/
theorem collected_of_gathered (hread : Readable σ) {own carried : List Entity} {events : List Event}
    (hg : Gathered id s own carried events) {answer : Except CollectorError CaseMetrics}
    (h : (do
      if (own ++ carried).isEmpty then .fail (nothingObserved id)
      else
        let samples ← .read (EventStore.counts id)
        let testCase ← .read (EventStore.testCase id)
        return ofTimelines id testCase (Timeline.build (own ++ carried) events) samples :
          CollectM σ CaseMetrics) s = (answer, s')) : s' = s ∧ Collected id s answer := by
  by_cases hnone : (own ++ carried).isEmpty = true
  · rw [if_pos hnone] at h
    cases h
    exact ⟨rfl, .nothing hg (List.isEmpty_iff.mp hnone)⟩
  · rw [if_neg hnone] at h
    rcases CollectM.read_cases h hread.counts with ⟨rfl, e, rfl⟩ | ⟨samples, hsamples, h⟩
    · exact ⟨rfl, .failed e⟩
    rcases CollectM.read_cases h hread.testCase with ⟨rfl, e, rfl⟩ | ⟨testCase, _, h⟩
    · exact ⟨rfl, .failed e⟩
    cases h
    exact ⟨rfl, .found testCase hg hsamples⟩

theorem collect_collected (hread : Readable σ) {answer : Except CollectorError CaseMetrics}
    (h : collect id s = (answer, s')) : s' = s ∧ Collected id s answer := by
  unfold collect at h
  rcases CollectM.read_cases h hread.entities with ⟨rfl, e, rfl⟩ | ⟨own, hown, h⟩
  · exact ⟨rfl, .failed e⟩
  rcases CollectM.read_cases h hread.events with ⟨rfl, e, rfl⟩ | ⟨events, hevents, h⟩
  · exact ⟨rfl, .failed e⟩
  by_cases hnone : (own.isEmpty && events.isEmpty) = true
  · rw [if_pos hnone] at h
    cases h
    obtain ⟨hnoOwn, hnoEvents⟩ := Bool.and_eq_true_iff.mp hnone
    obtain rfl := List.isEmpty_iff.mp hnoOwn
    obtain rfl := List.isEmpty_iff.mp hnoEvents
    exact ⟨rfl, .nothing ⟨hown, hevents, Or.inl ⟨carriedIds_nil _, rfl⟩⟩ rfl⟩
  · rw [if_neg hnone] at h
    by_cases hcarried : (carriedIds own events).isEmpty = true
    · have hg : Gathered id s own [] events :=
        ⟨hown, hevents, Or.inl ⟨List.isEmpty_iff.mp hcarried, rfl⟩⟩
      simp only [if_pos hcarried, pure_bind] at h
      apply collected_of_gathered hread hg
      rw [List.append_nil]
      exact h
    · simp only [if_neg hcarried, bind_map_left] at h
      rcases CollectM.read_cases h hread.entitiesById with ⟨rfl, e, rfl⟩ | ⟨carried, hbyId, h⟩
      · exact ⟨rfl, .failed e⟩
      exact collected_of_gathered hread ⟨hown, hevents, Or.inr hbyId⟩ h

end CaseMetrics

end StorageLifecycle

import StorageLifecycle.Proofs.Backends.Matching
import StorageLifecycle.Proofs.Metrics.Rounding

/-!
# What is read from stores that match

A relational store that matches a store in memory answers every question, and with the same rows: entities
and events under translated ids, moments at whole microseconds, and samples in the order of these.
-/

namespace StorageLifecycle

open Relational

/-- Elements that are found by a key, one for each key, are those whose key is asked for. -/
theorem perm_of_found {α : Type} {key : α → Int} {l : List α} (hkey : (l.map key).Nodup)
    {ids : List Int} (hids : ids.Nodup) :
    (ids.filterMap fun i => l.find? fun a => key a == i).Perm (l.filter fun a => ids.contains (key a)) := by
  have hfound : ∀ {i : Int} {a : α}, (l.find? fun a => key a == i) = some a → a ∈ l ∧ key a = i :=
    fun {i _} h =>
      ⟨List.mem_of_find?_eq_some h, eq_of_beq (List.find?_some (p := fun b => key b == i) h)⟩
  refine (List.perm_ext_iff_of_nodup ?_ (hkey.of_map.filter _)).mpr fun a => ?_
  · refine hids.filterMap fun i j a hi hj => ?_
    rw [← (hfound hi).2, (hfound hj).2]
  · rw [List.mem_filterMap, List.mem_filter, List.contains_iff_mem]
    constructor
    · rintro ⟨i, hi, hfind⟩
      obtain ⟨ha, rfl⟩ := hfound hfind
      exact ⟨ha, hi⟩
    · rintro ⟨ha, hi⟩
      refine ⟨key a, hi, find?_of_unique ha (beq_self_eq_true _) fun b hb hsame => ?_⟩
      exact List.inj_on_of_nodup_map hkey hb ha (eq_of_beq hsame)

/-! ## Rows -/

/-- The sample at a whole microsecond. -/
def CountSample.rounded (c : CountSample) : CountSample := { c with timestamp := c.timestamp.rounded }

namespace Relational

theorem moment?_micros {t : Instant} (h : t.OnCalendar) : moment? t.micros = some t.rounded := by
  have hseconds : (Instant.ofMicros t.micros).seconds = t.seconds := by
    simp only [Instant.seconds, Instant.ofMicros, Instant.micros, nanosPerSecond]
    omega
  unfold moment?
  dsimp only
  rw [hseconds]
  exact if_pos h

theorem moment_micros {t : Instant} (h : t.OnCalendar) : moment t.micros = .ok t.rounded := by
  unfold moment
  rw [moment?_micros h]

theorem EntityRow.read_translated (f : EntityId → EntityId) (e : Entity) :
    (EntityRow.translated f e).read = .ok (e.renumber f) := by
  show Except.ok (Entity.mk (f e.id) e.name e.uid (.ofLabel e.type.label) e.testCase) = _
  rw [EntityType.ofLabel_label]
  rfl

theorem EventRow.read_translated (f : EntityId → EntityId) {e : Event} {i : Int}
    (hid : e.id = some i) (hdated : e.timestamp.OnCalendar) :
    (EventRow.translated f e).read = .ok (e.rounded f) := by
  have hname : (Cell.text e.name).readText 1 "name" = .ok e.name := rfl
  have hcase : (Cell.integer e.testCase).readInt 2 "tc_id" = .ok e.testCase := rfl
  have hentity : (Cell.integer (f e.entity)).readInt 3 "entity_id" = .ok (f e.entity) := rfl
  have hlabel : (Cell.text e.type.label).readText 4 "event_type" = .ok e.type.label := rfl
  have hmicros : (Cell.integer e.timestamp.micros).readInt 5 "timestamp" = .ok e.timestamp.micros := rfl
  unfold EventRow.read EventRow.translated EventRow.ofEvent Event.readdress
  rw [hname, ok_bind, hcase, ok_bind, hentity, ok_bind, hlabel, ok_bind, hmicros, ok_bind]
  simp only [EventType.ofLabel_label, moment_micros hdated, ok_bind]
  rw [Event.rounded, hid]
  rfl

theorem readCount_natCast {n : Nat} (hn : n < Word.bound 32) (index : Nat) (column : String) :
    (Cell.integer n).readCount index column = .ok n := by
  have hrange : (0 : Int) ≤ n ∧ (n : Int) < Word.bound 32 := ⟨Int.natCast_nonneg n, by omega⟩
  have hint : (Cell.integer n).readInt index column = .ok (n : Int) := rfl
  unfold Cell.readCount
  rw [hint, ok_bind, if_pos hrange, Int.toNat_natCast]

/-- The sample that a row says, if it can be read. -/
def CountRow.sample (r : CountRow) : CountSample :=
  match r.read with
  | .ok c => c
  | .error _ => ⟨0, .epoch, .zero⟩

theorem CountRow.read_of_unnumbered {r : CountRow} {c : CountSample}
    (hr : r.unnumbered = .ofSample 0 c) (hdated : c.timestamp.OnCalendar)
    (hcounts : ∀ n ∈ c.tally.toList, n < Word.bound 32) : r.read = .ok c.rounded := by
  have hread : r.read = r.unnumbered.read := rfl
  have hcase : (Cell.integer c.testCase).readInt 0 "tc_id" = .ok c.testCase := rfl
  have hmicros : (Cell.integer c.timestamp.micros).readInt 1 "timestamp" = .ok c.timestamp.micros := rfl
  simp only [Tally.toList, List.forall_mem_cons] at hcounts
  obtain ⟨h1, h2, h3, h4, h5, h6, _⟩ := hcounts
  rw [hread, hr]
  unfold CountRow.read CountRow.ofSample
  rw [hcase, ok_bind, hmicros, ok_bind, readCount_natCast h1, ok_bind, readCount_natCast h2, ok_bind,
    readCount_natCast h3, ok_bind, readCount_natCast h4, ok_bind, readCount_natCast h5, ok_bind,
    readCount_natCast h6, ok_bind, moment_micros hdated, ok_bind]
  rfl

end Relational

/-! ## Answers -/

theorem Cell.integer_beq (i j : Int) : (Cell.integer i == Cell.integer j) = (i == j) := by
  rw [Bool.eq_iff_iff, beq_iff_eq, beq_iff_eq, Cell.integer.injEq]

namespace Twins

variable {t : Twins}

theorem Matching.entitiesOf (h : t.Matching) (id : TestCaseId) :
    t.relational.entitiesOf id =
      .ok ((t.memory.entitiesOf id).map (Entity.renumber t.translate)) := by
  have hcase : (fun r : EntityRow => r.testCase == .integer id) ∘ EntityRow.translated t.translate =
      fun e => e.testCase == id := funext fun e => Cell.integer_beq e.testCase id
  unfold RelationalStore.entitiesOf
  rw [h.entities.rows, List.filter_map]
  change ((t.memory.entities.filter (_ ∘ EntityRow.translated t.translate)).map _).mapM _ = _
  rw [hcase]
  exact mapM_map_eq_ok fun e _ => EntityRow.read_translated _ e

theorem Matching.eventsOf (h : t.Matching) (id : TestCaseId) :
    t.relational.eventsOf id = .ok ((t.memory.eventsOf id).map (Event.rounded t.translate)) := by
  have hcase : (fun r : EventRow => r.testCase == .integer id) ∘ EventRow.translated t.translate =
      fun e => e.testCase == id := funext fun e => Cell.integer_beq e.testCase id
  unfold RelationalStore.eventsOf
  rw [h.events.rows, List.filter_map, hcase]
  refine mapM_map_eq_ok fun e he => ?_
  obtain ⟨hmem, _⟩ := List.mem_filter.mp he
  have hid : e.id ∈ (MemoryStore.numbers t.memory.events.length).map some :=
    h.regular.eventIds ▸ List.mem_map_of_mem hmem
  obtain ⟨i, _, hi⟩ := List.mem_map.mp hid
  exact EventRow.read_translated _ hi.symm (h.events.dated e hmem)

theorem Matching.entitiesById (h : t.Matching) {ids : List EntityId} (hids : ids.Nodup) :
    ∃ rows, t.relational.entitiesById ids = .ok rows ∧
      rows.Perm ((t.memory.entities.filter fun e => ids.contains (t.translate e.id)).map
        (Entity.renumber t.translate)) := by
  refine ⟨_, ?_, (perm_of_found h.entities.nodup hids).map _⟩
  have hfound : (ids.filterMap fun i => t.relational.entities.rows.find? fun r => r.id == i) =
      (ids.filterMap fun i => t.memory.entities.find? fun e => t.translate e.id == i).map
        (EntityRow.translated t.translate) := by
    rw [List.map_filterMap]
    refine List.filterMap_congr fun i _ => ?_
    rw [h.entities.rows, List.find?_map]
    rfl
  unfold RelationalStore.entitiesById
  rw [hfound]
  exact mapM_map_eq_ok fun e _ => EntityRow.read_translated _ e

/-- Samples are read in the order of their moments. -/
theorem Matching.countsOf (h : t.Matching) (id : TestCaseId) :
    ∃ samples, t.relational.countsOf id = .ok samples ∧
      samples.Perm ((t.memory.countsOf id).map CountSample.rounded) := by
  have hform : ∀ c ∈ t.memory.counts, ∀ r : CountRow, r.unnumbered = .ofSample 0 c →
      r.read = .ok c.rounded := fun c hc r hr =>
    CountRow.read_of_unnumbered hr (h.counts.fit c hc).1 (h.counts.fit c hc).2
  have hread : ∀ r ∈ t.relational.counts.rows, r.read = .ok r.sample := by
    intro r hr
    have hmem : r.unnumbered ∈ t.memory.counts.map (CountRow.ofSample 0) :=
      h.counts.rows ▸ List.mem_map_of_mem hr
    obtain ⟨c, hc, hsame⟩ := List.mem_map.mp hmem
    unfold CountRow.sample
    rw [hform c hc r hsame.symm]
  have hsamples : (t.relational.counts.rows.filter fun r => r.testCase == .integer id).map
      CountRow.sample = (t.memory.countsOf id).map CountSample.rounded := by
    have hrows : (t.relational.counts.rows.filter fun r => r.testCase == .integer id).map
        CountRow.sample = ((t.relational.counts.rows.map CountRow.unnumbered).filter fun r =>
          r.testCase == .integer id).map CountRow.sample := by
      rw [List.filter_map, List.map_map]
      rfl
    have hcase : (fun r : CountRow => r.testCase == .integer id) ∘ CountRow.ofSample 0 =
        fun c => c.testCase == id := funext fun c => Cell.integer_beq c.testCase id
    rw [hrows, h.counts.rows, List.filter_map, hcase, List.map_map]
    refine List.map_congr_left fun c hc => ?_
    rw [Function.comp_apply, CountRow.sample, hform c (List.mem_filter.mp hc).1 _ rfl]
  have hsorted := List.mergeSort_perm
    (t.relational.counts.rows.filter fun r => r.testCase == .integer id) RelationalStore.sampledBefore
  refine ⟨_, ?_, (hsorted.map CountRow.sample).trans (List.Perm.of_eq hsamples)⟩
  have hmapM := mapM_map_eq_ok (f := CountRow.read) (g := fun r => r) (h := CountRow.sample) fun r hr =>
    hread r (List.mem_filter.mp (hsorted.mem_iff.mp hr)).1
  rw [List.map_id'] at hmapM
  exact hmapM

theorem Matching.testCase (h : t.Matching) (id : TestCaseId) :
    ∃ tc, t.relational.testCase id = .ok tc := by
  unfold RelationalStore.testCase
  split
  · rename_i r hfind
    obtain ⟨tc, htc⟩ := h.testCases.legible r (List.mem_of_find?_eq_some hfind)
    exact ⟨some tc, congrArg _ htc⟩
  · exact ⟨none, rfl⟩

end Twins

end StorageLifecycle

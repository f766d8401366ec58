import StorageLifecycle.Proofs.Ensemble.Filing
import StorageLifecycle.Session.Ensemble

/-!
# Turns

A session that has its turn takes an item or ends. Taking an item writes at most one row of an
entity; ending appends the events and the samples of the session to the store.
-/

namespace StorageLifecycle

/-! ## Storing in memory -/

namespace MemoryStore

variable {m m' : MemoryStore}

/-- What a store in memory is after events and samples were added. -/
structure Grown (m : MemoryStore) (events : List Event) (counts : List CountSample)
    (m' : MemoryStore) : Prop where
  events : ∃ added, m'.events = m.events ++ added ∧ added.map trace = events.map trace ∧
    added.map (·.testCase) = events.map (·.testCase)
  counts : m'.counts = m.counts ++ counts
  entities : m'.entities = m.entities
  testCases : m'.testCases = m.testCases
  sound : m.Sound → m'.Sound

section

variable {events : List Event} {counts : List CountSample} {id : TestCaseId}

/-- All that is added shows in the test case that it belongs to. -/
theorem Grown.eventsOf (h : m.Grown events counts m') (hown : ∀ e ∈ events, e.testCase = id) :
    (m'.eventsOf id).map trace = (m.eventsOf id).map trace ++ events.map trace := by
  obtain ⟨added, hevents, htrace, hcases⟩ := h.events
  have hadded : ∀ e ∈ added, (e.testCase == id) = true := by
    intro e he
    have hmem : e.testCase ∈ events.map (·.testCase) := hcases ▸ List.mem_map_of_mem he
    obtain ⟨e', he', heq⟩ := List.mem_map.mp hmem
    exact beq_iff_eq.mpr (heq.symm.trans (hown e' he'))
  rw [MemoryStore.eventsOf, MemoryStore.eventsOf, hevents, List.filter_append,
    List.filter_eq_self.mpr hadded, List.map_append, htrace]

theorem Grown.countsOf (h : m.Grown events counts m') (hown : ∀ c ∈ counts, c.testCase = id) :
    m'.countsOf id = m.countsOf id ++ counts := by
  have hadded : ∀ c ∈ counts, (c.testCase == id) = true := fun c hc => beq_iff_eq.mpr (hown c hc)
  rw [MemoryStore.countsOf, MemoryStore.countsOf, h.counts, List.filter_append,
    List.filter_eq_self.mpr hadded]

end

end MemoryStore

namespace Session

variable {s : Session} {w : Shared MemoryStore}

/-- A session that stores what it holds adds its events and its samples. -/
theorem grown_of_save {m m' : MemoryStore} (h : s.save.perform m = (.ok (), m')) :
    m.Grown s.batch s.counts m' := by
  obtain ⟨between, hevents, hcounts⟩ := save_of_ok h
  have hlast : m'.counts = between.counts ++ s.counts ∧ m'.events = between.events ∧
      m'.entities = between.entities ∧ m'.testCases = between.testCases ∧
      m'.lastEntity = between.lastEntity := by
    rcases saveUnlessEmpty_of_ok hcounts with ⟨hnone, rfl⟩ | hsaved
    · rw [hnone, List.append_nil]
      exact ⟨rfl, rfl, rfl, rfl, rfl⟩
    · have heq : between.saveCounts s.counts = m' := congrArg Prod.snd hsaved
      rw [← heq]
      exact ⟨rfl, rfl, rfl, rfl, rfl⟩
  obtain ⟨hc, he, hr, ht, hl⟩ := hlast
  have hsound : between.Sound → m'.Sound := by
    intro hsound
    refine ⟨hr ▸ hsound.nodup, ?_, ?_⟩
    · rw [hr, hl]
      exact hsound.le_last
    · rw [he, hr]
      exact hsound.known
  rcases saveUnlessEmpty_of_ok hevents with ⟨hnone, rfl⟩ | hsaved
  · rw [hnone]
    exact ⟨⟨[], by rw [he, List.append_nil], rfl, rfl⟩, hc, hr, ht, hsound⟩
  · have hok := StoreM.change_of_ok hsaved
    obtain ⟨added, hadded, htrace, hcase, hrows, _, hsamples, htests⟩ :=
      MemoryStore.saveEvents_of_ok hok
    refine ⟨⟨added, he.trans hadded, htrace, hcase⟩, hc.trans (by rw [hsamples]), hr.trans hrows,
      ht.trans htests, ?_⟩
    exact fun hm => hsound (hm.saveEvents hok)

/-- What a clean end does to a session and to what it shares. -/
structure Ended (s : Session) (w : Shared MemoryStore) (s' : Session) (w' : Shared MemoryStore) :
    Prop where
  session : s' = (s.settle w (s.lastTries w)).1
  store : w.store.Grown s'.batch s'.counts w'.store
  registry : w'.registry = w.registry

theorem ended_of_clean (h : (s.finish .stop w).1.isClean = true) :
    s.Ended w (s.finish .stop w).2.1 (s.finish .stop w).2.2 := by
  obtain ⟨hok, heq, _⟩ := finish_of_clean h
  obtain ⟨hanswer, hsession, hstore, hregistry⟩ :=
    flushTrying_eq (s := s) (w := w) (s.lastTries w)
  rw [← flush_eq] at hanswer hsession hstore hregistry
  rw [heq]
  refine ⟨hsession, ?_, hregistry.trans (settle_registry _)⟩
  rw [hsession, hstore]
  exact grown_of_save (Prod.ext (hanswer.symm.trans hok) rfl)

end Session

/-! ## Turns of an ensemble -/

namespace Ensemble

variable {σ : Type} {e : Ensemble σ} {k : ObserverKind}

theorem member_put_self (m : Member) (w : Shared σ) : (e.put k m w).member k = m := if_pos rfl

theorem member_put_of_ne {k' : ObserverKind} (h : k' ≠ k) (m : Member) (w : Shared σ) :
    (e.put k m w).member k' = e.member k' := if_neg h

theorem forall_member_put {P : ObserverKind → Member → Prop} {m : Member} {w : Shared σ}
    (hself : P k m) (hrest : ∀ k', P k' (e.member k')) (k' : ObserverKind) :
    P k' ((e.put k m w).member k') := by
  by_cases hk : k' = k
  · subst hk
    rw [member_put_self]
    exact hself
  · rw [member_put_of_ne hk]
    exact hrest k'

/-- The ensemble after a session took an item and was left with the rest of its feed. -/
def took [EventStore σ] (e : Ensemble σ) (k : ObserverKind) (item : Session.Item)
    (rest : List Session.Item) : Ensemble σ :=
  e.put k ⟨((e.member k).session.take e.shared item).1, rest, none⟩
    ((e.member k).session.take e.shared item).2

theorem step_of_ended [EventStore σ] {r : SessionReport} (h : (e.member k).report = some r) :
    e.step k = e := by
  simp only [step, h]

theorem step_of_item [EventStore σ] {item : Session.Item} {rest : List Session.Item}
    (h : (e.member k).report = none) (hfeed : (e.member k).feed = item :: rest) :
    e.step k = e.took k item rest := by
  simp only [step, h, hfeed]
  rfl

theorem step_of_done [EventStore σ] (h : (e.member k).report = none)
    (hfeed : (e.member k).feed = []) :
    e.step k = e.put k ⟨((e.member k).session.finish .stop e.shared).2.1, [],
        some ((e.member k).session.finish .stop e.shared).1⟩
      ((e.member k).session.finish .stop e.shared).2.2 := by
  simp only [step, h, hfeed]

/-- A session that has ended stays as it is. -/
theorem member_step_of_ended [EventStore σ] {k' : ObserverKind} {r : SessionReport}
    (h : (e.member k').report = some r) : (e.step k).member k' = e.member k' := by
  by_cases hk : k' = k
  · subst hk
    rw [step_of_ended h]
  · cases hreport : (e.member k).report with
    | some r' => rw [step_of_ended hreport]
    | none =>
        cases hfeed : (e.member k).feed with
        | nil => rw [step_of_done hreport hfeed, member_put_of_ne hk]
        | cons item rest => rw [step_of_item hreport hfeed, took, member_put_of_ne hk]

theorem member_run_of_ended [EventStore σ] (schedule : List ObserverKind) {k' : ObserverKind}
    {r : SessionReport} (h : (e.member k').report = some r) :
    (e.run schedule).member k' = e.member k' := by
  induction schedule generalizing e with
  | nil => rfl
  | cons k rest ih =>
      have hsame := member_step_of_ended (k := k) h
      exact (ih (hsame ▸ h)).trans hsame

/-- A report is final. -/
theorem report_run [EventStore σ] (schedule : List ObserverKind) {k' : ObserverKind}
    {r : SessionReport} (h : (e.member k').report = some r) :
    ((e.run schedule).member k').report = some r := by
  rw [member_run_of_ended schedule h]
  exact h

theorem isClean_iff : e.IsClean ↔ ∀ k ∈ ObserverKind.all,
    (e.member k).feed = [] ∧ (e.member k).report.map (·.isClean) = some true := by
  simp only [IsClean, Option.map_eq_some_iff, ObserverKind.mem_all, true_implies]

instance (e : Ensemble σ) : Decidable e.IsClean := decidable_of_iff _ isClean_iff.symm

/-! ## Runs without sorting

Sorting is the one thing in a run that does not compute by itself. If each session has its buffer in
order when it ends, a run is the same without it.
-/

section

variable [EventStore σ]

/-- A turn in which nothing is sorted. -/
def stepUnsorted (e : Ensemble σ) (k : ObserverKind) : Ensemble σ :=
  let m := e.member k
  match m.report, m.feed with
  | some _, _ => e
  | none, item :: rest => e.took k item rest
  | none, [] =>
    let (s, w) := m.session.retry e.shared (m.session.lastTries e.shared)
    let (r, s, w) := m.session.concluded (s.persist w)
    e.put k ⟨s, [], some r⟩ w

def runUnsorted (e : Ensemble σ) (schedule : List ObserverKind) : Ensemble σ :=
  schedule.foldl stepUnsorted e

/-- A session that ends now has its buffer in order. -/
def MayEnd (e : Ensemble σ) (k : ObserverKind) : Prop :=
  let m := e.member k
  m.report = none → m.feed = [] →
    (m.session.retry e.shared (m.session.lastTries e.shared)).1.buffer.Pairwise fun a b =>
      a.event.timestamp ≤ b.event.timestamp

/-- Each session that ends in the course of a schedule has its buffer in order then. -/
def EndsInOrder (e : Ensemble σ) : List ObserverKind → Prop
  | [] => True
  | k :: rest => e.MayEnd k ∧ (e.stepUnsorted k).EndsInOrder rest

instance (e : Ensemble σ) (k : ObserverKind) : Decidable (e.MayEnd k) :=
  inferInstanceAs (Decidable (_ → _ → _))

instance decidableEndsInOrder (e : Ensemble σ) : (schedule : List ObserverKind) →
    Decidable (e.EndsInOrder schedule)
  | [] => isTrue trivial
  | k :: rest =>
    have := decidableEndsInOrder (e.stepUnsorted k) rest
    inferInstanceAs (Decidable (_ ∧ _))

theorem step_eq_stepUnsorted (h : e.MayEnd k) : e.step k = e.stepUnsorted k := by
  cases hreport : (e.member k).report with
  | some r => simp only [step_of_ended hreport, stepUnsorted, hreport]
  | none =>
      cases hfeed : (e.member k).feed with
      | cons item rest => simp only [step_of_item hreport hfeed, stepUnsorted, hreport, hfeed]
      | nil =>
          simp only [step_of_done hreport hfeed, Session.finish_of_sorted (h hreport hfeed), stepUnsorted,
            hreport, hfeed]

theorem run_eq_runUnsorted {schedule : List ObserverKind} (h : e.EndsInOrder schedule) :
    e.run schedule = e.runUnsorted schedule := by
  induction schedule generalizing e with
  | nil => rfl
  | cons k rest ih =>
      obtain ⟨hnow, hlater⟩ := h
      rw [← step_eq_stepUnsorted hnow] at hlater
      refine (ih hlater).trans ?_
      rw [step_eq_stepUnsorted hnow]
      rfl

end

end Ensemble

end StorageLifecycle

import Mathlib.Algebra.BigOperators.Group.Multiset.Basic
import StorageLifecycle.Proofs.Session.Dealing
import StorageLifecycle.Proofs.Session.Flush
import StorageLifecycle.Store.Faulty

/-!
# What a store keeps of events and samples

A store keeps events and samples in a form of its own and numbers their rows. A view tells the form
apart from the numbers: it says which events and samples a store has, and in which form it keeps a
given one. A store is atomic in a view when it takes a batch as a whole or leaves everything as it
was. Over such a store it can be counted what a session has written.
-/

namespace StorageLifecycle

/-- How the events and the samples of a store are seen from outside. -/
structure StoreView (σ ε κ : Type) where
  events : σ → Multiset ε
  samples : σ → Multiset κ
  /-- The form in which an event is kept. -/
  event : Event → ε
  /-- The form in which a sample is kept. -/
  sample : CountSample → κ

namespace StoreView

variable {σ ε κ : Type}

/-- The view of a store that keeps its events and its samples in lists. -/
def ofLists (events : σ → List ε) (samples : σ → List κ) (event : Event → ε)
    (sample : CountSample → κ) : StoreView σ ε κ :=
  ⟨fun s => ↑(events s), fun s => ↑(samples s), event, sample⟩

/-- A batch of events, in the form in which it is kept. -/
def batch (v : StoreView σ ε κ) (events : List Event) : Multiset ε := ↑(events.map v.event)

/-- A series of samples, in the form in which it is kept. -/
def series (v : StoreView σ ε κ) (samples : List CountSample) : Multiset κ :=
  ↑(samples.map v.sample)

/-- The store has gained these events and these samples. -/
structure Gained (v : StoreView σ ε κ) (before after : σ) (events : Multiset ε)
    (samples : Multiset κ) : Prop where
  events : v.events after = v.events before + events
  samples : v.samples after = v.samples before + samples

/-- The computation writes all of these events and samples, or nothing if it fails. -/
structure Whole (v : StoreView σ ε κ) (m : StoreM σ Unit) (events : Multiset ε)
    (samples : Multiset κ) : Prop where
  ok : ∀ {s s' : σ}, m.perform s = (.ok (), s') → v.Gained s s' events samples
  error : ∀ {s s' : σ} {e : StoreError}, m.perform s = (.error e, s') → v.Gained s s' 0 0

/-- A store that saves entities apart from events and samples, and a batch of these as a whole or
not at all. -/
structure Atomic [EventStore σ] (v : StoreView σ ε κ) : Prop where
  saveEntities : ∀ {batch : List Entity} {s s' : σ} {answer : Except StoreError (List EntityId)},
    (EventStore.saveEntities batch).perform s = (answer, s') → v.Gained s s' 0 0
  saveEvents : ∀ batch : List Event, v.Whole (EventStore.saveEvents batch) (v.batch batch) 0
  saveCounts : ∀ batch : List CountSample, v.Whole (EventStore.saveCounts batch) 0 (v.series batch)

variable {v : StoreView σ ε κ} {s s' s'' : σ} {E E' : Multiset ε} {S S' : Multiset κ}

@[simp] theorem batch_nil : v.batch [] = 0 := rfl

@[simp] theorem series_nil : v.series [] = 0 := rfl

theorem card_batch (events : List Event) : (v.batch events).card = events.length := by
  simp [batch]

theorem card_series (samples : List CountSample) : (v.series samples).card = samples.length := by
  simp [series]

theorem Gained.refl (v : StoreView σ ε κ) (s : σ) : v.Gained s s 0 0 :=
  ⟨(add_zero _).symm, (add_zero _).symm⟩

theorem Gained.trans (h : v.Gained s s' E S) (h' : v.Gained s' s'' E' S') :
    v.Gained s s'' (E + E') (S + S') := by
  constructor
  · rw [h'.events, h.events, add_assoc]
  · rw [h'.samples, h.samples, add_assoc]

theorem gained_ofLists {events : σ → List ε} {samples : σ → List κ} {event : Event → ε}
    {sample : CountSample → κ} (added : List ε) (taken : List κ)
    (hevents : events s' = events s ++ added) (hsamples : samples s' = samples s ++ taken) :
    (ofLists events samples event sample).Gained s s' ↑added ↑taken := by
  constructor
  · exact congrArg (fun l : List ε => (↑l : Multiset ε)) hevents
  · exact congrArg (fun l : List κ => (↑l : Multiset κ)) hsamples

theorem Whole.unlessEmpty {α : Type} {items : List α} {save : List α → StoreM σ Unit}
    (h : v.Whole (save items) E S) (hempty : items = [] → E = 0 ∧ S = 0) :
    v.Whole (Session.saveUnlessEmpty items save) E S where
  ok {s s'} hsave := by
    rcases Session.saveUnlessEmpty_of_ok hsave with ⟨hnone, rfl⟩ | hstored
    · obtain ⟨rfl, rfl⟩ := hempty hnone
      exact Gained.refl v _
    · exact h.ok hstored
  error {s s' e} hsave := by
    rcases Session.saveUnlessEmpty_cases items save s with ⟨_, hrun⟩ | hrun
    · exact nomatch congrArg Prod.fst (hrun.symm.trans hsave)
    · exact h.error (hrun.symm.trans hsave)

section

variable [EventStore σ]

theorem Atomic.saveEventsUnlessEmpty (hv : v.Atomic) (batch : List Event) :
    v.Whole (Session.saveUnlessEmpty batch EventStore.saveEvents) (v.batch batch) 0 := by
  refine (hv.saveEvents batch).unlessEmpty ?_
  intro hnone
  rw [hnone]
  exact ⟨rfl, rfl⟩

theorem Atomic.saveCountsUnlessEmpty (hv : v.Atomic) (samples : List CountSample) :
    v.Whole (Session.saveUnlessEmpty samples EventStore.saveCounts) 0 (v.series samples) := by
  refine (hv.saveCounts samples).unlessEmpty ?_
  intro hnone
  rw [hnone]
  exact ⟨rfl, rfl⟩

/-- A notification makes a session write no events and no samples. -/
theorem Atomic.handleAmid (hv : v.Atomic) (t : Session) (w : Shared σ) (after : Registry)
    (n : Notification) : v.Gained w.store (t.handleAmid w after n).2.store 0 0 := by
  rcases Session.handleAmid_store t w after n with hstore | ⟨_, _, _, _, _, hsave⟩
  · rw [hstore]
    exact Gained.refl v w.store
  · exact hv.saveEntities hsave

theorem Atomic.take (hv : v.Atomic) (t : Session) (w : Shared σ) (item : Session.Item) :
    v.Gained w.store (t.take w item).2.store 0 0 := by
  cases item with
  | notification n => exact hv.handleAmid t w w.registry n
  | listing l => exact Gained.refl v w.store

/-- A session that holds events or samples, but not both, stores all of it or nothing. -/
theorem Atomic.save (hv : v.Atomic) {t : Session} (h : t.batch = [] ∨ t.counts = []) :
    v.Whole (t.save : StoreM σ Unit) (v.batch t.batch) (v.series t.counts) := by
  rcases h with hevents | hcounts
  · rw [Session.save_of_no_events hevents, hevents]
    exact hv.saveCountsUnlessEmpty t.counts
  · rw [Session.save_of_no_counts hcounts, hcounts]
    exact hv.saveEventsUnlessEmpty t.batch

end

end StoreView

end StorageLifecycle

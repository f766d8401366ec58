import Mathlib.Algebra.BigOperators.Ring.Finset
import StorageLifecycle.Proofs.Crew.AllOrNothing
import StorageLifecycle.Proofs.Crew.Runs

/-!
# The books of a crew

The store that a crew shares gains what its watchings write, and nothing else. A watching writes events
and samples at the turn at which it ends, if at all, and then just what its report says. So the gain of
the store over a run is the sum of what the reports say, one part for each watching.
-/

namespace StorageLifecycle

variable {σ ε κ : Type}

/-- A turn that was had: at which place the watching stands, and what is shared before and after. -/
structure Deed (σ : Type) where
  place : Nat
  stride : Stride σ

/-- The turns of the watching at a place. -/
def stridesAt (i : Nat) (deeds : List (Deed σ)) : List (Stride σ) :=
  (deeds.filter fun d => d.place == i).map (·.stride)

theorem stridesAt_append_self (i : Nat) (ds : List (Deed σ)) (p : Stride σ) :
    stridesAt i (ds ++ [⟨i, p⟩]) = stridesAt i ds ++ [p] := by
  simp [stridesAt]

theorem stridesAt_append_of_ne {i j : Nat} (h : j ≠ i) (ds : List (Deed σ)) (p : Stride σ) :
    stridesAt j (ds ++ [⟨i, p⟩]) = stridesAt j ds := by
  simp [stridesAt, Ne.symm h]

/-- Does what comes to a place fit the kind of the watching there? -/
def Happening.fits (kinds : List ObserverKind) : Happening → Prop
  | .turn i visit => ∀ k ∈ kinds[i]?, visit.fits k
  | .cancel _ => True

instance (kinds : List ObserverKind) (a : Happening) : Decidable (a.fits kinds) := by
  cases a <;> unfold Happening.fits <;> infer_instance

/-- The turns of a run, one after the other. -/
def Crew.journal [EventStore σ] (c : Crew) (w : Shared σ) : List Happening → List (Deed σ)
  | [] => []
  | .turn i visit :: rest =>
    ⟨i, w, (c.attend w i visit).2⟩ :: (c.attend w i visit).1.journal (c.attend w i visit).2 rest
  | .cancel k :: rest => (c.cancel k).journal w rest

namespace StoreView

variable {v : StoreView σ ε κ} {x : Watching} {E : Multiset ε} {S : Multiset κ}

/-- What was written is what a report says: so many events and samples, all of one test case. Only
observers that count write samples. -/
structure Stated (v : StoreView σ ε κ) (k : ObserverKind) (id : TestCaseId) (r : SessionReport)
    (E : Multiset ε) (S : Multiset κ) : Prop where
  observer : r.observer = k
  events : ∃ events, E = v.batch events ∧ events.length = r.eventsPersisted ∧
    ∀ e ∈ events, e.testCase = id
  samples : ∃ samples, S = v.series samples ∧ samples.length = r.countsPersisted ∧
    (∀ c ∈ samples, c.testCase = id) ∧ (k ≠ .count → samples = [])

/-- What a watching has written: nothing before its end, and then what its report says. -/
structure Wrote (v : StoreView σ ε κ) (x : Watching) (E : Multiset ε) (S : Multiset κ) : Prop where
  unended : x.report? = none → x.Sane ∧ E = 0 ∧ S = 0
  ended : ∀ r, x.report? = some r → v.Stated x.kind x.testCase r E S

theorem wrote_of_opening (v : StoreView σ ε κ) (h : x.phase = .opening) : v.Wrote x 0 0 := by
  constructor
  · intro _
    exact ⟨Watching.sane_of_not_live fun s hs => (nomatch h.symm.trans hs), rfl, rfl⟩
  · intro r hr
    exact nomatch h.symm.trans (Watching.report?_eq_some_iff.mp hr)

theorem stated_nothing {k : ObserverKind} {id : TestCaseId} {r : SessionReport}
    (hobserver : r.observer = k) (hevents : r.eventsPersisted = 0) (hcounts : r.countsPersisted = 0) :
    v.Stated k id r 0 0 where
  observer := hobserver
  events := ⟨[], rfl, hevents.symm, fun _ he => nomatch he⟩
  samples := ⟨[], rfl, hcounts.symm, (fun _ hc => nomatch hc), fun _ => rfl⟩

/-- What squares with a report is what the report says. -/
theorem Squares.stated (hx : x.Sane) {w : Shared σ} {r : SessionReport} (h : v.Squares x w E S r)
    (hobserver : r.observer = x.kind) : v.Stated x.kind x.testCase r E S := by
  unfold Squares at h
  split at h
  · obtain ⟨s, hphase, hE, hS, hevents, hcounts, _⟩ := h
    have hproper := hx.proper s hphase
    have hsettled := hproper.settle w (s.lastTries w)
    refine ⟨hobserver, ⟨_, hE, hevents.symm, hsettled.batch⟩, ⟨_, hS, hcounts.symm, hsettled.sampled, ?_⟩⟩
    exact ((hx.unmixed s hphase).settle hproper _).uncounted
  · obtain ⟨s, _, rfl, rfl, _, hevents, hcounts, _⟩ := h
    exact stated_nothing hobserver hevents hcounts
  · obtain ⟨s, _, rfl, rfl, hevents, hcounts, _⟩ := h
    exact stated_nothing hobserver hevents hcounts
  · obtain ⟨_, rfl, rfl, hevents, hcounts, _⟩ := h
    exact stated_nothing hobserver hevents hcounts

variable [EventStore σ]

/-- One turn adds to what a watching has written what the store gains at it. -/
theorem Wrote.attend (hv : v.Atomic) (h : v.Wrote x E S) (t : Tokens) (w : Shared σ) {visit : Visit}
    (hfits : visit.fits x.kind) :
    ∃ gained sampled, v.Gained w.store (x.attend t w visit).2.store gained sampled ∧
      v.Wrote (x.attend t w visit).1 (E + gained) (S + sampled) := by
  obtain ⟨hkind, hcase⟩ := Watching.attend_static x t w visit
  cases hbefore : x.report? with
  | some r =>
      obtain ⟨hx, hw⟩ :=
        Watching.attend_of_ended (Watching.report?_eq_some_iff.mp hbefore) t w visit
      rw [hx, hw]
      refine ⟨0, 0, Gained.refl v w.store, ?_⟩
      rw [add_zero, add_zero]
      exact h
  | none =>
      obtain ⟨hsane, rfl, rfl⟩ := h.unended hbefore
      cases hafter : (x.attend t w visit).1.report? with
      | none =>
          refine ⟨0, 0, hv.attend hafter, ?_, ?_⟩
          · exact fun _ => ⟨hsane.attend t w hfits, add_zero 0, add_zero 0⟩
          · exact fun r hr => nomatch hafter.symm.trans hr
      | some r =>
          obtain ⟨gained, sampled, hgained, hsquares⟩ := hv.squares hsane hbefore hafter
          have hobserver := Watching.observer_of_attend hsane hbefore hafter
          refine ⟨gained, sampled, hgained, ?_, ?_⟩
          · exact fun hnone => nomatch hafter.symm.trans hnone
          · intro r' hr'
            cases hafter.symm.trans hr'
            rw [zero_add, zero_add, hkind, hcase]
            exact hsquares.stated hsane hobserver

end StoreView

namespace Crew

variable {v : StoreView σ ε κ} {before : σ} {deeds : List (Deed σ)} {c : Crew} {w : Shared σ}
  {E : Nat → Multiset ε} {S : Nat → Multiset κ}

/-- The books of a crew: what the watching at each place has written, and the store has gained all of
this since the beginning. -/
structure Booked (v : StoreView σ ε κ) (before : σ) (deeds : List (Deed σ)) (c : Crew) (w : Shared σ)
    (E : Nat → Multiset ε) (S : Nat → Multiset κ) : Prop where
  total : v.Gained before w.store (∑ i ∈ Finset.range c.watchings.length, E i)
    (∑ i ∈ Finset.range c.watchings.length, S i)
  wrote : ∀ i x, c.watchings[i]? = some x → v.Wrote x (E i) (S i)
  gains : ∀ i, v.Gains (stridesAt i deeds) (E i) (S i)

theorem booked_of_opening (v : StoreView σ ε κ) (w : Shared σ)
    (h : ∀ x ∈ c.watchings, x.phase = .opening) :
    c.Booked v w.store [] w (fun _ => 0) (fun _ => 0) where
  total := by
    rw [Finset.sum_const_zero, Finset.sum_const_zero]
    exact StoreView.Gained.refl v w.store
  wrote i x hx := StoreView.wrote_of_opening v (h x (List.mem_of_getElem? hx))
  gains i := .nil

/-- Tokens have no part in the books. -/
theorem Booked.congr (h : c.Booked v before deeds w E S) {c' : Crew}
    (hsame : c'.watchings = c.watchings) : c'.Booked v before deeds w E S := by
  refine ⟨?_, ?_, h.gains⟩
  · rw [hsame]
    exact h.total
  · rw [hsame]
    exact h.wrote

/-- A part for one place, among parts for all places. -/
def only {α : Type} [Zero α] (i : Nat) (a : α) (j : Nat) : α := if j = i then a else 0

/-- The turn of one watching adds to its own part. -/
theorem Booked.add (h : c.Booked v before deeds w E S) {w' : Shared σ} {i : Nat} {x x' : Watching}
    (hx : c.watchings[i]? = some x) {gained : Multiset ε} {sampled : Multiset κ}
    (hgained : v.Gained w.store w'.store gained sampled)
    (hwrote : v.Wrote x' (E i + gained) (S i + sampled)) :
    Booked v before (deeds ++ [⟨i, w, w'⟩]) { c with watchings := c.watchings.set i x' } w'
      (fun j => E j + only i gained j) (fun j => S j + only i sampled j) := by
  obtain ⟨hi, _⟩ := List.getElem?_eq_some_iff.mp hx
  have hin : i ∈ Finset.range c.watchings.length := Finset.mem_range.mpr hi
  constructor
  · have hsum := h.total.trans hgained
    simp only [List.length_set, Finset.sum_add_distrib, only, Finset.sum_ite_eq', if_pos hin]
    exact hsum
  · intro j y hy
    by_cases hj : j = i
    · subst hj
      rw [List.getElem?_set_self hi] at hy
      cases hy
      simp only [only, if_pos]
      exact hwrote
    · rw [List.getElem?_set_ne (Ne.symm hj)] at hy
      simp only [only, if_neg hj, add_zero]
      exact h.wrote j y hy
  · intro j
    by_cases hj : j = i
    · subst hj
      rw [stridesAt_append_self]
      simp only [only, if_pos]
      exact (h.gains j).append hgained.gains
    · rw [stridesAt_append_of_ne hj]
      simp only [only, if_neg hj, add_zero]
      exact h.gains j

/-- Nobody stands at the place of this turn. -/
theorem Booked.pass (h : c.Booked v before deeds w E S) (i : Nat) :
    c.Booked v before (deeds ++ [⟨i, w, w⟩]) w E S where
  total := h.total
  wrote := h.wrote
  gains j := by
    by_cases hj : j = i
    · subst hj
      have hgains := (h.gains j).append (StoreView.Gained.refl v w.store).gains
      rw [add_zero, add_zero] at hgains
      rw [stridesAt_append_self]
      exact hgains
    · rw [stridesAt_append_of_ne hj]
      exact h.gains j

variable [EventStore σ]

/-- Kinds and test cases of the watchings stay. -/
theorem attend_static (c : Crew) (w : Shared σ) (i : Nat) (visit : Visit) :
    (c.attend w i visit).1.watchings.map (fun x => (x.kind, x.testCase)) =
      c.watchings.map fun x => (x.kind, x.testCase) := by
  refine attend_map (fun x t w visit => ?_) c w i visit
  obtain ⟨hkind, hcase⟩ := Watching.attend_static x t w visit
  rw [hkind, hcase]

theorem proceed_static (c : Crew) (w : Shared σ) (as : List Happening) :
    (c.proceed w as).1.watchings.map (fun x => (x.kind, x.testCase)) =
      c.watchings.map fun x => (x.kind, x.testCase) := by
  induction as generalizing c w with
  | nil => rfl
  | cons a rest ih =>
      cases a with
      | cancel k => exact ih _ _
      | turn i visit => exact (ih _ _).trans (attend_static c w i visit)

/-- The books of a crew stay in order over a turn. -/
theorem Booked.attend (hv : v.Atomic) (h : c.Booked v before deeds w E S) {i : Nat} {visit : Visit}
    (hfits : (Happening.turn i visit).fits (c.watchings.map (·.kind))) :
    ∃ E' S', (c.attend w i visit).1.Booked v before (deeds ++ [⟨i, w, (c.attend w i visit).2⟩])
      (c.attend w i visit).2 E' S' := by
  rcases attend_cases c w i visit with ⟨_, heq⟩ | ⟨x, hx, heq⟩
  · rw [heq]
    exact ⟨E, S, h.pass i⟩
  · have hvisit : visit.fits x.kind := by
      apply hfits
      rw [List.getElem?_map, hx]
      exact Option.mem_some_self _
    obtain ⟨gained, sampled, hgained, hwrote⟩ := (h.wrote i x hx).attend hv c.tokens w hvisit
    rw [heq]
    exact ⟨_, _, h.add hx hgained hwrote⟩

theorem Booked.proceed (hv : v.Atomic) (h : c.Booked v before deeds w E S) {as : List Happening}
    (hfits : ∀ a ∈ as, a.fits (c.watchings.map (·.kind))) :
    ∃ E' S', (c.proceed w as).1.Booked v before (deeds ++ c.journal w as) (c.proceed w as).2 E' S' := by
  induction as generalizing c w deeds E S with
  | nil =>
      refine ⟨E, S, ?_⟩
      rw [journal, List.append_nil]
      exact h
  | cons a rest ih =>
      cases a with
      | cancel k =>
          exact ih (h.congr rfl) fun b hb => hfits b (List.mem_cons_of_mem _ hb)
      | turn i visit =>
          obtain ⟨E', S', hone⟩ := h.attend hv (hfits _ List.mem_cons_self)
          rw [journal, List.append_cons]
          apply ih hone
          have hkinds := congrArg (List.map Prod.fst) (attend_static c w i visit)
          rw [List.map_map, List.map_map] at hkinds
          exact fun b hb => hkinds ▸ hfits b (List.mem_cons_of_mem _ hb)

end Crew

end StorageLifecycle

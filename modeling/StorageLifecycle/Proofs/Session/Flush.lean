import StorageLifecycle.Proofs.Session.Clamp
import StorageLifecycle.Proofs.Session.Outputs
import StorageLifecycle.Proofs.Store.Basic

/-!
# What a session stores at its end

At its end a session tries its parked attachments once more. Those whose claim is in the registry
by then have their events moved behind the recorded ones, and the buffer is sorted. Since firings
are in the order of their moments already, sorting does not touch the order of those of one name.
-/

namespace StorageLifecycle

/-- Two lists of which the parts for each name agree are the same up to their order. -/
theorem perm_of_filter_eq {α : Type} [DecidableEq α] (nameOf : α → String) {xs ys : List α}
    (h : ∀ name, xs.filter (fun a => nameOf a == name) = ys.filter fun a => nameOf a == name) :
    xs.Perm ys := by
  refine List.perm_iff_count.mpr fun a => ?_
  have hcount : ∀ l : List α, (l.filter fun b => nameOf b == nameOf a).count a = l.count a :=
    fun _ => List.count_filter (beq_self_eq_true (nameOf a))
  rw [← hcount xs, ← hcount ys, h]

namespace Firing

theorem count_on (f : Firing) (fs : List Firing) : (on f.resource fs).count f = fs.count f :=
  List.count_filter (beq_self_eq_true f.resource)

/-- Firings that agree for each name are the same up to their order. -/
theorem perm_of_on_eq {fs gs : List Firing} (h : ∀ name, on name fs = on name gs) :
    fs.Perm gs :=
  perm_of_filter_eq Firing.resource h

end Firing

namespace Session

variable {σ : Type} {s : Session} {w : Shared σ}

/-! ## Sorting -/

theorem inOrder_perm (buffer : List Recorded) : (inOrder buffer).Perm buffer :=
  List.mergeSort_perm _ _

theorem timestamp_le_trans (a b c : Recorded)
    (hab : decide (a.event.timestamp ≤ b.event.timestamp) = true)
    (hbc : decide (b.event.timestamp ≤ c.event.timestamp) = true) :
    decide (a.event.timestamp ≤ c.event.timestamp) = true :=
  decide_eq_true (Int.le_trans (of_decide_eq_true hab) (of_decide_eq_true hbc))

theorem timestamp_le_total (a b : Recorded) :
    (decide (a.event.timestamp ≤ b.event.timestamp) ||
      decide (b.event.timestamp ≤ a.event.timestamp)) = true := by
  rw [Bool.or_eq_true, decide_eq_true_eq, decide_eq_true_eq]
  exact Int.le_total _ _

theorem inOrder_sorted (buffer : List Recorded) :
    (inOrder buffer).Pairwise fun a b => a.event.timestamp ≤ b.event.timestamp :=
  (List.pairwise_mergeSort timestamp_le_trans timestamp_le_total buffer).imp of_decide_eq_true

/-- A part of the buffer that is in order already stays as it is. -/
theorem filter_inOrder {buffer : List Recorded} {p : Recorded → Bool}
    (h : (buffer.filter p).Pairwise fun a b => a.event.timestamp ≤ b.event.timestamp) :
    (inOrder buffer).filter p = buffer.filter p := by
  -- Sorting is stable, so the part comes out as a sublist, and nothing else of the part is there.
  have hsub : (buffer.filter p).Sublist (inOrder buffer) :=
    List.sublist_mergeSort timestamp_le_trans timestamp_le_total
      (h.imp fun hle => decide_eq_true hle) List.filter_sublist
  have hsub' : (buffer.filter p).Sublist ((inOrder buffer).filter p) := by
    have hfilter := hsub.filter p
    rw [List.filter_filter] at hfilter
    simpa using hfilter
  exact (hsub'.eq_of_length ((inOrder_perm buffer).filter p).length_eq.symm).symm

/-- The recorded events for a name. -/
def bufferOn (s : Session) (name : String) : List Recorded :=
  s.buffer.filter fun r => r.resource == name

theorem recordedOn_eq (name : String) :
    s.recordedOn name = (s.bufferOn name).map Recorded.firing := by
  unfold recordedOn recorded Firing.on bufferOn
  rw [List.filter_map]
  rfl

/-- The recorded events for a name are in the order of their timestamps all along. -/
theorem Kept.bufferOn_sorted (h : s.Kept) (hc : s.Clamped) (name : String) :
    (s.bufferOn name).Pairwise fun a b => a.event.timestamp ≤ b.event.timestamp := by
  have hfired : (s.firedOn name).Pairwise fun f g => f.moment ≤ g.moment :=
    hc.ordered.sublist List.filter_sublist
  rw [h.split name, recordedOn_eq] at hfired
  exact List.pairwise_map.mp (List.pairwise_append.mp hfired).1 |>.imp fun hle => hle

/-! ## Trying all parked attachments once more -/

/-- Does a parked attachment stay parked through these tries? -/
def stays (tries : List (String × Registry)) (p : String × Parked) : Bool :=
  tries.all fun t => !(t.1 == p.1 && (t.2.lookup p.2.volume).isSome)

theorem tryResolve_entries (h : s.parked.Lawful) (name : String) (registry : Registry) :
    (s.tryResolve w registry name).1.parked.entries =
      s.parked.entries.filter (stays [(name, registry)]) := by
  have hfind : ∀ p ∈ s.parked.entries, p.1 = name → s.parked.find? name = some p.2 := by
    rintro ⟨q, parked⟩ hp rfl
    exact (Keyed.find?_eq_some_iff h).mpr hp
  rcases tryResolve_cases (s := s) (w := w) registry name with
    ⟨heq, hnone⟩ | ⟨p, claim, added, hp, hclaim, heq, _⟩
  · rw [heq]
    refine (List.filter_eq_self.mpr fun q hq => ?_).symm
    by_cases hname : q.1 = name
    · simp [stays, hnone q.2 (hfind q hq hname)]
    · simp [stays, Ne.symm hname]
  · rw [heq]
    refine List.filter_congr fun q hq => ?_
    by_cases hname : q.1 = name
    · have hvolume : q.2 = p := Option.some.inj ((hfind q hq hname).symm.trans hp)
      simp [stays, hname, hvolume, hclaim]
    · have hbeq : (name == q.1) = false := beq_eq_false_iff_ne.mpr (Ne.symm hname)
      simp [stays, hname, hbeq]

/-- What trying again does: some parked events move behind the recorded ones, and nothing else
changes. -/
theorem resolveAll_spec (h : s.Kept) (tries : List (String × Registry)) :
    let s' := (s.resolveAll w tries).1
    s'.Kept ∧ s'.guard = s.guard ∧ (∃ added, s'.buffer = s.buffer ++ added) ∧
      s'.parked.entries = s.parked.entries.filter (stays tries) ∧ s'.counts = s.counts := by
  induction tries generalizing s w with
  | nil => exact ⟨h, rfl, ⟨[], (List.append_nil _).symm⟩,
      (List.filter_eq_self.mpr fun _ _ => rfl).symm, rfl⟩
  | cons t rest ih =>
      obtain ⟨name, registry⟩ := t
      have hone : (s.tryResolve w registry name).1.Kept := steady_kept.retry w name h trivial
      obtain ⟨hkept, hguard, ⟨more, hmore⟩, hentries, hcounts⟩ :=
        ih (w := (s.tryResolve w registry name).2) hone
      have hbuffer : (∃ added, (s.tryResolve w registry name).1.buffer = s.buffer ++ added) ∧
          (s.tryResolve w registry name).1.counts = s.counts := by
        rcases tryResolve_cases (s := s) (w := w) registry name with
          ⟨heq, _⟩ | ⟨_, _, added, _, _, heq, _⟩
        · rw [heq]
          exact ⟨⟨[], (List.append_nil _).symm⟩, rfl⟩
        · rw [heq]
          exact ⟨⟨added, rfl⟩, rfl⟩
      obtain ⟨⟨added, hadded⟩, hcounts'⟩ := hbuffer
      refine ⟨hkept, hguard.trans (guard_tryResolve _ _), ⟨added ++ more, ?_⟩, ?_,
        hcounts.trans hcounts'⟩
      · rw [← List.append_assoc, ← hadded]
        exact hmore
      · refine hentries.trans ?_
        rw [tryResolve_entries h.lawful, List.filter_filter]
        refine List.filter_congr fun q _ => ?_
        simp only [stays, List.all_cons, List.all_nil, Bool.and_true]
        exact Bool.and_comm _ _

theorem resolveAll_store (tries : List (String × Registry)) :
    (s.resolveAll w tries).2.store = w.store := by
  induction tries generalizing s w with
  | nil => rfl
  | cons t rest ih => exact ih.trans (tryResolve_store _ _)

theorem resolveAll_registry (tries : List (String × Registry)) :
    (s.resolveAll w tries).2.registry = w.registry := by
  induction tries generalizing s w with
  | nil => rfl
  | cons t rest ih => exact ih.trans (tryResolve_registry _ _)

/-- What each step keeps is kept while parked attachments are tried again. -/
theorem Steady.resolveAll {seen : Registry → Prop} {got : Notification → Prop} {P : Session → Prop}
    (hP : Steady seen got P) (h : P s) {tries : List (String × Registry)}
    (hseen : ∀ t ∈ tries, seen t.2) : P (s.resolveAll w tries).1 := by
  induction tries generalizing s w with
  | nil => exact h
  | cons t rest ih =>
      apply ih
      · exact hP.retry w t.1 h (hseen t List.mem_cons_self)
      · exact fun t' ht' => hseen t' (List.mem_cons_of_mem _ ht')

theorem settle_registry (tries : List (String × Registry)) :
    (s.settle w tries).2.registry = w.registry := resolveAll_registry tries

theorem settle_store (tries : List (String × Registry)) :
    (s.settle w tries).2.store = w.store := resolveAll_store tries

/-- What a session is before it stores what it holds, compared with what it was. -/
theorem settle_spec (h : s.Kept) (hc : s.Clamped) (tries : List (String × Registry)) :
    let s' := (s.settle w tries).1
    s'.Kept ∧ s'.guard = s.guard ∧ (∃ added, s'.buffer = inOrder (s.buffer ++ added)) ∧
      s'.parked.entries = s.parked.entries.filter (stays tries) ∧ s'.counts = s.counts := by
  obtain ⟨hkept, hguard, ⟨added, hadded⟩, hentries, hcounts⟩ := resolveAll_spec (w := w) h tries
  have hclamped : (s.resolveAll w tries).1.Clamped := hc.congr hguard
  refine ⟨⟨hkept.lawful, hkept.own, fun name => ?_, hkept.nonempty⟩, hguard, ⟨added, ?_⟩, hentries,
    hcounts⟩
  -- Sorting changes the order of the buffer, but not that of the events of one name.
  · have hsame : (s.settle w tries).1.recordedOn name =
        (s.resolveAll w tries).1.recordedOn name := by
      rw [recordedOn_eq, recordedOn_eq]
      exact congrArg (List.map Recorded.firing)
        (filter_inOrder (hkept.bufferOn_sorted hclamped name))
    rw [hsame]
    exact hkept.split name
  · rw [← hadded]
    rfl

/-- A buffer that is in order already stays as it is. -/
theorem settle_of_sorted {tries : List (String × Registry)}
    (h : (s.retry w tries).1.buffer.Pairwise fun a b => a.event.timestamp ≤ b.event.timestamp) :
    s.settle w tries = s.retry w tries := by
  have hsame : inOrder (s.retry w tries).1.buffer = (s.retry w tries).1.buffer :=
    List.mergeSort_of_pairwise (h.imp fun hle => decide_eq_true hle)
  show ({ (s.retry w tries).1 with buffer := inOrder (s.retry w tries).1.buffer }, _) = _
  rw [hsame]
  rfl

/-! ## Storing -/

theorem saveUnlessEmpty_cases {α : Type} (items : List α) (save : List α → StoreM σ Unit)
    (before : σ) :
    (items = [] ∧ (saveUnlessEmpty items save).perform before = (.ok (), before)) ∨
      (saveUnlessEmpty items save).perform before = (save items).perform before := by
  unfold saveUnlessEmpty
  split
  · rename_i hempty
    exact Or.inl ⟨List.isEmpty_iff.mp hempty, rfl⟩
  · exact Or.inr rfl

theorem save_of_no_events [EventStore σ] (h : s.batch = []) :
    s.save = (saveUnlessEmpty s.counts EventStore.saveCounts : StoreM σ Unit) := by
  unfold save
  rw [h]
  rfl

theorem save_of_no_counts [EventStore σ] (h : s.counts = []) :
    s.save = (saveUnlessEmpty s.batch EventStore.saveEvents : StoreM σ Unit) := by
  unfold save
  rw [h]
  exact bind_pure_unit

/-- What holds of a store, and still holds when the events of a session are saved and then its samples,
holds when the session is saved. -/
theorem save_keeps [EventStore σ] {R : σ → Prop} {before after : σ} {answer : Except StoreError Unit}
    (h : s.save.perform before = (answer, after)) (hbefore : R before)
    (hevents : ∀ {answer : Except StoreError Unit} {store : σ},
      (EventStore.saveEvents s.batch).perform before = (answer, store) → R store)
    (hcounts : ∀ {answer : Except StoreError Unit} {between store : σ}, R between →
      (EventStore.saveCounts s.counts).perform between = (answer, store) → R store) : R after := by
  have hfirst : ∀ {answer : Except StoreError Unit} {store : σ},
      (saveUnlessEmpty s.batch EventStore.saveEvents).perform before = (answer, store) →
      R store := by
    intro answer store hrun
    rcases saveUnlessEmpty_cases s.batch EventStore.saveEvents before with ⟨_, heq⟩ | heq
    · cases heq.symm.trans hrun
      exact hbefore
    · exact hevents (heq.symm.trans hrun)
  rcases StoreM.perform_bind_cases h with ⟨e, hrun, _⟩ | ⟨u, between, hrun, hrest⟩
  · exact hfirst hrun
  · rcases saveUnlessEmpty_cases s.counts EventStore.saveCounts between with ⟨_, heq⟩ | heq
    · cases heq.symm.trans hrest
      exact hfirst hrun
    · exact hcounts (hfirst hrun) (heq.symm.trans hrest)

/-- A successful flush stores the events as one batch, if there are any, and then the samples. -/
theorem save_of_ok [EventStore σ] {before after : σ} (h : s.save.perform before = (.ok (), after)) :
    ∃ between,
      (saveUnlessEmpty s.batch EventStore.saveEvents).perform before = (.ok (), between) ∧
      (saveUnlessEmpty s.counts EventStore.saveCounts).perform between = (.ok (), after) :=
  let ⟨(), between, hevents, hcounts⟩ := StoreM.perform_bind_of_ok h
  ⟨between, hevents, hcounts⟩

/-- A flush fails with the events, or with the samples once the events are stored. -/
theorem save_of_error [EventStore σ] {before after : σ} {e : StoreError}
    (h : s.save.perform before = (.error e, after)) :
    (EventStore.saveEvents s.batch).perform before = (.error e, after) ∨
      ∃ between,
        (saveUnlessEmpty s.batch EventStore.saveEvents).perform before = (.ok (), between) ∧
        (EventStore.saveCounts s.counts).perform between = (.error e, after) := by
  rcases StoreM.perform_bind_cases h with ⟨e', hrun, he⟩ | ⟨u, between, hrun, hrest⟩
  · cases he
    rcases saveUnlessEmpty_cases s.batch EventStore.saveEvents before with ⟨_, heq⟩ | heq
    · exact nomatch congrArg Prod.fst (heq.symm.trans hrun)
    · exact Or.inl (heq.symm.trans hrun)
  · rcases saveUnlessEmpty_cases s.counts EventStore.saveCounts between with ⟨_, heq⟩ | heq
    · exact nomatch congrArg Prod.fst (heq.symm.trans hrest)
    · exact Or.inr ⟨between, hrun, heq.symm.trans hrest⟩

/-- What a session holds is stored in one go, and all else stays as it is. -/
theorem persist_eq [EventStore σ] (s : Session) (w : Shared σ) :
    (s.persist w).1 = (s.save.perform w.store).1 ∧ (s.persist w).2.1 = s ∧
      (s.persist w).2.2.store = (s.save.perform w.store).2 ∧
      (s.persist w).2.2.registry = w.registry ∧ (s.persist w).2.2.supply = w.supply := by
  unfold persist
  cases s.save.perform w.store with
  | mk answer store => cases answer <;> exact ⟨rfl, rfl, rfl, rfl, rfl⟩

/-- A flush leaves the session as it was settled, and answers what storing it answers. -/
theorem flushTrying_eq [EventStore σ] (tries : List (String × Registry)) :
    let settled := s.settle w tries
    (s.flushTrying w tries).1 = (settled.1.save.perform w.store).1 ∧
      (s.flushTrying w tries).2.1 = settled.1 ∧
      (s.flushTrying w tries).2.2.store = (settled.1.save.perform w.store).2 ∧
      (s.flushTrying w tries).2.2.registry = settled.2.registry := by
  intro settled
  have hstore : settled.2.store = w.store := settle_store tries
  obtain ⟨hanswer, hsession, hafter, hregistry, _⟩ := persist_eq settled.1 settled.2
  rw [hstore] at hanswer hafter
  exact ⟨hanswer, hsession, hafter, hregistry⟩

/-- If the events are in order already, the session is stored as it is when its attachments were tried. -/
theorem flushTrying_of_sorted [EventStore σ] {tries : List (String × Registry)}
    (h : (s.retry w tries).1.buffer.Pairwise fun a b => a.event.timestamp ≤ b.event.timestamp) :
    s.flushTrying w tries = (s.retry w tries).1.persist (s.retry w tries).2 := by
  unfold flushTrying
  rw [settle_of_sorted h]

theorem saveUnlessEmpty_of_ok {α : Type} {items : List α} {save : List α → StoreM σ Unit}
    {before after : σ} (h : (saveUnlessEmpty items save).perform before = (.ok (), after)) :
    (items = [] ∧ after = before) ∨ (save items).perform before = (.ok (), after) := by
  rcases saveUnlessEmpty_cases items save before with ⟨hempty, hrun⟩ | hrun
  · rw [hrun] at h
    exact Or.inl ⟨hempty, (congrArg Prod.snd h).symm⟩
  · exact Or.inr (hrun.symm.trans h)

/-! ## The last report -/

theorem flush_eq [EventStore σ] : s.flush w = s.flushTrying w (s.lastTries w) := rfl

/-- All parked attachments are tried, and no others. -/
theorem mem_lastTries {t : String × Registry} :
    t ∈ s.lastTries w ↔ t.1 ∈ s.parked.keys ∧ t.2 = w.registry := by
  rw [lastTries, List.mem_map]
  constructor
  · rintro ⟨name, hname, rfl⟩
    exact ⟨(w.supply.arrange_perm _).mem_iff.mp hname, rfl⟩
  · rintro ⟨hname, hregistry⟩
    exact ⟨t.1, (w.supply.arrange_perm _).mem_iff.mpr hname, Prod.ext rfl hregistry.symm⟩

theorem stays_lastTries {p : String × Parked} (h : p ∈ s.parked.entries) :
    stays (s.lastTries w) p = (w.registry.lookup p.2.volume).isNone := by
  have hkey : p.1 ∈ s.parked.keys := List.mem_map_of_mem h
  rw [Bool.eq_iff_iff, stays, List.all_eq_true]
  constructor
  · intro hall
    simpa using hall (p.1, w.registry) (mem_lastTries.mpr ⟨hkey, rfl⟩)
  · intro hnone t ht
    rw [(mem_lastTries.mp ht).2]
    simp [Option.isNone_iff_eq_none.mp hnone]

theorem finish_stop_eq [EventStore σ] : s.finish .stop w = s.concluded (s.flush w) := rfl

/-- If the events are in order already when the attachments were tried, nothing is sorted at the end. -/
theorem finish_of_sorted [EventStore σ]
    (h : (s.retry w (s.lastTries w)).1.buffer.Pairwise fun a b =>
      a.event.timestamp ≤ b.event.timestamp) :
    s.finish .stop w =
      s.concluded ((s.retry w (s.lastTries w)).1.persist (s.retry w (s.lastTries w)).2) := by
  rw [finish_stop_eq, flush_eq, flushTrying_of_sorted h]

/-- A session that ends cleanly has stored what it holds, and reports about it. -/
theorem finish_of_clean [EventStore σ] (h : (s.finish .stop w).1.isClean = true) :
    (s.flush w).1 = .ok () ∧ (s.finish .stop w).2 = (s.flush w).2 ∧
      (s.finish .stop w).1 = { s.report .shutdown with
        eventsPersisted := (s.flush w).2.1.buffer.length
        countsPersisted := (s.flush w).2.1.counts.length
        unresolved := (s.flush w).2.1.unresolved } := by
  rw [finish_stop_eq] at h ⊢
  generalize s.flush w = flushed at h ⊢
  obtain ⟨answer, s', w'⟩ := flushed
  cases answer with
  | error e => exact nomatch h
  | ok u => exact ⟨rfl, rfl, rfl⟩

/-- A session that is asked to stop is left as it was settled. It reports what it stored then, or why
the store refused it. -/
theorem finish_stop_cases [EventStore σ] (s : Session) (w : Shared σ) :
    let settled := (s.settle w (s.lastTries w)).1
    let left := s.finish .stop w
    left.2.1 = settled ∧ left.2.2.registry = w.registry ∧
      ((settled.save.perform w.store = (.ok (), left.2.2.store) ∧
          left.1 = { s.report .shutdown with
            eventsPersisted := settled.buffer.length
            countsPersisted := settled.counts.length
            unresolved := settled.unresolved }) ∨
        ∃ e, settled.save.perform w.store = (.error e, left.2.2.store) ∧
          left.1 = s.report (.flushFailed e.message)) := by
  intro settled left
  obtain ⟨hanswer, hsession, hstore, hregistry⟩ :=
    flushTrying_eq (s := s) (w := w) (s.lastTries w)
  rw [← flush_eq] at hanswer hsession hstore hregistry
  have hsave : settled.save.perform w.store = ((s.flush w).1, (s.flush w).2.2.store) :=
    Prod.ext hanswer.symm hstore.symm
  rw [hsave]
  replace hregistry := hregistry.trans (settle_registry _)
  show (s.finish .stop w).2.1 = settled ∧ (s.finish .stop w).2.2.registry = w.registry ∧ _
  unfold left
  rw [finish_stop_eq]
  generalize s.flush w = flushed at hsession hregistry ⊢
  obtain ⟨answer, s', w'⟩ := flushed
  obtain rfl : s' = settled := hsession
  cases answer with
  | ok u => exact ⟨rfl, hregistry, Or.inl ⟨rfl, rfl⟩⟩
  | error e => exact ⟨rfl, hregistry, Or.inr ⟨e, rfl, rfl⟩⟩

/-- A session that watches no attachments only sorts its buffer before it stores it. -/
theorem settle_of_unparked (h : s.parked = .empty) :
    (s.settle w (s.lastTries w)).1 = { s with buffer := inOrder s.buffer } := by
  have hnone : s.lastTries w = [] := by
    rw [lastTries, h, List.map_eq_nil_iff]
    exact (w.supply.arrange_perm []).eq_nil
  rw [hnone]
  rfl

end Session

end StorageLifecycle

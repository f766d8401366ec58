import StorageLifecycle.Proofs.Observation.Stores
import StorageLifecycle.Proofs.Observation.Whole

/-!
# The accounts of an observation

Whatever the turns of the four watchings bring, and in whichever order they come, the outcome of an
observation, the reports of its sessions and its metrics agree with each other and with the store.
-/

namespace StorageLifecycle

variable {σ ε κ : Type}

/-! ## The four sessions -/

theorem ObserverKind.name_injective : Function.Injective ObserverKind.name := by
  intro k k' h
  cases k <;> cases k' <;> first | rfl | exact absurd h (by decide)

/-- Each kind has one place. -/
theorem ObserverKind.all_place {k : ObserverKind} {i j : Nat} (hi : all[i]? = some k)
    (hj : all[j]? = some k) : i = j := by
  have hlt : i < all.length := (List.getElem?_eq_some_iff.mp hi).1
  exact (List.getElem?_inj hlt (by decide)).mp (hi.trans hj.symm)

theorem four_of_length {α : Type} {l : List α} (h : l.length = 4) : ∃ a b c d, l = [a, b, c, d] :=
  match l, h with
  | [a, b, c, d], _ => ⟨a, b, c, d, rfl⟩

namespace RunReport

variable {r : RunReport}

theorem eventsPersisted_eq_sum (r : RunReport) :
    r.eventsPersisted = (r.sessions.map (·.eventsPersisted)).sum := by
  rw [eventsPersisted, List.sum_eq_foldl, List.foldl_map]

theorem eventsPersisted_of_perm {sessions : List SessionReport} (h : r.sessions.Perm sessions) :
    r.eventsPersisted = (sessions.map (·.eventsPersisted)).sum := by
  rw [eventsPersisted_eq_sum]
  exact (h.map _).sum_eq

/-- A report is clean if all of its sessions are, and none was lost. -/
theorem isClean_iff (h : r.failedTasks = 0) :
    r.isClean = true ↔ ∀ s ∈ r.sessions, s.ending = .shutdown := by
  simp [isClean, h, SessionReport.isClean]

/-- The only session of a kind is found under its name. -/
theorem session?_of_mem {s : SessionReport} (hs : s ∈ r.sessions)
    (honly : ∀ s' ∈ r.sessions, s'.observer = s.observer → s' = s) :
    r.session? s.observer.name = some s := by
  apply find?_of_unique hs (beq_self_eq_true s.observer.name)
  intro s' hs' hname
  exact honly s' hs' (ObserverKind.name_injective (eq_of_beq hname))

end RunReport

namespace StoreView

variable {v : StoreView σ ε κ} {k : ObserverKind} {id : TestCaseId} {r : SessionReport}

theorem Stated.card_events {E : Multiset ε} {S : Multiset κ} (h : v.Stated k id r E S) :
    E.card = r.eventsPersisted := by
  obtain ⟨events, rfl, hlength, _⟩ := h.events
  rw [card_batch, hlength]

theorem Stated.card_samples {E : Multiset ε} {S : Multiset κ} (h : v.Stated k id r E S) :
    S.card = r.countsPersisted := by
  obtain ⟨samples, rfl, hlength, _⟩ := h.samples
  rw [card_series, hlength]

theorem Stated.no_samples {E : Multiset ε} {S : Multiset κ} (h : v.Stated k id r E S)
    (hk : k ≠ .count) : S = 0 := by
  obtain ⟨samples, rfl, _, _, hnone⟩ := h.samples
  rw [hnone hk]
  rfl

/-- Four reports, one of each kind in their order, that say what was written at their places. -/
structure Told (v : StoreView σ ε κ) (id : TestCaseId) (reports : List SessionReport)
    (E : Nat → Multiset ε) (S : Nat → Multiset κ) : Prop where
  length : reports.length = 4
  stated : ∀ i k, ObserverKind.all[i]? = some k →
    ∃ r, reports[i]? = some r ∧ v.Stated k id r (E i) (S i)

variable {reports : List SessionReport} {E : Nat → Multiset ε} {S : Nat → Multiset κ}

theorem Told.four (h : v.Told id reports E S) : ∃ r₀ r₁ r₂ r₃, reports = [r₀, r₁, r₂, r₃] ∧
    v.Stated .claim id r₀ (E 0) (S 0) ∧ v.Stated .pod id r₁ (E 1) (S 1) ∧
    v.Stated .attachment id r₂ (E 2) (S 2) ∧ v.Stated .count id r₃ (E 3) (S 3) := by
  obtain ⟨r₀, r₁, r₂, r₃, rfl⟩ := four_of_length h.length
  obtain ⟨_, hat₀, h₀⟩ := h.stated 0 .claim rfl
  obtain ⟨_, hat₁, h₁⟩ := h.stated 1 .pod rfl
  obtain ⟨_, hat₂, h₂⟩ := h.stated 2 .attachment rfl
  obtain ⟨_, hat₃, h₃⟩ := h.stated 3 .count rfl
  cases hat₀
  cases hat₁
  cases hat₂
  cases hat₃
  exact ⟨r₀, r₁, r₂, r₃, rfl, h₀, h₁, h₂, h₃⟩

theorem Told.kinds (h : v.Told id reports E S) : reports.map (·.observer) = ObserverKind.all := by
  obtain ⟨r₀, r₁, r₂, r₃, rfl, h₀, h₁, h₂, h₃⟩ := h.four
  simp [h₀.observer, h₁.observer, h₂.observer, h₃.observer, ObserverKind.all]

/-- A report says what was written at the place of its kind. -/
theorem Told.of_mem (h : v.Told id reports E S) {r : SessionReport} (hr : r ∈ reports) {i : Nat}
    (hi : ObserverKind.all[i]? = some r.observer) : v.Stated r.observer id r (E i) (S i) := by
  obtain ⟨r', hr', hstated⟩ := h.stated i r.observer hi
  obtain ⟨j, hj⟩ := List.mem_iff_getElem?.mp hr
  have hkind : ObserverKind.all[j]? = some r.observer := by
    rw [← h.kinds, List.getElem?_map, hj]
    rfl
  have hsame : i = j := ObserverKind.all_place hi hkind
  rw [hsame, hj] at hr'
  cases hr'
  exact hstated

/-- So many events were written as the reports say together. -/
theorem Told.card_events (h : v.Told id reports E S) :
    (E 0 + E 1 + E 2 + E 3).card = (reports.map (·.eventsPersisted)).sum := by
  obtain ⟨r₀, r₁, r₂, r₃, rfl, h₀, h₁, h₂, h₃⟩ := h.four
  simp only [Multiset.card_add, h₀.card_events, h₁.card_events, h₂.card_events, h₃.card_events,
    List.map_cons, List.map_nil, List.sum_cons, List.sum_nil]
  omega

/-- So many samples were written as the observer that counts reports. -/
theorem Told.card_samples (h : v.Told id reports E S) :
    ∃ r ∈ reports, r.observer = .count ∧ (S 0 + S 1 + S 2 + S 3).card = r.countsPersisted ∧
      ∀ r' ∈ reports, r'.observer = .count → r' = r := by
  obtain ⟨r₀, r₁, r₂, r₃, rfl, h₀, h₁, h₂, h₃⟩ := h.four
  refine ⟨r₃, by simp, h₃.observer, ?_, ?_⟩
  · rw [h₀.no_samples (by decide), h₁.no_samples (by decide), h₂.no_samples (by decide),
      zero_add, zero_add, zero_add, h₃.card_samples]
  · simp only [List.mem_cons, List.not_mem_nil, or_false]
    rintro r' (rfl | rfl | rfl | rfl) hcount
    · exact nomatch h₀.observer.symm.trans hcount
    · exact nomatch h₁.observer.symm.trans hcount
    · exact nomatch h₂.observer.symm.trans hcount
    · rfl

end StoreView

/-- The reports of one watching of each kind say what the store has gained. -/
theorem Crew.Booked.told {v : StoreView σ ε κ} {before : σ} {deeds : List (Deed σ)} {c : Crew}
    {w : Shared σ} {E : Nat → Multiset ε} {S : Nat → Multiset κ} {id : TestCaseId}
    (h : c.Booked v before deeds w E S) {reports : List SessionReport}
    (hstatic : c.watchings.map (fun x => (x.kind, x.testCase)) = ObserverKind.all.map (·, id))
    (hreports : c.watchings.mapM (·.report?) = some reports) :
    v.Told id reports E S ∧
      v.Gained before w.store (E 0 + E 1 + E 2 + E 3) (S 0 + S 1 + S 2 + S 3) := by
  have hlength : c.watchings.length = 4 := by
    simpa [ObserverKind.all] using congrArg List.length hstatic
  have hreport := map_of_mapM hreports
  constructor
  · constructor
    · simpa [hlength] using (congrArg List.length hreport).symm
    · intro i k hk
      have hplace : c.watchings[i]?.map (fun x => (x.kind, x.testCase)) = some (k, id) := by
        rw [← List.getElem?_map, hstatic, List.getElem?_map, hk]
        rfl
      obtain ⟨x, hx, hkind⟩ := Option.map_eq_some_iff.mp hplace
      cases hkind
      have hended : reports[i]?.map some = some x.report? := by
        rw [← List.getElem?_map, ← hreport, List.getElem?_map, hx]
        rfl
      obtain ⟨r, hr, hsome⟩ := Option.map_eq_some_iff.mp hended
      exact ⟨r, hr, (h.wrote i x hx).ended r hsome.symm⟩
  · have htotal := h.total
    rw [hlength] at htotal
    simpa only [Finset.sum_range_succ, Finset.sum_range_zero, zero_add] using htotal

namespace CaseView

variable {v : CaseView σ ε κ} {k : ObserverKind} {id : TestCaseId} {r : SessionReport}
  {E : Multiset ε} {S : Multiset κ} {now : Instant} [EventStore σ]

theorem Archives.event_of_stated (hv : v.Archives now) (h : v.Stated k id r E S) :
    ∀ e ∈ E, v.eventOf id e = true := by
  obtain ⟨events, rfl, _, hcase⟩ := h.events
  intro e he
  obtain ⟨e', he', rfl⟩ := List.mem_map.mp he
  exact hv.event (hcase e' he')

theorem Archives.sample_of_stated (hv : v.Archives now) (h : v.Stated k id r E S) :
    ∀ c ∈ S, v.sampleOf id c = true := by
  obtain ⟨samples, rfl, _, hcase, _⟩ := h.samples
  intro c hc
  obtain ⟨c', hc', rfl⟩ := List.mem_map.mp hc
  exact hv.sample (hcase c' hc')

end CaseView

/-! ## The books at the end -/

namespace CaseView

/-- The books of the four sessions of a test case in a store that has just what they say. -/
structure Balanced (v : CaseView σ ε κ) (id : TestCaseId) (store : σ) (deeds : List (Deed σ))
    (reports : List SessionReport) (E : Nat → Multiset ε) (S : Nat → Multiset κ) : Prop where
  told : v.Told id reports E S
  gains : ∀ i, v.Gains (stridesAt i deeds) (E i) (S i)
  events : v.eventsOf store id = E 0 + E 1 + E 2 + E 3
  samples : v.samplesOf store id = S 0 + S 1 + S 2 + S 3

variable {v : CaseView σ ε κ} {id : TestCaseId} {s s' : σ} {deeds : List (Deed σ)}
  {reports : List SessionReport} {E : Nat → Multiset ε} {S : Nat → Multiset κ}

theorem Balanced.idle (h : v.Balanced id s deeds reports E S) (hsame : v.Gained s s' 0 0) :
    v.Balanced id s' deeds reports E S := by
  refine ⟨h.told, h.gains, ?_, ?_⟩
  · rw [eventsOf_of_gained hsame fun e he => absurd he (Multiset.notMem_zero e), add_zero, h.events]
  · rw [samplesOf_of_gained hsame fun c hc => absurd hc (Multiset.notMem_zero c), add_zero, h.samples]

theorem Balanced.card_eventsOf (h : v.Balanced id s deeds reports E S) :
    (v.eventsOf s id).card = (reports.map (·.eventsPersisted)).sum := by
  rw [h.events, h.told.card_events]

variable {now : Instant} [EventStore σ]

/-- What four sessions have told is of their test case. -/
theorem Archives.of_told (hv : v.Archives now) (h : v.Told id reports E S) :
    (∀ e ∈ E 0 + E 1 + E 2 + E 3, v.eventOf id e = true) ∧
      ∀ c ∈ S 0 + S 1 + S 2 + S 3, v.sampleOf id c = true := by
  obtain ⟨_, _, _, _, _, h₀, h₁, h₂, h₃⟩ := h.four
  constructor
  · intro e he
    simp only [Multiset.mem_add] at he
    rcases he with ((he | he) | he) | he
    · exact hv.event_of_stated h₀ e he
    · exact hv.event_of_stated h₁ e he
    · exact hv.event_of_stated h₂ e he
    · exact hv.event_of_stated h₃ e he
  · intro c hc
    simp only [Multiset.mem_add] at hc
    rcases hc with ((hc | hc) | hc) | hc
    · exact hv.sample_of_stated h₀ c hc
    · exact hv.sample_of_stated h₁ c hc
    · exact hv.sample_of_stated h₂ c hc
    · exact hv.sample_of_stated h₃ c hc

/-- A crew with one watching of each kind balances its books in a store that had nothing of the test
case before. -/
theorem Archives.balanced (hv : v.Archives now) {before : σ} {c : Crew} {w : Shared σ}
    (h : c.Booked v.toStoreView before deeds w E S) (hnoEvents : v.eventsOf before id = 0)
    (hnoSamples : v.samplesOf before id = 0)
    (hstatic : c.watchings.map (fun x => (x.kind, x.testCase)) = ObserverKind.all.map (·, id))
    (hreports : c.watchings.mapM (·.report?) = some reports) :
    v.Balanced id w.store deeds reports E S := by
  obtain ⟨htold, hgained⟩ := h.told hstatic hreports
  obtain ⟨hofEvents, hofSamples⟩ := hv.of_told htold
  have hevents := eventsOf_of_gained hgained hofEvents
  have hsamples := samplesOf_of_gained hgained hofSamples
  rw [hnoEvents, zero_add] at hevents
  rw [hnoSamples, zero_add] at hsamples
  exact ⟨htold, h.gains, hevents, hsamples⟩

end CaseView

/-! ## The accounts -/

/-- The accounts of an observation agree with each other and with the store at its end. -/
structure Accounted [EventStore σ] (v : CaseView σ ε κ) (id : TestCaseId) (store : σ)
    (deeds : List (Deed σ)) (o : Outcome) : Prop where
  reported : o.report.testCase = id
  /-- There is one session of each kind. -/
  sessions : (o.report.sessions.map (·.observer)).Perm ObserverKind.all
  /-- The test case is closed, as a success if the report is clean. -/
  closed : CaseView.Closed id o.report.isClean o.testCase
  clean : o.report.isClean = true ↔ ∀ r ∈ o.report.sessions, r.ending = .shutdown
  /-- The events that are counted are those that the four sessions have stored at their turns. -/
  counted : ∀ m, o.metrics = some m →
    (m.eventCounts.map (·.2)).sum = o.report.eventsPersisted ∧
    ∃ (E : Nat → Multiset ε) (S : Nat → Multiset κ),
      (∀ i, v.Gains (stridesAt i deeds) (E i) (S i)) ∧
      (∀ i, ∀ r ∈ o.report.sessions, ObserverKind.all[i]? = some r.observer →
        (E i).card = r.eventsPersisted) ∧
      v.batch (m.timelines.flatMap (·.events)) = E 0 + E 1 + E 2 + E 3
  sampled : ∀ m, o.metrics = some m →
    ∃ r, o.report.session? ObserverKind.count.name = some r ∧ m.peaks.samples = r.countsPersisted
  /-- Without metrics nothing was stored. -/
  nothing : o.metrics = none → o.report.eventsPersisted = 0 ∧
    (EventStore.entities id).perform store = (.ok [], store) ∧
    (EventStore.events id).perform store = (.ok [], store)

namespace CaseView

variable {v : CaseView σ ε κ} {now : Instant} {id : TestCaseId} {s s' : σ} {deeds : List (Deed σ)}
  {reports : List SessionReport} {E : Nat → Multiset ε} {S : Nat → Multiset κ} {o : Outcome}
  {m : CaseMetrics} [EventStore σ]

/-- Metrics that are collected from balanced books count the events that the sessions have told. -/
theorem Archives.counted (hv : v.Archives now) (hs : v.sound id s)
    (h : v.Balanced id s deeds reports E S) (hm : CaseMetrics.collect id s = (.ok m, s'))
    (hreports : o.report.sessions.Perm reports) :
    (m.eventCounts.map (·.2)).sum = o.report.eventsPersisted ∧
      (∀ i, ∀ r ∈ o.report.sessions, ObserverKind.all[i]? = some r.observer →
        (E i).card = r.eventsPersisted) ∧
      v.batch (m.timelines.flatMap (·.events)) = E 0 + E 1 + E 2 + E 3 := by
  obtain ⟨_, hbatch, hsum, _⟩ := hv.metrics hs hm
  refine ⟨?_, ?_, hbatch.trans h.events⟩
  · rw [hsum, h.card_eventsOf, RunReport.eventsPersisted_of_perm hreports]
  · intro i r hr hi
    exact (h.told.of_mem (hreports.mem_iff.mp hr) hi).card_events

theorem Archives.sampled (hv : v.Archives now) (hs : v.sound id s)
    (h : v.Balanced id s deeds reports E S) (hm : CaseMetrics.collect id s = (.ok m, s'))
    (hreports : o.report.sessions.Perm reports) :
    ∃ r, o.report.session? ObserverKind.count.name = some r ∧
      m.peaks.samples = r.countsPersisted := by
  obtain ⟨_, _, _, hpeaks⟩ := hv.metrics hs hm
  obtain ⟨r, hr, hkind, hcard, honly⟩ := h.told.card_samples
  refine ⟨r, ?_, ?_⟩
  · rw [← hkind]
    apply RunReport.session?_of_mem (hreports.mem_iff.mpr hr)
    intro r' hr' hsame
    exact honly r' (hreports.mem_iff.mp hr') (hsame.trans hkind)
  · rw [hpeaks, h.samples, hcard]

/-- An outcome that is concluded from balanced books is accounted for. -/
theorem Archives.conclude (hv : v.Archives now) {done w' : Shared σ} (hsound : v.sound id done.store)
    (hbalanced : v.Balanced id done.store deeds reports E S) {joined : List SessionReport}
    (hjoin : joined.Perm reports) {tc : TestCase} (htc : tc.id = id)
    (h : Observation.conclude tc ⟨id, joined, 0⟩ now done = (.ok o, w')) :
    Accounted v id w'.store deeds o := by
  subst htc
  obtain ⟨closed, read, stored, hfinish, hmetrics, hread, hstored, hreport⟩ :=
    Observation.conclude_of_ok h
  obtain ⟨hclosed, hsame, hisClosed⟩ := hv.closes hsound hfinish
  have hbooks := hbalanced.idle hsame
  have hreports : o.report.sessions.Perm reports := by
    rw [hreport]
    exact hjoin
  -- The metrics are read from the closed test case; reading changes nothing.
  have hsame : read = closed := by
    rcases hmetrics with ⟨m, hm, _⟩ | ⟨what, hnone, _⟩
    · exact (hv.metrics hclosed hm).1
    · exact (hv.nothing hclosed hnone).1
  rw [hsame] at hread
  have hend : w'.store = closed := hv.readable.testCase hread
  constructor
  case reported => rw [hreport]
  case sessions => exact (hreports.map _).trans (List.Perm.of_eq hbooks.told.kinds)
  case closed =>
    obtain ⟨tc', rfl, htc'⟩ := hisClosed hread
    rw [hstored, hreport]
    exact htc'
  case clean =>
    apply RunReport.isClean_iff
    rw [hreport]
  case counted =>
    intro m hsome
    rcases hmetrics with ⟨m', hm, heq⟩ | ⟨what, _, heq⟩
    · cases hsome.symm.trans heq
      obtain ⟨hsum, hcards, hbatch⟩ := hv.counted hclosed hbooks hm hreports
      exact ⟨hsum, E, S, hbooks.gains, hcards, hbatch⟩
    · exact nomatch hsome.symm.trans heq
  case sampled =>
    intro m hsome
    rcases hmetrics with ⟨m', hm, heq⟩ | ⟨what, _, heq⟩
    · cases hsome.symm.trans heq
      exact hv.sampled hclosed hbooks hm hreports
    · exact nomatch hsome.symm.trans heq
  case nothing =>
    intro hnone
    rcases hmetrics with ⟨m', _, heq⟩ | ⟨what, hm, _⟩
    · exact nomatch hnone.symm.trans heq
    · obtain ⟨_, hzero, hentities, hlog⟩ := hv.nothing hclosed hm
      rw [RunReport.eventsPersisted_of_perm hreports, ← hbooks.card_eventsOf, hzero, hend]
      exact ⟨rfl, hentities, hlog⟩

/-- An observation over an archive that gives an outcome is accounted for. -/
theorem Archives.accounted (hv : v.Archives now) {w w' : Shared σ} (hready : v.ready w.store)
    {settings : ObserverSettings} {tc : TestCase} {happenings : List Happening}
    (hfits : ∀ a ∈ happenings, a.fits ObserverKind.all)
    {join : List SessionReport → List SessionReport} (hjoin : ∀ rs, (join rs).Perm rs)
    (h : Observation.observe settings tc now happenings join w = some ⟨.ok o, w', deeds⟩) :
    ∃ id, ((EventStore.createTestCase tc).perform w.store).1 = .ok id ∧
      Accounted v id w'.store deeds o := by
  obtain ⟨tc', r, opened, reports, done, hbegin, rfl, hreports, hdone, hconclude⟩ :=
    Observation.observe_of_ok h
  obtain ⟨id, hcreate, htc', hcurrent, hstatic, hopening⟩ := Observation.begin_of_ok hbegin
  obtain ⟨hsound, hnoEvents, hnoSamples⟩ := hv.opens hready hcreate
  have hkinds : r.crew.watchings.map (·.kind) = ObserverKind.all := by
    simpa [Function.comp_def] using congrArg (List.map Prod.fst) hstatic
  -- The books of the four watchings, from the opening of the test case to their end.
  obtain ⟨E, S, hbooked⟩ := (Crew.booked_of_opening v.toStoreView opened hopening).proceed hv.atomic
    (hkinds ▸ hfits)
  have hbalanced := hv.balanced hbooked hnoEvents hnoSamples
    ((Crew.proceed_static _ _ _).trans hstatic) hreports
  have hlasting := Crew.proceed_lasting (c := r.crew) (hv.lasting id) hsound happenings
  rw [← hdone] at hbalanced hlasting
  have hid : (r.current.map (·.id)).getD 0 = id := by
    rw [hcurrent, ← htc']
    rfl
  rw [hid] at hconclude
  exact ⟨id, congrArg Prod.fst hcreate,
    hv.conclude hlasting hbalanced (hjoin reports) htc' hconclude⟩

end CaseView

namespace Observation

/-- Whatever the feeds of the four watchings bring, in whichever order they have their turns and end,
and in whichever order they are joined: an observation that gives an outcome is accounted for. This
holds over a store in memory, and over a relational store that has a key in its table of entities, if
no row is of a test case that was not created. The relational store reads the moment of the closing back
from its row, so the calendar has to reach it. -/
theorem observation_accounted {settings : ObserverSettings} {tc : TestCase} {now : Instant}
    {happenings : List Happening} (hfits : ∀ a ∈ happenings, a.fits ObserverKind.all)
    {join : List SessionReport → List SessionReport} (hjoin : ∀ rs, (join rs).Perm rs) :
    (∀ {w w' : Shared MemoryStore} {o : Outcome} {deeds : List (Deed MemoryStore)},
      w.store.Reachable → w.store.NoStrays →
      observe settings tc now happenings join w = some ⟨.ok o, w', deeds⟩ →
      ∃ id, ((EventStore.createTestCase tc).perform w.store).1 = .ok id ∧
        Accounted MemoryStore.caseView id w'.store deeds o) ∧
    ∀ {w w' : Shared RelationalStore} {o : Outcome} {deeds : List (Deed RelationalStore)},
      (w.store.entities.rows.map Relational.EntityRow.id).Nodup → w.store.NoStrays →
      (Relational.moment? now.micros).isSome = true →
      observe settings tc now happenings join w = some ⟨.ok o, w', deeds⟩ →
      ∃ id, ((EventStore.createTestCase tc).perform w.store).1 = .ok id ∧
        Accounted RelationalStore.caseView id w'.store deeds o := by
  constructor
  · intro w w' o deeds hreach hstrays h
    exact (MemoryStore.caseView_archives now).accounted ⟨hreach, hstrays⟩ hfits hjoin h
  · intro w w' o deeds hkey hstrays hnow h
    exact (RelationalStore.caseView_archives hnow).accounted ⟨hkey, hstrays⟩ hfits hjoin h

/-- A claim is seen and counted, the feed of the pods closes early, and attachments cannot be watched.
The observer that counts is the first to be stopped, and the first to be joined. -/
def mixedEnds : List Happening :=
  [.turn 3 (.answer (.ok ())), .turn 0 (.answer (.ok ())), .turn 1 (.answer (.ok ())),
    .turn 2 (.answer (.error (.watchOpen "VolumeAttachment" "forbidden"))),
    .turn 0 (.feed (some (.notification
      ⟨.added, some (.claim ⟨"data", "u1", some "Bound", some "pv", none⟩), ⟨2⟩⟩))),
    .turn 3 (.feed (some (.listing ⟨[], [], ⟨3⟩⟩))), .turn 1 (.feed none),
    .cancel 9, .turn 3 (.feed none), .cancel 6, .turn 0 (.feed none)]

/-- The observation of a test case over an empty store. -/
def mixedOver {σ : Type} [EventStore σ] (store : σ) : Option (Ended σ) :=
  observe .default ⟨0, "pvc", "nightly", .epoch, none, none⟩ ⟨9⟩ mixedEnds .reverse (.start store)

/-- So many events were stored, if there is an outcome. -/
def Ended.persisted? (e : Ended σ) : Option Nat :=
  e.result.toOption.map (·.report.eventsPersisted)

theorem Ended.outcome_of_persisted {e : Option (Ended σ)} {n : Nat}
    (h : e.bind Ended.persisted? = some n) :
    ∃ o w' deeds, e = some ⟨.ok o, w', deeds⟩ ∧ o.report.eventsPersisted = n := by
  obtain ⟨⟨result, w', deeds⟩, rfl, hresult⟩ := Option.bind_eq_some_iff.mp h
  cases result with
  | error cause => exact nomatch hresult
  | ok o => exact ⟨o, w', deeds, rfl, Option.some.inj hresult⟩

theorem observation_accounted_mixedEnds :
    (∃ o w' deeds, mixedOver MemoryStore.empty = some ⟨.ok o, w', deeds⟩ ∧
      o.report.eventsPersisted = 1 ∧ ∃ id, Accounted MemoryStore.caseView id w'.store deeds o) ∧
    ∃ o w' deeds, mixedOver RelationalStore.empty = some ⟨.ok o, w', deeds⟩ ∧
      o.report.eventsPersisted = 1 ∧ ∃ id, Accounted RelationalStore.caseView id w'.store deeds o := by
  have hfits : ∀ a ∈ mixedEnds, a.fits ObserverKind.all := by decide
  constructor
  · obtain ⟨o, w', deeds, hends, hone⟩ :=
      Ended.outcome_of_persisted (show (mixedOver MemoryStore.empty).bind _ = some 1 by decide +kernel)
    obtain ⟨id, _, haccounted⟩ := (observation_accounted hfits List.reverse_perm).1 .empty
      MemoryStore.noStrays_empty hends
    exact ⟨o, w', deeds, hends, hone, id, haccounted⟩
  · obtain ⟨o, w', deeds, hends, hone⟩ :=
      Ended.outcome_of_persisted (show (mixedOver RelationalStore.empty).bind _ = some 1 by decide +kernel)
    obtain ⟨id, _, haccounted⟩ := (observation_accounted hfits List.reverse_perm).2 (by decide)
      RelationalStore.noStrays_empty (by decide +kernel) hends
    exact ⟨o, w', deeds, hends, hone, id, haccounted⟩

end Observation

end StorageLifecycle

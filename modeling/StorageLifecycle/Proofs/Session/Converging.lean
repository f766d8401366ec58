import Mathlib.Data.List.Dedup
import StorageLifecycle.Proofs.Session.HandOff
import StorageLifecycle.Proofs.Session.Stamping
import StorageLifecycle.Proofs.Store.Atomicity

/-!
# Histories that end alike

Claims may be published early or late in a history. If the registries hold the same at the end, so do
the stores after the last flush: each has gained all that fired for the attachments with a claim, for
that claim, and nothing else. How many attachments are left over is the same, too.
-/

namespace StorageLifecycle.Session

variable {σ : Type}

/-! ## What is left to be stored -/

/-- What fired for attachments that have a claim, each for its claim. -/
def delivered (claim : String → Option Entity) (fired : List Firing) : List (Firing × EntityId) :=
  fired.filterMap fun f => (claim f.resource).map fun c => (f, c.id)

/-- How many attachments fired without having a claim at the end. -/
def leftOver (claim : String → Option Entity) (fired : List Firing) : Nat :=
  ((fired.map (·.resource)).dedup.filter fun name => (claim name).isNone).length

theorem outcome_eq_filterMap (claim : Option Entity) (fired : List Firing) :
    outcome claim fired = fired.filterMap fun f => claim.map fun c => (f, c.id) := by
  cases claim with
  | none => simp [outcome]
  | some c => exact (congrFun List.filterMap_eq_map fired).symm

/-- What is delivered for one name is the outcome that its claim gives. -/
theorem delivered_filter (claim : String → Option Entity) (fired : List Firing) (name : String) :
    ((delivered claim fired).filter fun v => v.1.resource == name) =
      outcome (claim name) (Firing.on name fired) := by
  rw [delivered, List.filter_filterMap, outcome_eq_filterMap, Firing.on, List.filterMap_filter]
  refine List.filterMap_congr fun f _ => ?_
  by_cases hname : f.resource = name
  · rw [hname]
    cases claim name <;> simp [hname]
  · cases claim f.resource <;> simp [hname]

/-- If each name has the outcome that its claim gives, all that has a claim is delivered. -/
theorem views_delivered {s : Session} {claim : String → Option Entity} {fired : List Firing}
    (h : ∀ name, (s.bufferOn name).map Recorded.view = outcome (claim name) (Firing.on name fired)) :
    (s.buffer.map Recorded.view).Perm (delivered claim fired) := by
  refine perm_of_filter_eq (fun v : Firing × EntityId => v.1.resource) fun name => ?_
  rw [views_filter, delivered_filter]
  exact h name

theorem mem_resources {name : String} {fired : List Firing} :
    name ∈ fired.map (·.resource) ↔ Firing.on name fired ≠ [] := by
  rw [ne_eq, Firing.on, List.filter_eq_nil_iff]
  simp

/-! ## The last flush of a history -/

/-- The last flush of the session that watches attachments after a history, with its parked attachments
tried in the given order. -/
def flushAfter [EventStore σ] (testCase : TestCaseId) (w : Shared σ) (history : List Occurrence)
    (names : List String) : Except StoreError Unit × Session × Shared σ :=
  let (s, w) := (start .attachment testCase).follow w history
  s.flushTrying w (names.map fun name => (name, w.registry))

/-- The session after a history when its parked attachments were tried, but nothing is sorted yet. -/
def retriedAfter [EventStore σ] (testCase : TestCaseId) (w : Shared σ) (history : List Occurrence)
    (names : List String) : Session × Shared σ :=
  let (s, w) := (start .attachment testCase).follow w history
  s.retry w (names.map fun name => (name, w.registry))

theorem flushAfter_of_sorted [EventStore σ] {testCase : TestCaseId} {w : Shared σ}
    {history : List Occurrence} {names : List String}
    (h : (retriedAfter testCase w history names).1.buffer.Pairwise fun a b =>
      a.event.timestamp ≤ b.event.timestamp) :
    flushAfter testCase w history names =
      (retriedAfter testCase w history names).1.persist (retriedAfter testCase w history names).2 :=
  flushTrying_of_sorted h

/-- The report of the session that watches attachments when it is asked to stop after a history. -/
def reportAfter [EventStore σ] (testCase : TestCaseId) (w : Shared σ) (history : List Occurrence) :
    SessionReport :=
  let (s, w) := (start .attachment testCase).follow w history
  (s.finish .stop w).1

/-- A flush that succeeds has given the store the events of the session as one batch; one that fails was
refused it. In every view in which the store is atomic it has gained these events or nothing. -/
structure Persists [EventStore σ] (before : σ) (flushed : Except StoreError Unit × Session × Shared σ) :
    Prop where
  taken : flushed.1 = .ok () → (flushed.2.1.batch = [] ∧ flushed.2.2.store = before) ∨
    (EventStore.saveEvents flushed.2.1.batch).perform before = (.ok (), flushed.2.2.store)
  refused : ∀ e, flushed.1 = .error e →
    (EventStore.saveEvents flushed.2.1.batch).perform before = (.error e, flushed.2.2.store)
  gained : ∀ {ε κ : Type} (v : StoreView σ ε κ), v.Atomic →
    v.Gained before flushed.2.2.store (if flushed.1.isOk then v.batch flushed.2.1.batch else 0) 0

/-- A session without samples has only its events to store. -/
theorem persists_of_no_counts [EventStore σ] {s : Session} {w : Shared σ}
    {tries : List (String × Registry)} (h : (s.settle w tries).1.counts = []) :
    Persists w.store (s.flushTrying w tries) := by
  obtain ⟨hanswer, hsession, hstore, _⟩ := flushTrying_eq (s := s) (w := w) tries
  have hsave : (s.settle w tries).1.save.perform w.store =
      ((s.flushTrying w tries).1, (s.flushTrying w tries).2.2.store) :=
    Prod.ext hanswer.symm hstore.symm
  rw [← hsession] at hsave h
  generalize s.flushTrying w tries = flushed at hsave h ⊢
  have hevents := hsave
  rw [save_of_no_counts h] at hevents
  constructor
  case taken =>
    intro hok
    rw [hok] at hevents
    exact saveUnlessEmpty_of_ok hevents
  case refused =>
    intro e herror
    rw [herror] at hevents
    rcases saveUnlessEmpty_cases flushed.2.1.batch EventStore.saveEvents w.store with ⟨_, heq⟩ | heq
    · exact nomatch congrArg Prod.fst (heq.symm.trans hevents)
    · exact heq.symm.trans hevents
  case gained =>
    intro ε κ v hv
    have hwhole := hv.save (Or.inr h)
    rw [h] at hwhole
    cases hanswer : flushed.1 with
    | ok u =>
        rw [hanswer] at hsave
        exact hwhole.ok hsave
    | error e =>
        rw [hanswer] at hsave
        exact hwhole.error hsave

/-- How a session that watches attachments ends when these are the claims of attachments. Its batch has
all that is delivered, in turn for each attachment; that is what is stored; and who has no claim is left
over. -/
structure HandsOver [EventStore σ] (claim : String → Option Entity) (before : σ)
    (flushed : Except StoreError Unit × Session × Shared σ) (report : SessionReport) : Prop where
  views : (flushed.2.1.buffer.map Recorded.view).Perm (delivered claim flushed.2.1.fired)
  inTurn : ∀ name, (flushed.2.1.bufferOn name).map Recorded.view =
    outcome (claim name) (flushed.2.1.firedOn name)
  persists : Persists before flushed
  unresolved : flushed.2.1.unresolved = leftOver claim flushed.2.1.fired
  reported : report.isClean = true → report.unresolved = flushed.2.1.unresolved ∧
    report.eventsPersisted = flushed.2.1.batch.length

section

variable [EventStore σ] {testCase : TestCaseId} {w : Shared σ} {history : List Occurrence}
  {names : List String}

/-- The claims of attachments after a history. -/
def claimsAfter (testCase : TestCaseId) (w : Shared σ) (history : List Occurrence) :
    String → Option Entity :=
  claimOf (volumeOf (Occurrence.notifications history))
    ((start .attachment testCase).follow w history).2.registry

/-- Whatever the registry holds along the way, what is recorded in the end depends on what fired and on the
claims at the end alone. -/
theorem settled_of_follow (hvolume : OneVolume (Occurrence.notifications history))
    (hagrees : w.registry.Agrees (Occurrence.publications history))
    (hnames : names.Perm ((start .attachment testCase).follow w history).1.parked.keys) :
    let fired := ((start .attachment testCase).advanceAll (Occurrence.notifications history)).fired
    let s' := (flushAfter testCase w history names).2.1
    s'.fired = fired ∧ s'.parked.keys.Nodup ∧
    (∀ name, (s'.bufferOn name).map Recorded.view =
      outcome (claimsAfter testCase w history name) (Firing.on name fired)) ∧
    ∀ name, name ∈ s'.parked.keys ↔
      claimsAfter testCase w history name = none ∧ Firing.on name fired ≠ [] := by
  intro fired s'
  obtain ⟨turns, hrun, hns, hturns⟩ :=
    follow_eq_runAmid (s := start .attachment testCase) (w := w) history rfl
  rw [hrun] at hnames
  have hseen : ∀ t ∈ turns,
      t.shared.registry.Within ((start .attachment testCase).follow w history).2.registry ∧
      t.after.Within ((start .attachment testCase).follow w history).2.registry ∧
      ∀ name v, t.notification.volume? name = some v →
        volumeOf (Occurrence.notifications history) name = some v := by
    intro t ht
    obtain ⟨⟨pre, hpre, hbefore⟩, ⟨post, hpost, hafter⟩⟩ := hturns t ht
    rw [follow_registry history rfl, hbefore, hafter]
    refine ⟨hagrees.within_of_prefix hpre, hagrees.within_of_prefix hpost, fun name v hv => ?_⟩
    have hmem : t.notification ∈ Occurrence.notifications history := by
      rw [← hns]
      exact List.mem_map_of_mem ht
    exact hvolume.volumeOf_eq hmem hv
  have hsession : s' = (((start .attachment testCase).runAmid turns).settle
      ((start .attachment testCase).follow w history).2 (names.map fun name =>
        (name, ((start .attachment testCase).follow w history).2.registry))).1 := by
    rw [← hrun]
    exact (flushTrying_eq _).2.1
  have hsettled := settled_of_runAmid testCase ((start .attachment testCase).follow w history).2
    hseen hnames
  rw [hns, ← hsession] at hsettled
  exact hsettled

theorem unresolved_of_follow (hvolume : OneVolume (Occurrence.notifications history))
    (hagrees : w.registry.Agrees (Occurrence.publications history))
    (hnames : names.Perm ((start .attachment testCase).follow w history).1.parked.keys) :
    (flushAfter testCase w history names).2.1.unresolved =
      leftOver (claimsAfter testCase w history)
        ((start .attachment testCase).advanceAll (Occurrence.notifications history)).fired := by
  obtain ⟨_, hnodup, _, hleft⟩ := settled_of_follow hvolume hagrees hnames
  rw [unresolved, Keyed.size, ← List.length_map (f := Prod.fst), leftOver]
  refine ((List.perm_ext_iff_of_nodup hnodup ((List.nodup_dedup _).filter _)).mpr ?_).length_eq
  intro name
  rw [hleft name, List.mem_filter, List.mem_dedup, mem_resources, Option.isNone_iff_eq_none,
    and_comm]

/-- The flush of a session that is asked to stop is one of these. -/
theorem reported_of_clean (hclean : (reportAfter testCase w history).isClean = true) :
    ∃ names, names.Perm ((start .attachment testCase).follow w history).1.parked.keys ∧
      (reportAfter testCase w history).unresolved =
        (flushAfter testCase w history names).2.1.unresolved ∧
      (reportAfter testCase w history).eventsPersisted =
        (flushAfter testCase w history names).2.1.buffer.length := by
  obtain ⟨_, _, hreport⟩ := finish_of_clean hclean
  exact ⟨_, Supply.arrange_perm _ _, congrArg SessionReport.unresolved hreport,
    congrArg SessionReport.eventsPersisted hreport⟩

theorem handsOver_of_follow (hvolume : OneVolume (Occurrence.notifications history))
    (hagrees : w.registry.Agrees (Occurrence.publications history))
    (hnames : names.Perm ((start .attachment testCase).follow w history).1.parked.keys) :
    HandsOver (claimsAfter testCase w history)
      ((start .attachment testCase).follow w history).2.store
      (flushAfter testCase w history names) (reportAfter testCase w history) := by
  obtain ⟨hfired, _, hviews, _⟩ := settled_of_follow hvolume hagrees hnames
  have hdelivered := views_delivered hviews
  have hunresolved := unresolved_of_follow hvolume hagrees hnames
  rw [← hfired] at hdelivered hviews hunresolved
  refine ⟨hdelivered, hviews, ?_, hunresolved, fun hclean => ?_⟩
  · -- Notifications bring no samples, and neither does the flush.
    apply persists_of_no_counts
    obtain ⟨hkept, _, hclamped, _⟩ := follow_of_attachment testCase w history
    obtain ⟨_, _, _, _, hcounts⟩ := settle_spec hkept hclamped (names.map fun name =>
      (name, ((start .attachment testCase).follow w history).2.registry))
    obtain ⟨turns, hrun, _, _⟩ :=
      follow_eq_runAmid (s := start .attachment testCase) (w := w) history rfl
    rw [hcounts, hrun]
    exact (steady_counts []).runAmid (fun _ _ => ⟨trivial, trivial, trivial⟩) rfl
  · obtain ⟨names', hnames', hreport, hpersisted⟩ := reported_of_clean hclean
    obtain ⟨hfired', _, hviews', _⟩ := settled_of_follow hvolume hagrees hnames'
    have hlength := (views_delivered hviews').length_eq
    rw [← hfired', hfired', ← hfired, ← hdelivered.length_eq, List.length_map, List.length_map] at hlength
    rw [hreport, unresolved_of_follow hvolume hagrees hnames', hunresolved, hfired, hpersisted, hlength,
      batch, List.length_map]
    exact ⟨rfl, rfl⟩

end

/-- Two histories with the same notifications, in which claims are published at different points but
the registries hold the same at the end, end alike, in whichever order the last flushes try the parked
attachments: the same fired, with the same stamps; the same events are given to the stores for the same
claims, in the same order for each attachment; and as many attachments are left over. What a store
gains is exactly what fired for the attachments whose volume has a claim in the registry at the
end. -/
theorem handOff_converges [EventStore σ] (testCase : TestCaseId) {w₁ w₂ : Shared σ}
    {history₁ history₂ : List Occurrence} {names₁ names₂ : List String}
    (hns : Occurrence.notifications history₁ = Occurrence.notifications history₂)
    (hvolume : OneVolume (Occurrence.notifications history₁))
    (hagrees₁ : w₁.registry.Agrees (Occurrence.publications history₁))
    (hagrees₂ : w₂.registry.Agrees (Occurrence.publications history₂))
    (hfinal : ∀ v, ((start .attachment testCase).follow w₁ history₁).2.registry.lookup v =
      ((start .attachment testCase).follow w₂ history₂).2.registry.lookup v)
    (hnames₁ : names₁.Perm ((start .attachment testCase).follow w₁ history₁).1.parked.keys)
    (hnames₂ : names₂.Perm ((start .attachment testCase).follow w₂ history₂).1.parked.keys) :
    let flushed₁ := flushAfter testCase w₁ history₁ names₁
    let flushed₂ := flushAfter testCase w₂ history₂ names₂
    let s₁ := flushed₁.2.1
    let s₂ := flushed₂.2.1
    let claim := claimsAfter testCase w₁ history₁
    s₁.fired = s₂.fired ∧
    (s₁.buffer.map Recorded.view).Perm (s₂.buffer.map Recorded.view) ∧
    (∀ name, (s₁.bufferOn name).map Recorded.view = (s₂.bufferOn name).map Recorded.view) ∧
    s₁.unresolved = s₂.unresolved ∧
    HandsOver claim ((start .attachment testCase).follow w₁ history₁).2.store flushed₁
      (reportAfter testCase w₁ history₁) ∧
    HandsOver claim ((start .attachment testCase).follow w₂ history₂).2.store flushed₂
      (reportAfter testCase w₂ history₂) := by
  intro flushed₁ flushed₂ s₁ s₂ claim
  have hone := handsOver_of_follow hvolume hagrees₁ hnames₁
  have htwo := handsOver_of_follow (hns ▸ hvolume) hagrees₂ hnames₂
  have hclaim : claimsAfter testCase w₂ history₂ = claim := by
    funext name
    unfold claim claimsAfter claimOf
    rw [hns]
    exact Option.bind_congr fun v _ => (hfinal v).symm
  rw [hclaim] at htwo
  have hfired : s₁.fired = s₂.fired := by
    obtain ⟨hfired₁, _⟩ := settled_of_follow hvolume hagrees₁ hnames₁
    obtain ⟨hfired₂, _⟩ := settled_of_follow (hns ▸ hvolume) hagrees₂ hnames₂
    rw [← hns] at hfired₂
    exact hfired₁.trans hfired₂.symm
  have hviews : ∀ name,
      (s₁.bufferOn name).map Recorded.view = (s₂.bufferOn name).map Recorded.view := by
    intro name
    refine (hone.inTurn name).trans (Eq.trans ?_ (htwo.inTurn name).symm)
    exact congrArg (fun fired => outcome (claim name) (Firing.on name fired)) hfired
  refine ⟨hfired, views_perm hviews, hviews, ?_, hone, htwo⟩
  rw [show s₁.unresolved = _ from hone.unresolved, show s₂.unresolved = _ from htwo.unresolved]
  exact congrArg (leftOver claim) hfired

/-- Two attachments of one volume are seen, and one of a volume that no claim is bound to. -/
def threeSightings (between : List Occurrence) : List Occurrence :=
  .notify (sighting "va" true 5) [] :: between ++
    [.notify (sighting "vb" false 3) [],
      .notify ⟨.modified, some (.attachment ⟨"vc", "vc", some "pv-lost", false, none⟩), ⟨6⟩⟩ []]

/-- The claim is bound before anything is seen. -/
def boundFirst : List Occurrence := .publish "pv" boundClaim :: threeSightings []

/-- The claim is bound when the first attachment waits for it already. -/
def boundBetween : List Occurrence := threeSightings [.publish "pv" boundClaim]

/-- The same three rows are stored, if in another order among equal stamps, and one attachment is left
over. The reports say so. -/
theorem handOff_converges_boundBetween :
    let early := flushAfter 1 claimStored boundFirst ["vc"]
    let late := flushAfter 1 claimStored boundBetween ["vc", "va"]
    early.1 = .ok () ∧ late.1 = .ok () ∧
    early.2.2.store.events.map MemoryStore.trace =
      [(.pvcAttachStarted, ⟨5⟩, 7), (.pvcAttachEnded, ⟨5⟩, 7), (.pvcAttachStarted, ⟨5⟩, 7)] ∧
    late.2.2.store.events.map MemoryStore.trace =
      [(.pvcAttachStarted, ⟨5⟩, 7), (.pvcAttachStarted, ⟨5⟩, 7), (.pvcAttachEnded, ⟨5⟩, 7)] ∧
    MemoryStore.view.Gained claimStored.store early.2.2.store
      (MemoryStore.view.batch early.2.1.batch) 0 ∧
    MemoryStore.view.Gained claimStored.store late.2.2.store
      (MemoryStore.view.batch late.2.1.batch) 0 ∧
    (early.2.1.buffer.map Recorded.view).Perm (late.2.1.buffer.map Recorded.view) ∧
    early.2.1.unresolved = 1 ∧ late.2.1.unresolved = 1 ∧
    ∀ history ∈ [boundFirst, boundBetween], let report := reportAfter 1 claimStored history
      report.isClean = true ∧ report.unresolved = 1 ∧ report.eventsPersisted = 3 := by
  intro early late
  have hns : Occurrence.notifications boundFirst = Occurrence.notifications boundBetween := rfl
  have hagrees : claimStored.registry.Agrees [("pv", boundClaim)] := by
    intro v c c' hc hc'
    rcases hc' with hc' | hc'
    · simp_all
    · exact nomatch hc'
  have hfinal : ∀ v, ((start .attachment 1).follow claimStored boundFirst).2.registry.lookup v =
      ((start .attachment 1).follow claimStored boundBetween).2.registry.lookup v := by
    intro v
    rw [follow_registry boundFirst rfl, follow_registry boundBetween rfl]
    rfl
  have hparked₁ : ["vc"].Perm
      ((start .attachment 1).follow claimStored boundFirst).1.parked.keys := by decide
  have hparked₂ : ["vc", "va"].Perm
      ((start .attachment 1).follow claimStored boundBetween).1.parked.keys := by decide
  obtain ⟨_, hviews, _, hsame, hearly, hlate⟩ :=
    handOff_converges 1 hns (by decide) hagrees hagrees hfinal hparked₁ hparked₂
  -- Both buffers are in order by themselves, so that the flushes can be computed.
  have hfirst : early = _ := flushAfter_of_sorted (by decide +kernel)
  have hbetween : late = _ := flushAfter_of_sorted (by decide +kernel)
  have hok₁ : early.1 = .ok () := by
    rw [hfirst]
    decide +kernel
  have hok₂ : late.1 = .ok () := by
    rw [hbetween]
    decide +kernel
  have hgained₁ := hearly.persists.gained MemoryStore.view MemoryStore.view_atomic
  have hgained₂ := hlate.persists.gained MemoryStore.view MemoryStore.view_atomic
  rw [hok₁] at hgained₁
  rw [hok₂] at hgained₂
  have hleft : early.2.1.unresolved = 1 := by
    rw [hfirst]
    decide +kernel
  have hclean₁ : (reportAfter 1 claimStored boundFirst).isClean = true := by
    dsimp only [reportAfter]
    rw [finish_of_sorted (by decide +kernel)]
    decide +kernel
  have hclean₂ : (reportAfter 1 claimStored boundBetween).isClean = true := by
    dsimp only [reportAfter]
    rw [finish_of_sorted (by decide +kernel)]
    decide +kernel
  obtain ⟨hunresolved₁, hpersisted₁⟩ := hearly.reported hclean₁
  obtain ⟨hunresolved₂, hpersisted₂⟩ := hlate.reported hclean₂
  have hthree₁ : early.2.1.batch.length = 3 := by
    rw [hfirst]
    decide +kernel
  have hthree₂ : late.2.1.batch.length = 3 := by
    rw [hbetween]
    decide +kernel
  have hright : late.2.1.unresolved = 1 := hsame.symm.trans hleft
  refine ⟨hok₁, hok₂, ?_, ?_, hgained₁, hgained₂, hviews, hleft, hright, ?_⟩
  · rw [hfirst]
    decide +kernel
  · rw [hbetween]
    decide +kernel
  · refine List.forall_mem_cons.mpr ⟨?_, List.forall_mem_singleton.mpr ?_⟩
    · exact ⟨hclean₁, hunresolved₁.trans hleft, hpersisted₁.trans hthree₁⟩
    · exact ⟨hclean₂, hunresolved₂.trans hright, hpersisted₂.trans hthree₂⟩

end StorageLifecycle.Session

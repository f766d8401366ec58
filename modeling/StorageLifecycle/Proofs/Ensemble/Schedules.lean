import Mathlib.Data.List.Perm.Basic
import StorageLifecycle.Proofs.Ensemble.Numbering
import StorageLifecycle.Proofs.Metrics.Partition

/-!
# The schedule does not matter

However the turns of the sessions were interleaved, at a clean end the same fired, and the same
events are in the store for the same entities. Only the numbers of the rows depend on the schedule,
and the metrics of the test case do not depend on these.
-/

namespace StorageLifecycle

open Ensemble

/-! ## What a session stores -/

/-- What the event of a view says. -/
def Session.said (v : Firing × EntityId) : EventType × Instant × EntityId :=
  (v.1.type, v.1.moment, v.2)

/-- The view with the entity under another number. -/
def Session.renumberView (f : EntityId → EntityId) (v : Firing × EntityId) : Firing × EntityId :=
  (v.1, f v.2)

namespace Session

variable {s : Session}

theorem trace_batch (s : Session) :
    s.batch.map MemoryStore.trace = (s.buffer.map Recorded.view).map said := by
  rw [batch, List.map_map, List.map_map]
  rfl

/-- The number of the entity that the session knows under a name. -/
def numberOf (s : Session) (name : String) : EntityId :=
  (s.entities.find? name).elim 0 (·.id)

theorem Kept.fired_perm_of_unparked (h : s.Kept) (hk : s.kind ≠ .attachment) :
    s.fired.Perm s.recorded := by
  have hperm := h.fired_perm
  rw [waiting, h.own hk] at hperm
  exact hperm.trans (List.Perm.of_eq (List.append_nil _))

/-- All that fired for claims or pods is in the buffer, for the entities that are known. -/
theorem Owning.views_perm (h : s.Owning) (hk : s.kind ≠ .attachment) (hkept : s.Kept) :
    (s.buffer.map Recorded.view).Perm (s.fired.map fun f => (f, s.numberOf f.resource)) := by
  have hviews : s.buffer.map Recorded.view = s.recorded.map fun f => (f, s.numberOf f.resource) := by
    rw [recorded, List.map_map]
    refine List.map_congr_left fun r hr => ?_
    obtain ⟨x, hx, hentity⟩ := h.views r hr
    have hnumber : s.numberOf r.firing.resource = x.id := by
      show (s.entities.find? r.resource).elim 0 (·.id) = x.id
      rw [hx]
      rfl
    rw [Recorded.view, Function.comp_apply, hnumber, hentity]
  rw [hviews]
  exact (hkept.fired_perm_of_unparked hk).symm.map _

/-- What fired for claims or pods fired for an entity that is known. -/
theorem Owning.known_of_fired (h : s.Owning) (hk : s.kind ≠ .attachment) (hkept : s.Kept)
    {f : Firing} (hf : f ∈ s.fired) : ∃ x, s.entities.find? f.resource = some x := by
  obtain ⟨r, hr, rfl⟩ := List.mem_map.mp ((hkept.fired_perm_of_unparked hk).mem_iff.mp hf)
  obtain ⟨x, hx, _⟩ := h.views r hr
  exact ⟨x, hx⟩

end Session

/-! ## The end of a run -/

variable {initial : MemoryStore} {id : TestCaseId} {feeds : Feeds} {e e₁ e₂ : Ensemble MemoryStore}

/-- An ensemble that has come to a clean end. -/
structure Finished (initial : MemoryStore) (id : TestCaseId) (feeds : Feeds)
    (e : Ensemble MemoryStore) : Prop extends Joint initial id feeds e where
  clean : e.IsClean

theorem Finished.isSome (h : Finished initial id feeds e) (k : ObserverKind) :
    (e.member k).report.isSome = true := by
  obtain ⟨_, r, hr, _⟩ := h.clean k
  rw [hr]
  rfl

/-- The store has the events of all sessions. -/
theorem Finished.events (h : Finished initial id feeds e) :
    ((e.shared.store.eventsOf id).map MemoryStore.trace).Perm
      (ObserverKind.all.flatMap fun k =>
        ((e.member k).session.buffer.map Recorded.view).map Session.said) := by
  refine h.ledger.events.trans (List.Perm.of_eq ?_)
  refine congrArg (ObserverKind.all.flatMap ·) (funext fun k => ?_)
  rw [Member.stored, if_pos (h.isSome k), Session.trace_batch]

section

variable (h₁ : Finished initial id feeds e₁) (h₂ : Finished initial id feeds e₂)

include h₁ h₂

/-- Both runs took all of their feeds. -/
theorem alike_of_finished {k : ObserverKind} (hk : k ≠ .attachment) :
    (e₁.member k).session.Alike (e₂.member k).session := by
  obtain ⟨taken₁, hsplit₁, halike₁⟩ := (h₁.sane k).alike hk
  obtain ⟨taken₂, hsplit₂, halike₂⟩ := (h₂.sane k).alike hk
  rw [(h₁.clean k).1, List.append_nil] at hsplit₁
  rw [(h₂.clean k).1, List.append_nil] at hsplit₂
  rw [← hsplit₁] at halike₁
  rw [← hsplit₂] at halike₂
  exact halike₁.trans halike₂.symm

/-- Both runs know the same entities, under numbers of their own. -/
theorem cached_of_finished :
    e₁.cached.map Entity.unnumbered = e₂.cached.map Entity.unnumbered := by
  have hvalues : ∀ k, k ≠ .attachment →
      (e₁.member k).session.entities.values.map Entity.unnumbered =
        (e₂.member k).session.entities.values.map Entity.unnumbered := by
    intro k hk
    rw [← Keyed.values_map, (alike_of_finished h₁ h₂ hk).cache, Keyed.values_map]
  rw [Ensemble.cached, Ensemble.cached, List.map_append, List.map_append, hvalues .claim nofun,
    hvalues .pod nofun]

/-- The registries have the same claims, under numbers of their own. -/
theorem registry_of_finished :
    e₁.shared.registry.map Entity.unnumbered = e₂.shared.registry.map Entity.unnumbered := by
  obtain ⟨taken₁, hsplit₁, hregistry₁⟩ := h₁.published
  obtain ⟨taken₂, hsplit₂, hregistry₂⟩ := h₂.published
  rw [(h₁.clean .claim).1, List.append_nil] at hsplit₁
  rw [(h₂.clean .claim).1, List.append_nil] at hsplit₂
  rw [hregistry₁, hregistry₂, ← hsplit₁, ← hsplit₂]

/-- The entity that both runs know under a name. -/
theorem find?_of_finished (hc : feeds.Consistent) {k : ObserverKind} (hk : k = .claim ∨ k = .pod)
    {name : String} {x y : Entity} (hx : (e₁.member k).session.entities.find? name = some x)
    (hy : (e₂.member k).session.entities.find? name = some y) :
    renumbering e₁.cached e₂.cached x.id = y.id := by
  have hother : k ≠ .attachment := by
    rintro rfl
    rcases hk with hk | hk <;> exact nomatch hk
  have hmem : ∀ {e : Ensemble MemoryStore} {x : Entity}, Finished initial id feeds e →
      (e.member k).session.entities.find? name = some x → x ∈ e.cached := by
    intro e x h hx
    have hvalue := (Keyed.mem_values_iff ((h.sane k).owning hother).lawful).mpr ⟨name, hx⟩
    rcases hk with rfl | rfl
    · exact List.mem_append_left _ hvalue
    · exact List.mem_append_right _ hvalue
  have hsame := (alike_of_finished h₁ h₂ hother).find? name
  rw [hx, hy] at hsame
  exact renumbering_apply h₁.toJoint h₂.toJoint hc (hmem h₁ hx) (hmem h₂ hy) (Option.some.inj hsame)

/-- What fired for claims and pods is stored for the same entities. -/
theorem views_of_finished (hc : feeds.Consistent) {k : ObserverKind} (hk : k ≠ .attachment) :
    ((e₂.member k).session.buffer.map Recorded.view).Perm
      (((e₁.member k).session.buffer.map Recorded.view).map
        (Session.renumberView (renumbering e₁.cached e₂.cached))) := by
  have hkind₁ := (h₁.sane k).proper.kind ▸ hk
  have hkind₂ := (h₂.sane k).proper.kind ▸ hk
  have hown₁ := (h₁.sane k).owning hk
  have hown₂ := (h₂.sane k).owning hk
  have hkept₁ := (h₁.sane k).proper.kept
  have hkept₂ := (h₂.sane k).proper.kept
  have hfired : (e₁.member k).session.fired = (e₂.member k).session.fired :=
    congrArg Guard.fired (alike_of_finished h₁ h₂ hk).guard
  have hnumber : ∀ f ∈ (e₁.member k).session.fired,
      renumbering e₁.cached e₂.cached ((e₁.member k).session.numberOf f.resource) =
        (e₂.member k).session.numberOf f.resource := by
    intro f hf
    have howner : k = .claim ∨ k = .pod := by
      cases k with
      | claim => exact Or.inl rfl
      | pod => exact Or.inr rfl
      | attachment => exact absurd rfl hk
      | count =>
          rw [(h₁.sane .count).silent rfl] at hf
          exact nomatch hf
    obtain ⟨x, hx⟩ := hown₁.known_of_fired hkind₁ hkept₁ hf
    obtain ⟨y, hy⟩ := hown₂.known_of_fired hkind₂ hkept₂ (hfired ▸ hf)
    rw [Session.numberOf, Session.numberOf, hx, hy]
    exact find?_of_finished h₁ h₂ hc howner hx hy
  refine (hown₂.views_perm hkind₂ hkept₂).trans (List.Perm.symm ?_)
  refine ((hown₁.views_perm hkind₁ hkept₁).map _).trans (List.Perm.of_eq ?_)
  rw [List.map_map, hfired]
  rw [hfired] at hnumber
  refine List.map_congr_left fun f hf => ?_
  exact congrArg (Prod.mk f) (hnumber f hf)

/-- The claim of an attachment is the same in both runs. -/
theorem claimOf_of_finished (hc : feeds.Consistent) (name : String) :
    (Session.claimOf (volumeOf feeds.attachments) e₁.shared.registry name).map
        (fun c => renumbering e₁.cached e₂.cached c.id) =
      (Session.claimOf (volumeOf feeds.attachments) e₂.shared.registry name).map (·.id) := by
  unfold Session.claimOf
  cases volumeOf feeds.attachments name with
  | none => rfl
  | some v =>
      have hsame : (e₁.shared.registry.lookup v).map Entity.unnumbered =
          (e₂.shared.registry.lookup v).map Entity.unnumbered := by
        rw [Registry.lookup, Registry.lookup, ← Keyed.find?_map, registry_of_finished h₁ h₂,
          Keyed.find?_map]
      rw [Option.bind_some, Option.bind_some]
      cases hx : e₁.shared.registry.lookup v with
      | none =>
          cases hy : e₂.shared.registry.lookup v with
          | none => rfl
          | some y =>
              rw [hx, hy] at hsame
              exact nomatch hsame
      | some x =>
          cases hy : e₂.shared.registry.lookup v with
          | none =>
              rw [hx, hy] at hsame
              exact nomatch hsame
          | some y =>
              rw [hx, hy] at hsame
              have hname : x.name = y.name := (Entity.key_of_unnumbered (Option.some.inj hsame)).2.1
              have hfindx := (h₁.registered v x hx).1
              have hfindy := (h₂.registered v y hy).1
              rw [← hname] at hfindy
              exact congrArg some (find?_of_finished h₁ h₂ hc (Or.inl rfl) hfindx hfindy)

/-- What fired for attachments is stored for the same claims. -/
theorem views_of_attachments (hc : feeds.Consistent) :
    ((e₂.member .attachment).session.buffer.map Recorded.view).Perm
      (((e₁.member .attachment).session.buffer.map Recorded.view).map
        (Session.renumberView (renumbering e₁.cached e₂.cached))) := by
  have hended : ∀ {e : Ensemble MemoryStore}, Finished initial id feeds e → ∀ name,
      ((e.member .attachment).session.bufferOn name).map Recorded.view =
        Session.outcome (Session.claimOf (volumeOf feeds.attachments) e.shared.registry name)
          (Firing.on name ((Session.start .attachment id).advanceAll feeds.attachments).fired) := by
    intro e h name
    cases h.watched with
    | live _ hlive _ _ _ =>
        have hsome := h.isSome .attachment
        rw [hlive] at hsome
        exact absurd hsome Bool.false_ne_true
    | ended _ _ hfired hviews => rw [hviews name, Session.firedOn, hfired]
  -- The runs may have recorded in different orders, so the views are compared name by name.
  refine perm_of_filter_eq (fun v : Firing × EntityId => v.1.resource) fun name => ?_
  have hfilter := List.filter_map (f := Session.renumberView (renumbering e₁.cached e₂.cached))
    (p := fun v => v.1.resource == name)
    (l := (e₁.member .attachment).session.buffer.map Recorded.view)
  rw [Session.views_filter, hended h₂ name, hfilter]
  have hfirst := (Session.views_filter (e₁.member .attachment).session name).trans (hended h₁ name)
  refine Eq.trans ?_ (congrArg (List.map _) hfirst.symm)
  have hclaim := claimOf_of_finished h₁ h₂ hc name
  generalize Session.claimOf (volumeOf feeds.attachments) e₁.shared.registry name = c₁ at hclaim ⊢
  generalize Session.claimOf (volumeOf feeds.attachments) e₂.shared.registry name = c₂ at hclaim ⊢
  cases c₁ with
  | none =>
      cases c₂ with
      | none => rfl
      | some y => exact absurd hclaim.symm (Option.some_ne_none _)
  | some x =>
      cases c₂ with
      | none => exact absurd hclaim (Option.some_ne_none _)
      | some y =>
          have hid : renumbering e₁.cached e₂.cached x.id = y.id := Option.some.inj hclaim
          rw [Session.outcome, Session.outcome, List.map_map]
          refine List.map_congr_left fun f _ => ?_
          exact congrArg (Prod.mk f) hid.symm

/-- The stores of both runs are the same but for the numbers of the rows. -/
theorem renumbered_of_finished (hc : feeds.Consistent) :
    MemoryStore.Renumbered id (renumbering e₁.cached e₂.cached) e₁.shared.store e₂.shared.store where
  entities := entities_renumbered h₁.toJoint h₂.toJoint (cached_of_finished h₁ h₂) hc
  nodup := h₂.filed.sound.nodup
  known ev hev := h₁.filed.sound.known ev (List.mem_filter.mp hev).1
  events := by
    have hviews : ∀ k, ((e₂.member k).session.buffer.map Recorded.view).Perm
        (((e₁.member k).session.buffer.map Recorded.view).map
          (Session.renumberView (renumbering e₁.cached e₂.cached))) := by
      intro k
      by_cases hk : k = .attachment
      · rw [hk]
        exact views_of_attachments h₁ h₂ hc
      · exact views_of_finished h₁ h₂ hc hk
    refine h₂.events.trans (List.Perm.trans ?_ (h₁.events.map _).symm)
    rw [List.map_flatMap]
    refine List.Perm.flatMap_left _ fun k _ => ?_
    have hsaid := (hviews k).map Session.said
    simp only [List.map_map] at hsaid ⊢
    exact hsaid
  counts := by
    rw [h₁.ledger.counts, h₂.ledger.counts, Member.storedCounts, Member.storedCounts,
      if_pos (h₁.isSome .count), if_pos (h₂.isSome .count),
      (alike_of_finished h₁ h₂ (k := .count) nofun).counts]
  testCase := by
    rw [MemoryStore.testCase, MemoryStore.testCase, h₁.ledger.testCases, h₂.ledger.testCases]

end

/-! ## Any two schedules -/

/-- The four sessions of a test case before anything happened, over a store in memory and an empty
registry. -/
def Ensemble.fresh (id : TestCaseId) (feeds : Feeds) (initial : MemoryStore) (supply : Supply)
    (signals : List Signal) : Ensemble MemoryStore :=
  assemble id feeds ⟨initial, .empty, supply, signals⟩

theorem finished_of_run (hfresh : initial.Fresh id) (hc : feeds.Consistent) {supply : Supply}
    {signals : List Signal} {schedule : List ObserverKind}
    (hfirst : (Ensemble.fresh id feeds initial supply signals).ClaimsFirst schedule)
    (hclean : ((Ensemble.fresh id feeds initial supply signals).run schedule).IsClean) :
    Finished initial id feeds ((Ensemble.fresh id feeds initial supply signals).run schedule) where
  toJoint := by
    refine (joint_assemble hfresh feeds supply signals).run hfresh hc hfirst fun k r hr => ?_
    obtain ⟨_, r', hr', hok⟩ := hclean k
    cases hr.symm.trans hr'
    exact hok
  clean := hclean

/-- Two schedules of the same feeds, both with a clean end, leave a test case with the same metrics:
the same counts of events, statistics of stages and peaks; and to the entities of each type and name
the same happened at the same moments. What is asked of a schedule is that all claims are told of
before the session that watches attachments ends. -/
theorem schedules_agree (hfresh : initial.Fresh id) (hc : feeds.Consistent)
    {supply₁ supply₂ : Supply} {signals₁ signals₂ : List Signal}
    {schedule₁ schedule₂ : List ObserverKind}
    (hfirst₁ : (Ensemble.fresh id feeds initial supply₁ signals₁).ClaimsFirst schedule₁)
    (hfirst₂ : (Ensemble.fresh id feeds initial supply₂ signals₂).ClaimsFirst schedule₂)
    (hclean₁ : ((Ensemble.fresh id feeds initial supply₁ signals₁).run schedule₁).IsClean)
    (hclean₂ : ((Ensemble.fresh id feeds initial supply₂ signals₂).run schedule₂).IsClean) :
    SameMetrics
      (CaseMetrics.collect id
        ((Ensemble.fresh id feeds initial supply₁ signals₁).run schedule₁).shared.store).1
      (CaseMetrics.collect id
        ((Ensemble.fresh id feeds initial supply₂ signals₂).run schedule₂).shared.store).1 := by
  have h₁ := finished_of_run hfresh hc hfirst₁ hclean₁
  have h₂ := finished_of_run hfresh hc hfirst₂ hclean₂
  rw [MemoryStore.collect_eq, MemoryStore.collect_eq]
  exact (renumbered_of_finished h₁ h₂ hc).metrics

/-- A claim that gets bound, a pod, the attachment of the claim and a sample. -/
def feedsOfOne : Feeds where
  claims := [⟨.added, some (.claim ⟨"data", "u1", none, none, none⟩), ⟨1⟩⟩,
    ⟨.modified, some (.claim ⟨"data", "u1", some "Bound", some "pv", none⟩), ⟨4⟩⟩]
  pods := [⟨.added, some (.pod ⟨"web", "u2", none, false, none⟩), ⟨2⟩⟩]
  attachments := [Session.sighting "va" false 5]
  listings := [⟨[], [], ⟨3⟩⟩]

/-- An earlier test case has left the row of the claim. -/
def claimLeft : MemoryStore :=
  (MemoryStore.empty.saveEntities [.fresh "data" "u1" .pvc 0]).2

/-- The attachment is seen when its claim is bound. -/
def claimBoundEarly : List ObserverKind :=
  [.claim, .claim, .pod, .attachment, .count, .pod, .attachment, .count]

/-- The attachment is seen before anything else, and waits for its claim. -/
def claimBoundLate : List ObserverKind :=
  [.attachment, .pod, .count, .count, .claim, .claim, .attachment, .pod]

/-- Both schedules leave one event of each type that fired and a claim that took three nanoseconds to get
bound. -/
theorem schedules_agree_claimBoundLate :
    let early := (Ensemble.fresh 1 feedsOfOne claimLeft .counting []).run (claimBoundEarly ++ [.claim])
    let late := (Ensemble.fresh 1 feedsOfOne claimLeft .counting []).run (claimBoundLate ++ [.claim])
    SameMetrics (CaseMetrics.collect 1 early.shared.store).1 (CaseMetrics.collect 1 late.shared.store).1 ∧
    ∃ m m', (CaseMetrics.collect 1 early.shared.store).1 = .ok m ∧
      (CaseMetrics.collect 1 late.shared.store).1 = .ok m' ∧ m.Agrees m' ∧
      m.count .pvcAttachStarted = 1 ∧ m.stage .pvcCreation = .ofSamples [⟨3⟩] ∧
      m.peaks = ⟨1, .zero⟩ := by
  intro early late
  have hfresh : claimLeft.Fresh 1 := ⟨.saveEntities _ .empty, rfl, rfl, rfl⟩
  have hconsistent : feedsOfOne.Consistent := by
    refine ⟨by unfold OneUid; decide +kernel, by decide, ?_⟩
    intro v name name' hname hname'
    have hall : ∀ b ∈ bindingsOf feedsOfOne.claims, b.1 = "data" := by decide
    exact (hall _ hname).trans (hall _ hname').symm
  have hearly : early = _ := run_eq_runUnsorted (by decide +kernel)
  have hlate : late = _ := run_eq_runUnsorted (by decide +kernel)
  have hclean₁ : early.IsClean := by
    rw [hearly]
    decide +kernel
  have hclean₂ : late.IsClean := by
    rw [hlate]
    decide +kernel
  have hsame := schedules_agree hfresh hconsistent (by decide +kernel) (by decide +kernel) hclean₁ hclean₂
  have hanswers : Answers early.shared.store early.shared.store.entities early.shared.store.events := by
    refine MemoryStore.answers ?_ ?_
    all_goals
      rw [hearly]
      decide +kernel
  obtain ⟨m, samples, hm, hsamples, hcounts, hstages, hpeaks⟩ := hanswers.collect_found 1 (by
    rw [hearly]
    decide +kernel)
  replace hm : (CaseMetrics.collect 1 early.shared.store).1 = .ok m := congrArg Prod.fst hm
  refine ⟨hsame, ?_⟩
  rw [hm] at hsame
  generalize (CaseMetrics.collect 1 late.shared.store).1 = answer at hsame ⊢
  cases hsame with
  | ok hagrees =>
      refine ⟨m, _, hm, rfl, hagrees, ?_, ?_, ?_⟩
      · rw [hcounts, hearly]
        decide +kernel
      · rw [hstages, hearly]
        exact congrArg DurationStats.ofSamples (by decide +kernel)
      · cases hsamples
        rw [hpeaks, hearly]
        decide +kernel

end StorageLifecycle

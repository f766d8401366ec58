import Mathlib.Data.List.Forall2
import StorageLifecycle.Proofs.Session.InStep
import StorageLifecycle.Proofs.Session.Runs
import StorageLifecycle.Store.Faulty
import StorageLifecycle.Store.Memory

/-!
# Notifications that are ignored

There are six reasons to ignore a notification, and one that is ignored moves two counters and does nothing
else. So the notifications that a session ignores may as well not come: without them the session holds the
same events, parks the same ones and stores the same batch, and the registry is the same.
-/

namespace StorageLifecycle

namespace Session

variable {σ : Type} {s : Session} {w : Shared σ}

/-- A claim or a pod asks for something, but the session does not know its entity, and the store refuses
it. -/
def LacksEntity [EventStore σ] (s : Session) (store : σ) (n : Notification) : Prop :=
  ∃ snapshot o err, n.object = some snapshot ∧ snapshot.owner? = some o ∧ s.asks n snapshot ≠ [] ∧
    s.entities.find? o.name = none ∧
    ((EventStore.saveEntities [s.ownedEntity o]).perform store).1 = .error err

/-- The reasons for which a session ignores a notification. -/
inductive Ignores [EventStore σ] (s : Session) (store : σ) (n : Notification) : Prop where
  | emptyPayload : n.object = none → Ignores s store n
  | unknownChange {what : String} : n.change = .other what → Ignores s store n
  | wrongKind {snapshot : Snapshot} : n.object = some snapshot →
      s.kind.resource ≠ some snapshot.kind → Ignores s store n
  | terminated {snapshot : Snapshot} : n.object = some snapshot →
      s.isTerminated snapshot.name = true → Ignores s store n
  | noVolume {a : AttachmentState} : n.object = some (.attachment a) → a.volume = none →
      Ignores s store n
  | entityUnavailable : s.LacksEntity store n → Ignores s store n

variable {n : Notification}

/-- A notification that is turned away is ignored. -/
theorem ignores_of_not_heeded [EventStore σ] (store : σ) (h : s.heeded n = none) :
    s.Ignores store n := by
  cases hobject : n.object with
  | none => exact .emptyPayload hobject
  | some snapshot =>
      cases hchange : n.change with
      | other what => exact .unknownChange hchange
      | _ =>
          by_cases hkind : s.kind.resource = some snapshot.kind
          · cases hopen : s.isTerminated snapshot.name with
            | true => exact .terminated hobject hopen
            | false =>
                have hknown : n.change.isKnown = true := by
                  rw [hchange]
                  rfl
                exact nomatch h.symm.trans (heeded_eq_some_iff.mpr ⟨hobject, hknown, hkind, hopen⟩)
          · exact .wrongKind hobject hkind

/-- A notification that is heeded may still want a volume or an entity. -/
theorem ignores_iff_of_heeded [EventStore σ] {store : σ} {snapshot : Snapshot}
    (h : s.heeded n = some snapshot) : s.Ignores store n ↔
      (∃ a, snapshot = .attachment a ∧ a.volume = none) ∨ s.LacksEntity store n := by
  obtain ⟨hobject, hknown, hkind, hopen⟩ := heeded_eq_some_iff.mp h
  constructor
  · intro hignores
    cases hignores with
    | emptyPayload hnone => exact nomatch hobject.symm.trans hnone
    | unknownChange hother =>
        rw [hother] at hknown
        exact nomatch hknown
    | wrongKind hsome hother =>
        cases hobject.symm.trans hsome
        exact absurd hkind hother
    | terminated hsome hdone =>
        cases hobject.symm.trans hsome
        exact nomatch hopen.symm.trans hdone
    | noVolume hsome hvolume =>
        cases hobject.symm.trans hsome
        exact .inl ⟨_, rfl, hvolume⟩
    | entityUnavailable hlacks => exact .inr hlacks
  · rintro (⟨a, rfl, hvolume⟩ | hlacks)
    · exact .noVolume hobject hvolume
    · exact .entityUnavailable hlacks

/-- The entity that is lacking is the one of the snapshot that is heeded. -/
theorem lacksEntity_iff_of_heeded [EventStore σ] {store : σ} {snapshot : Snapshot} {o : Owner}
    (h : s.heeded n = some snapshot) (ho : snapshot.owner? = some o) : s.LacksEntity store n ↔
      s.asks n snapshot ≠ [] ∧ s.entities.find? o.name = none ∧
        ∃ err, ((EventStore.saveEntities [s.ownedEntity o]).perform store).1 = .error err := by
  obtain ⟨hobject, -⟩ := heeded_eq_some_iff.mp h
  constructor
  · rintro ⟨snapshot', o', err, hobject', ho', hasks, hcache, hsave⟩
    cases hobject.symm.trans hobject'
    cases ho.symm.trans ho'
    exact ⟨hasks, hcache, err, hsave⟩
  · rintro ⟨hasks, hcache, err, hsave⟩
    exact ⟨snapshot, o, err, hobject, ho, hasks, hcache, hsave⟩

/-! ## One notification -/

/-- A notification that is ignored counts as handled and as ignored, and that is all. -/
theorem handleAmid_of_ignores [EventStore σ] (h : s.Ignores w.store n) (after : Registry) :
    (s.handleAmid w after n).1 = s.countHandled.countIgnored ∧
      (s.handleAmid w after n).2.registry = w.registry ∧
      (s.handleAmid w after n).2.supply = w.supply := by
  cases hheed : s.heeded n with
  | none =>
      obtain ⟨reason, lines, heq⟩ := handleAmid_of_unheeded (w := w) after hheed
      rw [heq]
      exact ⟨rfl, rfl, rfl⟩
  | some snapshot =>
      rcases (ignores_iff_of_heeded hheed).mp h with ⟨a, rfl, hvolume⟩ | hlacks
      · obtain ⟨reason, lines, heq⟩ := handleAmid_of_no_volume (w := w) after hheed hvolume
        rw [heq]
        exact ⟨rfl, rfl, rfl⟩
      · obtain ⟨snapshot', o, err, hobject, howner, hasks, hcache, hsave⟩ := hlacks
        cases (heeded_eq_some_iff.mp hheed).1.symm.trans hobject
        rw [handleAmid_of_owner hheed howner]
        cases hsaved : (EventStore.saveEntities [s.ownedEntity o]).perform w.store with
        | mk answer store =>
            rw [hsaved] at hsave
            have hanswer : answer = .error err := hsave
            subst hanswer
            obtain ⟨lines, hrefused⟩ :=
              ensureEntity_of_refused (s := s.countHandled) (w := w) hcache hsaved
            rw [applyOwn_of_no_entity hasks hrefused]
            exact ⟨rfl, rfl, rfl⟩

/-- How many notifications a session has handled, and how many of them it has ignored. -/
def counters (s : Session) : Nat × Nat := (s.handled, s.ignored)

theorem counters_fire (name : String) (observedAt : Instant) (types : List EventType) :
    (s.fire name observedAt types).counters = s.counters := by
  rw [fire_eq]
  rfl

/-- A claim or a pod that has an entity moves no counter by what it fires. -/
theorem counters_applyOwn_of_entity [EventStore σ] {o : Owner} {observedAt : Instant} {snapshot : Snapshot}
    {e : Entity} {s₁ : Session} {w₁ : Shared σ} (hasks : s.asks n snapshot ≠ [])
    (hensured : s.ensureEntity w o = (some e, s₁, w₁)) (hsame : s₁.counters = s.counters) :
    (s.applyOwn w o (s.asks n snapshot) observedAt).1.counters = s.counters := by
  obtain ⟨added, heq, -⟩ :=
    stamped_fireAllOwn_spec (s := s₁) (w := w₁) o e observedAt (asks_nodup (s := s) n snapshot)
  rw [applyOwn_of_entity hasks hensured, heq]
  exact (counters_fire (s := s₁) o.name observedAt _).trans hsame

/-- A notification that is not ignored is handled. -/
theorem counters_of_not_ignores [EventStore σ] (h : ¬ s.Ignores w.store n) (after : Registry) :
    (s.handleAmid w after n).1.counters = (s.handled + 1, s.ignored) := by
  cases hheed : s.heeded n with
  | none => exact absurd (ignores_of_not_heeded w.store hheed) h
  | some snapshot =>
      -- What is left are the two reasons that come up after the first looks at the payload.
      rw [ignores_iff_of_heeded hheed, not_or] at h
      obtain ⟨hvolumes, hentity⟩ := h
      cases howner : snapshot.owner? with
      | some o =>
          rw [handleAmid_of_owner hheed howner]
          by_cases hasks : s.asks n snapshot = []
          · rw [hasks]
            rfl
          · cases hcache : s.entities.find? o.name with
            | some e =>
                exact counters_applyOwn_of_entity (s := s.countHandled) hasks
                  (ensureEntity_of_cached hcache) rfl
            | none =>
                cases hsave : (EventStore.saveEntities [s.ownedEntity o]).perform w.store with
                | mk answer store =>
                    cases answer with
                    | ok ids =>
                        exact counters_applyOwn_of_entity (s := s.countHandled) hasks
                          (ensureEntity_of_saved hcache hsave) rfl
                    | error err =>
                        refine absurd ?_ hentity
                        exact (lacksEntity_iff_of_heeded hheed howner).mpr
                          ⟨hasks, hcache, err, congrArg Prod.fst hsave⟩
      | none =>
          obtain ⟨a, rfl⟩ := Snapshot.eq_attachment_of_owner? howner
          cases hvolume : a.volume with
          | none => exact absurd ⟨a, rfl, hvolume⟩ hvolumes
          | some volume =>
              rw [handleAmid_of_attachment hheed hvolume, applyAttachment_eq,
                fireAttachment_frame (f := counters) (fun _ _ _ => rfl), counters_fire,
                tryResolve_frame (f := counters) (fun _ _ _ => rfl)]
              rfl

/-- What a notification does to the counters; and one that is ignored does nothing else. -/
structure Tallies [EventStore σ] (s : Session) (w : Shared σ) (n : Notification) (s' : Session)
    (w' : Shared σ) : Prop where
  handled : s'.handled = s.handled + 1
  ignored : s.Ignores w.store n ∧ s'.ignored = s.ignored + 1 ∨
    ¬ s.Ignores w.store n ∧ s'.ignored = s.ignored
  unchanged : s.Ignores w.store n →
    s' = { s with handled := s.handled + 1, ignored := s.ignored + 1 } ∧
      w'.registry = w.registry ∧ w'.supply = w.supply

theorem handleAmid_tallies [EventStore σ] (s : Session) (w : Shared σ) (after : Registry)
    (n : Notification) : s.Tallies w n (s.handleAmid w after n).1 (s.handleAmid w after n).2 := by
  by_cases h : s.Ignores w.store n
  · obtain ⟨hsession, hregistry, hsupply⟩ := handleAmid_of_ignores h after
    rw [hsession]
    exact ⟨rfl, .inl ⟨h, rfl⟩, fun _ => ⟨rfl, hregistry, hsupply⟩⟩
  · have hcounters := counters_of_not_ignores h after
    exact ⟨congrArg Prod.fst hcounters, .inr ⟨h, congrArg Prod.snd hcounters⟩, fun h' => absurd h' h⟩

/-! ## Encounters -/

theorem InStep.publishAll {p q : Session × Shared σ} (h : InStep p q) (claims : List (String × Entity)) :
    InStep (p.1, { p.2 with registry := p.2.registry.publishAll claims })
      (q.1, { q.2 with registry := q.2.registry.publishAll claims }) := by
  refine ⟨h.session, ?_, h.supply⟩
  show p.2.registry.publishAll claims = q.2.registry.publishAll claims
  rw [h.registry]

/-- A session's test case stays. -/
theorem steady_testCase (id : TestCaseId) :
    Steady (fun _ => True) (fun _ => True) fun s => s.testCase = id where
  bare hbare h := (congrArg Session.testCase hbare).trans h
  own h _ _ _ _ := (fire_testCase _ _ _).trans h
  retry _ _ _ h _ := (tryResolve_frame (fun _ _ _ => rfl) _ _).trans h
  attach _ _ _ _ _ h _ _ _ _ :=
    (fireAttachment_frame (fun _ _ _ => rfl) _ _ _ _ _).trans ((fire_testCase _ _ _).trans h)

end Session

/-- Something that a session lives through, and the store that it finds then: others may have written to
it in the meantime. -/
structure Encounter (σ : Type) where
  store : σ
  occurrence : Occurrence
deriving DecidableEq

namespace Session

variable {σ : Type} [EventStore σ]

/-- Lives through one encounter. What others publish during a notification comes behind what the session
publishes itself; the second lookup of the notification finds it. -/
def meet (p : Session × Shared σ) (x : Encounter σ) : Session × Shared σ :=
  match x.occurrence with
  | .publish volume claim => (p.1, p.2.publish volume claim)
  | .notify n during =>
    let (s, w) := p.1.handleAmid { p.2 with store := x.store } (p.2.registry.publishAll during) n
    (s, { w with registry := w.registry.publishAll during })

/-- Lives through encounters in their order. -/
def meetAll (p : Session × Shared σ) (xs : List (Encounter σ)) : Session × Shared σ := xs.foldl meet p

theorem meet_of_notify (p : Session × Shared σ) {x : Encounter σ} {n : Notification}
    {during : List (String × Entity)} (h : x.occurrence = .notify n during) : meet p x =
      let q := p.1.handleAmid { p.2 with store := x.store } (p.2.registry.publishAll during) n
      (q.1, { q.2 with registry := q.2.registry.publishAll during }) := by
  unfold meet
  rw [h]

theorem meetAll_cons (p : Session × Shared σ) (x : Encounter σ) (xs : List (Encounter σ)) :
    meetAll p (x :: xs) = meetAll (meet p x) xs := rfl

theorem meetAll_append (p : Session × Shared σ) (xs ys : List (Encounter σ)) :
    meetAll p (xs ++ ys) = meetAll (meetAll p xs) ys := List.foldl_append

/-- What is left of an encounter without the notification that was ignored: what others published. -/
def spare (p : Session × Shared σ) (x : Encounter σ) : List (Encounter σ) :=
  match x.occurrence with
  | .publish _ _ => [x]
  | .notify _ during =>
    if (meet p x).1.ignored = p.1.ignored then [x]
    else during.map fun c => ⟨x.store, .publish c.1 c.2⟩

/-- The encounters without the notifications that the session ignores. -/
def spared (p : Session × Shared σ) : List (Encounter σ) → List (Encounter σ)
  | [] => []
  | x :: rest => spare p x ++ spared (meet p x) rest

/-- The same encounter with a store that gives the same answer when the entity of the notification is
saved. -/
def Resembles (id : TestCaseId) (y x : Encounter σ) : Prop :=
  y.occurrence = x.occurrence ∧ ∀ n during, x.occurrence = .notify n during → ∀ o, n.owner? = some o →
    Answers x.store y.store (.fresh o.name o.uid o.type id)

variable {s t : Session} {w v : Shared σ} {id : TestCaseId} {p q : Session × Shared σ}
  {x y : Encounter σ} {xs ys : List (Encounter σ)}

/-- A notification that is ignored leaves a session in step with one that never saw it. -/
theorem inStep_of_ignores (h : InStep (s, w) (t, v)) {n : Notification} (hignores : s.Ignores w.store n)
    (after : Registry) : InStep (s.handleAmid w after n) (t, v) := by
  obtain ⟨hsession, hregistry, hsupply⟩ := handleAmid_of_ignores hignores after
  refine ⟨?_, hregistry.trans h.registry, hsupply.trans h.supply⟩
  rw [hsession]
  exact h.session

theorem occurrences_of_resembles (h : List.Forall₂ (Resembles id) ys xs) :
    ys.map (·.occurrence) = xs.map (·.occurrence) := by
  induction h with
  | nil => rfl
  | cons hone _ ih => rw [List.map_cons, List.map_cons, hone.1, ih]

/-- To meet publications one by one is to publish all of them. -/
theorem meetAll_publications (claims : List (String × Entity))
    (h : ys.map (·.occurrence) = claims.map fun c => .publish c.1 c.2) :
    meetAll q ys = (q.1, { q.2 with registry := q.2.registry.publishAll claims }) := by
  induction claims generalizing q ys with
  | nil =>
      rw [List.map_nil, List.map_eq_nil_iff] at h
      subst h
      rfl
  | cons c rest ih =>
      obtain ⟨y, ys, rfl, hy, hrest⟩ := List.map_eq_cons_iff.mp h
      rw [meetAll_cons, ih hrest, meet, hy]
      rfl

theorem meet_testCase (p : Session × Shared σ) (x : Encounter σ) :
    (meet p x).1.testCase = p.1.testCase := by
  unfold meet
  split
  · rfl
  · exact (steady_testCase p.1.testCase).handleAmid trivial trivial trivial rfl

/-- One encounter keeps two sessions in step if the second one is spared what the first one ignores. -/
theorem InStep.meet (h : InStep p q) (hys : List.Forall₂ (Resembles p.1.testCase) ys (spare p x)) :
    InStep (Session.meet p x) (meetAll q ys) := by
  obtain ⟨store, occurrence⟩ := x
  cases occurrence with
  | publish volume claim =>
      obtain ⟨y, _, ⟨hsame, -⟩, hnil, rfl⟩ := List.forall₂_cons_right_iff.mp hys
      obtain rfl := List.forall₂_nil_right_iff.mp hnil
      rw [meetAll_cons, Session.meet, Session.meet, hsame]
      exact h.publish volume claim
  | notify n during =>
      have hstored : InStep (p.1, { p.2 with store }) q := ⟨h.session, h.registry, h.supply⟩
      have htallies := handleAmid_tallies p.1 { p.2 with store } (p.2.registry.publishAll during) n
      unfold spare at hys
      dsimp only at hys
      split at hys
      · obtain ⟨y, _, ⟨hsame, hanswers⟩, hnil, rfl⟩ := List.forall₂_cons_right_iff.mp hys
        obtain rfl := List.forall₂_nil_right_iff.mp hnil
        rw [meetAll_cons, meet_of_notify p rfl, meet_of_notify q hsame, ← h.registry]
        refine InStep.publishAll (InStep.handleAmid (h.store store y.store) _ ?_) during
        exact hanswers n during rfl
      · -- The counter of ignored notifications moved, so this one is spared, and only what others
        -- published in the meantime is left of the encounter.
        rename_i hmoved
        have hignores : p.1.Ignores store n := by
          rcases htallies.ignored with ⟨hignores, -⟩ | ⟨-, hsame⟩
          · exact hignores
          · exact absurd hsame hmoved
        have hpublished := occurrences_of_resembles hys
        rw [List.map_map] at hpublished
        rw [meet_of_notify p rfl, meetAll_publications during hpublished]
        exact InStep.publishAll (inStep_of_ignores hstored hignores _) during

/-- The notifications that a session ignores have no effect on it. -/
theorem inStep_spared (h : InStep p q) (hys : List.Forall₂ (Resembles p.1.testCase) ys (spared p xs)) :
    InStep (meetAll p xs) (meetAll q ys) := by
  induction xs generalizing p q ys with
  | nil =>
      obtain rfl := List.forall₂_nil_right_iff.mp hys
      exact h
  | cons x rest ih =>
      rw [spared] at hys
      have hfirst := List.forall₂_take_append _ _ _ hys
      have hrest := List.forall₂_drop_append _ _ _ hys
      rw [← meet_testCase p x] at hrest
      -- The spared run falls into what is left of this encounter and what is left of the others.
      rw [meetAll_cons, ← List.take_append_drop (spare p x).length ys, meetAll_append]
      exact ih (h.meet hfirst) hrest

/-- A notification moves one counter or two, and one that is ignored does nothing else. So a session that
is spared the notifications that it ignores is in step with the one that was not, and stores the same
batch, however its parked attachments are tried at the end. -/
theorem tallies_and_spared (s : Session) (w : Shared σ) :
    (∀ after n, s.Tallies w n (s.handleAmid w after n).1 (s.handleAmid w after n).2) ∧
      ∀ xs ys, List.Forall₂ (Resembles s.testCase) ys (spared (s, w) xs) →
        InStep (meetAll (s, w) xs) (meetAll (s, w) ys) ∧
          ∀ tries, ((meetAll (s, w) xs).1.settle (meetAll (s, w) xs).2 tries).1.batch =
            ((meetAll (s, w) ys).1.settle (meetAll (s, w) ys).2 tries).1.batch := by
  refine ⟨fun after n => handleAmid_tallies s w after n, fun xs ys hys => ?_⟩
  have hstep := inStep_spared (InStep.refl s w) hys
  exact ⟨hstep, hstep.batch⟩

/-- The addition of a claim and its deletion. -/
def comings (store : Faulty MemoryStore) : List (Encounter (Faulty MemoryStore)) :=
  let claim : Snapshot := .claim ⟨"data", "u", some "Pending", none, none⟩
  [⟨store, .publish "pv-0" (.fresh "other" "v" .pvc 1)⟩, ⟨store, .notify ⟨.added, some claim, ⟨4⟩⟩ []⟩,
    ⟨store, .notify ⟨.deleted, some claim, ⟨5⟩⟩ []⟩]

/-- The same among notifications of no use to the session: before them, while the store refuses the claim,
and after them. Others publish while one of them is handled. -/
def nuisances : List (Encounter (Faulty MemoryStore)) :=
  let claim : Snapshot := .claim ⟨"data", "u", some "Pending", none, none⟩
  let sound : Faulty MemoryStore := .sound .empty
  let down := sound.inject .saveEntities ⟨.connection "down", none⟩
  [⟨sound, .notify ⟨.added, none, ⟨0⟩⟩ []⟩,
    ⟨sound, .notify ⟨.other "BOOKMARK", some claim, ⟨1⟩⟩ [("pv-0", .fresh "other" "v" .pvc 1)]⟩,
    ⟨sound, .notify ⟨.added, some (.pod ⟨"web", "p", none, false, none⟩), ⟨2⟩⟩ []⟩,
    ⟨down, .notify ⟨.added, some claim, ⟨3⟩⟩ []⟩,
    ⟨sound, .notify ⟨.added, some claim, ⟨4⟩⟩ []⟩,
    ⟨sound, .notify ⟨.deleted, some claim, ⟨5⟩⟩ []⟩,
    ⟨sound, .notify ⟨.modified, some claim, ⟨6⟩⟩ []⟩]

/-- Five of seven notifications are ignored, and the two others alone come to the same, also over a store in
which there is a test case already. -/
theorem tallies_and_spared_nuisances :
    let p : Session × Shared (Faulty MemoryStore) := (start .claim 1, .start (.sound .empty))
    let ys := comings (.sound (MemoryStore.empty.createTestCase ⟨0, "t", "r", ⟨0⟩, none, none⟩).2)
    List.Forall₂ (Resembles 1) ys (spared p nuisances) ∧ (meetAll p nuisances).1.counters = (7, 5) ∧
      InStep (meetAll p nuisances) (meetAll p ys) := by
  intro p ys
  have hspared : spared p nuisances = comings (.sound .empty) := by decide +kernel
  have hys : List.Forall₂ (Resembles 1) ys (spared p nuisances) := by
    rw [hspared]
    refine .cons ⟨rfl, nofun⟩ (.cons ⟨rfl, ?_⟩ (.cons ⟨rfl, ?_⟩ .nil)) <;>
    · rintro n during ⟨⟩ o ⟨⟩
      rfl
  refine ⟨hys, by decide +kernel, ?_⟩
  exact ((tallies_and_spared p.1 p.2).2 nuisances ys hys).1

end Session

end StorageLifecycle

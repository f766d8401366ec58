import StorageLifecycle.Proofs.Session.Guard

/-!
# What a notification does

A notification of a claim or a pod may need the entity of its resource: the session knows it
already, or the store is asked for it and gives it or refuses. From there on nothing depends on the
store any more. The law of this module says all that a notification can do to a session and to what
it shares, over any store. So a property of sessions that these few steps keep is kept by every
notification, and by every run, whatever becomes of the store and the registry meanwhile.
-/

namespace StorageLifecycle.Session

variable {σ : Type} [EventStore σ]

/-- What comes of the wish for the entity of an owner. `entities` and `store` are the cache and the
store afterwards. -/
inductive Ensured (s : Session) (before : σ) (o : Owner) : Option Entity → Keyed Entity → σ → Prop
  /-- The session knows the entity already. -/
  | known {e : Entity} : s.entities.find? o.name = some e → Ensured s before o (some e) s.entities
      before
  /-- The store has a row for the entity now. -/
  | stored {ids : List EntityId} {store : σ} : s.entities.find? o.name = none →
      (EventStore.saveEntities [s.ownedEntity o]).perform before = (.ok ids, store) →
      Ensured s before o (some { s.ownedEntity o with id := ids.headD 0 })
        (s.entities.insert o.name { s.ownedEntity o with id := ids.headD 0 }) store
  /-- The store refuses it. -/
  | refused {e : StoreError} {store : σ} : s.entities.find? o.name = none →
      (EventStore.saveEntities [s.ownedEntity o]).perform before = (.error e, store) →
      Ensured s before o none s.entities store

variable {s : Session} {w : Shared σ} {o : Owner}

/-- A wish changes the cache and the store, and nothing else. -/
theorem ensureEntity_ensured (s : Session) (w : Shared σ) (o : Owner) :
    ∃ e s' w', s.ensureEntity w o = (e, s', w') ∧ s.Ensured w.store o e s'.entities w'.store ∧
      s'.bare = s.bare ∧ w'.registry = w.registry := by
  cases hcache : s.entities.find? o.name with
  | some e => exact ⟨some e, s, w, ensureEntity_of_cached hcache, .known hcache, rfl, rfl⟩
  | none =>
      cases hsave : EventStore.saveEntities [s.ownedEntity o] w.store with
      | mk answer store =>
          cases answer with
          | ok ids =>
              exact ⟨_, _, _, ensureEntity_of_saved hcache hsave, .stored hcache hsave, rfl, rfl⟩
          | error e =>
              obtain ⟨lines, heq⟩ := ensureEntity_of_refused hcache hsave
              exact ⟨_, _, _, heq, .refused hcache hsave, rfl, rfl⟩

/-- The store is written to only by saving the entity. -/
theorem Ensured.store {before store : σ} {e : Option Entity} {entities : Keyed Entity}
    (h : s.Ensured before o e entities store) : store = before ∨
      ∃ answer, (EventStore.saveEntities [s.ownedEntity o]).perform before = (answer, store) := by
  cases h with
  | known _ => exact Or.inl rfl
  | stored _ hsave => exact Or.inr ⟨_, hsave⟩
  | refused _ hsave => exact Or.inr ⟨_, hsave⟩

/-- The counters of a session have no part in it. -/
theorem Ensured.uncounted {before store : σ} {e : Option Entity} {entities : Keyed Entity}
    (h : s.countHandled.Ensured before o e entities store) :
    s.Ensured before o e entities store := by
  cases h with
  | known hfind => exact .known hfind
  | stored hfind hsave => exact .stored hfind hsave
  | refused hfind hsave => exact .refused hfind hsave

/-- The entity is cached under the name of its owner. -/
theorem Ensured.find? {before store : σ} {e : Entity} {entities : Keyed Entity}
    (h : s.Ensured before o (some e) entities store) : entities.find? o.name = some e := by
  cases h with
  | known hfind => exact hfind
  | stored _ _ => exact (Keyed.find?_insert _ _ _ _).trans (if_pos rfl)

/-- What was cached before stays. -/
theorem Ensured.mono {before store : σ} {e : Option Entity} {entities : Keyed Entity}
    (h : s.Ensured before o e entities store) {name : String} {x : Entity}
    (hx : s.entities.find? name = some x) : entities.find? name = some x := by
  cases h with
  | known _ => exact hx
  | stored hfind _ =>
      have hne : name ≠ o.name := by
        rintro rfl
        exact nomatch hfind.symm.trans hx
      rw [Keyed.find?_insert, if_neg hne]
      exact hx
  | refused _ _ => exact hx

/-- Nothing is cached but what was before, and the entity. -/
theorem Ensured.find?_cases {before store : σ} {e : Option Entity} {entities : Keyed Entity}
    (h : s.Ensured before o e entities store) {name : String} {x : Entity}
    (hx : entities.find? name = some x) : s.entities.find? name = some x ∨ name = o.name ∧ e = some x := by
  cases h with
  | known _ => exact .inl hx
  | stored _ _ =>
      rw [Keyed.find?_insert] at hx
      split at hx
      · exact .inr ⟨‹_›, hx⟩
      · exact .inl hx
  | refused _ _ => exact .inl hx

/-- What a notification does to a session and to what it shares. -/
inductive Handled (s : Session) (w : Shared σ) (after : Registry) (n : Notification) (s' : Session)
    (w' : Shared σ) : Prop
  /-- It is turned away, or it asks for nothing. -/
  | quiet (bare : s'.bare = s.bare) (entities : s'.entities = s.entities)
      (store : w'.store = w.store) (registry : w'.registry = w.registry)
      (asks : ∀ snapshot o, s.heeded n = some snapshot → snapshot.owner? = some o →
        s.asks n snapshot = [])
  /-- The store refuses the entity of a claim or a pod. -/
  | refused {snapshot : Snapshot} {o : Owner} (heeded : s.heeded n = some snapshot)
      (owner : snapshot.owner? = some o)
      (ensured : s.Ensured w.store o none s'.entities w'.store) (bare : s'.bare = s.bare)
      (registry : w'.registry = w.registry)
  /-- What is asked for fires for the entity of a claim or a pod. -/
  | acted {snapshot : Snapshot} {o : Owner} {e : Entity} {added : List Recorded}
      (heeded : s.heeded n = some snapshot) (owner : snapshot.owner? = some o)
      (asks : s.asks n snapshot ≠ [])
      (ensured : s.Ensured w.store o (some e) s'.entities w'.store)
      (bare : s'.bare = ((s.fire o.name n.observedAt (s.asks n snapshot)).extend added).bare)
      (records : s.Records e.id
        (firingsOf o.name (s.freshEvents o.name n.observedAt (s.asks n snapshot))) added)
      (registry : w'.registry = handedOff w.registry o e (s.fresh o.name (s.asks n snapshot)))
  /-- The parked events of an attachment are tried again, and what is asked for fires. -/
  | attached {a : AttachmentState} {volume : String} (heeded : s.heeded n = some (.attachment a))
      (bound : a.volume = some volume)
      (applied : (s', w') = s.countHandled.applyAttachment w w.registry after a.name volume
        (s.asks n (.attachment a)) n.observedAt)

theorem handled_of_owner {n : Notification} {snapshot : Snapshot} (after : Registry)
    (hheed : s.heeded n = some snapshot) (howner : snapshot.owner? = some o) :
    s.Handled w after n (s.countHandled.applyOwn w o (s.asks n snapshot) n.observedAt).1
      (s.countHandled.applyOwn w o (s.asks n snapshot) n.observedAt).2 := by
  by_cases htypes : s.asks n snapshot = []
  · rw [htypes]
    refine .quiet rfl rfl rfl rfl ?_
    intro snapshot' _ hheed' _
    cases hheed.symm.trans hheed'
    exact htypes
  · obtain ⟨e, s₁, w₁, hensure, hensured, hbare, hregistry⟩ :=
      ensureEntity_ensured s.countHandled w o
    cases e with
    | none =>
        rw [applyOwn_of_no_entity htypes hensure]
        exact .refused hheed howner hensured.uncounted hbare hregistry
    | some e =>
        rw [applyOwn_of_entity htypes hensure]
        obtain ⟨added, heq, hrec⟩ :=
          stamped_fireAllOwn_spec (s := s₁) (w := w₁) o e n.observedAt (asks_nodup n snapshot)
        have hguard : s₁.guard = s.guard := guard_of_bare hbare
        have hcase : s₁.bare.testCase = s.countHandled.bare.testCase :=
          congrArg Session.testCase hbare
        refine Handled.acted (e := e) hheed howner htypes ?_ ?_ (show Records _ _ _ added from ⟨?_, ?_⟩) ?_
        · rw [heq, fireAllOwn_store]
          show s.Ensured w.store o (some e)
            (s₁.fire o.name n.observedAt (s.asks n snapshot)).entities w₁.store
          rw [fire_entities]
          exact hensured.uncounted
        · rw [heq, bare_fire_extend, bare_fire_extend, hbare]
          rfl
        · rw [← freshEvents_congr hguard]
          exact hrec.views
        · intro r hr
          exact (hrec.testCase r hr).trans hcase
        · rw [fireAllOwn_registry _ _ _ (asks_nodup n snapshot), hregistry]
          exact congrArg _ (fresh_congr hguard _ _)

theorem handleAmid_handled (s : Session) (w : Shared σ) (after : Registry) (n : Notification) :
    s.Handled w after n (s.handleAmid w after n).1 (s.handleAmid w after n).2 := by
  cases hheed : s.heeded n with
  | none =>
      obtain ⟨reason, lines, heq⟩ := handleAmid_of_unheeded (w := w) after hheed
      rw [heq]
      exact .quiet rfl rfl rfl rfl fun _ _ h => nomatch hheed.symm.trans h
  | some snapshot =>
      cases howner : snapshot.owner? with
      | some o =>
          rw [handleAmid_of_owner hheed howner]
          exact handled_of_owner after hheed howner
      | none =>
          obtain ⟨a, rfl⟩ := Snapshot.eq_attachment_of_owner? howner
          cases hvolume : a.volume with
          | none =>
              obtain ⟨reason, lines, heq⟩ := handleAmid_of_no_volume (w := w) after hheed hvolume
              rw [heq]
              refine .quiet rfl rfl rfl rfl ?_
              intro snapshot' o hheed' howner'
              cases hheed.symm.trans hheed'
              exact nomatch howner'
          | some volume =>
              refine .attached hheed hvolume ?_
              rw [handleAmid_of_attachment hheed hvolume]

/-- A notification leaves the guard of a session alone, or it does to the guard what firing at its moment
does. -/
theorem guard_handleAmid_cases (s : Session) (w : Shared σ) (after : Registry) (n : Notification) :
    (s.handleAmid w after n).1.guard = s.guard ∨ ∃ name types,
      (s.handleAmid w after n).1.guard = (s.fire name n.observedAt types).guard := by
  cases handleAmid_handled s w after n with
  | quiet hbare _ _ _ _ => exact .inl (guard_of_bare hbare)
  | refused _ _ _ hbare _ => exact .inl (guard_of_bare hbare)
  | @acted snapshot o _ _ _ _ _ _ hbare _ _ =>
      exact .inr ⟨o.name, s.asks n snapshot, (guard_of_bare hbare).trans rfl⟩
  | @attached a volume _ _ happlied =>
      have hretried : (s.countHandled.tryResolve w w.registry a.name).1.guard = s.guard :=
        guard_tryResolve _ _
      refine .inr ⟨a.name, s.asks n (.attachment a), ?_⟩
      rw [← guard_fire_congr hretried]
      exact (congrArg (fun p => p.1.guard) happlied).trans (guard_fireAttachment _ _ _ _ _)

/-- A notification writes to the store only to save the entity of a claim or a pod. -/
theorem handleAmid_store (s : Session) (w : Shared σ) (after : Registry) (n : Notification) :
    (s.handleAmid w after n).2.store = w.store ∨
      ∃ snapshot o answer, s.heeded n = some snapshot ∧ snapshot.owner? = some o ∧
        (EventStore.saveEntities [s.ownedEntity o]).perform w.store =
          (answer, (s.handleAmid w after n).2.store) := by
  cases handleAmid_handled s w after n with
  | quiet _ _ hstore _ _ => exact Or.inl hstore
  | refused hheed howner hensured _ _ =>
      rcases hensured.store with hstore | ⟨answer, hsave⟩
      · exact Or.inl hstore
      · exact Or.inr ⟨_, _, answer, hheed, howner, hsave⟩
  | acted hheed howner _ hensured _ _ _ =>
      rcases hensured.store with hstore | ⟨answer, hsave⟩
      · exact Or.inl hstore
      · exact Or.inr ⟨_, _, answer, hheed, howner, hsave⟩
  | attached _ _ happlied =>
      have hstore := congrArg (fun p => p.2.store) happlied
      exact Or.inl (hstore.trans ((fireAttachment_store _ _ _ _ _).trans (tryResolve_store _ _)))

/-! ## What every notification keeps -/

/-- A property of sessions that is kept by the few steps of which the handling of a notification
is made up, as long as the registries and the notifications are of the given kind. -/
structure Steady (seen : Registry → Prop) (got : Notification → Prop) (P : Session → Prop) :
    Prop where
  /-- It does not depend on the cache and the counters. -/
  bare : ∀ {s t : Session}, t.bare = s.bare → P s → P t
  own : ∀ {s : Session} {n : Notification} {snapshot : Snapshot} {o : Owner} {e : Entity}
    {added : List Recorded}, P s → got n → s.heeded n = some snapshot →
    snapshot.owner? = some o →
    s.Records e.id (firingsOf o.name (s.freshEvents o.name n.observedAt (s.asks n snapshot))) added →
    P ((s.fire o.name n.observedAt (s.asks n snapshot)).extend added)
  retry : ∀ {σ : Type} {s : Session} (w : Shared σ) {registry : Registry} (name : String), P s →
    seen registry → P (s.tryResolve w registry name).1
  attach : ∀ {σ : Type} {s : Session} (w : Shared σ) {registry : Registry} {n : Notification}
    {a : AttachmentState} {volume : String}, P s → seen registry → got n →
    s.heeded n = some (.attachment a) → a.volume = some volume →
    P (s.fireAttachment w registry a.name volume (s.asks n (.attachment a)) n.observedAt).1

section

variable {seen : Registry → Prop} {got : Notification → Prop} {P : Session → Prop}

theorem Steady.handleAmid (hP : Steady seen got P) {after : Registry} {n : Notification}
    (hbefore : seen w.registry) (hafter : seen after) (hn : got n) (h : P s) :
    P (s.handleAmid w after n).1 := by
  cases handleAmid_handled s w after n with
  | quiet hbare _ _ _ _ | refused _ _ _ hbare _ => exact hP.bare hbare h
  | acted hheed howner _ _ hbare hrec _ => exact hP.bare hbare (hP.own h hn hheed howner hrec)
  | @attached a volume hheed hvolume happlied =>
      have hcounted : P s.countHandled := hP.bare (s := s) rfl h
      -- The parked events are tried first; what is asked for then is the same as before.
      have hretried := hP.retry w a.name hcounted hbefore
      have hheed' :=
        (heeded_tryResolve (s := s.countHandled) (w := w) w.registry a.name n).trans hheed
      have hattached := hP.attach (s.countHandled.tryResolve w w.registry a.name).2 hretried hafter
        hn hheed' hvolume
      rw [asks_tryResolve] at hattached
      rw [congrArg Prod.fst happlied]
      exact hattached

end

/-- A property of the guard that firing keeps is kept by every notification. -/
theorem steady_of_guard {P : Session → Prop}
    (hguard : ∀ {s t : Session}, t.guard = s.guard → P s → P t)
    (hfire : ∀ {s : Session} {n : Notification} {snapshot : Snapshot}, P s →
      s.heeded n = some snapshot → P (s.fire snapshot.name n.observedAt (s.asks n snapshot))) :
    Steady (fun _ => True) (fun _ => True) P where
  bare hbare h := hguard (guard_of_bare hbare) h
  own {s n snapshot o e added} h _ hheed howner _ := by
    rw [Snapshot.name_of_owner? howner]
    exact hguard (s := s.fire snapshot.name n.observedAt (s.asks n snapshot)) rfl (hfire h hheed)
  retry _ _ _ h _ := hguard (guard_tryResolve _ _) h
  attach _ _ _ _ _ h _ _ hheed _ := hguard (guard_fireAttachment _ _ _ _ _) (hfire h hheed)

end StorageLifecycle.Session

import StorageLifecycle.Proofs.Session.Guard

/-!
# Sessions in step

What a session does depends neither on its counters nor on the signals that were given, and on the store
only as far as it answers when an entity is saved. Two sessions that differ in nothing else stay so
through every operation, one lemma for each.
-/

namespace StorageLifecycle

/-- What a notification of a claim or a pod brings along. -/
def Notification.owner? (n : Notification) : Option Session.Owner := n.object.bind Snapshot.owner?

namespace Session

variable {σ τ : Type}

/-- The session without its counters. -/
def uncounted (s : Session) : Session := { s with handled := 0, ignored := 0 }

/-- Two sessions with what they share: they may differ in their counters, their stores and their signals. -/
structure InStep (p : Session × Shared σ) (q : Session × Shared τ) : Prop where
  session : p.1.uncounted = q.1.uncounted
  registry : p.2.registry = q.2.registry
  supply : p.2.supply = q.2.supply

variable {s t : Session} {w : Shared σ} {v : Shared τ}

theorem InStep.refl (s : Session) (w : Shared σ) : InStep (s, w) (s, w) := ⟨rfl, rfl, rfl⟩

/-! ## What two sessions in step have in common -/

/-- Whatever does not depend on the counters is the same. -/
theorem InStep.same {β : Type} (h : InStep (s, w) (t, v)) {f : Session → β}
    (hf : ∀ x : Session, f x.uncounted = f x) : f s = f t :=
  (hf s).symm.trans ((congrArg f h.session).trans (hf t))

theorem InStep.guard (h : InStep (s, w) (t, v)) : s.guard = t.guard := h.same fun _ => rfl

theorem InStep.entities (h : InStep (s, w) (t, v)) : s.entities = t.entities := h.same fun _ => rfl

theorem InStep.parked (h : InStep (s, w) (t, v)) : s.parked = t.parked := h.same fun _ => rfl

theorem InStep.buffer (h : InStep (s, w) (t, v)) : s.buffer = t.buffer := h.same fun _ => rfl

theorem InStep.testCase (h : InStep (s, w) (t, v)) : s.testCase = t.testCase := h.same fun _ => rfl

theorem InStep.ownedEntity (h : InStep (s, w) (t, v)) (o : Owner) : s.ownedEntity o = t.ownedEntity o := by
  unfold Session.ownedEntity
  rw [h.testCase]

/-- A change of the session that does not look at its counters. -/
theorem InStep.change (h : InStep (s, w) (t, v)) {f : Session → Session}
    (hf : ∀ x : Session, (f x).uncounted = f x.uncounted) : InStep (f s, w) (f t, v) :=
  ⟨(hf s).trans ((congrArg f h.session).trans (hf t).symm), h.registry, h.supply⟩

/-- Signals do not count. -/
theorem InStep.tell (h : InStep (s, w) (t, v)) (a b : List Signal) :
    InStep (s, w.tell a) (t, v.tell b) :=
  ⟨h.session, h.registry, h.supply⟩

theorem InStep.publish (h : InStep (s, w) (t, v)) (volume : String) (claim : Entity) :
    InStep (s, w.publish volume claim) (t, v.publish volume claim) := by
  refine ⟨h.session, ?_, h.supply⟩
  show w.registry.publish volume claim = v.registry.publish volume claim
  rw [show w.registry = v.registry from h.registry]

/-- Neither do the stores. -/
theorem InStep.store (h : InStep (s, w) (t, v)) (a : σ) (b : τ) :
    InStep (s, { w with store := a }) (t, { v with store := b }) :=
  ⟨h.session, h.registry, h.supply⟩

/-! ## Recording and marking -/

theorem InStep.record (h : InStep (s, w) (t, v)) (name : String) (type : EventType) (entity : EntityId)
    (stamp : Instant) :
    InStep (s.record w name type entity stamp) (t.record v name type entity stamp) := by
  have hsession : s.uncounted = t.uncounted := h.session
  have hsupply : w.supply = v.supply := h.supply
  constructor
  · show (s.uncounted.record w name type entity stamp).1 = (t.uncounted.record v name type entity stamp).1
    unfold Session.record
    rw [hsession, hsupply]
  · exact h.registry
  · show w.supply.rest = v.supply.rest
    rw [hsupply]

theorem InStep.recordAll (h : InStep (s, w) (t, v)) (name : String) (entity : EntityId)
    (events : List (EventType × Instant)) :
    InStep (s.recordAll w name entity events) (t.recordAll v name entity events) := by
  induction events generalizing s t w v with
  | nil => exact h
  | cons e rest ih => exact ih (h.record name e.1 entity e.2)

theorem InStep.mark (h : InStep (s, w) (t, v)) (name : String) (type : EventType) (stamp : Instant) :
    InStep (s.mark name type stamp, w) (t.mark name type stamp, v) :=
  h.change (f := fun x => x.mark name type stamp) fun _ => rfl

theorem InStep.fire (h : InStep (s, w) (t, v)) (name : String) (observedAt : Instant)
    (types : List EventType) :
    InStep (s.fire name observedAt types, w) (t.fire name observedAt types, v) := by
  refine h.change (f := fun x => x.fire name observedAt types) fun x => ?_
  rw [fire_eq, fire_eq]
  rfl

theorem InStep.unpark (h : InStep (s, w) (t, v)) (name : String) :
    InStep (s.unpark name, w) (t.unpark name, v) :=
  h.change (f := fun x => x.unpark name) fun _ => rfl

theorem InStep.parkMore (h : InStep (s, w) (t, v)) (name volume : String)
    (events : List (EventType × Instant)) :
    InStep (s.parkMore name volume events, w) (t.parkMore name volume events, v) :=
  h.change (f := fun x => x.parkMore name volume events) fun _ => rfl

/-! ## Claims and pods -/

theorem InStep.handOff (h : InStep (s, w) (t, v)) (o : Owner) (entity : Entity) (type : EventType) :
    InStep (s, Session.handOff w o entity type) (t, Session.handOff v o entity type) := by
  unfold Session.handOff
  cases o.volume with
  | none => exact h
  | some volume =>
      by_cases htype : type = .pvcBound
      · simpa [htype] using h.publish volume entity
      · simpa [htype] using h

theorem InStep.fireOwn (h : InStep (s, w) (t, v)) (o : Owner) (entity : Entity) (stamp : Instant)
    (type : EventType) : InStep (s.fireOwn w o entity stamp type) (t.fireOwn v o entity stamp type) := by
  cases hfired : s.hasFired o.name type with
  | true =>
      have hfired' := (hasFired_congr h.guard o.name type).symm.trans hfired
      rw [fireOwn_of_fired hfired, fireOwn_of_fired hfired']
      exact h
  | false =>
      have hfired' := (hasFired_congr h.guard o.name type).symm.trans hfired
      rw [fireOwn_of_not_fired hfired, fireOwn_of_not_fired hfired']
      exact ((h.mark o.name type stamp).record o.name type entity.id stamp).handOff o entity type

theorem InStep.fireAllOwn (h : InStep (s, w) (t, v)) (o : Owner) (entity : Entity) (stamp : Instant)
    (types : List EventType) :
    InStep (s.fireAllOwn w o entity stamp types) (t.fireAllOwn v o entity stamp types) := by
  induction types generalizing s t w v with
  | nil => exact h
  | cons type rest ih => exact ih (h.fireOwn o entity stamp type)

theorem InStep.stamped_fireAllOwn (h : InStep (s, w) (t, v)) (o : Owner) (entity : Entity)
    (observedAt : Instant) (types : List EventType) :
    InStep ((s.stamped (s.stampOf observedAt)).fireAllOwn w o entity (s.stampOf observedAt) types)
      ((t.stamped (t.stampOf observedAt)).fireAllOwn v o entity (t.stampOf observedAt) types) := by
  rw [← stampOf_congr h.guard]
  have hstamped : InStep (s.stamped (s.stampOf observedAt), w) (t.stamped (s.stampOf observedAt), v) :=
    h.change (f := fun x => x.stamped (s.stampOf observedAt)) fun _ => rfl
  exact hstamped.fireAllOwn o entity _ types

section

variable [EventStore σ] [EventStore τ]

/-- Two stores give the same answer when the entity is saved. -/
def Answers (before : σ) (before' : τ) (e : Entity) : Prop :=
  ((EventStore.saveEntities [e]).perform before).1 = ((EventStore.saveEntities [e]).perform before').1

/-- A store's answer decides what comes of the wish for an entity. -/
theorem InStep.applyOwn (h : InStep (s, w) (t, v)) {o : Owner}
    (hanswers : Answers w.store v.store (s.ownedEntity o)) (types : List EventType)
    (observedAt : Instant) :
    InStep (s.applyOwn w o types observedAt) (t.applyOwn v o types observedAt) := by
  by_cases htypes : types = []
  · subst htypes
    exact h
  · -- Either both sessions know the entity, or both ask their stores.
    cases hcache : s.entities.find? o.name with
    | some e =>
        have hcache' := (congrArg (Keyed.find? · o.name) h.entities).symm.trans hcache
        rw [applyOwn_of_entity htypes (ensureEntity_of_cached hcache),
          applyOwn_of_entity htypes (ensureEntity_of_cached hcache')]
        exact h.stamped_fireAllOwn o e observedAt types
    | none =>
        have hcache' := (congrArg (Keyed.find? · o.name) h.entities).symm.trans hcache
        rw [h.ownedEntity] at hanswers
        unfold Answers at hanswers
        cases hsave : (EventStore.saveEntities [t.ownedEntity o]).perform w.store with
        | mk answer store =>
            cases hsave' : (EventStore.saveEntities [t.ownedEntity o]).perform v.store with
            | mk answer' store' =>
                rw [hsave, hsave'] at hanswers
                have hsame : answer = answer' := hanswers
                subst hsame
                rw [← h.ownedEntity] at hsave
                cases answer with
                | ok ids =>
                    rw [applyOwn_of_entity htypes (ensureEntity_of_saved hcache hsave),
                      applyOwn_of_entity htypes (ensureEntity_of_saved hcache' hsave'), h.ownedEntity]
                    refine InStep.stamped_fireAllOwn ?_ o _ observedAt types
                    exact (h.store store store').change (f := fun x => x.cache o.name _) fun _ => rfl
                | error e =>
                    obtain ⟨lines, hrefused⟩ := ensureEntity_of_refused hcache hsave
                    obtain ⟨lines', hrefused'⟩ := ensureEntity_of_refused hcache' hsave'
                    rw [applyOwn_of_no_entity htypes hrefused, applyOwn_of_no_entity htypes hrefused']
                    exact ⟨h.session, h.registry, h.supply⟩

end

/-! ## Attachments -/

theorem InStep.tryResolve (h : InStep (s, w) (t, v)) (registry : Registry) (name : String) :
    InStep (s.tryResolve w registry name) (t.tryResolve v registry name) := by
  unfold Session.tryResolve
  rw [← h.parked]
  cases hparked : s.parked.find? name with
  | none => exact h
  | some p =>
      cases hclaim : registry.lookup p.volume with
      | none => simpa [hclaim] using h
      | some claim =>
          have hunparked := (h.unpark name).recordAll name claim.id p.events
          simp only [Session.unpark, ← h.parked] at hunparked
          simpa [hclaim] using hunparked

theorem InStep.fireAttachment (h : InStep (s, w) (t, v)) (registry : Registry) (name volume : String)
    (types : List EventType) (observedAt : Instant) :
    InStep (s.fireAttachment w registry name volume types observedAt)
      (t.fireAttachment v registry name volume types observedAt) := by
  have hfired := h.fire name observedAt types
  have hfresh := fresh_congr h.guard name types
  have hevents := freshEvents_congr h.guard name observedAt types
  by_cases hnothing : s.fresh name types = []
  · rw [fireAttachment_of_nothing_fresh hnothing, fireAttachment_of_nothing_fresh (hfresh ▸ hnothing)]
    exact hfired
  · have hsome : t.fresh name types ≠ [] := hfresh ▸ hnothing
    by_cases hparks : registry.lookup volume = none ∨ s.parked.find? name ≠ none
    · have hparks' := hparks
      rw [h.parked] at hparks'
      rw [fireAttachment_of_parked hnothing hparks, fireAttachment_of_parked hsome hparks', ← hevents]
      exact (hfired.parkMore name volume _).tell _ _
    · rw [not_or, Classical.not_not] at hparks
      obtain ⟨claim, hclaim⟩ := Option.ne_none_iff_exists'.mp hparks.1
      have hfree := hparks.2
      rw [h.parked] at hfree
      rw [fireAttachment_of_published hnothing hclaim hparks.2,
        fireAttachment_of_published hsome hclaim hfree, ← hevents]
      exact hfired.recordAll name claim.id _

/-! ## Notifications -/

section

variable [EventStore σ] [EventStore τ]

/-- A notification keeps two sessions in step if the stores give the same answer when its entity is
saved. -/
theorem InStep.handleAmid (h : InStep (s, w) (t, v)) (after : Registry) {n : Notification}
    (hanswers : ∀ o, n.owner? = some o → Answers w.store v.store (s.ownedEntity o)) :
    InStep (s.handleAmid w after n) (t.handleAmid v after n) := by
  have hcounted : InStep (s.countHandled, w) (t.countHandled, v) := ⟨h.session, h.registry, h.supply⟩
  cases hheed : s.heeded n with
  | none =>
      obtain ⟨_, _, heq⟩ := handleAmid_of_unheeded (w := w) after hheed
      obtain ⟨_, _, heq'⟩ := handleAmid_of_unheeded (w := v) after
        ((heeded_congr h.guard n).symm.trans hheed)
      rw [heq, heq']
      exact ⟨h.session, h.registry, h.supply⟩
  | some snapshot =>
      have hheed' := (heeded_congr h.guard n).symm.trans hheed
      cases howner : snapshot.owner? with
      | some o =>
          obtain ⟨hobject, _⟩ := heeded_eq_some_iff.mp hheed
          have hanswer := hanswers o (by rw [Notification.owner?, hobject]; exact howner)
          rw [handleAmid_of_owner hheed howner, handleAmid_of_owner hheed' howner,
            ← asks_congr h.guard]
          exact hcounted.applyOwn hanswer _ _
      | none =>
          obtain ⟨a, rfl⟩ := Snapshot.eq_attachment_of_owner? howner
          cases hvolume : a.volume with
          | none =>
              obtain ⟨_, _, heq⟩ := handleAmid_of_no_volume (w := w) after hheed hvolume
              obtain ⟨_, _, heq'⟩ := handleAmid_of_no_volume (w := v) after hheed' hvolume
              rw [heq, heq']
              exact ⟨h.session, h.registry, h.supply⟩
          | some volume =>
              have hregistry : w.registry = v.registry := h.registry
              rw [handleAmid_of_attachment hheed hvolume, handleAmid_of_attachment hheed' hvolume,
                ← asks_congr h.guard, ← hregistry]
              exact (hcounted.tryResolve w.registry a.name).fireAttachment _ _ _ _ _

end

/-! ## The end -/

theorem InStep.resolveAll (h : InStep (s, w) (t, v)) (tries : List (String × Registry)) :
    InStep (s.resolveAll w tries) (t.resolveAll v tries) := by
  induction tries generalizing s t w v with
  | nil => exact h
  | cons one rest ih => exact ih (h.tryResolve one.2 one.1)

/-- Sessions in step store the same events. -/
theorem InStep.batch (h : InStep (s, w) (t, v)) (tries : List (String × Registry)) :
    (s.settle w tries).1.batch = (t.settle v tries).1.batch := by
  have hbuffer := (h.resolveAll tries).buffer
  show (inOrder (s.resolveAll w tries).1.buffer).map _ = (inOrder (t.resolveAll v tries).1.buffer).map _
  rw [hbuffer]

end Session

end StorageLifecycle

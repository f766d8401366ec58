import StorageLifecycle.Session.Finish

/-!
# What the operations of a session change

One law for each operation says everything it does: which fields of the session it changes and to
what, and what becomes of the store and of the registry. Later modules cite these laws and do not
open the operations again.
-/

namespace StorageLifecycle

/-- The firing that a recorded event stands for. -/
def Recorded.firing (r : Recorded) : Firing := ⟨r.resource, r.event.type, r.event.timestamp⟩

/-- The firing together with the entity that the event is recorded for. -/
def Recorded.view (r : Recorded) : Firing × EntityId := (r.firing, r.event.entity)

namespace Session

variable {σ : Type} {s : Session} {w : Shared σ}

/-- The session with further events in its buffer. -/
def extend (s : Session) (added : List Recorded) : Session :=
  { s with buffer := s.buffer ++ added }

@[simp] theorem extend_nil : s.extend [] = s := by simp [extend]

theorem extend_extend (a b : List Recorded) : (s.extend a).extend b = s.extend (a ++ b) := by
  simp [extend]

/-! ## Recording -/

/-- `added` are the events of a session for these firings of an entity. -/
structure Records (s : Session) (entity : EntityId) (firings : List Firing)
    (added : List Recorded) : Prop where
  views : added.map Recorded.view = firings.map fun f => (f, entity)
  testCase : ∀ r ∈ added, r.event.testCase = s.testCase

theorem Records.nil {entity : EntityId} : s.Records entity [] [] :=
  ⟨rfl, fun _ h => nomatch h⟩

theorem Records.append {entity : EntityId} {fs gs : List Firing} {as bs : List Recorded}
    (ha : s.Records entity fs as) (hb : s.Records entity gs bs) :
    s.Records entity (fs ++ gs) (as ++ bs) := by
  constructor
  · rw [List.map_append, List.map_append, ha.views, hb.views]
  · intro r hr
    rcases List.mem_append.mp hr with h | h
    · exact ha.testCase r h
    · exact hb.testCase r h

theorem Records.firings {entity : EntityId} {fs : List Firing} {as : List Recorded}
    (h : s.Records entity fs as) : as.map Recorded.firing = fs := by
  have hfst := congrArg (List.map Prod.fst) h.views
  rw [List.map_map, List.map_map] at hfst
  exact hfst.trans (List.map_id _)

theorem Records.entity {entity : EntityId} {fs : List Firing} {as : List Recorded}
    (h : s.Records entity fs as) {r : Recorded} (hr : r ∈ as) : r.event.entity = entity := by
  have hview : r.view ∈ as.map Recorded.view := List.mem_map.mpr ⟨r, hr, rfl⟩
  rw [h.views] at hview
  obtain ⟨f, _, hf⟩ := List.mem_map.mp hview
  exact (congrArg Prod.snd hf).symm

theorem record_spec (name : String) (type : EventType) (entity : EntityId) (stamp : Instant) :
    ∃ added, (s.record w name type entity stamp).1 = s.extend added ∧
      s.Records entity [⟨name, type, stamp⟩] added := by
  refine ⟨_, rfl, rfl, ?_⟩
  intro r hr
  rw [List.mem_singleton.mp hr]
  rfl

@[simp] theorem record_store (name : String) (type : EventType) (entity : EntityId)
    (stamp : Instant) : (s.record w name type entity stamp).2.store = w.store := rfl

@[simp] theorem record_registry (name : String) (type : EventType) (entity : EntityId)
    (stamp : Instant) : (s.record w name type entity stamp).2.registry = w.registry := rfl

/-- The firings of a name with these types and stamps. -/
def firingsOf (name : String) (events : List (EventType × Instant)) : List Firing :=
  events.map fun e => ⟨name, e.1, e.2⟩

/-- Events that are recorded for firings of one name are of this name. -/
theorem Records.resource {entity : EntityId} {name : String} {events : List (EventType × Instant)}
    {as : List Recorded} (h : s.Records entity (firingsOf name events) as) {r : Recorded} (hr : r ∈ as) :
    r.resource = name := by
  have hmem : r.firing ∈ as.map Recorded.firing := List.mem_map_of_mem hr
  rw [h.firings] at hmem
  obtain ⟨_, _, heq⟩ := List.mem_map.mp hmem
  exact (congrArg Firing.resource heq).symm

theorem recordAll_spec (name : String) (entity : EntityId) (events : List (EventType × Instant)) :
    ∃ added, (s.recordAll w name entity events).1 = s.extend added ∧
      s.Records entity (firingsOf name events) added := by
  induction events generalizing s w with
  | nil => exact ⟨[], by simp [recordAll], Records.nil⟩
  | cons e rest ih =>
      obtain ⟨type, stamp⟩ := e
      obtain ⟨one, hone, hrec⟩ := record_spec (s := s) (w := w) name type entity stamp
      obtain ⟨more, hmore, hrecs⟩ := ih (s := (s.record w name type entity stamp).1)
        (w := (s.record w name type entity stamp).2)
      refine ⟨one ++ more, ?_, hrec.append ⟨hrecs.views, hrecs.testCase⟩⟩
      rw [← extend_extend, ← hone]
      exact hmore

@[simp] theorem recordAll_store (name : String) (entity : EntityId)
    (events : List (EventType × Instant)) :
    (s.recordAll w name entity events).2.store = w.store := by
  induction events generalizing s w with
  | nil => rfl
  | cons e rest ih => exact ih

@[simp] theorem recordAll_registry (name : String) (entity : EntityId)
    (events : List (EventType × Instant)) :
    (s.recordAll w name entity events).2.registry = w.registry := by
  induction events generalizing s w with
  | nil => rfl
  | cons e rest ih => exact ih

/-! ## Marking -/

theorem hasFired_eq_true_iff {name : String} {type : EventType} :
    s.hasFired name type = true ↔ ∃ f ∈ s.fired, f.resource = name ∧ f.type = type := by
  simp [hasFired]

/-- Marking changes what has fired and which names are done, and nothing else. -/
theorem markAll_eq (name : String) (stamp : Instant) (types : List EventType) :
    s.markAll name stamp types =
      { s with
        fired := s.fired ++ firingsOf name (types.map fun t => (t, stamp))
        terminated := List.replicate (types.countP s.isLast) name ++ s.terminated } := by
  induction types generalizing s with
  | nil => simp [markAll, firingsOf]
  | cons t rest ih =>
      have hlast : (s.mark name t stamp).isLast = s.isLast := rfl
      rw [markAll, ih, hlast, List.countP_cons]
      by_cases h : s.isLast t = true
      · rw [if_pos h, List.replicate_succ', List.append_assoc]
        simp [mark, firingsOf, h]
      · rw [if_neg h]
        simp [mark, firingsOf, h]

theorem extend_markAll (added : List Recorded) (name : String) (stamp : Instant)
    (types : List EventType) :
    (s.extend added).markAll name stamp types = (s.markAll name stamp types).extend added := by
  rw [markAll_eq, markAll_eq]
  rfl

theorem hasFired_mark {name name' : String} {type type' : EventType} {stamp : Instant} :
    (s.mark name type stamp).hasFired name' type' =
      (s.hasFired name' type' || (name == name' && type == type')) := by
  simp [hasFired, mark]

/-- The types among these that have not fired for the name. -/
def fresh (s : Session) (name : String) (types : List EventType) : List EventType :=
  types.filter fun t => !s.hasFired name t

theorem mem_fresh {name : String} {types : List EventType} {t : EventType} :
    t ∈ s.fresh name types ↔ t ∈ types ∧ s.hasFired name t = false := by
  simp [fresh]

theorem fresh_cons_of_fired {name : String} {t : EventType} {rest : List EventType}
    (h : s.hasFired name t = true) : s.fresh name (t :: rest) = s.fresh name rest := by
  rw [fresh, List.filter_cons_of_neg (by simp [h])]
  rfl

theorem fresh_cons_of_not_fired {name : String} {t : EventType} {rest : List EventType}
    (h : s.hasFired name t = false) : s.fresh name (t :: rest) = t :: s.fresh name rest := by
  rw [fresh, List.filter_cons_of_pos (by simp [h])]
  rfl

theorem fresh_mark_of_not_mem {name : String} {t : EventType} {stamp : Instant}
    {rest : List EventType} (h : t ∉ rest) :
    (s.mark name t stamp).fresh name rest = s.fresh name rest := by
  refine List.filter_congr fun t' ht' => ?_
  have hne : (t == t') = false := by
    refine beq_eq_false_iff_ne.mpr fun heq => h ?_
    rw [heq]
    exact ht'
  rw [hasFired_mark, hne]
  simp

/-! ## Claims and pods -/

/-- The entity of an owner, before a store has seen it. -/
def ownedEntity (s : Session) (o : Owner) : Entity := .fresh o.name o.uid o.type s.testCase

/-- The session that knows the entity of a name. -/
def cache (s : Session) (name : String) (entity : Entity) : Session :=
  { s with entities := s.entities.insert name entity }

theorem ensureEntity_of_cached [EventStore σ] {o : Owner} {e : Entity}
    (h : s.entities.find? o.name = some e) : s.ensureEntity w o = (some e, s, w) := by
  unfold ensureEntity
  rw [h]

theorem ensureEntity_of_saved [EventStore σ] {o : Owner} {ids : List EntityId} {store : σ}
    (hcache : s.entities.find? o.name = none)
    (hsave : EventStore.saveEntities [s.ownedEntity o] w.store = (.ok ids, store)) :
    s.ensureEntity w o =
      (some { s.ownedEntity o with id := ids.headD 0 },
        s.cache o.name { s.ownedEntity o with id := ids.headD 0 }, { w with store }) := by
  unfold ensureEntity
  unfold ownedEntity at hsave
  simp only [hcache, hsave]
  -- An entity that no store has seen has the id 0 already.
  cases ids <;> rfl

theorem ensureEntity_of_refused [EventStore σ] {o : Owner} {e : StoreError} {store : σ}
    (hcache : s.entities.find? o.name = none)
    (hsave : EventStore.saveEntities [s.ownedEntity o] w.store = (.error e, store)) :
    ∃ lines, s.ensureEntity w o = (none, s, { w with store }.tell lines) := by
  unfold ensureEntity
  unfold ownedEntity at hsave
  simp only [hcache, hsave]
  exact ⟨_, rfl⟩

/-- The registry after the claim of an owner fired these types. -/
def handedOff (r : Registry) (o : Owner) (entity : Entity) (types : List EventType) : Registry :=
  match o.volume with
  | some volume => if .pvcBound ∈ types then r.publish volume entity else r
  | none => r

theorem handOff_store (o : Owner) (entity : Entity) (type : EventType) :
    (handOff w o entity type).store = w.store := by
  unfold handOff
  split
  · split <;> rfl
  · rfl

theorem handOff_registry (o : Owner) (entity : Entity) (type : EventType) :
    (handOff w o entity type).registry = handedOff w.registry o entity [type] := by
  unfold handOff handedOff
  cases o.volume with
  | none => rfl
  | some volume =>
      by_cases h : type = .pvcBound
      · simp [h, Shared.publish]
      · simp [h, Ne.symm h]

theorem handedOff_cons (r : Registry) (o : Owner) (entity : Entity) {t : EventType}
    {rest : List EventType} (h : t ∉ rest) :
    handedOff (handedOff r o entity [t]) o entity rest = handedOff r o entity (t :: rest) := by
  unfold handedOff
  cases o.volume with
  | none => rfl
  | some volume =>
      by_cases ht : t = .pvcBound
      · subst ht
        simp [h]
      · simp [Ne.symm ht]

theorem fireOwn_of_fired {o : Owner} {entity : Entity} {stamp : Instant} {t : EventType}
    (h : s.hasFired o.name t = true) : s.fireOwn w o entity stamp t = (s, w) := by
  unfold fireOwn
  rw [if_pos h]

theorem fireOwn_of_not_fired {o : Owner} {entity : Entity} {stamp : Instant} {t : EventType}
    (h : s.hasFired o.name t = false) :
    s.fireOwn w o entity stamp t =
      (((s.mark o.name t stamp).record w o.name t entity.id stamp).1,
        handOff ((s.mark o.name t stamp).record w o.name t entity.id stamp).2 o entity t) := by
  unfold fireOwn
  rw [if_neg (by simp [h])]

theorem fireAllOwn_cons (o : Owner) (entity : Entity) (stamp : Instant) (t : EventType)
    (rest : List EventType) :
    s.fireAllOwn w o entity stamp (t :: rest) =
      (s.fireOwn w o entity stamp t).1.fireAllOwn (s.fireOwn w o entity stamp t).2 o entity stamp
        rest := rfl

/-- A claim or a pod fires the fresh types in their order, each recorded for its entity. -/
theorem fireAllOwn_spec (o : Owner) (entity : Entity) (stamp : Instant) {types : List EventType}
    (h : types.Nodup) :
    ∃ added, (s.fireAllOwn w o entity stamp types).1 =
        (s.markAll o.name stamp (s.fresh o.name types)).extend added ∧
      s.Records entity.id
        (firingsOf o.name ((s.fresh o.name types).map fun t => (t, stamp))) added := by
  induction types generalizing s w with
  | nil => exact ⟨[], by simp [fireAllOwn, fresh, markAll], Records.nil⟩
  | cons t rest ih =>
      obtain ⟨ht, hrest⟩ := List.nodup_cons.mp h
      cases hfired : s.hasFired o.name t with
      | true =>
          rw [fresh_cons_of_fired hfired, fireAllOwn_cons, fireOwn_of_fired hfired]
          exact ih hrest
      | false =>
          rw [fresh_cons_of_not_fired hfired, fireAllOwn_cons, fireOwn_of_not_fired hfired]
          obtain ⟨one, hone, hrec⟩ :=
            record_spec (s := s.mark o.name t stamp) (w := w) o.name t entity.id stamp
          -- That `t` has fired now does not keep the rest from firing, as the types differ.
          have hfresh : ((s.mark o.name t stamp).extend one).fresh o.name rest =
              s.fresh o.name rest := fresh_mark_of_not_mem ht
          rw [hone]
          obtain ⟨more, hmore, hrecs⟩ := ih (s := (s.mark o.name t stamp).extend one)
            (w := handOff ((s.mark o.name t stamp).record w o.name t entity.id stamp).2 o entity t)
            hrest
          rw [hfresh] at hmore hrecs
          refine ⟨one ++ more, ?_, ?_⟩
          · rw [hmore, extend_markAll, extend_extend]
            rfl
          · exact Records.append (s := s) ⟨hrec.views, hrec.testCase⟩
              ⟨hrecs.views, hrecs.testCase⟩

theorem fireAllOwn_store (o : Owner) (entity : Entity) (stamp : Instant) (types : List EventType) :
    (s.fireAllOwn w o entity stamp types).2.store = w.store := by
  induction types generalizing s w with
  | nil => rfl
  | cons t rest ih =>
      rw [fireAllOwn_cons, ih]
      cases hfired : s.hasFired o.name t with
      | true => rw [fireOwn_of_fired hfired]
      | false => rw [fireOwn_of_not_fired hfired, handOff_store, record_store]

/-- The entity of a claim is handed off when its binding is among the fresh types. -/
theorem fireAllOwn_registry (o : Owner) (entity : Entity) (stamp : Instant)
    {types : List EventType} (h : types.Nodup) :
    (s.fireAllOwn w o entity stamp types).2.registry =
      handedOff w.registry o entity (s.fresh o.name types) := by
  induction types generalizing s w with
  | nil => cases hv : o.volume <;> simp [fireAllOwn, fresh, handedOff, hv]
  | cons t rest ih =>
      obtain ⟨ht, hrest⟩ := List.nodup_cons.mp h
      rw [fireAllOwn_cons, ih hrest]
      cases hfired : s.hasFired o.name t with
      | true => rw [fireOwn_of_fired hfired, fresh_cons_of_fired hfired]
      | false =>
          have hmem : t ∉ s.fresh o.name rest := fun hin => ht (mem_fresh.mp hin).1
          rw [fireOwn_of_not_fired hfired, fresh_cons_of_not_fired hfired,
            ← handedOff_cons _ _ _ hmem, handOff_registry, record_registry]
          congr 1
          exact fresh_mark_of_not_mem ht

/-! ## Attachments -/

theorem tryResolve_of_unparked {registry : Registry} {name : String}
    (h : s.parked.find? name = none) : s.tryResolve w registry name = (s, w) := by
  unfold tryResolve
  rw [h]

theorem tryResolve_of_unpublished {registry : Registry} {name : String} {p : Parked}
    (h : s.parked.find? name = some p) (hr : registry.lookup p.volume = none) :
    s.tryResolve w registry name = (s, w) := by
  unfold tryResolve
  simp only [h, hr]

/-- The session without the parked events of a name. -/
def unpark (s : Session) (name : String) : Session := { s with parked := s.parked.erase name }

theorem find?_unpark (name name' : String) :
    (s.unpark name).parked.find? name' = if name' = name then none else s.parked.find? name' :=
  Keyed.find?_erase _ _ _

theorem tryResolve_of_published {registry : Registry} {name : String} {p : Parked} {claim : Entity}
    (h : s.parked.find? name = some p) (hr : registry.lookup p.volume = some claim) :
    ∃ added, (s.tryResolve w registry name).1 = (s.unpark name).extend added ∧
      s.Records claim.id (firingsOf name p.events) added := by
  obtain ⟨added, heq, hrec⟩ :=
    recordAll_spec (s := s.unpark name) (w := w) name claim.id p.events
  refine ⟨added, ?_, ⟨hrec.views, hrec.testCase⟩⟩
  unfold tryResolve
  simp only [h, hr]
  exact heq

/-- What trying a parked attachment again does to the session: nothing, or its events move to the
end of the buffer. -/
theorem tryResolve_cases (registry : Registry) (name : String) :
    ((s.tryResolve w registry name).1 = s ∧
      ∀ p, s.parked.find? name = some p → registry.lookup p.volume = none) ∨
    ∃ p claim added, s.parked.find? name = some p ∧ registry.lookup p.volume = some claim ∧
      (s.tryResolve w registry name).1 = (s.unpark name).extend added ∧
      s.Records claim.id (firingsOf name p.events) added := by
  cases hp : s.parked.find? name with
  | none =>
      refine Or.inl ⟨?_, fun p h => nomatch h⟩
      rw [tryResolve_of_unparked hp]
  | some p =>
      cases hr : registry.lookup p.volume with
      | none =>
          refine Or.inl ⟨?_, ?_⟩
          · rw [tryResolve_of_unpublished hp hr]
          · intro q hq
            cases hq
            exact hr
      | some claim =>
          obtain ⟨added, heq, hrec⟩ := tryResolve_of_published (w := w) hp hr
          exact Or.inr ⟨p, claim, added, rfl, hr, heq, hrec⟩

/-- What looks neither at the recorded nor at the parked events is the same after a retry. -/
theorem tryResolve_frame {β : Type} {f : Session → β}
    (hf : ∀ (x : Session) buffer parked, f { x with buffer, parked } = f x) (registry : Registry)
    (name : String) : f (s.tryResolve w registry name).1 = f s := by
  rcases tryResolve_cases (s := s) (w := w) registry name with ⟨heq, _⟩ | ⟨_, _, _, _, _, heq, _⟩
  · rw [heq]
  · rw [heq]
    exact hf s _ _

theorem tryResolve_store (registry : Registry) (name : String) :
    (s.tryResolve w registry name).2.store = w.store := by
  unfold tryResolve
  split
  · rfl
  · split
    · rfl
    · exact recordAll_store _ _ _

theorem tryResolve_registry (registry : Registry) (name : String) :
    (s.tryResolve w registry name).2.registry = w.registry := by
  unfold tryResolve
  split
  · rfl
  · split
    · rfl
    · exact recordAll_registry _ _ _

/-- The parked events of a name with further ones behind them. -/
def Parked.extended (volume : String) (events : List (EventType × Instant)) :
    Option Parked → Parked
  | some p => { p with events := p.events ++ events }
  | none => ⟨volume, events⟩

/-- The session with further parked events of a name. -/
def parkMore (s : Session) (name volume : String) (events : List (EventType × Instant)) : Session :=
  { s with
    parked := s.parked.insert name (Parked.extended volume events (s.parked.find? name)) }

theorem find?_parkMore (name volume : String) (events : List (EventType × Instant))
    (name' : String) :
    (s.parkMore name volume events).parked.find? name' =
      if name' = name then some (Parked.extended volume events (s.parked.find? name))
      else s.parked.find? name' :=
  Keyed.find?_insert _ _ _ _

theorem park_eq (name volume : String) (events : List (EventType × Instant)) :
    s.park w name volume events =
      (s.parkMore name volume events, w.tell [.tick .handoffMisses []]) := by
  unfold park parkMore Parked.extended
  cases s.parked.find? name <;> rfl

/-- The session in which the fresh types of a name have fired at a moment. -/
def fire (s : Session) (name : String) (observedAt : Instant) (types : List EventType) : Session :=
  (s.stamped (s.stampOf observedAt)).markAll name (s.stampOf observedAt) (s.fresh name types)

/-- The events that the fresh types of a name give, with their stamp. -/
def freshEvents (s : Session) (name : String) (observedAt : Instant) (types : List EventType) :
    List (EventType × Instant) :=
  (s.fresh name types).map fun t => (t, s.stampOf observedAt)

/-- Firing changes what has fired, which names are done and the latest stamp. -/
theorem fire_eq (name : String) (observedAt : Instant) (types : List EventType) :
    s.fire name observedAt types =
      { s with
        fired := s.fired ++ firingsOf name (s.freshEvents name observedAt types)
        terminated := List.replicate ((s.fresh name types).countP s.isLast) name ++ s.terminated
        last := some (s.stampOf observedAt) } := by
  rw [fire, markAll_eq]
  rfl

theorem fire_parked (name : String) (observedAt : Instant) (types : List EventType) :
    (s.fire name observedAt types).parked = s.parked := by
  rw [fire_eq]

theorem fire_testCase (name : String) (observedAt : Instant) (types : List EventType) :
    (s.fire name observedAt types).testCase = s.testCase := by
  rw [fire_eq]

theorem fire_entities (name : String) (observedAt : Instant) (types : List EventType) :
    (s.fire name observedAt types).entities = s.entities := by
  rw [fire_eq]

theorem freshEvents_eq_nil_iff {name : String} {observedAt : Instant} {types : List EventType} :
    s.freshEvents name observedAt types = [] ↔ s.fresh name types = [] := List.map_eq_nil_iff

theorem fireAttachment_of_nothing_fresh {registry : Registry} {name volume : String}
    {types : List EventType} {observedAt : Instant} (h : s.fresh name types = []) :
    s.fireAttachment w registry name volume types observedAt =
      (s.fire name observedAt types, w) := by
  have hempty : (s.fresh name types).isEmpty = true := List.isEmpty_iff.mpr h
  unfold fresh at hempty
  simp only [fireAttachment, hempty, if_true]
  rfl

theorem fireAttachment_of_published {registry : Registry} {name volume : String}
    {types : List EventType} {observedAt : Instant} {claim : Entity}
    (h : s.fresh name types ≠ []) (hr : registry.lookup volume = some claim)
    (hp : s.parked.find? name = none) :
    s.fireAttachment w registry name volume types observedAt =
      (s.fire name observedAt types).recordAll w name claim.id
        (s.freshEvents name observedAt types) := by
  have hempty : ¬(s.fresh name types).isEmpty = true := mt List.isEmpty_iff.mp h
  have hcontains : (s.fire name observedAt types).parked.contains name = false := by
    rw [fire_parked, Keyed.contains, hp]
    rfl
  unfold fire fresh at hcontains
  unfold fresh at hempty
  simp only [fireAttachment, if_neg hempty, hr, hcontains, Bool.false_eq_true, if_false]
  rfl

theorem fireAttachment_of_parked {registry : Registry} {name volume : String}
    {types : List EventType} {observedAt : Instant} (h : s.fresh name types ≠ [])
    (hp : registry.lookup volume = none ∨ s.parked.find? name ≠ none) :
    s.fireAttachment w registry name volume types observedAt =
      ((s.fire name observedAt types).parkMore name volume (s.freshEvents name observedAt types),
        w.tell [.tick .handoffMisses []]) := by
  have hempty : ¬(s.fresh name types).isEmpty = true := mt List.isEmpty_iff.mp h
  unfold fresh at hempty
  rw [← park_eq]
  cases hr : registry.lookup volume with
  | none =>
      simp only [fireAttachment, if_neg hempty, hr]
      rfl
  | some claim =>
      have hcontains : (s.fire name observedAt types).parked.contains name = true := by
        rw [fire_parked, Keyed.contains, Option.isSome_iff_ne_none]
        exact hp.resolve_left (by simp [hr])
      unfold fire fresh at hcontains
      simp only [fireAttachment, if_neg hempty, hr, hcontains, if_true]
      rfl

/-- Where the fresh events of an attachment go: there may be none, they may be recorded for the
claim, or be parked. They are recorded only if no events of the attachment are parked. -/
theorem fireAttachment_cases (registry : Registry) (name volume : String) (types : List EventType)
    (observedAt : Instant) :
    let s' := (s.fireAttachment w registry name volume types observedAt).1
    let events := s.freshEvents name observedAt types
    (events = [] ∧ s' = s.fire name observedAt types) ∨
    (∃ claim added, registry.lookup volume = some claim ∧ s.parked.find? name = none ∧
      s' = (s.fire name observedAt types).extend added ∧
      s.Records claim.id (firingsOf name events) added) ∨
    (events ≠ [] ∧ (registry.lookup volume = none ∨ s.parked.find? name ≠ none) ∧
      s' = (s.fire name observedAt types).parkMore name volume events) := by
  intro s' events
  by_cases hfresh : s.fresh name types = []
  · refine Or.inl ⟨freshEvents_eq_nil_iff.mpr hfresh, ?_⟩
    exact congrArg Prod.fst (fireAttachment_of_nothing_fresh hfresh)
  · have hevents : events ≠ [] := mt freshEvents_eq_nil_iff.mp hfresh
    right
    by_cases hparks : registry.lookup volume = none ∨ s.parked.find? name ≠ none
    · refine Or.inr ⟨hevents, hparks, ?_⟩
      exact congrArg Prod.fst (fireAttachment_of_parked hfresh hparks)
    · rw [not_or, Classical.not_not] at hparks
      obtain ⟨claim, hr⟩ := Option.ne_none_iff_exists'.mp hparks.1
      obtain ⟨added, heq, hrec⟩ := recordAll_spec (s := s.fire name observedAt types) (w := w)
        name claim.id events
      refine Or.inl ⟨claim, added, hr, hparks.2, ?_, hrec.views, ?_⟩
      · rw [← heq]
        exact congrArg Prod.fst (fireAttachment_of_published hfresh hr hparks.2)
      · rw [← fire_testCase name observedAt types]
        exact hrec.testCase

/-- Neither does it see more of an attachment than that its types have fired. -/
theorem fireAttachment_frame {β : Type} {f : Session → β}
    (hf : ∀ (x : Session) buffer parked, f { x with buffer, parked } = f x) (registry : Registry)
    (name volume : String) (types : List EventType) (observedAt : Instant) :
    f (s.fireAttachment w registry name volume types observedAt).1 =
      f (s.fire name observedAt types) := by
  rcases fireAttachment_cases (s := s) (w := w) registry name volume types observedAt with
    ⟨_, heq⟩ | ⟨_, _, _, _, heq, _⟩ | ⟨_, _, heq⟩
  · rw [heq]
  · rw [heq]
    exact hf _ _ _
  · rw [heq]
    exact hf _ _ _

theorem applyAttachment_eq (before after : Registry) (name volume : String)
    (types : List EventType) (observedAt : Instant) :
    s.applyAttachment w before after name volume types observedAt =
      (s.tryResolve w before name).1.fireAttachment (s.tryResolve w before name).2 after name volume
        types observedAt := rfl

theorem fireAttachment_store (registry : Registry) (name volume : String) (types : List EventType)
    (observedAt : Instant) :
    (s.fireAttachment w registry name volume types observedAt).2.store = w.store := by
  unfold fireAttachment
  simp only [park_eq]
  split
  · rfl
  · split
    · split
      · rfl
      · exact recordAll_store _ _ _
    · rfl

theorem fireAttachment_registry (registry : Registry) (name volume : String)
    (types : List EventType) (observedAt : Instant) :
    (s.fireAttachment w registry name volume types observedAt).2.registry = w.registry := by
  unfold fireAttachment
  simp only [park_eq]
  split
  · rfl
  · split
    · split
      · rfl
      · exact recordAll_registry _ _ _
    · rfl

end Session

end StorageLifecycle

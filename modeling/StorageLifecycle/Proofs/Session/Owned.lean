import StorageLifecycle.Proofs.Session.Dealing
import StorageLifecycle.Proofs.Session.Flush
import StorageLifecycle.Store.Memory

/-!
# Claims and pods over a store in memory

A store in memory never refuses an entity. So what a session that watches claims or pods does is
settled by its notifications, but for the numbers that the store gives to its entities: two such
sessions that are fed the same are alike, whatever else goes on in their stores, and one of them may
as well work alone.
-/

namespace StorageLifecycle

/-- The entity without the number of its row. -/
def Entity.unnumbered (e : Entity) : Entity := { e with id := 0 }

/-- The type of the entities that an observer of claims or pods stores. -/
def ObserverKind.owns : ObserverKind → EntityType
  | .pod => .pod
  | _ => .pvc

theorem Snapshot.type_of_owner? {snapshot : Snapshot} {o : Session.Owner} {k : ObserverKind}
    (h : snapshot.owner? = some o) (hk : k.resource = some snapshot.kind) : o.type = k.owns := by
  cases snapshot with
  | claim c =>
      cases h
      cases k with
      | claim => rfl
      | pod | attachment | count => exact nomatch hk
  | pod p =>
      cases h
      cases k with
      | pod => rfl
      | claim | attachment | count => exact nomatch hk
  | attachment a => exact nomatch h

namespace Session

variable {s t : Session} {w : Shared MemoryStore}

/-! ## What a notification does -/

/-- The session knows the entity `e` of an owner already, or it is stored now. `entities` and `store`
are the cache and the store afterwards. -/
def Lodged (s : Session) (before : MemoryStore) (o : Owner) (e : Entity) (entities : Keyed Entity)
    (store : MemoryStore) : Prop :=
  (s.entities.find? o.name = some e ∧ entities = s.entities ∧ store = before) ∨
  (s.entities.find? o.name = none ∧ ∃ id, before.saveEntity (s.ownedEntity o) = (id, store) ∧
    e = { s.ownedEntity o with id := id } ∧ entities = s.entities.insert o.name e)

theorem Lodged.find? {before store : MemoryStore} {o : Owner} {e : Entity}
    {entities : Keyed Entity} (h : s.Lodged before o e entities store) :
    entities.find? o.name = some e := by
  rcases h with ⟨hfind, rfl, _⟩ | ⟨_, _, _, _, rfl⟩
  · exact hfind
  · rw [Keyed.find?_insert, if_pos rfl]

/-- What an entity is ensured by over a store in memory. -/
theorem Ensured.lodged {before store : MemoryStore} {o : Owner} {e : Entity} {entities : Keyed Entity}
    (h : s.Ensured before o (some e) entities store) : s.Lodged before o e entities store := by
  cases h with
  | known hfind => exact Or.inl ⟨hfind, rfl, rfl⟩
  | stored hnone hsave =>
      cases hsave
      exact Or.inr ⟨hnone, _, rfl, rfl, rfl⟩

/-- A store in memory never refuses. -/
theorem not_ensured_none {before store : MemoryStore} {o : Owner} {entities : Keyed Entity} :
    ¬s.Ensured before o none entities store := by
  intro h
  cases h with
  | refused _ hsave => exact nomatch congrArg Prod.fst hsave

/-- What firing the types that a notification asks for does to a session and to what it shares. -/
structure Acted (s : Session) (w : Shared MemoryStore) (n : Notification) (snapshot : Snapshot)
    (o : Owner) (e : Entity) (s' : Session) (w' : Shared MemoryStore) : Prop where
  heeded : s.heeded n = some snapshot
  owner : snapshot.owner? = some o
  asks : s.asks n snapshot ≠ []
  lodged : s.Lodged w.store o e s'.entities w'.store
  bare : ∃ added, s'.bare = ((s.fire o.name n.observedAt (s.asks n snapshot)).extend added).bare ∧
    s.Records e.id (firingsOf o.name (s.freshEvents o.name n.observedAt (s.asks n snapshot))) added
  registry : w'.registry = handedOff w.registry o e (s.fresh o.name (s.asks n snapshot))

/-- What a notification that fires nothing does. -/
structure Idled (s : Session) (w : Shared MemoryStore) (n : Notification) (s' : Session)
    (w' : Shared MemoryStore) : Prop where
  asks : ∀ snapshot, s.heeded n = some snapshot → s.asks n snapshot = []
  bare : s'.bare = s.bare
  entities : s'.entities = s.entities
  store : w'.store = w.store
  registry : w'.registry = w.registry

/-- A session that watches no attachments idles or acts. -/
theorem handleAmid_memory_cases (s : Session) (w : Shared MemoryStore) (after : Registry)
    (n : Notification) (hk : s.kind ≠ .attachment) :
    s.Idled w n (s.handleAmid w after n).1 (s.handleAmid w after n).2 ∨
    ∃ snapshot o e, s.Acted w n snapshot o e (s.handleAmid w after n).1
      (s.handleAmid w after n).2 := by
  cases handleAmid_handled s w after n with
  | quiet hbare hentities hstore hregistry hasks =>
      refine Or.inl ⟨?_, hbare, hentities, hstore, hregistry⟩
      intro snapshot hheed
      cases howner : snapshot.owner? with
      | some o => exact hasks snapshot o hheed howner
      | none =>
          obtain ⟨a, rfl⟩ := Snapshot.eq_attachment_of_owner? howner
          exact absurd (kind_of_heeded_attachment hheed) hk
  | refused _ _ hensured _ _ => exact absurd hensured not_ensured_none
  | acted hheed howner hasks hensured hbare hrec hregistry =>
      exact Or.inr ⟨_, _, _, hheed, howner, hasks, hensured.lodged, ⟨_, hbare, hrec⟩, hregistry⟩
  | attached hheed _ _ => exact absurd (kind_of_heeded_attachment hheed) hk

theorem Acted.guard {w' : Shared MemoryStore} {n : Notification} {snapshot : Snapshot} {o : Owner}
    {e : Entity} {s' : Session} (h : s.Acted w n snapshot o e s' w') :
    s'.guard = (s.fire o.name n.observedAt (s.asks n snapshot)).guard := by
  obtain ⟨added, hbare, _⟩ := h.bare
  have hguard := guard_of_bare hbare
  exact hguard

theorem Acted.rest {w' : Shared MemoryStore} {n : Notification} {snapshot : Snapshot} {o : Owner}
    {e : Entity} {s' : Session} (h : s.Acted w n snapshot o e s' w') :
    s'.testCase = s.testCase ∧ s'.counts = s.counts := by
  obtain ⟨added, hbare, _⟩ := h.bare
  rw [fire_eq] at hbare
  have hcase := congrArg Session.testCase hbare
  have hcounts := congrArg Session.counts hbare
  exact ⟨hcase, hcounts⟩

/-! ## What a session knows -/

/-- The events of a session that watches claims or pods belong to the entities that it knows, each
under the name of its resource. -/
structure Owning (s : Session) : Prop where
  lawful : s.entities.Lawful
  named : ∀ name x, s.entities.find? name = some x → x.name = name ∧ x.type = s.kind.owns
  views : ∀ r ∈ s.buffer, ∃ x, s.entities.find? r.resource = some x ∧ r.event.entity = x.id

/-- A session does not forget an entity. -/
theorem Lodged.mono {before store : MemoryStore} {o : Owner} {e : Entity} {entities : Keyed Entity}
    (h : s.Lodged before o e entities store) {name : String} {x : Entity}
    (hx : s.entities.find? name = some x) : entities.find? name = some x := by
  rcases h with ⟨_, rfl, _⟩ | ⟨hnone, _, _, _, rfl⟩
  · exact hx
  · rw [Keyed.find?_insert]
    split
    · rename_i hname
      rw [hname, hnone] at hx
      exact nomatch hx
    · exact hx

theorem Acted.type {w' : Shared MemoryStore} {n : Notification} {snapshot : Snapshot} {o : Owner}
    {e : Entity} {s' : Session} (h : s.Acted w n snapshot o e s' w') : o.type = s.kind.owns :=
  Snapshot.type_of_owner? h.owner (heeded_eq_some_iff.mp h.heeded).2.2.1

theorem Owning.handleAmid (h : s.Owning) (hk : s.kind ≠ .attachment) (w : Shared MemoryStore)
    (after : Registry) (n : Notification) : (s.handleAmid w after n).1.Owning := by
  have hkind : (s.handleAmid w after n).1.kind = s.kind := handleAmid_kind after n
  rcases handleAmid_memory_cases s w after n hk with hs | ⟨snapshot, o, e, hs⟩
  · have hbuffer := congrArg Session.buffer hs.bare
    change (s.handleAmid w after n).1.buffer = s.buffer at hbuffer
    refine ⟨?_, ?_, ?_⟩
    · rw [hs.entities]
      exact h.lawful
    · rw [hs.entities, hkind]
      exact h.named
    · rw [hs.entities, hbuffer]
      exact h.views
  · obtain ⟨added, hbare, hrec⟩ := hs.bare
    have hbuffer : (s.handleAmid w after n).1.buffer = s.buffer ++ added := by
      rw [fire_eq] at hbare
      have hsame := congrArg Session.buffer hbare
      exact hsame
    refine ⟨?_, ?_, ?_⟩
    · rcases hs.lodged with ⟨_, heq, _⟩ | ⟨_, _, _, _, heq⟩
      · rw [heq]
        exact h.lawful
      · rw [heq]
        exact h.lawful.insert
    · intro name x hx
      rw [hkind]
      rcases hs.lodged with ⟨_, heq, _⟩ | ⟨_, id, _, rfl, heq⟩
      · rw [heq] at hx
        exact h.named name x hx
      · rw [heq, Keyed.find?_insert] at hx
        split at hx
        · rename_i hname
          cases hx
          exact ⟨hname.symm, hs.type⟩
        · exact h.named name x hx
    · intro r hr
      rw [hbuffer] at hr
      rcases List.mem_append.mp hr with hr | hr
      · obtain ⟨x, hx, hentity⟩ := h.views r hr
        exact ⟨x, hs.lodged.mono hx, hentity⟩
      · refine ⟨e, ?_, hrec.entity hr⟩
        rw [hrec.resource hr]
        exact hs.lodged.find?

/-! ## Sessions that are alike -/

/-- The same but for the numbers of entities, and for what is in the buffer. -/
structure Alike (s t : Session) : Prop where
  guard : s.guard = t.guard
  testCase : s.testCase = t.testCase
  cache : s.entities.map Entity.unnumbered = t.entities.map Entity.unnumbered
  counts : s.counts = t.counts

theorem Alike.refl (s : Session) : s.Alike s := ⟨rfl, rfl, rfl, rfl⟩

theorem Alike.symm (h : s.Alike t) : t.Alike s :=
  ⟨h.guard.symm, h.testCase.symm, h.cache.symm, h.counts.symm⟩

theorem Alike.trans {u : Session} (h : s.Alike t) (h' : t.Alike u) : s.Alike u :=
  ⟨h.guard.trans h'.guard, h.testCase.trans h'.testCase, h.cache.trans h'.cache,
    h.counts.trans h'.counts⟩

theorem Alike.find? (h : s.Alike t) (name : String) :
    (s.entities.find? name).map Entity.unnumbered =
      (t.entities.find? name).map Entity.unnumbered := by
  rw [← Keyed.find?_map, h.cache, Keyed.find?_map]

theorem Alike.lodged (h : s.Alike t) {before store before' store' : MemoryStore} {o : Owner}
    {e e' : Entity} {entities entities' : Keyed Entity} (hs : s.Lodged before o e entities store)
    (ht : t.Lodged before' o e' entities' store') :
    entities.map Entity.unnumbered = entities'.map Entity.unnumbered ∧
      e.unnumbered = e'.unnumbered := by
  have hsame := h.find? o.name
  rcases hs with ⟨hfind, rfl, _⟩ | ⟨hnone, id, _, rfl, rfl⟩
  · rcases ht with ⟨hfind', rfl, _⟩ | ⟨hnone', _⟩
    · rw [hfind, hfind'] at hsame
      exact ⟨h.cache, Option.some.inj hsame⟩
    · rw [hfind, hnone'] at hsame
      exact nomatch hsame
  · rcases ht with ⟨hfind', _⟩ | ⟨hnone', id', _, rfl, rfl⟩
    · rw [hnone, hfind'] at hsame
      exact nomatch hsame
    · have howned : s.ownedEntity o = t.ownedEntity o := by
        rw [ownedEntity, ownedEntity, h.testCase]
      refine ⟨?_, by rw [howned]; rfl⟩
      rw [Keyed.map_insert, Keyed.map_insert, h.cache, howned]
      rfl

theorem map_handedOff {r r' : Registry} {e e' : Entity}
    (hr : r.map Entity.unnumbered = r'.map Entity.unnumbered) (he : e.unnumbered = e'.unnumbered)
    (o : Owner) (types : List EventType) :
    (handedOff r o e types).map Entity.unnumbered =
      (handedOff r' o e' types).map Entity.unnumbered := by
  unfold handedOff
  cases o.volume with
  | none => exact hr
  | some volume =>
      dsimp only
      split
      · rw [Registry.publish, Registry.publish, Keyed.map_insert, Keyed.map_insert, hr, he]
      · exact hr

/-- What is fed to sessions that are alike leaves them alike, whatever their stores; and so it does
their registries. -/
theorem Alike.handleAmid (h : s.Alike t) (hk : s.kind ≠ .attachment) {w w' : Shared MemoryStore}
    (after after' : Registry) (n : Notification) :
    (s.handleAmid w after n).1.Alike (t.handleAmid w' after' n).1 ∧
    (w.registry.map Entity.unnumbered = w'.registry.map Entity.unnumbered →
      (s.handleAmid w after n).2.registry.map Entity.unnumbered =
        (t.handleAmid w' after' n).2.registry.map Entity.unnumbered) := by
  have hkind : s.kind = t.kind := congrArg Guard.kind h.guard
  have hheed := heeded_congr h.guard n
  have hk' : t.kind ≠ .attachment := hkind ▸ hk
  -- The guards are the same, so both sessions idle or both act, and on the same snapshot.
  rcases handleAmid_memory_cases s w after n hk with hs | ⟨snapshot, o, e, hs⟩
  · rcases handleAmid_memory_cases t w' after' n hk' with ht | ⟨snapshot', o', e', ht⟩
    · refine ⟨⟨?_, ?_, ?_, ?_⟩, ?_⟩
      · rw [guard_of_bare hs.bare, guard_of_bare ht.bare, h.guard]
      · have hs' := congrArg Session.testCase hs.bare
        have ht' := congrArg Session.testCase ht.bare
        exact Eq.trans hs' (h.testCase.trans ht'.symm)
      · rw [hs.entities, ht.entities, h.cache]
      · have hs' := congrArg Session.counts hs.bare
        have ht' := congrArg Session.counts ht.bare
        exact Eq.trans hs' (h.counts.trans ht'.symm)
      · rw [hs.registry, ht.registry]
        exact id
    · exact absurd ((asks_congr h.guard n snapshot').symm.trans
        (hs.asks snapshot' (hheed.trans ht.heeded))) ht.asks
  · rcases handleAmid_memory_cases t w' after' n hk' with ht | ⟨snapshot', o', e', ht⟩
    · exact absurd ((asks_congr h.guard n snapshot).trans
        (ht.asks snapshot (hheed.symm.trans hs.heeded))) hs.asks
    · have hsnapshot : snapshot = snapshot' :=
        Option.some.inj (hs.heeded.symm.trans (hheed.trans ht.heeded))
      subst hsnapshot
      have howner : o = o' := Option.some.inj (hs.owner.symm.trans ht.owner)
      subst howner
      have hasks := asks_congr h.guard n snapshot
      obtain ⟨hcache, he⟩ := h.lodged hs.lodged ht.lodged
      refine ⟨⟨?_, ?_, hcache, ?_⟩, fun hr => ?_⟩
      · rw [hs.guard, ht.guard, hasks]
        exact guard_fire_congr h.guard _ _ _
      · exact hs.rest.1.trans (h.testCase.trans ht.rest.1.symm)
      · exact hs.rest.2.trans (h.counts.trans ht.rest.2.symm)
      · rw [hs.registry, ht.registry, hasks, fresh_congr h.guard]
        exact map_handedOff hr he o _

theorem Alike.sample (h : s.Alike t) (l : Listing) : (s.sample l).Alike (t.sample l) := by
  have hstamp := stampOf_congr h.guard l.observedAt
  have hkind : s.kind = t.kind := congrArg Guard.kind h.guard
  have hfired : s.fired = t.fired := congrArg Guard.fired h.guard
  have hdone : s.terminated = t.terminated := congrArg Guard.terminated h.guard
  refine ⟨?_, h.testCase, h.cache, ?_⟩
  · show Guard.mk s.kind s.fired s.terminated (some (s.stampOf l.observedAt)) =
      Guard.mk t.kind t.fired t.terminated (some (t.stampOf l.observedAt))
    rw [hstamp, hkind, hfired, hdone]
  · show s.counts ++ [⟨s.testCase, s.stampOf l.observedAt, _⟩] =
      t.counts ++ [⟨t.testCase, t.stampOf l.observedAt, _⟩]
    rw [hstamp, h.testCase, h.counts]

/-- What is fed to sessions that are alike leaves them alike, and their registries. -/
theorem Alike.take (h : s.Alike t) (hk : s.kind ≠ .attachment) {w w' : Shared MemoryStore}
    (item : Item) :
    (s.take w item).1.Alike (t.take w' item).1 ∧
    (w.registry.map Entity.unnumbered = w'.registry.map Entity.unnumbered →
      (s.take w item).2.registry.map Entity.unnumbered =
        (t.take w' item).2.registry.map Entity.unnumbered) := by
  cases item with
  | notification n => exact h.handleAmid hk w.registry w'.registry n
  | listing l => exact ⟨h.sample l, id⟩

theorem takeAll_append {σ : Type} [EventStore σ] (s : Session) (w : Shared σ) (xs ys : List Item) :
    s.takeAll w (xs ++ ys) = (s.takeAll w xs).1.takeAll (s.takeAll w xs).2 ys := by
  induction xs generalizing s w with
  | nil => rfl
  | cons x rest ih => exact ih _ _

/-- A session that takes items alone, with a store of its own. -/
def solo (kind : ObserverKind) (testCase : TestCaseId) (items : List Item) :
    Session × Shared MemoryStore :=
  (start kind testCase).takeAll (.start .empty) items

theorem solo_append (kind : ObserverKind) (testCase : TestCaseId) (items : List Item) (item : Item) :
    solo kind testCase (items ++ [item]) =
      (solo kind testCase items).1.take (solo kind testCase items).2 item := by
  unfold solo
  rw [takeAll_append]
  rfl

end Session

end StorageLifecycle

import StorageLifecycle.Proofs.Session.Dealing
import StorageLifecycle.Proofs.Session.Owned
import StorageLifecycle.Proofs.Session.Proper

/-!
# What the entities of a session stand on

A session gets the ids of entities from the store, and an attachment gets them from the registry, where
a session that watches claims has put them. A view of the rows of a store says which of them are there.
What a session knows and what it holds stands on such rows all along, as long as rows only ever come
to a store and an entity that was saved has one.
-/

namespace StorageLifecycle

/-- How the rows of entities of a store are seen: which stores are as they should be, and which rows of
which types are there. -/
structure RowView (σ : Type) where
  sound : σ → Prop
  has : σ → EntityType → EntityId → Prop

namespace RowView

variable {σ : Type}

/-- The store is still as it should be, and no row has gone. -/
structure Keeps (v : RowView σ) (before after : σ) : Prop where
  sound : v.sound after
  has : ∀ type id, v.has before type id → v.has after type id

theorem Keeps.refl {v : RowView σ} {s : σ} (h : v.sound s) : v.Keeps s s := ⟨h, fun _ _ => id⟩

theorem Keeps.of_eq {v : RowView σ} {s s' : σ} (h : v.sound s) (heq : s' = s) : v.Keeps s s' := by
  rw [heq]
  exact Keeps.refl h

theorem Keeps.trans {v : RowView σ} {s s' s'' : σ} (h : v.Keeps s s') (h' : v.Keeps s' s'') :
    v.Keeps s s'' :=
  ⟨h'.sound, fun type id hid => h'.has type id (h.has type id hid)⟩

/-- What is asked of a store for some test cases: rows only ever come, and an owner that is admitted
has a row of its type when its entity was saved. Events are given to it with rows to stand on. -/
structure Lawful [EventStore σ] (v : RowView σ) (cases : TestCaseId → Prop)
    (admits : Session.Owner → Prop) : Prop where
  saveEntity : ∀ {o : Session.Owner} {id : TestCaseId} {s s' : σ}
    {answer : Except StoreError (List EntityId)}, v.sound s → cases id → admits o →
    (EventStore.saveEntities [.fresh o.name o.uid o.type id]).perform s = (answer, s') →
    v.Keeps s s' ∧ ∀ ids, answer = .ok ids → v.has s' o.type (ids.headD 0)
  saveEvents : ∀ {batch : List Event} {s s' : σ} {answer : Except StoreError Unit}, v.sound s →
    (∀ e ∈ batch, cases e.testCase ∧ v.has s e.type.entityType e.entity) →
    (EventStore.saveEvents batch).perform s = (answer, s') → v.Keeps s s'
  saveCounts : ∀ {batch : List CountSample} {s s' : σ} {answer : Except StoreError Unit},
    v.sound s → (EventStore.saveCounts batch).perform s = (answer, s') → v.Keeps s s'

/-- The claims in a registry have rows. -/
def Backs (v : RowView σ) (store : σ) (registry : Registry) : Prop :=
  ∀ volume e, registry.lookup volume = some e → v.has store .pvc e.id

variable {v : RowView σ} {store store' : σ}

theorem backs_empty : v.Backs store .empty := fun _ _ h => nomatch h

theorem Backs.mono {registry : Registry} (h : v.Backs store registry) (hkeeps : v.Keeps store store') :
    v.Backs store' registry :=
  fun volume e hlookup => hkeeps.has _ _ (h volume e hlookup)

theorem Backs.publish {registry : Registry} (h : v.Backs store registry) {e : Entity}
    (he : v.has store .pvc e.id) (volume : String) : v.Backs store (registry.publish volume e) := by
  intro volume' e' hlookup
  unfold Registry.lookup Registry.publish at hlookup
  rw [Keyed.find?_insert] at hlookup
  split at hlookup
  · cases hlookup
    exact he
  · exact h volume' e' hlookup

end RowView

/-- Only claims have a volume to be published under. -/
theorem Snapshot.pvc_of_volume {snapshot : Snapshot} {o : Session.Owner} {volume : String}
    (h : snapshot.owner? = some o) (hv : o.volume = some volume) : o.type = .pvc := by
  cases snapshot with
  | claim c =>
      cases h
      rfl
  | pod p =>
      cases h
      exact nomatch hv
  | attachment a => exact nomatch h

theorem ResourceKind.entityType_of_mem_course {k : ObserverKind} {resource : ResourceKind}
    (h : k.resource = some resource) {t : EventType} (ht : t ∈ resource.course.types) :
    t.entityType = k.owns := by
  have hall : ∀ t ∈ resource.course.types, t.entityType = k.owns := by
    cases k with
    | claim | pod | attachment =>
        cases h
        decide
    | count => exact nomatch h
  exact hall t ht

namespace Session

variable {σ : Type} {s s' : Session} {w w' : Shared σ} {k : ObserverKind} {id : TestCaseId}
  {v : RowView σ} {store store' : σ}

/-! ## Types -/

/-- What fires in a session happens to entities of the type that its observer stores. -/
def Typed (k : ObserverKind) (s : Session) : Prop := ∀ f ∈ s.fired, f.type.entityType = k.owns

theorem steady_typed (k : ObserverKind) :
    Steady (fun _ => True) (fun _ => True) fun s => s.kind = k ∧ s.Typed k := by
  refine steady_of_guard ?_ ?_
  · intro s t hguard h
    have hkind : t.kind = s.kind := congrArg Guard.kind hguard
    have hfired : t.fired = s.fired := congrArg Guard.fired hguard
    refine ⟨hkind.trans h.1, ?_⟩
    unfold Typed
    rw [hfired]
    exact h.2
  · intro s n snapshot h hheed
    rw [fire_eq]
    refine ⟨h.1, ?_⟩
    intro f hf
    rcases List.mem_append.mp hf with hf | hf
    · exact h.2 f hf
    · obtain ⟨e, he, rfl⟩ := List.mem_map.mp hf
      obtain ⟨t, ht, rfl⟩ := List.mem_map.mp he
      obtain ⟨_, _, hkind, _⟩ := heeded_eq_some_iff.mp hheed
      rw [h.1] at hkind
      exact ResourceKind.entityType_of_mem_course hkind
        ((Course.asked_sublist _ _ _ _).subset (mem_fresh.mp ht).1)

/-! ## Rows -/

/-- What a session knows and what it holds stands on rows of the type that its observer stores. -/
structure Rooted (v : RowView σ) (store : σ) (k : ObserverKind) (id : TestCaseId) (s : Session) :
    Prop where
  proper : s.Proper k id
  typed : s.Typed k
  cached : ∀ name e, s.entities.find? name = some e → v.has store k.owns e.id
  buffered : ∀ r ∈ s.buffer, v.has store k.owns r.event.entity

theorem rooted_start (v : RowView σ) (store : σ) (k : ObserverKind) (id : TestCaseId) :
    (start k id).Rooted v store k id where
  proper := proper_start k id
  typed _ h := nomatch h
  cached _ _ h := nomatch h
  buffered _ h := nomatch h

theorem Rooted.mono (h : s.Rooted v store k id) (hkeeps : v.Keeps store store') :
    s.Rooted v store' k id where
  proper := h.proper
  typed := h.typed
  cached name e hfind := hkeeps.has _ _ (h.cached name e hfind)
  buffered r hr := hkeeps.has _ _ (h.buffered r hr)

/-- The events that a session stores stand on rows. -/
theorem Rooted.batch (h : s.Rooted v store k id) :
    ∀ e ∈ s.batch, e.testCase = id ∧ v.has store e.type.entityType e.entity := by
  intro e he
  refine ⟨h.proper.batch e he, ?_⟩
  obtain ⟨r, hr, rfl⟩ := List.mem_map.mp he
  have htype : r.event.type.entityType = k.owns := h.typed _ (h.proper.kept.firing_mem hr)
  rw [htype]
  exact h.buffered r hr

/-- Events that are recorded for an entity with a row stand on it. -/
theorem buffered_append (h : ∀ r ∈ s.buffer, v.has store k.owns r.event.entity) {t : Session}
    {entity : EntityId} {firings : List Firing} {added : List Recorded}
    (hentity : v.has store k.owns entity) (hrec : t.Records entity firings added) :
    ∀ r ∈ s.buffer ++ added, v.has store k.owns r.event.entity := by
  intro r hr
  rcases List.mem_append.mp hr with hr | hr
  · exact h r hr
  · rw [hrec.entity hr]
    exact hentity

/-- What is kept of a session, its registry and its store over one turn. -/
structure Stands (v : RowView σ) (k : ObserverKind) (id : TestCaseId) (before : σ) (s : Session)
    (w : Shared σ) : Prop where
  keeps : v.Keeps before w.store
  rooted : s.Rooted v w.store k id
  backs : v.Backs w.store w.registry

/-! ## Attachments -/

/-- An attachment is the only thing that waits for a claim. -/
theorem Proper.attachment_of_parked (h : s.Proper k id) {name : String} {p : Parked}
    (hp : s.parked.find? name = some p) : k = .attachment := by
  rw [← h.kind]
  by_contra hne
  rw [h.kept.own hne] at hp
  exact nomatch hp

theorem Rooted.tryResolve (h : s.Rooted v w.store k id) {registry : Registry}
    (hbacks : v.Backs w.store registry) (name : String) :
    (s.tryResolve w registry name).1.Rooted v w.store k id := by
  have hproper := h.proper.tryResolve w registry name
  have htyped : (s.tryResolve w registry name).1.Typed k :=
    ((steady_typed k).retry w name ⟨h.proper.kind, h.typed⟩ trivial).2
  rcases tryResolve_cases (s := s) (w := w) registry name with
    ⟨heq, _⟩ | ⟨p, claim, added, hparked, hclaim, heq, hrec⟩
  · rw [heq]
    exact h
  · rw [heq] at hproper htyped ⊢
    refine ⟨hproper, htyped, h.cached, ?_⟩
    have hrow : v.has w.store k.owns claim.id := by
      rw [h.proper.attachment_of_parked hparked]
      exact hbacks _ _ hclaim
    exact buffered_append h.buffered hrow hrec

theorem Rooted.resolveAll (h : s.Rooted v w.store k id) {tries : List (String × Registry)}
    (hbacks : ∀ t ∈ tries, v.Backs w.store t.2) :
    (s.resolveAll w tries).1.Rooted v w.store k id := by
  induction tries generalizing s w with
  | nil => exact h
  | cons t rest ih =>
      have hone := h.tryResolve (hbacks t List.mem_cons_self) t.1
      have hstore : (s.tryResolve w t.2 t.1).2.store = w.store := tryResolve_store t.2 t.1
      have hrest := ih (s := (s.tryResolve w t.2 t.1).1) (w := (s.tryResolve w t.2 t.1).2)
        (by rw [hstore]; exact hone)
        (by rw [hstore]; exact fun t' ht' => hbacks t' (List.mem_cons_of_mem _ ht'))
      rw [hstore] at hrest
      exact hrest

theorem Rooted.settle (h : s.Rooted v w.store k id) (hbacks : v.Backs w.store w.registry) :
    (s.settle w (s.lastTries w)).1.Rooted v w.store k id := by
  have hresolved : (s.resolveAll w (s.lastTries w)).1.Rooted v w.store k id := by
    apply h.resolveAll
    intro t ht
    rw [(mem_lastTries.mp ht).2]
    exact hbacks
  refine ⟨h.proper.settle w _, hresolved.typed, hresolved.cached, ?_⟩
  exact fun r hr => hresolved.buffered r ((inOrder_perm _).mem_iff.mp hr)

/-- What an attachment fires goes to the claim under its volume, or waits. -/
theorem Rooted.fireAttachment (h : s.Rooted v w.store .attachment id) {registry : Registry}
    (hbacks : v.Backs w.store registry) (w' : Shared σ) (name volume : String)
    (types : List EventType) (observedAt : Instant) :
    let s' := (s.fireAttachment w' registry name volume types observedAt).1
    s'.entities = s.entities ∧ ∀ r ∈ s'.buffer, v.has w.store .pvc r.event.entity := by
  have hbuffer : ∀ r ∈ (s.fire name observedAt types).buffer, v.has w.store .pvc r.event.entity := by
    rw [fire_eq]
    exact h.buffered
  have hentities := fire_entities (s := s) name observedAt types
  rcases fireAttachment_cases (s := s) (w := w') registry name volume types observedAt with
    ⟨_, heq⟩ | ⟨claim, added, hclaim, _, heq, hrec⟩ | ⟨_, _, heq⟩
  · rw [heq]
    exact ⟨hentities, hbuffer⟩
  · rw [heq]
    refine ⟨hentities, ?_⟩
    exact buffered_append (k := .attachment) hbuffer (hbacks _ _ hclaim) hrec
  · rw [heq]
    exact ⟨hentities, hbuffer⟩

/-- A change of an attachment is for its claim, and leaves the store alone. -/
theorem Rooted.attached (h : s.Rooted v w.store .attachment id) (hsound : v.sound w.store)
    (hbacks : v.Backs w.store w.registry) {name volume : String} {types : List EventType}
    {observedAt : Instant} {s' : Session} {w' : Shared σ}
    (happlied : (s', w') = s.applyAttachment w w.registry w.registry name volume types observedAt)
    (hproper : s'.Proper .attachment id) (htyped : s'.Typed .attachment) :
    Stands v .attachment id w.store s' w' := by
  have hretried := h.tryResolve hbacks name
  rw [applyAttachment_eq] at happlied
  have hs' : s' = _ := congrArg Prod.fst happlied
  have hw' : w' = _ := congrArg Prod.snd happlied
  have hstore : w'.store = w.store := by
    rw [hw']
    exact (fireAttachment_store _ _ _ _ _).trans (tryResolve_store _ _)
  have hregistry : w'.registry = w.registry := by
    rw [hw']
    exact (fireAttachment_registry _ _ _ _ _).trans (tryResolve_registry _ _)
  obtain ⟨hentities, hbuffer⟩ := hretried.fireAttachment hbacks
    (s.tryResolve w w.registry name).2 name volume types observedAt
  rw [← hs'] at hentities hbuffer
  refine ⟨.of_eq hsound hstore, ⟨hproper, htyped, ?_, ?_⟩, ?_⟩
  · rw [hentities, hstore]
    exact hretried.cached
  · rw [hstore]
    exact hbuffer
  · rw [hregistry, hstore]
    exact hbacks

/-! ## Claims and pods -/

theorem backs_handedOff {registry : Registry} (h : v.Backs store registry) {o : Owner} {e : Entity}
    (hrow : v.has store k.owns e.id) (hvolume : ∀ volume, o.volume = some volume → k.owns = .pvc)
    (types : List EventType) : v.Backs store (handedOff registry o e types) := by
  unfold handedOff
  split
  · rename_i volume hv
    split
    · rw [hvolume volume hv] at hrow
      exact h.publish hrow volume
    · exact h
  · exact h

variable [EventStore σ] {cases : TestCaseId → Prop} {admits : Owner → Prop}

/-- An entity that a session was given has a row. -/
theorem Ensured.has (hv : v.Lawful cases admits) (hid : cases id) (hsound : v.sound store)
    (h : s.Rooted v store k id) {o : Owner} (ho : admits o) (htype : o.type = k.owns) {e : Option Entity}
    {entities : Keyed Entity} (hensured : s.Ensured store o e entities store') :
    v.Keeps store store' ∧ (∀ x, e = some x → v.has store' k.owns x.id) ∧
      ∀ name x, entities.find? name = some x → v.has store' k.owns x.id := by
  have hgiven : v.Keeps store store' ∧ ∀ x, e = some x → v.has store' k.owns x.id := by
    cases hensured with
    | known hfind =>
        refine ⟨RowView.Keeps.refl hsound, ?_⟩
        rintro x ⟨⟩
        exact h.cached _ _ hfind
    | stored _ hsave =>
        unfold ownedEntity at hsave
        rw [h.proper.testCase] at hsave
        obtain ⟨hkeeps, hrow⟩ := hv.saveEntity hsound hid ho hsave
        refine ⟨hkeeps, ?_⟩
        rintro x ⟨⟩
        exact htype ▸ hrow _ rfl
    | refused _ hsave =>
        unfold ownedEntity at hsave
        rw [h.proper.testCase] at hsave
        exact ⟨(hv.saveEntity hsound hid ho hsave).1, nofun⟩
  obtain ⟨hkeeps, hnew⟩ := hgiven
  refine ⟨hkeeps, hnew, fun name x hx => ?_⟩
  rcases hensured.find?_cases hx with hbefore | ⟨-, he⟩
  · exact hkeeps.has _ _ (h.cached name x hbefore)
  · exact hnew x he

/-! ## Every turn keeps it -/

theorem Rooted.handle (hv : v.Lawful cases admits) (hid : cases id) (hsound : v.sound w.store)
    (h : s.Rooted v w.store k id) (hbacks : v.Backs w.store w.registry) {n : Notification}
    (hadmits : ∀ snapshot o, n.object = some snapshot → snapshot.owner? = some o → admits o) :
    Stands v k id w.store (s.handle w n).1 (s.handle w n).2 := by
  have hproper := h.proper.take w (.notification n)
  change (s.handle w n).1.Proper k id at hproper
  have htyped : (s.handle w n).1.Typed k :=
    ((steady_typed k).handleAmid trivial trivial trivial ⟨h.proper.kind, h.typed⟩).2
  unfold Session.handle at hproper htyped ⊢
  have hcases := handleAmid_handled s w w.registry n
  generalize (s.handleAmid w w.registry n).1 = s' at hproper htyped hcases ⊢
  generalize (s.handleAmid w w.registry n).2 = w' at hcases ⊢
  cases hcases with
  | quiet hbare hentities hstore hregistry _ =>
      have hbuffer : s'.buffer = s.buffer := congrArg (·.buffer) hbare
      refine ⟨.of_eq hsound hstore, ⟨hproper, htyped, ?_, ?_⟩, ?_⟩
      · rw [hentities, hstore]
        exact h.cached
      · rw [hbuffer, hstore]
        exact h.buffered
      · rw [hregistry, hstore]
        exact hbacks
  | @refused snapshot o hheed howner hensured hbare hregistry =>
      obtain ⟨hobject, _, hkind, _⟩ := heeded_eq_some_iff.mp hheed
      rw [h.proper.kind] at hkind
      obtain ⟨hkeeps, _, hcached⟩ := Ensured.has hv hid hsound h (hadmits _ _ hobject howner)
        (Snapshot.type_of_owner? howner hkind) hensured
      have hbuffer : s'.buffer = s.buffer := congrArg (·.buffer) hbare
      refine ⟨hkeeps, ⟨hproper, htyped, hcached, ?_⟩, ?_⟩
      · rw [hbuffer]
        exact fun r hr => hkeeps.has _ _ (h.buffered r hr)
      · rw [hregistry]
        exact hbacks.mono hkeeps
  | @acted snapshot o e added hheed howner _ hensured hbare hrec hregistry =>
      obtain ⟨hobject, _, hkind, _⟩ := heeded_eq_some_iff.mp hheed
      rw [h.proper.kind] at hkind
      have htype := Snapshot.type_of_owner? howner hkind
      obtain ⟨hkeeps, hrow, hcached⟩ :=
        Ensured.has hv hid hsound h (hadmits _ _ hobject howner) htype hensured
      have hbuffer : s'.buffer = s.buffer ++ added := by
        rw [fire_eq] at hbare
        have hsame := congrArg Session.buffer hbare
        exact hsame
      refine ⟨hkeeps, ⟨hproper, htyped, hcached, ?_⟩, ?_⟩
      · rw [hbuffer]
        exact buffered_append (fun r hr => hkeeps.has _ _ (h.buffered r hr)) (hrow e rfl) hrec
      · rw [hregistry]
        refine backs_handedOff (hbacks.mono hkeeps) (hrow e rfl) ?_ _
        exact fun volume hvolume => htype.symm.trans (Snapshot.pvc_of_volume howner hvolume)
  | @attached a volume hheed _ happlied =>
      have hk : k = .attachment := h.proper.kind.symm.trans (kind_of_heeded_attachment hheed)
      subst hk
      have hcounted : s.countHandled.Rooted v w.store .attachment id :=
        ⟨h.proper.countHandled, h.typed, h.cached, h.buffered⟩
      exact hcounted.attached hsound hbacks happlied hproper htyped

theorem Rooted.take (hv : v.Lawful cases admits) (hid : cases id) (hsound : v.sound w.store)
    (h : s.Rooted v w.store k id) (hbacks : v.Backs w.store w.registry) {item : Item}
    (hadmits : ∀ n snapshot o, item = .notification n → n.object = some snapshot →
      snapshot.owner? = some o → admits o) :
    Stands v k id w.store (s.take w item).1 (s.take w item).2 := by
  cases item with
  | notification n => exact h.handle hv hid hsound hbacks fun snapshot o => hadmits n snapshot o rfl
  | listing l =>
      have hproper := h.proper.take w (.listing l)
      exact ⟨RowView.Keeps.refl hsound, ⟨hproper, h.typed, h.cached, h.buffered⟩, hbacks⟩

/-- Storing what a session holds takes no row away. -/
theorem Rooted.save (hv : v.Lawful cases admits) (hid : cases id) (hsound : v.sound store)
    (h : s.Rooted v store k id) {answer : Except StoreError Unit}
    (hsave : s.save.perform store = (answer, store')) : v.Keeps store store' := by
  refine save_keeps hsave (RowView.Keeps.refl hsound) ?_ ?_
  · refine hv.saveEvents hsound ?_
    intro e he
    obtain ⟨hcase, hrow⟩ := h.batch e he
    exact ⟨hcase ▸ hid, hrow⟩
  · intro answer between store hkeeps hrun
    exact hkeeps.trans (hv.saveCounts hkeeps.sound hrun)

/-- What is kept when a session leaves its feed. -/
theorem Rooted.finish (hv : v.Lawful cases admits) (hid : cases id) (hsound : v.sound w.store)
    (h : s.Rooted v w.store k id) (hbacks : v.Backs w.store w.registry) (exit : Exit) :
    v.Keeps w.store (s.finish exit w).2.2.store ∧
      (s.finish exit w).2.2.registry = w.registry := by
  cases exit with
  | closed => exact ⟨RowView.Keeps.refl hsound, rfl⟩
  | stop =>
      obtain ⟨_, hregistry, ⟨hsave, _⟩ | ⟨e, hsave, _⟩⟩ := finish_stop_cases s w
      · exact ⟨(h.settle hbacks).save hv hid hsound hsave, hregistry⟩
      · exact ⟨(h.settle hbacks).save hv hid hsound hsave, hregistry⟩

end Session

end StorageLifecycle

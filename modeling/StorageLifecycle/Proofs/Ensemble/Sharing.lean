import StorageLifecycle.Proofs.Ensemble.Members

/-!
# What a session does to what is shared

Before it ends, a session adds the rows of the entities that it comes to know, and publishes the
claims that are shown bound. The registry only grows, as long as no two claims are bound to one
volume.
-/

namespace StorageLifecycle

/-! ## Bindings -/

/-- Name and volume of a claim that is shown bound to a volume. -/
def Notification.binding? (n : Notification) : Option (String × String) :=
  match n.object with
  | some (.claim c) => if c.isBound then c.volume.map fun v => (c.name, v) else none
  | _ => none

/-- All bindings of claims that a feed tells of. -/
def bindingsOf (ns : List Notification) : List (String × String) :=
  ns.filterMap Notification.binding?

/-- At most one claim is ever bound to a volume. -/
def OneClaim (ns : List Notification) : Prop :=
  ∀ v name name', (name, v) ∈ bindingsOf ns → (name', v) ∈ bindingsOf ns → name = name'

namespace Session

variable {s : Session} {w : Shared MemoryStore} {ns : List Notification}

/-- The registry has claims that the session knows, each under a volume to which it was bound. -/
def Registered (s : Session) (ns : List Notification) (registry : Registry) : Prop :=
  ∀ v c, registry.lookup v = some c →
    s.entities.find? c.name = some c ∧ (c.name, v) ∈ bindingsOf ns

/-- A claim is published only when it is shown bound. -/
theorem Acted.binding {n : Notification} {snapshot : Snapshot} {o : Owner} {e : Entity}
    {s' : Session} {w' : Shared MemoryStore} (h : s.Acted w n snapshot o e s' w') {v : String}
    (hv : o.volume = some v) (hbound : .pvcBound ∈ s.fresh o.name (s.asks n snapshot)) :
    n.binding? = some (o.name, v) := by
  have howner := h.owner
  have hasked := (mem_fresh.mp hbound).1
  have hobject := (heeded_eq_some_iff.mp h.heeded).1
  cases snapshot with
  | attachment a => exact nomatch howner
  | pod p =>
      cases howner
      exact nomatch hv
  | claim c =>
      cases howner
      have hsettled : c.isBound = true :=
        ((Course.settled_mem_asked (ResourceKind.course_nodup .claim) _ _ _).mp hasked).2
      unfold Notification.binding?
      rw [hobject]
      simp only [hsettled, if_true]
      exact congrArg (Option.map fun v => (c.name, v)) hv

/-- The registry only grows while claims are told of, each of them bound to volumes of its own. -/
theorem Registered.take (h : s.Registered ns w.registry) (hown : s.Owning)
    (hk : s.kind ≠ .attachment) (hone : OneClaim ns) {n : Notification} (hn : n ∈ ns) :
    (s.handle w n).1.Registered ns (s.handle w n).2.registry ∧
      w.registry.Within (s.handle w n).2.registry := by
  rcases handleAmid_memory_cases s w w.registry n hk with hs | ⟨snapshot, o, e, hs⟩
  · have hregistry : (s.handle w n).2.registry = w.registry := hs.registry
    have hentities : (s.handle w n).1.entities = s.entities := hs.entities
    rw [hregistry]
    refine ⟨?_, Registry.Within.refl _⟩
    intro v c hc
    rw [hentities]
    exact h v c hc
  · have hregistry : (s.handle w n).2.registry =
        handedOff w.registry o e (s.fresh o.name (s.asks n snapshot)) := hs.registry
    have hlodged : s.Lodged w.store o e (s.handle w n).1.entities (s.handle w n).2.store := hs.lodged
    have hmono : ∀ v c, w.registry.lookup v = some c →
        (s.handle w n).1.entities.find? c.name = some c ∧ (c.name, v) ∈ bindingsOf ns :=
      fun v c hc => ⟨hlodged.mono (h v c hc).1, (h v c hc).2⟩
    rw [hregistry]
    unfold handedOff
    cases hvolume : o.volume with
    | none => exact ⟨hmono, Registry.Within.refl _⟩
    | some volume =>
        dsimp only
        by_cases hbound : .pvcBound ∈ s.fresh o.name (s.asks n snapshot)
        · rw [if_pos hbound]
          have hbinding : (o.name, volume) ∈ bindingsOf ns :=
            List.mem_filterMap.mpr ⟨n, hn, hs.binding hvolume hbound⟩
          have hname : e.name = o.name := (hown.handleAmid hk w w.registry n).named _ _ hlodged.find? |>.1
          constructor
          · intro v c hc
            rw [Registry.lookup_publish] at hc
            split at hc
            · rename_i hv
              cases hc
              rw [hname, hv]
              exact ⟨hlodged.find?, hbinding⟩
            · exact hmono v c hc
          · intro v c hc
            rw [Registry.lookup_publish]
            split
            · rename_i hv
              -- The volume was published before, and for the same claim: no other is bound to it.
              obtain ⟨hfind, hmem⟩ := hmono v c hc
              rw [hv] at hmem
              rw [hone volume c.name o.name hmem hbinding] at hfind
              exact hlodged.find?.symm.trans hfind
            · exact hc
        · rw [if_neg hbound]
          exact ⟨hmono, Registry.Within.refl _⟩

/-- Pods are not published. -/
theorem handle_registry_of_pod (hk : s.kind = .pod) (n : Notification) :
    (s.handle w n).2.registry = w.registry := by
  have hother : s.kind ≠ .attachment := by rw [hk]; exact nofun
  rcases handleAmid_memory_cases s w w.registry n hother with hs | ⟨snapshot, o, e, hs⟩
  · exact hs.registry
  · refine Eq.trans hs.registry ?_
    have hkind := (heeded_eq_some_iff.mp hs.heeded).2.2.1
    have howner := hs.owner
    rw [hk] at hkind
    cases snapshot with
    | pod p =>
        cases howner
        rfl
    | claim c => exact nomatch hkind
    | attachment a => exact nomatch howner

/-- Taking an item writes neither events nor samples nor test cases. -/
theorem take_frame (s : Session) (w : Shared MemoryStore) (item : Item) :
    (s.take w item).2.store.events = w.store.events ∧
      (s.take w item).2.store.counts = w.store.counts ∧
      (s.take w item).2.store.testCases = w.store.testCases := by
  cases item with
  | listing l => exact ⟨rfl, rfl, rfl⟩
  | notification n =>
      show (s.handleAmid w w.registry n).2.store.events = _ ∧ _
      by_cases hk : s.kind = .attachment
      · obtain ⟨hstore, _⟩ := handleAmid_shared_of_attachment (w := w) w.registry n hk
        show _ ∧ (s.handleAmid w w.registry n).2.store.counts = _ ∧
          (s.handleAmid w w.registry n).2.store.testCases = _
        rw [hstore]
        exact ⟨rfl, rfl, rfl⟩
      · show _ ∧ (s.handleAmid w w.registry n).2.store.counts = _ ∧
          (s.handleAmid w w.registry n).2.store.testCases = _
        rcases handleAmid_memory_cases s w w.registry n hk with hs | ⟨snapshot, o, e, hs⟩
        · rw [hs.store]
          exact ⟨rfl, rfl, rfl⟩
        · rcases hs.lodged with ⟨_, _, hstore⟩ | ⟨_, id, hsave, _⟩
          · rw [hstore]
            exact ⟨rfl, rfl, rfl⟩
          · have hframe := MemoryStore.saveEntity_events w.store (s.ownedEntity o)
            rw [hsave] at hframe
            exact hframe

/-- The rows stay those of the entities that are known, also when a session learns of one more. -/
theorem filed_take {initial : MemoryStore} {id : TestCaseId} {owners : List Owner}
    {others : List Entity} (hown : s.Owning) (hk : s.kind ≠ .attachment) (hcase : s.testCase = id)
    (hothers : ∀ x ∈ others, x.type ≠ s.kind.owns)
    (hfresh : ∀ row ∈ initial.entities, row.testCase ≠ id) (huid : OneUid owners)
    (h : Filed initial w.store id owners (s.entities.values ++ others)) {n : Notification}
    (howners : ∀ snapshot o, n.object = some snapshot → snapshot.owner? = some o → o ∈ owners) :
    Filed initial (s.handle w n).2.store id owners
      ((s.handle w n).1.entities.values ++ others) := by
  rcases handleAmid_memory_cases s w w.registry n hk with hs | ⟨snapshot, o, e, hs⟩
  · have hstore : (s.handle w n).2.store = w.store := hs.store
    have hentities : (s.handle w n).1.entities = s.entities := hs.entities
    rw [hstore, hentities]
    exact h
  · have hlodged : s.Lodged w.store o e (s.handle w n).1.entities (s.handle w n).2.store := hs.lodged
    rcases hlodged with ⟨_, hentities, hstore⟩ | ⟨hnone, i, hsave, he, hentities⟩
    · rw [hstore, hentities]
      exact h
    · have hunknown : o.name ∉ s.entities.keys := Keyed.find?_eq_none_iff.mp hnone
      have ho : o ∈ owners := howners snapshot o (heeded_eq_some_iff.mp hs.heeded).1 hs.owner
      have hnew : ∀ x ∈ s.entities.values ++ others, ¬(x.type = o.type ∧ x.name = o.name) := by
        rintro x hx ⟨htype, hname⟩
        rcases List.mem_append.mp hx with hx | hx
        · obtain ⟨name, hfind⟩ := (Keyed.mem_values_iff hown.lawful).mp hx
          rw [← (hown.named name x hfind).1, hname, hnone] at hfind
          exact nomatch hfind
        · exact hothers x hx (htype.trans hs.type)
      have howned : s.ownedEntity o = Entity.fresh o.name o.uid o.type id := by
        rw [ownedEntity, hcase]
      rw [howned] at hsave he
      have hlodge := h.lodge hfresh huid ho hnew hsave
      rw [← he] at hlodge
      refine hlodge.perm ?_
      rw [hentities, Keyed.values_insert_of_not_mem hunknown, List.append_assoc, List.append_assoc]
      exact List.Perm.append_left _ List.perm_append_comm

end Session

end StorageLifecycle

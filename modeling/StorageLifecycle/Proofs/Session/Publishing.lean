import StorageLifecycle.Proofs.Session.Rooting

/-!
# What a session publishes

A session saves the entities of its own test case, and what it puts into the registry are entities that
it has saved. So each claim that comes into the registry at a turn of a session is of the test case of
this session. The end of a session publishes nothing.
-/

namespace StorageLifecycle

/-- What becomes of a registry when claims of one test case are put into it. -/
structure Registry.Grows (r r' : Registry) (id : TestCaseId) : Prop where
  own : ∀ v e, r'.lookup v = some e → r.lookup v = some e ∨ e.testCase = id
  kept : ∀ v, (r.lookup v).isSome → (r'.lookup v).isSome

theorem Registry.Grows.refl (r : Registry) (id : TestCaseId) : r.Grows r id :=
  ⟨fun _ _ h => .inl h, fun _ h => h⟩

theorem Registry.grows_publish (r : Registry) (v : String) (e : Entity) :
    r.Grows (r.publish v e) e.testCase := by
  unfold publish
  constructor <;> intro volume <;> unfold lookup <;> rw [Keyed.find?_insert] <;> split
  · rintro x ⟨⟩
    exact .inr rfl
  · exact fun x hx => .inl hx
  · exact fun _ => rfl
  · exact fun h => h

theorem Session.grows_handedOff (r : Registry) (o : Session.Owner) (e : Entity)
    (types : List EventType) : r.Grows (Session.handedOff r o e types) e.testCase := by
  unfold Session.handedOff
  split
  · split
    · exact r.grows_publish _ e
    · exact .refl r _
  · exact .refl r _

namespace Session

variable {σ : Type} {s : Session} {w : Shared σ} {k : ObserverKind} {id : TestCaseId}

/-- The session keeps its books, and the entities that it knows are of its test case. -/
structure OfCase (k : ObserverKind) (id : TestCaseId) (s : Session) : Prop where
  proper : s.Proper k id
  cached : ∀ name e, s.entities.find? name = some e → e.testCase = id

theorem ofCase_start (k : ObserverKind) (id : TestCaseId) : (start k id).OfCase k id :=
  ⟨proper_start k id, fun _ _ h => nomatch h⟩

theorem tryResolve_entities (registry : Registry) (name : String) :
    (s.tryResolve w registry name).1.entities = s.entities :=
  tryResolve_frame (fun _ _ _ => rfl) registry name

theorem fireAttachment_entities (registry : Registry) (name volume : String)
    (types : List EventType) (observedAt : Instant) :
    (s.fireAttachment w registry name volume types observedAt).1.entities = s.entities :=
  (fireAttachment_frame (fun _ _ _ => rfl) registry name volume types observedAt).trans
    (fire_entities name observedAt types)

variable [EventStore σ]

/-- What the store gives for an owner is an entity of the session's test case. -/
theorem Ensured.ofCase {before store : σ} {o : Owner} {e : Option Entity} {entities : Keyed Entity}
    (hensured : s.Ensured before o e entities store) (h : s.OfCase k id) :
    (∀ x, e = some x → x.testCase = id) ∧
      ∀ name x, entities.find? name = some x → x.testCase = id := by
  have hnew : ∀ x, e = some x → x.testCase = id := by
    cases hensured with
    | known hfind =>
        rintro x ⟨⟩
        exact h.cached _ _ hfind
    | stored _ _ =>
        rintro x ⟨⟩
        exact h.proper.testCase
    | refused _ _ => exact nofun
  refine ⟨hnew, fun name x hx => ?_⟩
  rcases hensured.find?_cases hx with hbefore | ⟨-, he⟩
  · exact h.cached name x hbefore
  · exact hnew x he

/-- What a session takes keeps it in its test case, and what it publishes is of its test case. -/
theorem OfCase.take (h : s.OfCase k id) (w : Shared σ) (item : Item) :
    (s.take w item).1.OfCase k id ∧ w.registry.Grows (s.take w item).2.registry id := by
  have hproper := h.proper.take w item
  cases item with
  | listing l => exact ⟨⟨hproper, h.cached⟩, .refl _ _⟩
  | notification n =>
      have hcases := handleAmid_handled s w w.registry n
      change (s.handleAmid w w.registry n).1.Proper k id at hproper
      show (s.handleAmid w w.registry n).1.OfCase k id ∧
        w.registry.Grows (s.handleAmid w w.registry n).2.registry id
      generalize (s.handleAmid w w.registry n).1 = s' at hproper hcases ⊢
      generalize (s.handleAmid w w.registry n).2 = w' at hcases ⊢
      cases hcases with
      | quiet _ hentities _ hregistry _ =>
          rw [hregistry]
          exact ⟨⟨hproper, hentities.symm ▸ h.cached⟩, .refl _ _⟩
      | refused _ _ hensured _ hregistry =>
          rw [hregistry]
          exact ⟨⟨hproper, (hensured.ofCase h).2⟩, .refl _ _⟩
      | acted _ _ _ hensured _ _ hregistry =>
          obtain ⟨hnew, hcached⟩ := hensured.ofCase h
          refine ⟨⟨hproper, hcached⟩, ?_⟩
          rw [hregistry]
          exact hnew _ rfl ▸ grows_handedOff _ _ _ _
      | attached _ _ happlied =>
          rw [applyAttachment_eq] at happlied
          have hentities : s'.entities = s.entities := by
            refine (congrArg (fun p => p.1.entities) happlied).trans ?_
            exact (fireAttachment_entities _ _ _ _ _).trans (tryResolve_entities _ _)
          have hregistry : w'.registry = w.registry := by
            refine (congrArg (fun p => p.2.registry) happlied).trans ?_
            exact (fireAttachment_registry _ _ _ _ _).trans (tryResolve_registry _ _)
          rw [hregistry]
          exact ⟨⟨hproper, hentities.symm ▸ h.cached⟩, .refl _ _⟩

theorem finish_registry (s : Session) (exit : Exit) (w : Shared σ) :
    (s.finish exit w).2.2.registry = w.registry := by
  cases exit with
  | closed => rfl
  | stop => exact (finish_stop_cases s w).2.1

/-- A session reports under its own kind. -/
theorem finish_observer (s : Session) (exit : Exit) (w : Shared σ) :
    (s.finish exit w).1.observer = s.kind := by
  cases exit with
  | closed => rfl
  | stop =>
      obtain ⟨_, _, ⟨_, hreport⟩ | ⟨_, _, hreport⟩⟩ := finish_stop_cases s w
      · rw [hreport]
        rfl
      · rw [hreport]
        rfl

end Session

end StorageLifecycle

import StorageLifecycle.Proofs.Session.Outputs

/-!
# The grammar of a lifecycle

The types that fire for a name, in the order of firing, make up a word of a small language: the
first type of the course, then some of the two middle types in any order, then perhaps the last; or
the last type alone, for a resource that is seen only when it goes; or nothing. Every notification
appends to such a word in such a way that it stays one.
-/

namespace StorageLifecycle

/-- The observer that watches a kind of resource. -/
def ResourceKind.observer : ResourceKind → ObserverKind
  | claim => .claim
  | pod => .pod
  | attachment => .attachment

theorem ResourceKind.resource_observer (k : ResourceKind) : k.observer.resource = some k := by
  cases k <;> rfl

namespace Course

/-- The words of the language. -/
def Complies (c : Course) (types : List EventType) : Prop :=
  types = [] ∨ types = [c.terminal] ∨
    ∃ middle rest, types = c.created :: middle ++ rest ∧ middle.Nodup ∧
      middle ⊆ [c.settled, c.leaving] ∧ (rest = [] ∨ rest = [c.terminal])

variable {c : Course} {types : List EventType}

theorem created_ne_terminal (hc : c.types.Nodup) : c.created ≠ c.terminal := by
  intro h
  simp [Course.types, h] at hc

theorem not_mem_middle (hc : c.types.Nodup) {middle : List EventType}
    (h : middle ⊆ [c.settled, c.leaving]) : c.created ∉ middle ∧ c.terminal ∉ middle := by
  simp only [Course.types, List.nodup_cons, List.mem_cons, List.not_mem_nil, or_false, not_or] at hc
  obtain ⟨⟨hcs, hcl, _⟩, ⟨_, hst⟩, hlt, _⟩ := hc
  constructor
  · intro hmem
    rcases List.mem_cons.mp (h hmem) with heq | hmem
    · exact hcs heq
    · exact hcl (List.mem_singleton.mp hmem)
  · intro hmem
    rcases List.mem_cons.mp (h hmem) with heq | hmem
    · exact hst heq.symm
    · exact hlt (List.mem_singleton.mp hmem).symm

theorem Complies.nodup (hc : c.types.Nodup) (h : c.Complies types) : types.Nodup := by
  rcases h with rfl | rfl | ⟨middle, rest, rfl, hnodup, hsub, hrest⟩
  · exact List.nodup_nil
  · exact List.nodup_singleton _
  · obtain ⟨hcreated, hterminal⟩ := not_mem_middle hc hsub
    have hne := created_ne_terminal hc
    rw [List.cons_append, List.nodup_cons]
    rcases hrest with rfl | rfl
    · rw [List.append_nil]
      exact ⟨hcreated, hnodup⟩
    · refine ⟨by simp [hcreated, hne], ?_⟩
      rw [List.nodup_append]
      refine ⟨hnodup, List.nodup_singleton _, ?_⟩
      intro t ht t' ht' heq
      rw [List.mem_singleton.mp ht'] at heq
      exact hterminal (heq ▸ ht)

/-- A word has the last type at its end or not at all. -/
theorem Complies.terminal_cases (hc : c.types.Nodup) (h : c.Complies types) :
    c.terminal ∉ types ∨ ∃ init, types = init ++ [c.terminal] ∧ c.terminal ∉ init := by
  have hne := created_ne_terminal hc
  rcases h with rfl | rfl | ⟨middle, rest, rfl, _, hsub, hrest⟩
  · exact Or.inl List.not_mem_nil
  · exact Or.inr ⟨[], rfl, List.not_mem_nil⟩
  · have hinit : c.terminal ∉ c.created :: middle := by
      rw [List.mem_cons, not_or]
      exact ⟨hne.symm, (not_mem_middle hc hsub).2⟩
    rcases hrest with rfl | rfl
    · rw [List.append_nil]
      exact Or.inl hinit
    · exact Or.inr ⟨c.created :: middle, rfl, hinit⟩

/-- Nothing follows the last type. -/
theorem Complies.eq_nil_of_terminal (hc : c.types.Nodup) (h : c.Complies types)
    {pre post : List EventType} (hsplit : types = pre ++ c.terminal :: post) : post = [] := by
  rcases h.terminal_cases hc with habsent | ⟨init, hinit, hninit⟩
  · exact absurd (by simp [hsplit]) habsent
  · rcases List.eq_nil_or_concat post with rfl | ⟨ts, t, rfl⟩
    · rfl
    · rw [hinit, List.concat_eq_append, ← List.cons_append, ← List.append_assoc] at hsplit
      have heq := (List.append_inj' hsplit rfl).1
      exact absurd (by simp [heq]) hninit

/-- A middle type comes after the first. -/
theorem Complies.created_mem_of_middle (hc : c.types.Nodup) (h : c.Complies types) {t : EventType}
    {pre post : List EventType} (hsplit : types = pre ++ t :: post)
    (ht : t = c.settled ∨ t = c.leaving) : c.created ∈ pre := by
  have hmiddle : ∀ m ⊆ [c.settled, c.leaving], c.created ∉ m ∧ c.terminal ∉ m :=
    fun m hm => not_mem_middle hc hm
  have hself := hmiddle [t] (by rcases ht with rfl | rfl <;> simp)
  simp only [List.mem_singleton] at hself
  rcases h with rfl | rfl | ⟨middle, rest, rfl, _, _, _⟩
  · exact absurd hsplit (by simp)
  · cases pre with
    | nil => exact absurd (List.cons.inj hsplit).1 hself.2
    | cons p ps => exact absurd (List.cons.inj hsplit).2 (by simp)
  · cases pre with
    | nil => exact absurd (List.cons.inj hsplit).1 hself.1
    | cons p ps =>
        rw [List.cons_append] at hsplit
        rw [(List.cons.inj hsplit).1]
        exact List.mem_cons_self

/-- A word without the last type is empty, or the first type and some of the middle ones. -/
theorem Complies.cases_of_open (h : c.Complies types) (hopen : c.terminal ∉ types) :
    types = [] ∨ ∃ middle, types = c.created :: middle ∧ middle.Nodup ∧
      middle ⊆ [c.settled, c.leaving] := by
  rcases h with rfl | rfl | ⟨middle, rest, rfl, hnodup, hsub, rfl | rfl⟩
  · exact Or.inl rfl
  · exact absurd (List.mem_singleton.mpr rfl) hopen
  · exact Or.inr ⟨middle, List.append_nil _, hnodup, hsub⟩
  · exact absurd (by simp) hopen

/-- A snapshot shows different middle types. -/
theorem shown_middle (hc : c.types.Nodup) (snapshot : Snapshot) :
    (c.shown snapshot).Nodup ∧ c.shown snapshot ⊆ [c.settled, c.leaving] := by
  have hmiddle : [c.settled, c.leaving].Sublist c.types := by simp [Course.types]
  exact ⟨(hc.sublist hmiddle).sublist (c.shown_sublist snapshot), (c.shown_sublist snapshot).subset⟩

/-- What the first change asks for is a word. -/
theorem complies_asked (hc : c.types.Nodup) (change : Change) (snapshot : Snapshot) :
    c.Complies (c.asked change snapshot false) := by
  cases change with
  | added => exact Or.inr (Or.inr ⟨[], [], rfl, List.nodup_nil, List.nil_subset _, Or.inl rfl⟩)
  | modified =>
      obtain ⟨hdistinct, hshown⟩ := shown_middle hc snapshot
      exact Or.inr (Or.inr ⟨c.shown snapshot, [], (List.append_nil _).symm, hdistinct, hshown,
        Or.inl rfl⟩)
  | deleted => exact Or.inr (Or.inl rfl)
  | other what => exact Or.inl rfl

/-- After the first type and some of the middle ones, what is fresh goes to the end of the word. -/
theorem complies_append_asked (hc : c.types.Nodup) {middle : List EventType} (hnodup : middle.Nodup)
    (hsub : middle ⊆ [c.settled, c.leaving]) (change : Change) (snapshot : Snapshot) :
    c.Complies (c.created :: middle ++
      (c.asked change snapshot true).filter fun t => !(c.created :: middle).contains t) := by
  obtain ⟨hcreated, hterminal⟩ := not_mem_middle hc hsub
  right; right
  cases change with
  | added =>
      refine ⟨middle, [], ?_, hnodup, hsub, Or.inl rfl⟩
      simp [asked]
  | modified =>
      obtain ⟨hdistinct, hshown⟩ := shown_middle hc snapshot
      refine ⟨middle ++ (c.shown snapshot).filter fun t => !(c.created :: middle).contains t, [],
        ?_, ?_, ?_, Or.inl rfl⟩
      · simp [asked]
      · rw [List.nodup_append]
        refine ⟨hnodup, hdistinct.filter _, ?_⟩
        intro t ht t' ht' heq
        subst heq
        simp [ht] at ht'
      · intro t ht
        rcases List.mem_append.mp ht with ht | ht
        · exact hsub ht
        · exact hshown (List.mem_filter.mp ht).1
  | deleted =>
      refine ⟨middle, [c.terminal], ?_, hnodup, hsub, Or.inr rfl⟩
      have hne := (created_ne_terminal hc).symm
      simp [asked, hne, hterminal]
  | other what =>
      refine ⟨middle, [], ?_, hnodup, hsub, Or.inl rfl⟩
      simp [asked]

/-- What a change asks for and what has not fired yet lengthens a word without the last type to
another word. -/
theorem Complies.append_asked (hc : c.types.Nodup) (h : c.Complies types)
    (hopen : c.terminal ∉ types) (change : Change) (snapshot : Snapshot) {appeared : Bool}
    (happeared : appeared = true ↔ c.created ∈ types) {fresh : List EventType}
    (hfresh : fresh = (c.asked change snapshot appeared).filter fun t => !types.contains t) :
    c.Complies (types ++ fresh) := by
  subst hfresh
  rcases h.cases_of_open hopen with rfl | ⟨middle, rfl, hnodup, hsub⟩
  · have hfalse : appeared = false :=
      Bool.eq_false_iff.mpr fun htrue => List.not_mem_nil (happeared.mp htrue)
    -- Nothing has fired for the name, so all that is asked for is fresh.
    have hall : (c.asked change snapshot appeared).filter (fun t => !([] : List EventType).contains t) =
        c.asked change snapshot appeared := List.filter_eq_self.mpr fun _ _ => rfl
    rw [List.nil_append, hall, hfalse]
    exact complies_asked hc change snapshot
  · rw [happeared.mpr List.mem_cons_self]
    exact complies_append_asked hc hnodup hsub change snapshot

end Course

namespace Session

variable {σ : Type} {s : Session} {w : Shared σ}

theorem mem_firedTypes {name : String} {t : EventType} :
    t ∈ s.firedTypes name ↔ s.hasFired name t = true := by
  rw [hasFired_eq_true_iff]
  unfold firedTypes
  constructor
  · intro h
    obtain ⟨f, hf, rfl⟩ := List.mem_map.mp h
    obtain ⟨hmem, hname⟩ := Firing.mem_on.mp hf
    exact ⟨f, hmem, hname, rfl⟩
  · rintro ⟨f, hmem, hname, rfl⟩
    exact List.mem_map.mpr ⟨f, Firing.mem_on.mpr ⟨hmem, hname⟩, rfl⟩

theorem firedTypes_fire (name : String) (observedAt : Instant) (types : List EventType)
    (name' : String) :
    (s.fire name observedAt types).firedTypes name' =
      s.firedTypes name' ++ if name' = name then s.fresh name types else [] := by
  have hfired := firedOn_fire (s := s) name observedAt types name'
  refine (congrArg (List.map Firing.type) hfired).trans ?_
  rw [List.map_append]
  congr 1
  by_cases h : name' = name
  · subst h
    rw [if_pos rfl, on_firingsOf_self, firingsOf, freshEvents, List.map_map, List.map_map]
    exact List.map_id _
  · rw [if_neg h, on_firingsOf_of_ne (Ne.symm h)]
    rfl

theorem isTerminated_fire (name : String) (observedAt : Instant) (types : List EventType)
    (name' : String) :
    (s.fire name observedAt types).isTerminated name' = true ↔
      s.isTerminated name' = true ∨ (name' = name ∧ ∃ t ∈ s.fresh name types, s.isLast t = true) := by
  rw [fire_eq]
  simp only [isTerminated, List.contains_iff_mem, List.mem_append, List.mem_replicate, ne_eq,
    List.countP_eq_zero]
  push Not
  rw [or_comm, and_comm]

/-- For each name the types that fired are a word of the language, and a name is done exactly when
its last type fired. -/
structure Orderly (k : ResourceKind) (s : Session) : Prop where
  kind : s.kind.resource = some k
  complies : ∀ name, k.course.Complies (s.firedTypes name)
  done : ∀ name, s.isTerminated name = true ↔ k.course.terminal ∈ s.firedTypes name

theorem isLast_iff {k : ResourceKind} (h : s.kind.resource = some k) (t : EventType) :
    s.isLast t = true ↔ t = k.course.terminal := by
  simp only [isLast, h, Option.any_some, beq_iff_eq]
  exact eq_comm

theorem Orderly.fire {k : ResourceKind} (h : s.Orderly k) {n : Notification}
    {snapshot : Snapshot} (hheed : s.heeded n = some snapshot) :
    (s.fire snapshot.name n.observedAt (s.asks n snapshot)).Orderly k := by
  obtain ⟨_, _, hkind, hopen⟩ := heeded_eq_some_iff.mp hheed
  have hk : snapshot.kind = k := Option.some.inj (hkind.symm.trans h.kind)
  have hterminal : k.course.terminal ∉ s.firedTypes snapshot.name := by
    rw [← h.done, hopen]
    exact Bool.false_ne_true
  refine ⟨?_, ?_, ?_⟩
  · rw [fire_eq]
    exact h.kind
  · intro name
    rw [firedTypes_fire]
    by_cases hname : name = snapshot.name
    · subst hname
      rw [if_pos rfl]
      refine (h.complies snapshot.name).append_asked (ResourceKind.course_nodup k) hterminal n.change
        snapshot mem_firedTypes.symm ?_
      unfold asks fresh
      rw [hk]
      refine List.filter_congr fun t _ => ?_
      rw [Bool.eq_iff_iff]
      simp [mem_firedTypes]
    · rw [if_neg hname, List.append_nil]
      exact h.complies name
  · intro name
    rw [firedTypes_fire, isTerminated_fire, h.done name, List.mem_append]
    refine or_congr_right ?_
    by_cases hname : name = snapshot.name
    · simp [hname, isLast_iff h.kind]
    · simp [hname]

theorem Orderly.congr {k : ResourceKind} {t : Session} (h : s.Orderly k)
    (hguard : t.guard = s.guard) : t.Orderly k := by
  have hkind : t.kind = s.kind := congrArg Guard.kind hguard
  have hfired : t.fired = s.fired := congrArg Guard.fired hguard
  have hdone : t.terminated = s.terminated := congrArg Guard.terminated hguard
  refine ⟨hkind ▸ h.kind, fun name => ?_, fun name => ?_⟩
  · rw [firedTypes, hfired]
    exact h.complies name
  · rw [firedTypes, isTerminated, hfired, hdone]
    exact h.done name

theorem steady_orderly (k : ResourceKind) :
    Steady (fun _ => True) (fun _ => True) (Orderly k) :=
  steady_of_guard (fun hguard h => h.congr hguard) fun h hheed => h.fire hheed

theorem orderly_start (k : ResourceKind) (testCase : TestCaseId) :
    (start k.observer testCase).Orderly k where
  kind := k.resource_observer
  complies _ := Or.inl rfl
  done _ := iff_of_false Bool.false_ne_true List.not_mem_nil

/-- The types of the events for a name: first those in the buffer, then those that are parked. -/
def outputTypes (s : Session) (name : String) : List EventType :=
  (Firing.on name (s.recorded ++ s.waiting)).map (·.type)

theorem Kept.outputTypes_eq (h : s.Kept) (name : String) :
    s.outputTypes name = s.firedTypes name := by
  unfold outputTypes
  rw [Firing.on_append, on_waiting h.lawful]
  exact congrArg (List.map Firing.type) (h.split name).symm

/-- At every moment of every run of a session that watches claims, pods or attachments, the types of
the events for a name make up a word of the language. So no type fires twice for a name, nothing
fires after the last type, and no middle type fires before the first; and a name is done exactly
when its last type has fired. -/
theorem outputTypes_comply [EventStore σ] (k : ResourceKind) (testCase : TestCaseId)
    (turns : List (Turn σ)) (name : String) :
    let s := (start k.observer testCase).runAmid turns
    let c := k.course
    s.outputTypes name = s.firedTypes name ∧
    (k ≠ .attachment → s.waiting = []) ∧
    c.Complies (s.outputTypes name) ∧
    (s.outputTypes name).Nodup ∧
    (∀ pre post, s.outputTypes name = pre ++ c.terminal :: post → post = []) ∧
    (∀ pre t post, s.outputTypes name = pre ++ t :: post → t = c.settled ∨ t = c.leaving →
      c.created ∈ pre) ∧
    (∀ t, s.hasFired name t = true ↔ t ∈ s.outputTypes name) ∧
    (s.isTerminated name = true ↔ s.hasFired name c.terminal = true) := by
  intro s c
  have hnodup := ResourceKind.course_nodup k
  have hkept : s.Kept := kept_runAmid k.observer testCase turns
  have horderly : s.Orderly k :=
    (steady_orderly k).runAmid (fun _ _ => ⟨trivial, trivial, trivial⟩) (orderly_start k testCase)
  have hcomplies := horderly.complies name
  rw [hkept.outputTypes_eq]
  refine ⟨rfl, ?_, hcomplies, hcomplies.nodup hnodup, ?_, ?_, ?_, ?_⟩
  · intro hk
    have hkind : s.kind ≠ .attachment := by
      intro heq
      have hres := horderly.kind
      rw [heq] at hres
      exact hk (Option.some.inj hres).symm
    rw [waiting, hkept.own hkind]
    rfl
  · intro pre post hsplit
    exact hcomplies.eq_nil_of_terminal hnodup hsplit
  · intro pre t post hsplit ht
    exact hcomplies.created_mem_of_middle hnodup hsplit ht
  · intro t
    exact mem_firedTypes.symm
  · rw [horderly.done, mem_firedTypes]

end Session

end StorageLifecycle

import StorageLifecycle.Proofs.Keyed
import StorageLifecycle.Proofs.Session.Runs

/-!
# Where the firings of a session are

A firing leaves an event in the buffer, or a parked one. For each name the firings are those of the
recorded events followed by those of the parked ones, in the order of firing: events are recorded at
once only while none of the name are parked, and parked ones move all together.
-/

namespace StorageLifecycle

namespace Firing

/-- The firings for a name, in their order. -/
def on (name : String) (firings : List Firing) : List Firing :=
  firings.filter fun f => f.resource == name

theorem on_append (name : String) (fs gs : List Firing) :
    on name (fs ++ gs) = on name fs ++ on name gs := List.filter_append _ _

theorem mem_on {name : String} {fs : List Firing} {f : Firing} :
    f ∈ on name fs ↔ f ∈ fs ∧ f.resource = name := by
  simp [on]

end Firing

namespace Session

variable {σ : Type} {s : Session} {w : Shared σ}

theorem on_firingsOf_self (name : String) (events : List (EventType × Instant)) :
    Firing.on name (firingsOf name events) = firingsOf name events := by
  refine List.filter_eq_self.mpr fun f hf => ?_
  obtain ⟨e, _, rfl⟩ := List.mem_map.mp hf
  exact beq_self_eq_true name

theorem on_firingsOf_of_ne {name name' : String} (h : name' ≠ name)
    (events : List (EventType × Instant)) : Firing.on name (firingsOf name' events) = [] := by
  refine List.filter_eq_nil_iff.mpr fun f hf => ?_
  obtain ⟨e, _, rfl⟩ := List.mem_map.mp hf
  simpa using h

/-- The firings whose events are in the buffer, in its order. -/
def recorded (s : Session) : List Firing := s.buffer.map Recorded.firing

/-- The firings whose events are parked. -/
def waiting (s : Session) : List Firing :=
  s.parked.entries.flatMap fun p => firingsOf p.1 p.2.events

def firedOn (s : Session) (name : String) : List Firing := Firing.on name s.fired

def recordedOn (s : Session) (name : String) : List Firing := Firing.on name s.recorded

def waitingOn (s : Session) (name : String) : List Firing :=
  match s.parked.find? name with
  | some p => firingsOf name p.events
  | none => []

theorem recorded_extend (added : List Recorded) :
    (s.extend added).recorded = s.recorded ++ added.map Recorded.firing := List.map_append

/-- The parked firings for a name are those under the name. -/
theorem on_waiting (h : s.parked.Lawful) (name : String) :
    Firing.on name s.waiting = s.waitingOn name := by
  unfold waiting waitingOn Keyed.find?
  unfold Keyed.Lawful Keyed.keys at h
  generalize s.parked.entries = l at h
  induction l with
  | nil => rfl
  | cons p rest ih =>
      obtain ⟨q, parked⟩ := p
      obtain ⟨hq, hrest⟩ := List.nodup_cons.mp h
      rw [List.flatMap_cons, Firing.on_append, ih hrest, List.lookup_cons]
      by_cases hname : name = q
      · subst hname
        -- No later entry has the same name.
        have hnone : rest.lookup name = none := by
          have := (Keyed.find?_eq_none_iff (m := ⟨rest⟩) (k := name)).mpr hq
          exact this
        rw [on_firingsOf_self, hnone]
        simp
      · have hbeq : (name == q) = false := by simpa using hname
        rw [on_firingsOf_of_ne (Ne.symm hname), hbeq]
        rfl

/-- Nothing of what fired is lost, and for each name the recorded events come before the parked
ones. Only attachments are ever parked. -/
structure Kept (s : Session) : Prop where
  lawful : s.parked.Lawful
  own : s.kind ≠ .attachment → s.parked = .empty
  split : ∀ name, s.firedOn name = s.recordedOn name ++ s.waitingOn name
  nonempty : ∀ name p, s.parked.find? name = some p → p.events ≠ []

/-! ## Each step keeps it -/

theorem firedOn_fire (name : String) (observedAt : Instant) (types : List EventType)
    (name' : String) :
    (s.fire name observedAt types).firedOn name' =
      s.firedOn name' ++ Firing.on name' (firingsOf name (s.freshEvents name observedAt types)) := by
  rw [firedOn, fire_eq]
  exact Firing.on_append _ _ _

theorem recorded_fire (name : String) (observedAt : Instant) (types : List EventType) :
    (s.fire name observedAt types).recorded = s.recorded := by
  rw [recorded, fire_eq]
  rfl

theorem waitingOn_fire (name : String) (observedAt : Instant) (types : List EventType)
    (name' : String) : (s.fire name observedAt types).waitingOn name' = s.waitingOn name' := by
  rw [waitingOn, fire_parked]
  rfl

theorem waitingOn_unpark (name name' : String) :
    (s.unpark name).waitingOn name' = if name' = name then [] else s.waitingOn name' := by
  unfold waitingOn
  rw [find?_unpark]
  by_cases h : name' = name
  · rw [if_pos h, if_pos h]
  · rw [if_neg h, if_neg h]

theorem waitingOn_parkMore (name volume : String) (events : List (EventType × Instant))
    (name' : String) :
    (s.parkMore name volume events).waitingOn name' =
      s.waitingOn name' ++ Firing.on name' (firingsOf name events) := by
  unfold waitingOn
  rw [find?_parkMore]
  by_cases h : name' = name
  · subst h
    rw [if_pos rfl, on_firingsOf_self]
    cases s.parked.find? name' with
    | none => rfl
    | some p => exact List.map_append
  · rw [if_neg h, on_firingsOf_of_ne (Ne.symm h), List.append_nil]

/-- Parked events that are recorded go behind the recorded ones of their name, where they have been
all along. -/
theorem Kept.unpark (h : s.Kept) {name : String} {p : Parked} {entity : EntityId}
    {added : List Recorded} (hp : s.parked.find? name = some p)
    (hrec : s.Records entity (firingsOf name p.events) added) :
    ((s.unpark name).extend added).Kept where
  lawful := h.lawful.erase
  own hkind := by
    rw [h.own hkind] at hp
    exact nomatch hp
  split name' := by
    show s.firedOn name' = Firing.on name' ((s.unpark name).extend added).recorded ++
      (s.unpark name).waitingOn name'
    rw [h.split name', recorded_extend, Firing.on_append, hrec.firings, waitingOn_unpark]
    by_cases hname : name' = name
    · subst hname
      rw [if_pos rfl, on_firingsOf_self, List.append_nil, waitingOn, hp]
      rfl
    · rw [if_neg hname, on_firingsOf_of_ne (Ne.symm hname), List.append_nil]
      rfl
  nonempty name' p' hp' := by
    have hfind := (find?_unpark name name').symm.trans hp'
    split at hfind
    · exact nomatch hfind
    · exact h.nonempty name' p' hfind

/-- Fresh events are recorded at once only if none of their name are parked. -/
theorem Kept.fireRecorded (h : s.Kept) {name : String} {observedAt : Instant}
    {types : List EventType} {entity : EntityId} {added : List Recorded}
    (hp : s.freshEvents name observedAt types = [] ∨ s.waitingOn name = [])
    (hrec : s.Records entity (firingsOf name (s.freshEvents name observedAt types)) added) :
    ((s.fire name observedAt types).extend added).Kept where
  lawful := by
    rw [show ((s.fire name observedAt types).extend added).parked = s.parked from fire_parked _ _ _]
    exact h.lawful
  own hkind := by
    rw [fire_eq] at hkind ⊢
    exact h.own hkind
  split name' := by
    show (s.fire name observedAt types).firedOn name' =
      Firing.on name' ((s.fire name observedAt types).extend added).recorded ++
        (s.fire name observedAt types).waitingOn name'
    rw [firedOn_fire, recorded_extend, recorded_fire, Firing.on_append, hrec.firings,
      waitingOn_fire, h.split name', recordedOn]
    by_cases hname : name' = name
    -- Nothing of the name is parked that the new events could overtake.
    · subst hname
      rcases hp with hp | hp
      · simp [hp, firingsOf, Firing.on]
      · simp [hp]
    · simp [on_firingsOf_of_ne (Ne.symm hname)]
  nonempty name' p' hp' := h.nonempty name' p' (by
    rw [← fire_parked (s := s) name observedAt types]
    exact hp')

/-- Fresh events that are parked go behind the parked ones of their name. -/
theorem Kept.firePark (h : s.Kept) {name volume : String} {observedAt : Instant}
    {types : List EventType} (hkind : s.kind = .attachment)
    (hevents : s.freshEvents name observedAt types ≠ []) :
    ((s.fire name observedAt types).parkMore name volume
      (s.freshEvents name observedAt types)).Kept where
  lawful := by
    have hlawful : (s.fire name observedAt types).parked.Lawful := by
      rw [fire_parked]
      exact h.lawful
    exact hlawful.insert
  own hother := by
    rw [fire_eq] at hother
    exact absurd hkind hother
  split name' := by
    rw [waitingOn_parkMore, waitingOn_fire]
    show (s.fire name observedAt types).firedOn name' =
      Firing.on name' (s.fire name observedAt types).recorded ++ _
    rw [firedOn_fire, recorded_fire, h.split name', recordedOn, List.append_assoc]
  nonempty name' p' hp' := by
    have hfind := (find?_parkMore _ _ _ name').symm.trans hp'
    rw [fire_parked] at hfind
    split at hfind
    · cases hfind
      cases s.parked.find? name with
      | none => exact hevents
      | some q => exact fun hnil => hevents (List.append_eq_nil_iff.mp hnil).2
    · exact h.nonempty name' p' hfind

theorem waitingOn_eq_nil_of_find? {name : String} (h : s.parked.find? name = none) :
    s.waitingOn name = [] := by
  rw [waitingOn, h]

theorem kind_of_heeded_attachment {n : Notification} {a : AttachmentState}
    (h : s.heeded n = some (.attachment a)) : s.kind = .attachment := by
  have hkind := (heeded_eq_some_iff.mp h).2.2.1
  cases hk : s.kind with
  | attachment => rfl
  | claim | pod | count =>
      rw [hk] at hkind
      exact nomatch hkind

theorem kind_of_heeded_owner {n : Notification} {snapshot : Snapshot} {o : Owner}
    (h : s.heeded n = some snapshot) (ho : snapshot.owner? = some o) : s.kind ≠ .attachment := by
  intro hk
  have hkind := (heeded_eq_some_iff.mp h).2.2.1
  rw [hk] at hkind
  cases snapshot with
  | claim c => exact nomatch hkind
  | pod p => exact nomatch hkind
  | attachment a => exact nomatch ho

theorem steady_kept : Steady (fun _ => True) (fun _ => True) Kept where
  bare {s t} hbare h := by
    have hparked : t.parked = s.parked := congrArg (·.parked) hbare
    have hfired : t.fired = s.fired := congrArg (·.fired) hbare
    have hbuffer : t.buffer = s.buffer := congrArg (·.buffer) hbare
    have hkind : t.kind = s.kind := congrArg (·.kind) hbare
    refine ⟨hparked ▸ h.lawful, ?_, ?_, hparked ▸ h.nonempty⟩
    · rw [hkind, hparked]
      exact h.own
    · intro name
      have hsplit := h.split name
      simp only [firedOn, recordedOn, recorded, waitingOn] at hsplit ⊢
      rw [hfired, hbuffer, hparked]
      exact hsplit
  own {s n snapshot o e added} h _ hheed howner hrec := by
    have hparked := h.own (kind_of_heeded_owner hheed howner)
    refine h.fireRecorded (Or.inr (waitingOn_eq_nil_of_find? ?_)) hrec
    rw [hparked]
    rfl
  retry {_ s} w {registry} name h _ := by
    rcases tryResolve_cases (s := s) (w := w) registry name with
      ⟨heq, _⟩ | ⟨p, claim, added, hp, _, heq, hrec⟩
    · rw [heq]
      exact h
    · rw [heq]
      exact h.unpark hp hrec
  attach {_ s} w {registry n a volume} h _ _ hheed _ := by
    rcases fireAttachment_cases (s := s) (w := w) registry a.name volume
      (s.asks n (.attachment a)) n.observedAt with
      ⟨hnil, heq⟩ | ⟨claim, added, _, hp, heq, hrec⟩ | ⟨hevents, _, heq⟩
    · rw [heq, ← extend_nil (s := fire _ _ _ _)]
      have hnone : s.Records 0 (firingsOf a.name (s.freshEvents a.name n.observedAt
          (s.asks n (.attachment a)))) [] := by
        rw [hnil]
        exact Records.nil
      exact h.fireRecorded (Or.inl hnil) hnone
    · rw [heq]
      exact h.fireRecorded (Or.inr (waitingOn_eq_nil_of_find? hp)) hrec
    · rw [heq]
      exact h.firePark (kind_of_heeded_attachment hheed) hevents

theorem kept_start (kind : ObserverKind) (testCase : TestCaseId) : (start kind testCase).Kept where
  lawful := Keyed.lawful_empty
  own _ := rfl
  split _ := rfl
  nonempty _ _ h := nomatch h

/-- In every run nothing of what fired is lost. -/
theorem kept_runAmid [EventStore σ] (kind : ObserverKind) (testCase : TestCaseId)
    (turns : List (Turn σ)) : ((start kind testCase).runAmid turns).Kept :=
  steady_kept.runAmid (fun _ _ => ⟨trivial, trivial, trivial⟩) (kept_start kind testCase)

/-! ## What else every notification keeps -/

/-- A session writes events of its own test case, and takes no samples from notifications. -/
structure Plain (id : TestCaseId) (samples : List CountSample) (s : Session) : Prop where
  testCase : s.testCase = id
  cases : ∀ r ∈ s.buffer, r.event.testCase = id
  counts : s.counts = samples

theorem Plain.extend {id : TestCaseId} {samples : List CountSample}
    (h : s.Plain id samples) {t : Session} {entity : EntityId} {firings : List Firing}
    {added : List Recorded} (ht : t.testCase = id) (hrec : t.Records entity firings added) :
    (s.extend added).Plain id samples := by
  refine ⟨h.testCase, ?_, h.counts⟩
  intro r hr
  rcases List.mem_append.mp hr with hr | hr
  · exact h.cases r hr
  · exact (hrec.testCase r hr).trans ht

theorem Plain.fire {id : TestCaseId} {samples : List CountSample} (h : s.Plain id samples)
    (name : String) (observedAt : Instant) (types : List EventType) :
    (s.fire name observedAt types).Plain id samples := by
  rw [fire_eq]
  exact ⟨h.testCase, h.cases, h.counts⟩

theorem steady_plain (id : TestCaseId) (samples : List CountSample) :
    Steady (fun _ => True) (fun _ => True) (Plain id samples) where
  bare {s t} hbare h := by
    have hcase : t.testCase = s.testCase := congrArg (·.testCase) hbare
    have hbuffer : t.buffer = s.buffer := congrArg (·.buffer) hbare
    have hcounts : t.counts = s.counts := congrArg (·.counts) hbare
    exact ⟨hcase.trans h.testCase, hbuffer ▸ h.cases, hcounts.trans h.counts⟩
  own h _ _ _ hrec := (h.fire _ _ _).extend h.testCase hrec
  retry {_ s} w {registry} name h _ := by
    rcases tryResolve_cases (s := s) (w := w) registry name with
      ⟨heq, _⟩ | ⟨p, claim, added, _, _, heq, hrec⟩
    · rw [heq]
      exact h
    · rw [heq]
      have hunparked : (s.unpark name).Plain id samples := ⟨h.testCase, h.cases, h.counts⟩
      exact hunparked.extend h.testCase hrec
  attach {_ s} w {registry n a volume} h _ _ _ _ := by
    have hfired := h.fire a.name n.observedAt (s.asks n (.attachment a))
    rcases fireAttachment_cases (s := s) (w := w) registry a.name volume
      (s.asks n (.attachment a)) n.observedAt with
      ⟨_, heq⟩ | ⟨claim, added, _, _, heq, hrec⟩ | ⟨_, _, heq⟩
    · rw [heq]
      exact hfired
    · rw [heq]
      exact hfired.extend h.testCase hrec
    · rw [heq]
      exact ⟨hfired.testCase, hfired.cases, hfired.counts⟩

end Session

end StorageLifecycle

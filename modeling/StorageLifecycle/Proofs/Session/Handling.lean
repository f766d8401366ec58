import StorageLifecycle.Proofs.Session.Operations

/-!
# What a notification does to a session

A notification is turned away, or it makes the session heed its snapshot. A heeded snapshot asks for
types; a claim or a pod fires the fresh ones if it has an entity, and an attachment fires them after
its parked events were tried again.
-/

namespace StorageLifecycle

/-- Does the change say what happened? -/
def Change.isKnown : Change → Bool
  | .other _ => false
  | _ => true

/-- What a claim or a pod brings along. -/
def Snapshot.owner? : Snapshot → Option Session.Owner
  | .claim c => some ⟨c.name, c.uid, .pvc, c.volume⟩
  | .pod p => some ⟨p.name, p.uid, .pod, none⟩
  | .attachment _ => none

theorem Snapshot.name_of_owner? {snapshot : Snapshot} {o : Session.Owner}
    (h : snapshot.owner? = some o) : o.name = snapshot.name := by
  cases snapshot <;> cases h <;> rfl

theorem Snapshot.eq_attachment_of_owner? {snapshot : Snapshot} (h : snapshot.owner? = none) :
    ∃ a, snapshot = .attachment a := by
  cases snapshot with
  | attachment a => exact ⟨a, rfl⟩
  | claim c => exact nomatch h
  | pod p => exact nomatch h

namespace Course

/-- A snapshot shows middle types of the course, in their order. -/
theorem shown_sublist (c : Course) (snapshot : Snapshot) :
    (c.shown snapshot).Sublist [c.settled, c.leaving] := by
  unfold shown
  cases snapshot.isSettled <;> cases snapshot.isLeaving <;> simp

/-- A change asks for types of the course, in their order. -/
theorem asked_sublist (c : Course) (change : Change) (snapshot : Snapshot) (appeared : Bool) :
    (c.asked change snapshot appeared).Sublist c.types := by
  have hshown : (c.shown snapshot).Sublist [c.settled, c.leaving, c.terminal] :=
    (c.shown_sublist snapshot).trans (List.sublist_append_left _ [c.terminal])
  cases change with
  | added => simp [asked, types]
  | deleted => simp [asked, types]
  | other what => exact List.nil_sublist _
  | modified =>
      cases appeared with
      | true => exact hshown.cons _
      | false => exact hshown.cons_cons _

/-- The settled type is asked for by a change of a resource that is settled. -/
theorem settled_mem_asked {c : Course} (hc : c.types.Nodup) (change : Change) (snapshot : Snapshot)
    (appeared : Bool) : c.settled ∈ c.asked change snapshot appeared ↔
      change = .modified ∧ snapshot.isSettled = true := by
  simp only [types, List.nodup_cons, List.mem_cons, List.not_mem_nil, or_false, not_or] at hc
  obtain ⟨⟨hcs, -, -⟩, ⟨hsl, hst⟩, -⟩ := hc
  cases change with
  | modified => cases appeared <;> simp [asked, shown, Ne.symm hcs, hsl]
  | added => simp [asked, Ne.symm hcs]
  | deleted => simp [asked, hst]
  | other what => simp [asked]

/-- The last type is asked for by a deletion. -/
theorem terminal_mem_asked {c : Course} (hc : c.types.Nodup) (change : Change) (snapshot : Snapshot)
    (appeared : Bool) : c.terminal ∈ c.asked change snapshot appeared ↔ change = .deleted := by
  simp only [types, List.nodup_cons, List.mem_cons, List.not_mem_nil, or_false, not_or] at hc
  obtain ⟨⟨-, -, hct⟩, ⟨-, hst⟩, hlt, -⟩ := hc
  cases change with
  | modified => cases appeared <;> simp [asked, shown, Ne.symm hct, Ne.symm hst, Ne.symm hlt]
  | added => simp [asked, Ne.symm hct]
  | deleted => simp [asked]
  | other what => simp [asked]

end Course

namespace Session

variable {σ : Type} {s : Session} {w : Shared σ}

/-- The snapshot that a notification makes the session heed; none if it is turned away. -/
def heeded (s : Session) (n : Notification) : Option Snapshot :=
  n.object.filter fun snapshot =>
    n.change.isKnown && s.kind.resource == some snapshot.kind && !s.isTerminated snapshot.name

/-- The types that a heeded snapshot asks for. -/
def asks (s : Session) (n : Notification) (snapshot : Snapshot) : List EventType :=
  snapshot.kind.course.asked n.change snapshot
    (s.hasFired snapshot.name snapshot.kind.course.created)

theorem asks_nodup (n : Notification) (snapshot : Snapshot) : (s.asks n snapshot).Nodup :=
  (ResourceKind.course_nodup _).sublist (Course.asked_sublist _ _ _ _)

theorem heeded_eq_some_iff {n : Notification} {snapshot : Snapshot} :
    s.heeded n = some snapshot ↔ n.object = some snapshot ∧ n.change.isKnown = true ∧
      s.kind.resource = some snapshot.kind ∧ s.isTerminated snapshot.name = false := by
  unfold heeded
  rw [Option.filter_eq_some_iff]
  simp [and_assoc]

/-! ## The ways of a notification -/

theorem handleAmid_of_unheeded [EventStore σ] (after : Registry) {n : Notification}
    (h : s.heeded n = none) :
    ∃ reason lines, s.handleAmid w after n = s.countHandled.ignore w reason lines := by
  unfold handleAmid
  obtain ⟨change, object, observedAt⟩ := n
  cases object with
  | none => exact ⟨_, _, rfl⟩
  | some snapshot =>
      -- A snapshot is asked about one thing after another, and each has a reason of its own.
      simp only
      split
      · exact ⟨_, _, rfl⟩
      · rename_i hchange
        split
        · exact ⟨_, _, rfl⟩
        · rename_i hkind
          split
          · exact ⟨_, _, rfl⟩
          · rename_i hopen
            have hknown : change.isKnown = true := by
              cases change with
              | other what => exact absurd rfl (hchange what)
              | _ => rfl
            have hsome : s.heeded ⟨change, some snapshot, observedAt⟩ = some snapshot :=
              heeded_eq_some_iff.mpr ⟨rfl, hknown, Classical.not_not.mp hkind,
                Bool.eq_false_iff.mpr hopen⟩
            rw [h] at hsome
            exact nomatch hsome

theorem handleAmid_of_heeded [EventStore σ] {after : Registry} {n : Notification}
    {snapshot : Snapshot} (h : s.heeded n = some snapshot) :
    s.handleAmid w after n =
      s.countHandled.applySnapshot w after n.change snapshot n.observedAt := by
  obtain ⟨hobject, hknown, hkind, hopen⟩ := heeded_eq_some_iff.mp h
  unfold handleAmid
  rw [hobject]
  simp only
  split
  · rename_i what hwhat
    rw [hwhat] at hknown
    exact nomatch hknown
  · rw [if_neg (by simpa [countHandled] using hkind)]
    rw [if_neg (by simpa [isTerminated, countHandled] using hopen)]

theorem handleAmid_of_owner [EventStore σ] {after : Registry} {n : Notification}
    {snapshot : Snapshot} {o : Owner} (h : s.heeded n = some snapshot)
    (ho : snapshot.owner? = some o) :
    s.handleAmid w after n =
      s.countHandled.applyOwn w o (s.asks n snapshot) n.observedAt := by
  rw [handleAmid_of_heeded h]
  cases snapshot <;> cases ho <;> rfl

theorem handleAmid_of_attachment [EventStore σ] {after : Registry} {n : Notification}
    {a : AttachmentState} {volume : String} (h : s.heeded n = some (.attachment a))
    (hv : a.volume = some volume) :
    s.handleAmid w after n =
      s.countHandled.applyAttachment w w.registry after a.name volume (s.asks n (.attachment a))
        n.observedAt := by
  rw [handleAmid_of_heeded h]
  unfold applySnapshot
  simp only [hv]
  rfl

theorem handleAmid_of_no_volume [EventStore σ] (after : Registry) {n : Notification}
    {a : AttachmentState} (h : s.heeded n = some (.attachment a)) (hv : a.volume = none) :
    ∃ reason lines, s.handleAmid w after n = s.countHandled.ignore w reason lines := by
  rw [handleAmid_of_heeded h]
  unfold applySnapshot
  simp only [hv]
  exact ⟨_, _, rfl⟩

/-! ## What claims and pods do -/

/-- The session without its cache and its counters. -/
def bare (s : Session) : Session := { s with entities := .empty, handled := 0, ignored := 0 }

theorem bare_fire_extend (name : String) (observedAt : Instant) (types : List EventType)
    (added : List Recorded) :
    ((s.fire name observedAt types).extend added).bare =
      (s.bare.fire name observedAt types).extend added := by
  rw [fire_eq, fire_eq]
  rfl

theorem applyOwn_of_entity [EventStore σ] {o : Owner} {types : List EventType}
    {observedAt : Instant} {e : Entity} {s' : Session} {w' : Shared σ} (h : types ≠ [])
    (he : s.ensureEntity w o = (some e, s', w')) :
    s.applyOwn w o types observedAt =
      (s'.stamped (s'.stampOf observedAt)).fireAllOwn w' o e (s'.stampOf observedAt) types := by
  unfold applyOwn
  rw [if_neg (mt List.isEmpty_iff.mp h), he]

theorem applyOwn_of_no_entity [EventStore σ] {o : Owner} {types : List EventType}
    {observedAt : Instant} {s' : Session} {w' : Shared σ} (h : types ≠ [])
    (he : s.ensureEntity w o = (none, s', w')) :
    s.applyOwn w o types observedAt = s'.ignore w' .entityUnavailable [] := by
  unfold applyOwn
  rw [if_neg (mt List.isEmpty_iff.mp h), he]

theorem stamped_fireAllOwn_spec (o : Owner) (e : Entity) (observedAt : Instant)
    {types : List EventType} (h : types.Nodup) :
    ∃ added, ((s.stamped (s.stampOf observedAt)).fireAllOwn w o e (s.stampOf observedAt) types).1 =
        (s.fire o.name observedAt types).extend added ∧
      s.Records e.id (firingsOf o.name (s.freshEvents o.name observedAt types)) added := by
  obtain ⟨added, heq, hrec⟩ := fireAllOwn_spec (s := s.stamped (s.stampOf observedAt)) (w := w)
    o e (s.stampOf observedAt) h
  exact ⟨added, heq, ⟨hrec.views, hrec.testCase⟩⟩

/-! ## What attachments do -/

/-- Trying a parked attachment again touches neither what fired nor which names are done. -/
theorem heeded_tryResolve (registry : Registry) (name : String) (n : Notification) :
    (s.tryResolve w registry name).1.heeded n = s.heeded n :=
  tryResolve_frame (f := fun x => x.heeded n) (fun _ _ _ => rfl) registry name

theorem asks_tryResolve (registry : Registry) (name : String) (n : Notification)
    (snapshot : Snapshot) :
    (s.tryResolve w registry name).1.asks n snapshot = s.asks n snapshot :=
  tryResolve_frame (f := fun x => x.asks n snapshot) (fun _ _ _ => rfl) registry name

end Session

end StorageLifecycle

import StorageLifecycle.Proofs.Session.Handling

/-!
# What decides what fires

The types that fired, the names that are done and the latest stamp decide what a notification makes
fire, together with the notification alone. Neither the registry nor the parked events enter into
it, and the store only as far as it may refuse an entity. So what fires in a session that watches
attachments is settled by its notifications.
-/

namespace StorageLifecycle

/-- What decides what fires next. -/
structure Guard where
  kind : ObserverKind
  fired : List Firing
  terminated : List String
  last : Option Instant

/-- Does a snapshot that asks for these types fire them if nothing stands in its way? A claim or a
pod that asks for nothing leaves the latest stamp alone; an attachment needs a volume. -/
def Snapshot.acts (types : List EventType) : Snapshot → Bool
  | .attachment a => a.volume.isSome
  | _ => !types.isEmpty

namespace Session

def guard (s : Session) : Guard := ⟨s.kind, s.fired, s.terminated, s.last⟩

/-- The session after a notification that nothing stands in the way of, as far as its guard is
concerned. -/
def advance (s : Session) (n : Notification) : Session :=
  match s.heeded n with
  | none => s
  | some snapshot =>
    if snapshot.acts (s.asks n snapshot) then
      s.fire snapshot.name n.observedAt (s.asks n snapshot)
    else s

def advanceAll (s : Session) : List Notification → Session
  | [] => s
  | n :: rest => (s.advance n).advanceAll rest

variable {σ : Type} {s t : Session} {w : Shared σ}

/-! ## The guard alone decides -/

theorem hasFired_congr (h : s.guard = t.guard) (name : String) (type : EventType) :
    s.hasFired name type = t.hasFired name type := by
  have hfired : s.fired = t.fired := congrArg Guard.fired h
  rw [hasFired, hfired]
  rfl

theorem heeded_congr (h : s.guard = t.guard) (n : Notification) : s.heeded n = t.heeded n := by
  have hkind : s.kind = t.kind := congrArg Guard.kind h
  have hdone : s.terminated = t.terminated := congrArg Guard.terminated h
  unfold heeded isTerminated
  rw [hkind, hdone]

theorem asks_congr (h : s.guard = t.guard) (n : Notification) (snapshot : Snapshot) :
    s.asks n snapshot = t.asks n snapshot := by
  rw [asks, hasFired_congr h]
  rfl

theorem stampOf_congr (h : s.guard = t.guard) (moment : Instant) :
    s.stampOf moment = t.stampOf moment := by
  have hlast : s.last = t.last := congrArg Guard.last h
  unfold stampOf
  rw [hlast]

theorem fresh_congr (h : s.guard = t.guard) (name : String) (types : List EventType) :
    s.fresh name types = t.fresh name types := by
  refine List.filter_congr fun type _ => ?_
  rw [hasFired_congr h]

theorem freshEvents_congr (h : s.guard = t.guard) (name : String) (observedAt : Instant)
    (types : List EventType) :
    s.freshEvents name observedAt types = t.freshEvents name observedAt types := by
  rw [freshEvents, freshEvents, fresh_congr h, stampOf_congr h]

theorem isLast_congr (h : s.guard = t.guard) : s.isLast = t.isLast := by
  have hkind : s.kind = t.kind := congrArg Guard.kind h
  funext type
  rw [isLast, hkind]
  rfl

theorem guard_fire_congr (h : s.guard = t.guard) (name : String) (observedAt : Instant)
    (types : List EventType) :
    (s.fire name observedAt types).guard = (t.fire name observedAt types).guard := by
  have hkind : s.kind = t.kind := congrArg Guard.kind h
  have hfired : s.fired = t.fired := congrArg Guard.fired h
  have hdone : s.terminated = t.terminated := congrArg Guard.terminated h
  rw [fire_eq, fire_eq]
  unfold guard
  simp only [freshEvents_congr h, fresh_congr h, isLast_congr h, stampOf_congr h, hkind, hfired,
    hdone]

theorem guard_advance_congr (h : s.guard = t.guard) (n : Notification) :
    (s.advance n).guard = (t.advance n).guard := by
  unfold advance
  rw [heeded_congr h n]
  split
  · exact h
  · rw [asks_congr h]
    split
    · exact guard_fire_congr h _ _ _
    · exact h

theorem guard_advanceAll_congr (h : s.guard = t.guard) (ns : List Notification) :
    (s.advanceAll ns).guard = (t.advanceAll ns).guard := by
  induction ns generalizing s t with
  | nil => exact h
  | cons n rest ih => exact ih (guard_advance_congr h n)

/-! ## What a notification does to the guard -/

theorem guard_of_bare (h : t.bare = s.bare) : t.guard = s.guard := by
  show t.bare.guard = s.bare.guard
  rw [h]

theorem guard_tryResolve (registry : Registry) (name : String) :
    (s.tryResolve w registry name).1.guard = s.guard :=
  tryResolve_frame (fun _ _ _ => rfl) registry name

theorem guard_fireAttachment (registry : Registry) (name volume : String) (types : List EventType)
    (observedAt : Instant) :
    (s.fireAttachment w registry name volume types observedAt).1.guard =
      (s.fire name observedAt types).guard :=
  fireAttachment_frame (fun _ _ _ => rfl) registry name volume types observedAt

theorem advance_of_unheeded {n : Notification} (h : s.heeded n = none) : s.advance n = s := by
  unfold advance
  rw [h]

theorem advance_of_idle {n : Notification} {snapshot : Snapshot} (h : s.heeded n = some snapshot)
    (hacts : snapshot.acts (s.asks n snapshot) = false) : s.advance n = s := by
  unfold advance
  rw [h]
  simp [hacts]

theorem advance_of_acting {n : Notification} {snapshot : Snapshot} (h : s.heeded n = some snapshot)
    (hacts : snapshot.acts (s.asks n snapshot) = true) :
    s.advance n = s.fire snapshot.name n.observedAt (s.asks n snapshot) := by
  unfold advance
  rw [h]
  simp [hacts]

/-- What an attachment fires does not depend on what is shared. -/
theorem guard_handleAmid_of_attachment [EventStore σ] (after : Registry) (n : Notification)
    (hk : s.kind = .attachment) : (s.handleAmid w after n).1.guard = (s.advance n).guard := by
  cases hheed : s.heeded n with
  | none =>
      obtain ⟨reason, lines, heq⟩ := handleAmid_of_unheeded (w := w) after hheed
      rw [heq, advance_of_unheeded hheed]
      rfl
  | some snapshot =>
      obtain ⟨_, _, hkind, _⟩ := heeded_eq_some_iff.mp hheed
      rw [hk] at hkind
      cases snapshot with
      | claim c => exact nomatch hkind
      | pod p => exact nomatch hkind
      | attachment a =>
          cases hvolume : a.volume with
          | none =>
              obtain ⟨reason, lines, heq⟩ :=
                handleAmid_of_no_volume (w := w) after hheed hvolume
              rw [heq, advance_of_idle hheed (by simp [Snapshot.acts, hvolume])]
              rfl
          | some volume =>
              -- Whether the parked events found their claim does not show in the guard.
              have hretried : (s.countHandled.tryResolve w w.registry a.name).1.guard = s.guard :=
                guard_tryResolve _ _
              rw [handleAmid_of_attachment hheed hvolume, applyAttachment_eq, guard_fireAttachment,
                advance_of_acting hheed (by simp [Snapshot.acts, hvolume])]
              exact guard_fire_congr hretried _ _ _

/-- What fires at a notification is stamped then. -/
theorem fired_advance (n : Notification) :
    ∃ (name : String) (types : List EventType), (s.advance n).fired =
      s.fired ++ firingsOf name (types.map fun t => (t, s.stampOf n.observedAt)) := by
  have hnothing : s.fired = s.fired ++ firingsOf "" (([] : List EventType).map fun t =>
      (t, s.stampOf n.observedAt)) := (List.append_nil _).symm
  unfold advance
  split
  · exact ⟨"", [], hnothing⟩
  · rename_i snapshot _
    split
    · refine ⟨snapshot.name, s.fresh snapshot.name (s.asks n snapshot), ?_⟩
      rw [fire_eq]
      rfl
    · exact ⟨"", [], hnothing⟩

end Session

end StorageLifecycle

import StorageLifecycle.Proofs.Session.Dealing

/-!
# Runs of a session

A session meets its notifications amid the work of others: at each of them the store and the
registry may have become anything, and claims may be published while it is being handled. A run
takes what is shared as it comes. A history tells what others publish and when. Seen from a session
that watches attachments, which publishes nothing itself, a history is a run in which the registry
holds at each turn what was published up to then.
-/

namespace StorageLifecycle

/-- A notification with what is shared when it comes, and the registry at its second lookup. -/
structure Turn (σ : Type) where
  shared : Shared σ
  after : Registry
  notification : Notification

/-- Claims are published, or a notification is handled while claims are published between its two
lookups. -/
inductive Occurrence where
  | publish (volume : String) (claim : Entity)
  | notify (n : Notification) (during : List (String × Entity))
deriving DecidableEq

namespace Occurrence

def notification? : Occurrence → Option Notification
  | publish _ _ => none
  | notify n _ => some n

/-- The notifications of a history, in their order. -/
def notifications (history : List Occurrence) : List Notification :=
  history.filterMap notification?

def published : Occurrence → List (String × Entity)
  | publish volume claim => [(volume, claim)]
  | notify _ during => during

/-- All that a history publishes, in its order. -/
def publications (history : List Occurrence) : List (String × Entity) :=
  history.flatMap published

end Occurrence

/-- The registry after claims were published. -/
def Registry.publishAll (r : Registry) (claims : List (String × Entity)) : Registry :=
  claims.foldl (fun r p => r.publish p.1 p.2) r

namespace Session

variable {σ : Type}

/-- The session after a run. -/
def runAmid [EventStore σ] (s : Session) : List (Turn σ) → Session
  | [] => s
  | t :: rest => (s.handleAmid t.shared t.after t.notification).1.runAmid rest

/-- The session and what it shares after a history. -/
def follow [EventStore σ] (s : Session) (w : Shared σ) : List Occurrence → Session × Shared σ
  | [] => (s, w)
  | .publish volume claim :: rest => s.follow (w.publish volume claim) rest
  | .notify n during :: rest =>
    let (s, w) := s.handleAmid w (w.registry.publishAll during) n
    s.follow { w with registry := w.registry.publishAll during } rest

variable {s : Session} {w : Shared σ}

theorem Steady.runAmid {seen : Registry → Prop} {got : Notification → Prop} {P : Session → Prop}
    (hP : Steady seen got P) [EventStore σ] {turns : List (Turn σ)}
    (hturns : ∀ t ∈ turns, seen t.shared.registry ∧ seen t.after ∧ got t.notification) (h : P s) :
    P (s.runAmid turns) := by
  induction turns generalizing s with
  | nil => exact h
  | cons t rest ih =>
      obtain ⟨hbefore, hafter, hn⟩ := hturns t List.mem_cons_self
      apply ih fun t' ht' => hturns t' (List.mem_cons_of_mem _ ht')
      exact hP.handleAmid hbefore hafter hn h

theorem steady_kind (k : ObserverKind) :
    Steady (fun _ => True) (fun _ => True) fun s => s.kind = k := by
  refine steady_of_guard ?_ ?_
  · intro s t hguard h
    exact (congrArg Guard.kind hguard).trans h
  · intro s n snapshot h _
    rw [fire_eq]
    exact h

theorem handleAmid_kind [EventStore σ] (after : Registry) (n : Notification) :
    (s.handleAmid w after n).1.kind = s.kind :=
  (steady_kind s.kind).handleAmid trivial trivial trivial rfl

theorem guard_runAmid_of_attachment [EventStore σ] (turns : List (Turn σ))
    (hk : s.kind = .attachment) :
    (s.runAmid turns).guard = (s.advanceAll (turns.map (·.notification))).guard := by
  induction turns generalizing s with
  | nil => rfl
  | cons t rest ih =>
      refine (ih ((handleAmid_kind _ _).trans hk)).trans ?_
      exact guard_advanceAll_congr (guard_handleAmid_of_attachment _ _ hk) _

/-- A session that watches attachments neither writes to the store nor publishes before it ends. -/
theorem handleAmid_shared_of_attachment [EventStore σ] (after : Registry) (n : Notification)
    (h : s.kind = .attachment) : (s.handleAmid w after n).2.store = w.store ∧
      (s.handleAmid w after n).2.registry = w.registry := by
  cases hheed : s.heeded n with
  | none =>
      obtain ⟨reason, lines, heq⟩ := handleAmid_of_unheeded (w := w) after hheed
      rw [heq]
      exact ⟨rfl, rfl⟩
  | some snapshot =>
      obtain ⟨_, _, hkind, _⟩ := heeded_eq_some_iff.mp hheed
      rw [h] at hkind
      cases snapshot with
      | claim c => exact nomatch hkind
      | pod p => exact nomatch hkind
      | attachment a =>
          cases hvolume : a.volume with
          | none =>
              obtain ⟨reason, lines, heq⟩ :=
                handleAmid_of_no_volume (w := w) after hheed hvolume
              rw [heq]
              exact ⟨rfl, rfl⟩
          | some volume =>
              rw [handleAmid_of_attachment hheed hvolume]
              constructor
              · exact (fireAttachment_store _ _ _ _ _).trans (tryResolve_store _ _)
              · exact (fireAttachment_registry _ _ _ _ _).trans (tryResolve_registry _ _)

theorem handleAmid_registry_of_attachment [EventStore σ] (after : Registry) (n : Notification)
    (h : s.kind = .attachment) : (s.handleAmid w after n).2.registry = w.registry :=
  (handleAmid_shared_of_attachment after n h).2

theorem runAmid_append [EventStore σ] (s : Session) (xs ys : List (Turn σ)) :
    s.runAmid (xs ++ ys) = (s.runAmid xs).runAmid ys := by
  induction xs generalizing s with
  | nil => rfl
  | cons x rest ih => exact ih _

theorem publishAll_append (r : Registry) (xs ys : List (String × Entity)) :
    r.publishAll (xs ++ ys) = (r.publishAll xs).publishAll ys := List.foldl_append

theorem follow_registry [EventStore σ] (history : List Occurrence) (h : s.kind = .attachment) :
    (s.follow w history).2.registry =
      w.registry.publishAll (Occurrence.publications history) := by
  induction history generalizing s w with
  | nil => rfl
  | cons o rest ih =>
      cases o with
      | publish volume claim => exact ih h
      | notify n during =>
          refine (ih ((handleAmid_kind _ _).trans h)).trans ?_
          show Registry.publishAll (Registry.publishAll (s.handleAmid w _ n).2.registry during) _ = _
          rw [handleAmid_registry_of_attachment _ _ h, ← publishAll_append]
          rfl

/-- Seen from a session that watches attachments a history is a run, at each turn of which the
registry holds what was published up to then. -/
theorem follow_eq_runAmid [EventStore σ] (history : List Occurrence) (h : s.kind = .attachment) :
    ∃ turns : List (Turn σ), (s.follow w history).1 = s.runAmid turns ∧
      turns.map (·.notification) = Occurrence.notifications history ∧
      ∀ t ∈ turns,
        (∃ pre, pre <+: Occurrence.publications history ∧
          t.shared.registry = w.registry.publishAll pre) ∧
        ∃ pre, pre <+: Occurrence.publications history ∧ t.after = w.registry.publishAll pre := by
  induction history generalizing s w with
  | nil => exact ⟨[], rfl, rfl, fun t ht => nomatch ht⟩
  | cons o rest ih =>
      cases o with
      | publish volume claim =>
          obtain ⟨turns, hrun, hn, hseen⟩ := ih (w := w.publish volume claim) h
          refine ⟨turns, hrun, hn, fun t ht => ?_⟩
          obtain ⟨⟨pre, hpre, hr⟩, ⟨post, hpost, hr'⟩⟩ := hseen t ht
          exact ⟨⟨(volume, claim) :: pre, List.prefix_cons_inj _ |>.mpr hpre, hr⟩,
            ⟨(volume, claim) :: post, List.prefix_cons_inj _ |>.mpr hpost, hr'⟩⟩
      | notify n during =>
          obtain ⟨turns, hrun, hn, hseen⟩ := ih (s := (s.handleAmid w _ n).1)
            (w := { (s.handleAmid w (w.registry.publishAll during) n).2 with
              registry := w.registry.publishAll during }) ((handleAmid_kind _ _).trans h)
          -- The second lookup sees what is published during the notification, and so do all later turns.
          refine ⟨⟨w, w.registry.publishAll during, n⟩ :: turns, ?_, ?_, ?_⟩
          · refine Eq.trans ?_ hrun
            simp only [follow, handleAmid_registry_of_attachment _ _ h]
          · exact congrArg (n :: ·) hn
          · intro t ht
            rcases List.mem_cons.mp ht with rfl | ht
            · exact ⟨⟨[], List.nil_prefix, rfl⟩, ⟨during, List.prefix_append _ _, rfl⟩⟩
            · obtain ⟨⟨pre, hpre, hr⟩, ⟨post, hpost, hr'⟩⟩ := hseen t ht
              refine ⟨⟨during ++ pre, (List.prefix_append_right_inj _).mpr hpre, ?_⟩,
                ⟨during ++ post, (List.prefix_append_right_inj _).mpr hpost, ?_⟩⟩
              · rw [publishAll_append]
                exact hr
              · rw [publishAll_append]
                exact hr'

end Session

end StorageLifecycle

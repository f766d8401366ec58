import Mathlib.Algebra.BigOperators.Group.List.Basic
import Mathlib.Algebra.Ring.Nat
import StorageLifecycle.Proofs.Session.Parking
import StorageLifecycle.Store.Faulty

/-!
# Attachments without a claim

The last flush of a session tries the parked attachments once more. A counter goes up by one for each that
stays parked, and at no other time. The report of the session starts out with the number of those that were
parked before the flush, and gets the number of those that are parked still once the events are stored. If
the store refuses the events the first number stands, although the attachments that were resolved are parked
no longer and were not counted.
-/

namespace StorageLifecycle

namespace Signal

variable {meter : Meter}

/-- By how much a signal raises a counter. -/
def amount (meter : Meter) : Signal → Nat
  | count m _ k => if m = meter then k else 0
  | _ => 0

theorem total_eq_sum (signals : List Signal) :
    total meter signals = (signals.map (amount meter)).sum := by
  unfold total
  rw [List.sum_eq_foldl, List.foldl_map]
  congr 1
  funext n s
  cases s with
  | count m labels k => by_cases hm : m = meter <;> simp [amount, hm]
  | _ => rfl

theorem total_append (xs ys : List Signal) :
    total meter (xs ++ ys) = total meter xs + total meter ys := by
  simp only [total_eq_sum, List.map_append, List.sum_append]

end Signal

/-- How many attachments were counted as unresolved. -/
def Shared.unresolvedCount {σ : Type} (w : Shared σ) : Nat := Signal.total .handoffUnresolved w.signals

namespace Session

variable {σ : Type} {s : Session} {w : Shared σ}

theorem unresolvedCount_tell (signals : List Signal) :
    (w.tell signals).unresolvedCount = w.unresolvedCount + Signal.total .handoffUnresolved signals :=
  Signal.total_append _ _

/-! ## Notifications -/

theorem ignore_unresolvedCount (reason : IgnoreReason) {lines : List Signal}
    (h : Signal.total .handoffUnresolved lines = 0) :
    (s.ignore w reason lines).2.unresolvedCount = w.unresolvedCount := by
  show (w.tell _).unresolvedCount = _
  rw [unresolvedCount_tell, Signal.total_append, h]
  rfl

theorem recordAll_unresolvedCount (name : String) (entity : EntityId) (events : List (EventType × Instant)) :
    (s.recordAll w name entity events).2.unresolvedCount = w.unresolvedCount := by
  induction events generalizing s w with
  | nil => rfl
  | cons e rest ih => exact ih.trans (unresolvedCount_tell _)

theorem tryResolve_unresolvedCount (registry : Registry) (name : String) :
    (s.tryResolve w registry name).2.unresolvedCount = w.unresolvedCount := by
  unfold tryResolve
  split
  · rfl
  · split
    · rfl
    · exact recordAll_unresolvedCount _ _ _

theorem fireAttachment_unresolvedCount (registry : Registry) (name volume : String)
    (types : List EventType) (observedAt : Instant) :
    (s.fireAttachment w registry name volume types observedAt).2.unresolvedCount = w.unresolvedCount := by
  unfold fireAttachment
  dsimp only
  split
  · rfl
  · split
    · split
      · exact unresolvedCount_tell _
      · exact recordAll_unresolvedCount _ _ _
    · exact unresolvedCount_tell _

theorem handOff_unresolvedCount (o : Owner) (e : Entity) (type : EventType) :
    (handOff w o e type).unresolvedCount = w.unresolvedCount := by
  unfold handOff
  split
  · split <;> rfl
  · rfl

theorem fireOwn_unresolvedCount (o : Owner) (e : Entity) (stamp : Instant) (type : EventType) :
    (s.fireOwn w o e stamp type).2.unresolvedCount = w.unresolvedCount := by
  unfold fireOwn
  split
  · rfl
  · exact (handOff_unresolvedCount _ _ _).trans (unresolvedCount_tell _)

theorem fireAllOwn_unresolvedCount (o : Owner) (e : Entity) (stamp : Instant) (types : List EventType) :
    (s.fireAllOwn w o e stamp types).2.unresolvedCount = w.unresolvedCount := by
  induction types generalizing s w with
  | nil => rfl
  | cons type rest ih => exact ih.trans (fireOwn_unresolvedCount _ _ _ _)

theorem applyOwn_unresolvedCount [EventStore σ] (o : Owner) (types : List EventType) (observedAt : Instant) :
    (s.applyOwn w o types observedAt).2.unresolvedCount = w.unresolvedCount := by
  have hensure : (s.ensureEntity w o).2.2.unresolvedCount = w.unresolvedCount := by
    unfold ensureEntity
    split
    · rfl
    · dsimp only
      split
      · rfl
      · exact unresolvedCount_tell _
  unfold applyOwn
  split
  · rfl
  · rw [← hensure]
    generalize s.ensureEntity w o = ensured
    obtain ⟨e, t, v⟩ := ensured
    cases e with
    | none => exact ignore_unresolvedCount _ rfl
    | some e => exact fireAllOwn_unresolvedCount _ _ _ _

theorem handleAmid_unresolvedCount [EventStore σ] (after : Registry) (n : Notification) :
    (s.handleAmid w after n).2.unresolvedCount = w.unresolvedCount := by
  unfold handleAmid
  dsimp only
  split
  · exact ignore_unresolvedCount _ rfl
  · split
    · exact ignore_unresolvedCount _ rfl
    · split
      · exact ignore_unresolvedCount _ rfl
      · split
        · exact ignore_unresolvedCount _ rfl
        · unfold applySnapshot
          dsimp only
          split
          · exact applyOwn_unresolvedCount _ _ _
          · exact applyOwn_unresolvedCount _ _ _
          · split
            · exact (fireAttachment_unresolvedCount _ _ _ _ _).trans (tryResolve_unresolvedCount _ _)
            · exact ignore_unresolvedCount _ rfl

/-- Nothing is counted as unresolved before the session ends. -/
theorem follow_unresolvedCount [EventStore σ] (history : List Occurrence) :
    (s.follow w history).2.unresolvedCount = w.unresolvedCount := by
  induction history generalizing s w with
  | nil => rfl
  | cons o rest ih =>
      cases o with
      | publish volume claim => exact ih
      | notify n during => exact ih.trans (handleAmid_unresolvedCount _ _)

/-! ## The last flush -/

theorem resolveAll_unresolvedCount (tries : List (String × Registry)) :
    (s.resolveAll w tries).2.unresolvedCount = w.unresolvedCount := by
  induction tries generalizing s w with
  | nil => rfl
  | cons t rest ih => exact ih.trans (tryResolve_unresolvedCount _ _)

/-- Each attachment that is still parked is counted once. -/
theorem total_unresolvedSignals (s : Session) :
    Signal.total .handoffUnresolved s.unresolvedSignals = s.unresolved := by
  unfold unresolvedSignals unresolved Keyed.size
  induction s.parked.entries with
  | nil => rfl
  | cons p rest ih =>
      rw [List.flatMap_cons, Signal.total_append, ih, List.length_cons, Nat.add_comm]
      rfl

theorem persist_unresolvedCount [EventStore σ] (s : Session) (w : Shared σ) :
    (s.persist w).2.2.unresolvedCount = w.unresolvedCount := by
  unfold persist
  split
  · exact unresolvedCount_tell _
  · rfl

theorem flushTrying_unresolvedCount [EventStore σ] (tries : List (String × Registry)) :
    (s.flushTrying w tries).2.2.unresolvedCount = w.unresolvedCount + (s.settle w tries).1.unresolved := by
  refine (persist_unresolvedCount _ _).trans ((unresolvedCount_tell _).trans ?_)
  rw [total_unresolvedSignals]
  exact congrArg (· + _) (resolveAll_unresolvedCount (s := s) (w := w) tries)

/-- Whether the session speaks of those that were parked before its last flush, or of those that are parked
after it, depends on whether it ended cleanly. -/
theorem concluded_spec (s : Session) (flushed : Except StoreError Unit × Session × Shared σ) :
    (s.concluded flushed).2.1 = flushed.2.1 ∧
      (s.concluded flushed).2.2.unresolvedCount = flushed.2.2.unresolvedCount ∧
      (s.concluded flushed).1.unresolved =
        if (s.concluded flushed).1.isClean then flushed.2.1.unresolved else s.unresolved := by
  obtain ⟨answer, s', w'⟩ := flushed
  cases answer with
  | ok u => exact ⟨rfl, rfl, rfl⟩
  | error e => exact ⟨rfl, unresolvedCount_tell _, rfl⟩

/-- Whatever a session that watches attachments was told, whenever claims were published, and with whichever
registries its last flush tries the parked attachments: those stay parked of which no try found the claim,
and each of them has been counted once as unresolved. The report of a session that ended cleanly has their
number. If the flush failed the report has the number of those that were parked before it, which is
the same exactly if none of them was resolved. When nobody publishes during the flush, its tries are those
of all parked attachments with the registry as it is. -/
theorem unresolved_concluded [EventStore σ] (testCase : TestCaseId) (w : Shared σ)
    (history : List Occurrence) (tries : List (String × Registry)) :
    let s := ((start .attachment testCase).follow w history).1
    let w' := ((start .attachment testCase).follow w history).2
    let left := s.concluded (s.flushTrying w' tries)
    let still := s.parked.entries.filter (stays tries)
    s.finish .stop w' = s.concluded (s.flushTrying w' (s.lastTries w')) ∧
    left.2.1.parked.entries = still ∧
    left.2.2.unresolvedCount = w.unresolvedCount + still.length ∧
    left.1.unresolved = (if left.1.isClean then still.length else s.parked.entries.length) ∧
    (left.1.unresolved = still.length ↔
      left.1.isClean = true ∨ ∀ p ∈ s.parked.entries, stays tries p = true) := by
  intro s w' left still
  obtain ⟨hkept, -, hclamped, -⟩ := follow_of_attachment testCase w history
  obtain ⟨hsession, hcount, hreport⟩ := concluded_spec s (s.flushTrying w' tries)
  rw [(flushTrying_eq tries).2.1] at hsession hreport
  rw [flushTrying_unresolvedCount, follow_unresolvedCount] at hcount
  have hentries : (s.settle w' tries).1.parked.entries = still := (settle_spec hkept hclamped tries).2.2.2.1
  have hstill : (s.settle w' tries).1.unresolved = still.length := congrArg List.length hentries
  rw [hstill] at hcount hreport
  replace hreport : left.1.unresolved = if left.1.isClean then still.length else s.parked.entries.length :=
    hreport
  refine ⟨rfl, (congrArg (·.parked.entries) hsession).trans hentries, hcount, hreport, ?_⟩
  rw [hreport]
  cases left.1.isClean with
  | true => simp
  | false =>
      rw [if_neg Bool.false_ne_true, eq_comm, List.length_filter_eq_length_iff]
      simp

/-- A store in memory that refuses events. -/
def eventsRefused : Shared (Faulty MemoryStore) :=
  .start ((Faulty.sound .empty).inject .saveEvents ⟨.connection "store offline", none⟩)

/-- A session that sees an attachment, and whose claim is published after the last notification. -/
def claimedLast : Session × Shared (Faulty MemoryStore) :=
  (start .attachment 1).follow eventsRefused [.notify (sighting "va" true 5) [], .publish "pv" boundClaim]

/-- A claim that is published after the last notification is found by the last flush, so that its attachment
is parked no longer and is not counted; but the store refuses the events, and the report still has
the attachment as unresolved. -/
theorem not_unresolved_lateClaim :
    let left := claimedLast.1.finish .stop claimedLast.2
    left.2.1.unresolved = 0 ∧ left.2.2.unresolvedCount = 0 ∧ left.1.unresolved = 1 := by
  intro left
  unfold left
  rw [finish_of_sorted (by decide)]
  decide +kernel

end Session

end StorageLifecycle

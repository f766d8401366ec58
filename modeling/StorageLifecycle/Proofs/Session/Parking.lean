import StorageLifecycle.Proofs.Session.Flush
import StorageLifecycle.Proofs.Session.Grammar
import StorageLifecycle.Store.Memory

/-!
# Parking loses nothing

Claims may be published at any point of a history: before a notification, between two of them, or
between the two lookups of one. Whatever the history, each event of an attachment is in the buffer or
parked, once, with the stamp of the moment at which it was observed, and the events of one
attachment stay in the order in which they fired. What is stored at the end has all of them whose
claim was published by then.
-/

namespace StorageLifecycle.Session

variable {σ : Type} {s : Session} {w : Shared σ}

/-- Nothing fires twice, since no type fires twice for a name. -/
theorem Orderly.fired_nodup {k : ResourceKind} (h : s.Orderly k) : s.fired.Nodup := by
  refine List.nodup_iff_count_le_one.mpr fun f => ?_
  have htypes := (h.complies f.resource).nodup (ResourceKind.course_nodup k)
  calc s.fired.count f = (s.firedOn f.resource).count f := (Firing.count_on f s.fired).symm
    _ ≤ (s.firedTypes f.resource).count f.type := List.count_le_count_map
    _ ≤ 1 := List.nodup_iff_count_le_one.mp htypes f.type

/-- All that fired is recorded or waits. -/
theorem Kept.fired_perm (h : s.Kept) : s.fired.Perm (s.recorded ++ s.waiting) := by
  refine Firing.perm_of_on_eq fun name => ?_
  rw [Firing.on_append, on_waiting h.lawful]
  exact h.split name

/-- What is in the buffer has fired. -/
theorem Kept.firing_mem (h : s.Kept) {r : Recorded} (hr : r ∈ s.buffer) : r.firing ∈ s.fired :=
  h.fired_perm.mem_iff.mpr (List.mem_append_left _ (List.mem_map_of_mem hr))

/-- The firings of a session are those in its buffer and those that are parked; none is in both.
Nothing is parked without an event, and for each name the recorded ones fired first. -/
structure Accounted (s : Session) : Prop where
  nodup : s.fired.Nodup
  perm : s.fired.Perm (s.recorded ++ s.waiting)
  disjoint : s.recorded.Disjoint s.waiting
  nonempty : ∀ p ∈ s.parked.entries, p.2.events ≠ []
  inTurn : ∀ name, s.firedOn name = s.recordedOn name ++ Firing.on name s.waiting

theorem Kept.accounted {k : ResourceKind} (h : s.Kept) (ho : s.Orderly k) : s.Accounted where
  nodup := ho.fired_nodup
  perm := h.fired_perm
  disjoint := (List.nodup_append'.mp (h.fired_perm.nodup ho.fired_nodup)).2.2
  nonempty p hp := h.nonempty p.1 p.2 ((Keyed.find?_eq_some_iff h.lawful).mpr hp)
  inTurn name := by
    rw [on_waiting h.lawful]
    exact h.split name

/-- `s'` is a session whose events are about to be stored, or are stored, after attachments of `s`
were tried once more. Its batch has the recorded events of `s` and those that were resolved, in the
order of their timestamps; for each name they are in the order of firing. Nothing has fired or was
stamped anew, and exactly those attachments stay parked whose claim was not found. -/
structure Settled (s : Session) (tries : List (String × Registry)) (s' : Session) : Prop where
  resolved : ∃ resolved, s'.buffer.Perm (s.buffer ++ resolved) ∧
    s.waiting.Perm (resolved.map Recorded.firing ++ s'.waiting)
  ordered : s'.batch.Pairwise fun a b => a.timestamp ≤ b.timestamp
  fired : s'.fired = s.fired
  accounted : s'.Accounted
  parked : s'.parked.entries = s.parked.entries.filter (stays tries)

theorem Kept.settled {k : ResourceKind} (h : s.Kept) (ho : s.Orderly k) (hc : s.Clamped)
    (tries : List (String × Registry)) : s.Settled tries (s.settle w tries).1 := by
  obtain ⟨hkept, hguard, ⟨added, hbuffer⟩, hparked, _⟩ := settle_spec (w := w) h hc tries
  have hfired : (s.settle w tries).1.fired = s.fired := congrArg Guard.fired hguard
  have horderly : (s.settle w tries).1.Orderly k := ho.congr hguard
  have hperm : (s.settle w tries).1.buffer.Perm (s.buffer ++ added) := by
    rw [hbuffer]
    exact inOrder_perm _
  refine ⟨⟨added, hperm, ?_⟩, ?_, hfired, hkept.accounted horderly, hparked⟩
  · -- What was recorded before cancels on both sides.
    have hrecorded : (s.settle w tries).1.recorded.Perm
        (s.recorded ++ added.map Recorded.firing) := by
      rw [recorded, recorded, ← List.map_append]
      exact hperm.map _
    have hall : (s.recorded ++ s.waiting).Perm
        (s.recorded ++ (added.map Recorded.firing ++ (s.settle w tries).1.waiting)) := by
      refine h.fired_perm.symm.trans ?_
      rw [← hfired, ← List.append_assoc]
      exact hkept.fired_perm.trans (hrecorded.append_right _)
    exact (List.perm_append_left_iff _).mp hall
  · rw [batch, List.pairwise_map, hbuffer]
    exact inOrder_sorted _

/-- A session that watches attachments, and what it shares, after a history. -/
theorem follow_of_attachment [EventStore σ] (testCase : TestCaseId) (w : Shared σ)
    (history : List Occurrence) :
    let s := ((start .attachment testCase).follow w history).1
    s.Kept ∧ s.Orderly .attachment ∧ s.Clamped ∧ s.kind = .attachment := by
  obtain ⟨turns, hrun, _, _⟩ :=
    follow_eq_runAmid (s := start .attachment testCase) (w := w) history rfl
  have hall : ∀ t ∈ turns, True ∧ True ∧ True := fun _ _ => ⟨trivial, trivial, trivial⟩
  rw [hrun]
  refine ⟨?_, ?_, ?_, ?_⟩
  · exact kept_runAmid .attachment testCase turns
  · exact (steady_orderly .attachment).runAmid hall (orderly_start .attachment testCase)
  · exact clamped_runAmid .attachment testCase turns
  · exact (steady_kind .attachment).runAmid hall rfl

/-- A session that ends cleanly reports how many of its attachments have no claim in the registry. -/
theorem unresolved_finish_of_clean [EventStore σ] (h : s.Kept) (hc : s.Clamped)
    (hclean : (s.finish .stop w).1.isClean = true) :
    (s.finish .stop w).1.unresolved =
      s.parked.entries.countP fun p => (w.registry.lookup p.2.volume).isNone := by
  obtain ⟨_, _, hreport⟩ := finish_of_clean hclean
  obtain ⟨_, _, _, hentries, _⟩ := settle_spec (w := w) h hc (s.lastTries w)
  rw [hreport]
  show (s.flush w).2.1.unresolved = _
  rw [flush_eq, (flushTrying_eq _).2.1, unresolved, Keyed.size, hentries,
    ← List.countP_eq_length_filter]
  exact List.countP_congr fun p hp => by rw [stays_lastTries hp]

/-- Whatever a session that watches attachments is told, and whenever claims are published: all
that fired is recorded or parked; what fires is stamped when it is observed; and a flush, in
whichever order and with whichever registries it tries the parked attachments, gives to the store
exactly the recorded events and those it resolved, in the order of their stamps. -/
theorem accounted_follow [EventStore σ] (testCase : TestCaseId) (w : Shared σ)
    (history : List Occurrence) :
    let s := ((start .attachment testCase).follow w history).1
    let w' := ((start .attachment testCase).follow w history).2
    s.Accounted ∧
    (∀ n during, ∃ (name : String) (types : List EventType),
      (s.handleAmid w' (w'.registry.publishAll during) n).1.fired =
      s.fired ++ firingsOf name (types.map fun t => (t, s.stampOf n.observedAt))) ∧
    (∀ tries, (s.flushTrying w' tries).1 = .ok () →
      let s' := (s.flushTrying w' tries).2.1
      s.Settled tries s' ∧
      (s'.batch = [] ∨ ∃ stored, (EventStore.saveEvents s'.batch).perform w'.store =
        (.ok (), stored))) ∧
    ((s.finish .stop w').1.isClean = true → (s.finish .stop w').1.unresolved =
      s.parked.entries.countP fun p => (w'.registry.lookup p.2.volume).isNone) := by
  intro s w'
  obtain ⟨hkept, horderly, hclamped, hkind⟩ := follow_of_attachment testCase w history
  refine ⟨hkept.accounted horderly, ?_, ?_, unresolved_finish_of_clean hkept hclamped⟩
  · intro n during
    obtain ⟨name, types, hfired⟩ := fired_advance (s := s) n
    refine ⟨name, types, ?_⟩
    rw [← hfired]
    exact congrArg Guard.fired (guard_handleAmid_of_attachment _ _ hkind)
  · intro tries hok s'
    obtain ⟨hanswer, hsession, _, _⟩ := flushTrying_eq (s := s) (w := w') tries
    show s.Settled tries (s.flushTrying w' tries).2.1 ∧
      ((s.flushTrying w' tries).2.1.batch = [] ∨ ∃ stored,
        (EventStore.saveEvents (s.flushTrying w' tries).2.1.batch).perform w'.store = (.ok (), stored))
    rw [hsession]
    refine ⟨hkept.settled horderly hclamped tries, ?_⟩
    have hsave : (s.settle w' tries).1.save.perform w'.store =
        (.ok (), ((s.settle w' tries).1.save.perform w'.store).2) :=
      Prod.ext (hanswer.symm.trans hok) rfl
    obtain ⟨stored, hevents, _⟩ := save_of_ok hsave
    rcases saveUnlessEmpty_of_ok hevents with ⟨hempty, _⟩ | hstored
    · exact Or.inl hempty
    · exact Or.inr ⟨stored, hstored⟩

/-! ## An attachment that is seen before its claim is bound -/

/-- An attachment of the volume `pv` is seen. -/
def sighting (name : String) (attached : Bool) (nanos : Int) : Notification :=
  ⟨.modified, some (.attachment ⟨name, name, some "pv", attached, none⟩), ⟨nanos⟩⟩

def boundClaim : Entity := ⟨7, "data", "data", .pvc, 1⟩

/-- The first attachment is attached before the claim is bound; the second is seen afterwards, by a
clock that has gone back. -/
def boundLate : List Occurrence :=
  [.notify (sighting "va" true 5) [], .publish "pv" boundClaim, .notify (sighting "vb" false 3) []]

/-- A store that has the row of the claim. -/
def claimStored : Shared MemoryStore := .start { MemoryStore.empty with entities := [boundClaim] }

/-- The session and what it shares after both were seen. -/
def lateRun : Session × Shared MemoryStore := (start .attachment 1).follow claimStored boundLate

theorem accounted_follow_boundLate :
    lateRun.1.waiting.length = 2 ∧ lateRun.1.Settled [("va", lateRun.2.registry)]
      (lateRun.1.flushTrying lateRun.2 [("va", lateRun.2.registry)]).2.1 := by
  have hok : (lateRun.1.flushTrying lateRun.2 [("va", lateRun.2.registry)]).1 = .ok () := by
    rw [flushTrying_of_sorted (by decide)]
    decide +kernel
  exact ⟨rfl, ((accounted_follow 1 claimStored boundLate).2.2.1 _ hok).1⟩

end StorageLifecycle.Session

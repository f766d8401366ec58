import StorageLifecycle.Proofs.Ensemble.Ledger
import StorageLifecycle.Proofs.Store.Integrity

/-!
# What an ensemble keeps

The sessions of an ensemble meet in the store and in the registry only. The rows of the store are
the entities that the sessions of claims and pods know; the registry has the claims that were bound;
and the events of the test case are those of the sessions that have ended. All of it is kept by
every turn, whoever has it.
-/

namespace StorageLifecycle

/-- The feeds of one cluster: claims and pods have UIDs of their own, an attachment keeps its volume,
and a volume is bound to at most one claim. -/
structure Feeds.Consistent (feeds : Feeds) : Prop where
  oneUid : OneUid (ownersOf (feeds.claims ++ feeds.pods))
  oneVolume : OneVolume feeds.attachments
  oneClaim : OneClaim feeds.claims

/-- A store in memory that has nothing of a test case. -/
structure MemoryStore.Fresh (m : MemoryStore) (id : TestCaseId) : Prop where
  reachable : m.Reachable
  entities : m.entitiesOf id = []
  events : m.eventsOf id = []
  counts : m.countsOf id = []

theorem MemoryStore.Fresh.testCase_ne {m : MemoryStore} {id : TestCaseId} (h : m.Fresh id) :
    ∀ row ∈ m.entities, row.testCase ≠ id := by
  intro row hrow hcase
  have hmem : row ∈ m.entitiesOf id := List.mem_filter.mpr ⟨hrow, by simpa using hcase⟩
  rw [h.entities] at hmem
  exact nomatch hmem

/-- The session that watches attachments has met only registries within the present one; after its
end it has stored what the present registry gives it, and no claim is left to be told of. -/
inductive Watched (id : TestCaseId) (feeds : Feeds) (registry : Registry)
    (claims : List Session.Item) (m : Member) : Prop where
  | live (turns : List (Turn MemoryStore)) (report : m.report = none)
    (session : m.session = (Session.start .attachment id).runAmid turns)
    (split : feeds.items .attachment =
      turns.map (fun t => .notification t.notification) ++ m.feed)
    (seen : ∀ t ∈ turns, t.shared.registry.Within registry ∧ t.after.Within registry)
  | ended (report : m.report ≠ none) (claims : claims = [])
    (fired : m.session.fired =
      ((Session.start .attachment id).advanceAll feeds.attachments).fired)
    (views : ∀ name, (m.session.bufferOn name).map Recorded.view =
      Session.outcome (Session.claimOf (volumeOf feeds.attachments) registry name)
        (m.session.firedOn name))

/-- The entities that the sessions of claims and pods know. -/
def Ensemble.cached (e : Ensemble MemoryStore) : List Entity :=
  (e.member .claim).session.entities.values ++ (e.member .pod).session.entities.values

structure Joint (initial : MemoryStore) (id : TestCaseId) (feeds : Feeds)
    (e : Ensemble MemoryStore) : Prop where
  sane : ∀ k, (e.member k).Sane id feeds k
  filed : Filed initial e.shared.store id (ownersOf (feeds.claims ++ feeds.pods)) e.cached
  registered : (e.member .claim).session.Registered feeds.claims e.shared.registry
  published : ∃ taken, feeds.items .claim = taken ++ (e.member .claim).feed ∧
    e.shared.registry.map Entity.unnumbered =
      (Session.solo .claim id taken).2.registry.map Entity.unnumbered
  watched : Watched id feeds e.shared.registry (e.member .claim).feed (e.member .attachment)
  ledger : Ledger initial id e

open Ensemble

variable {initial : MemoryStore} {id : TestCaseId} {feeds : Feeds} {e : Ensemble MemoryStore}

/-! ## The start -/

theorem joint_assemble (hfresh : initial.Fresh id) (feeds : Feeds) (supply : Supply)
    (signals : List Signal) :
    Joint initial id feeds (assemble id feeds ⟨initial, .empty, supply, signals⟩) where
  sane k := Member.sane_start id feeds k
  filed := by
    refine ⟨hfresh.reachable.sound, ⟨[], (List.append_nil _).symm, List.Perm.refl _⟩, ?_, ?_⟩
    · exact fun _ h => nomatch h
    · exact fun _ h => nomatch h
  registered _ _ h := nomatch h
  published := ⟨[], rfl, rfl⟩
  watched := .live [] rfl rfl rfl fun _ h => nomatch h
  ledger := by
    refine ⟨?_, hfresh.counts, rfl⟩
    show ((initial.eventsOf id).map MemoryStore.trace).Perm []
    rw [hfresh.events]
    exact List.Perm.refl _

/-! ## The session that watches attachments -/

/-- The registry may grow while there are claims to be told of. -/
theorem Watched.grow {registry registry' : Registry} {m : Member} {item : Session.Item}
    {claims rest : List Session.Item} (h : Watched id feeds registry claims m)
    (hwithin : registry.Within registry') (hclaims : claims = item :: rest) :
    Watched id feeds registry' rest m := by
  cases h with
  | live turns report session split seen =>
      refine .live turns report session split fun t ht => ?_
      exact ⟨(seen t ht).1.trans hwithin, (seen t ht).2.trans hwithin⟩
  | ended _ hnone _ _ => exact absurd (hclaims.symm.trans hnone) (List.cons_ne_nil _ _)

theorem Watched.take {w : Shared MemoryStore} {m : Member} {n : Notification}
    {claims rest : List Session.Item} (h : Watched id feeds w.registry claims m)
    (hreport : m.report = none) (hfeed : m.feed = .notification n :: rest) :
    Watched id feeds w.registry claims ⟨(m.session.handle w n).1, rest, none⟩ := by
  cases h with
  | live turns _ session split seen =>
      refine .live (turns ++ [⟨w, w.registry, n⟩]) rfl ?_ ?_ ?_
      · rw [Session.runAmid_append, ← session]
        rfl
      · rw [split, hfeed, List.map_append, List.append_assoc]
        rfl
      · intro t ht
        rcases List.mem_append.mp ht with ht | ht
        · exact seen t ht
        · rw [List.mem_singleton.mp ht]
          exact ⟨Registry.Within.refl _, Registry.Within.refl _⟩
  | ended hended _ _ _ => exact absurd hreport hended

/-- What the session that watches attachments stores at its end, when no claim is left to be told
of. -/
theorem Watched.finish {registry : Registry} {m : Member} (h : Watched id feeds registry [] m)
    (hvolume : OneVolume feeds.attachments) (hreport : m.report = none) (hfeed : m.feed = [])
    {w w' : Shared MemoryStore} {s' : Session} (hregistry : w.registry = registry)
    (hended : m.session.Ended w s' w') (r : SessionReport) :
    Watched id feeds registry [] ⟨s', [], some r⟩ := by
  subst hregistry
  cases h with
  | ended hreported _ _ _ => exact absurd hreport hreported
  | live turns _ hsession hsplit hseen =>
      rw [hfeed, List.append_nil] at hsplit
      have hns : turns.map (·.notification) = feeds.attachments := by
        have hinj : Function.Injective Session.Item.notification := fun _ _ h =>
          Session.Item.notification.inj h
        refine (List.map_injective_iff.mpr hinj ?_).symm
        rw [List.map_map]
        exact hsplit
      have hturns : ∀ t ∈ turns, t.shared.registry.Within w.registry ∧ t.after.Within w.registry ∧
          ∀ name v, t.notification.volume? name = some v →
            volumeOf feeds.attachments name = some v := by
        intro t ht
        refine ⟨(hseen t ht).1, (hseen t ht).2, fun name v hv => hvolume.volumeOf_eq ?_ hv⟩
        rw [← hns]
        exact List.mem_map_of_mem ht
      -- Every claim was told of by now, so the registry is the final one.
      obtain ⟨hfired, _, hviews, _⟩ :=
        Session.settled_of_runAmid id w hturns (w.supply.arrange_perm _)
      have hleft : (((Session.start .attachment id).runAmid turns).settle w
          ((w.supply.arrange ((Session.start .attachment id).runAmid turns).parked.keys).map
            fun name => (name, w.registry))).1 = s' := by
        rw [← hsession]
        exact hended.session.symm
      rw [hns, hleft] at hfired hviews
      refine .ended (Option.some_ne_none r) rfl hfired fun name => ?_
      rw [hviews name, Session.firedOn, hfired]

/-! ## Turns -/

theorem Joint.take_claim (h : Joint initial id feeds e) (hfresh : initial.Fresh id)
    (hc : feeds.Consistent) {item : Session.Item} {rest : List Session.Item}
    (hreport : (e.member .claim).report = none) (hfeed : (e.member .claim).feed = item :: rest) :
    Joint initial id feeds (e.took .claim item rest) := by
  have hsane := h.sane .claim
  have hother : (e.member .claim).session.kind ≠ .attachment := by
    rw [hsane.proper.kind]
    exact nofun
  obtain ⟨n, hn, rfl⟩ := List.mem_map.mp (hsane.mem_feed hfeed)
  have hown := hsane.owning nofun
  obtain ⟨hregistered, hwithin⟩ := h.registered.take hown hother hc.oneClaim hn
  refine ⟨forall_member_put (hsane.take hfeed e.shared) h.sane, ?_, hregistered, ?_, ?_,
    h.ledger.take hreport⟩
  · refine Session.filed_take hown hother hsane.proper.testCase ?_ hfresh.testCase_ne hc.oneUid
      h.filed ?_
    · intro x hx htype
      rw [hsane.proper.kind, ((h.sane .pod).find?_of_known nofun hx).2] at htype
      exact nomatch htype
    · intro snapshot o hobject howner
      exact mem_ownersOf (List.mem_append_left _ hn) hobject howner
  · obtain ⟨taken, hsplit, halike⟩ := hsane.alike nofun
    obtain ⟨taken', hsplit', hregistry⟩ := h.published
    have heq : taken' = taken := List.append_cancel_right (hsplit'.symm.trans hsplit)
    subst heq
    refine ⟨taken' ++ [.notification n], ?_, ?_⟩
    · rw [hsplit, hfeed, List.append_assoc]
      rfl
    · rw [Session.solo_append]
      exact (halike.take hother (.notification n)).2 hregistry
  · exact h.watched.grow hwithin hfeed

/-- A session other than that of the claims leaves the registry and the claims alone. -/
theorem Joint.put_of_ne (h : Joint initial id feeds e) {k : ObserverKind} {m : Member}
    {w : Shared MemoryStore} (hk : k ≠ .claim) (hsane : m.Sane id feeds k)
    (hregistry : w.registry = e.shared.registry)
    (hfiled : Filed initial w.store id (ownersOf (feeds.claims ++ feeds.pods)) (e.put k m w).cached)
    (hwatched : Watched id feeds e.shared.registry (e.member .claim).feed
      ((e.put k m w).member .attachment))
    (hledger : Ledger initial id (e.put k m w)) : Joint initial id feeds (e.put k m w) := by
  have hclaim : (e.put k m w).member .claim = e.member .claim := member_put_of_ne hk.symm m w
  have hshared : (e.put k m w).shared.registry = e.shared.registry := hregistry
  refine ⟨forall_member_put hsane h.sane, hfiled, ?_, ?_, ?_, hledger⟩
  · rw [hclaim, hshared]
    exact h.registered
  · rw [hclaim, hshared]
    exact h.published
  · rw [hclaim, hshared]
    exact hwatched

theorem Joint.take_pod (h : Joint initial id feeds e) (hfresh : initial.Fresh id)
    (hc : feeds.Consistent) {item : Session.Item} {rest : List Session.Item}
    (hreport : (e.member .pod).report = none) (hfeed : (e.member .pod).feed = item :: rest) :
    Joint initial id feeds (e.took .pod item rest) := by
  have hsane := h.sane .pod
  have hother : (e.member .pod).session.kind ≠ .attachment := by
    rw [hsane.proper.kind]
    exact nofun
  obtain ⟨n, hn, rfl⟩ := List.mem_map.mp (hsane.mem_feed hfeed)
  refine h.put_of_ne nofun (hsane.take hfeed e.shared)
    (Session.handle_registry_of_pod hsane.proper.kind n) ?_ h.watched (h.ledger.take hreport)
  -- The rows are the same in whichever order the two sessions are asked what they know.
  refine Filed.perm (Session.filed_take (hsane.owning nofun) hother hsane.proper.testCase ?_
    hfresh.testCase_ne hc.oneUid (h.filed.perm List.perm_append_comm) ?_) List.perm_append_comm
  · intro x hx htype
    rw [hsane.proper.kind, ((h.sane .claim).find?_of_known nofun hx).2] at htype
    exact nomatch htype
  · intro snapshot o hobject howner
    exact mem_ownersOf (List.mem_append_right _ hn) hobject howner

theorem Joint.take_attachment (h : Joint initial id feeds e) {item : Session.Item}
    {rest : List Session.Item} (hreport : (e.member .attachment).report = none)
    (hfeed : (e.member .attachment).feed = item :: rest) :
    Joint initial id feeds (e.took .attachment item rest) := by
  have hsane := h.sane .attachment
  obtain ⟨n, hn, rfl⟩ := List.mem_map.mp (hsane.mem_feed hfeed)
  obtain ⟨hstore, hregistry⟩ := Session.handleAmid_shared_of_attachment (w := e.shared)
    e.shared.registry n hsane.proper.kind
  refine h.put_of_ne nofun (hsane.take hfeed e.shared) hregistry ?_ ?_ (h.ledger.take hreport)
  · show Filed initial ((e.member .attachment).session.handleAmid e.shared e.shared.registry n).2.store
      id _ e.cached
    rw [hstore]
    exact h.filed
  · exact h.watched.take hreport hfeed

theorem Joint.take_count (h : Joint initial id feeds e) {item : Session.Item}
    {rest : List Session.Item} (hreport : (e.member .count).report = none)
    (hfeed : (e.member .count).feed = item :: rest) :
    Joint initial id feeds (e.took .count item rest) := by
  have hsane := h.sane .count
  obtain ⟨l, _, rfl⟩ := List.mem_map.mp (hsane.mem_feed hfeed)
  exact h.put_of_ne nofun (hsane.take hfeed e.shared) rfl h.filed h.watched (h.ledger.take hreport)

/-- Whoever takes an item. -/
theorem Joint.take (h : Joint initial id feeds e) (hfresh : initial.Fresh id)
    (hc : feeds.Consistent) {k : ObserverKind} {item : Session.Item} {rest : List Session.Item}
    (hreport : (e.member k).report = none) (hfeed : (e.member k).feed = item :: rest) :
    Joint initial id feeds (e.took k item rest) := by
  cases k with
  | claim => exact h.take_claim hfresh hc hreport hfeed
  | pod => exact h.take_pod hfresh hc hreport hfeed
  | attachment => exact h.take_attachment hreport hfeed
  | count => exact h.take_count hreport hfeed

/-- The session of the claims ends: the registry and the claims stay as they are. -/
theorem Joint.finish_claim (h : Joint initial id feeds e) {s' : Session} {w' : Shared MemoryStore}
    {r : SessionReport} (hsane : Member.Sane id feeds .claim ⟨s', [], some r⟩)
    (hfeed : (e.member .claim).feed = [])
    (hentities : s'.entities = (e.member .claim).session.entities)
    (hregistry : w'.registry = e.shared.registry)
    (hfiled : Filed initial w'.store id (ownersOf (feeds.claims ++ feeds.pods)) e.cached)
    (hledger : Ledger initial id (e.put .claim ⟨s', [], some r⟩ w')) :
    Joint initial id feeds (e.put .claim ⟨s', [], some r⟩ w') := by
  have hshared : (e.put .claim ⟨s', [], some r⟩ w').shared.registry = e.shared.registry := hregistry
  have hnothing : ((e.put .claim ⟨s', [], some r⟩ w').member .claim).feed =
      (e.member .claim).feed := hfeed.symm
  refine ⟨forall_member_put hsane h.sane, ?_, ?_, ?_, ?_, hledger⟩
  · have hcached : (e.put .claim ⟨s', [], some r⟩ w').cached = e.cached :=
      congrArg (·.values ++ (e.member .pod).session.entities.values) hentities
    rw [hcached]
    exact hfiled
  · rw [hshared]
    intro v c hv
    obtain ⟨hfind, hmem⟩ := h.registered v c hv
    exact ⟨(congrArg (·.find? c.name) hentities).trans hfind, hmem⟩
  · rw [hshared, hnothing]
    exact h.published
  · rw [hshared, hnothing]
    exact h.watched

/-- A session ends. That of the attachments is not to end while there are claims to be told of. -/
theorem Joint.finish (h : Joint initial id feeds e) (hc : feeds.Consistent) {k : ObserverKind}
    (hlate : k = .attachment → (e.member .claim).feed = [])
    {s' : Session} {w' : Shared MemoryStore} {r : SessionReport}
    (hreport : (e.member k).report = none) (hfeed : (e.member k).feed = [])
    (hended : (e.member k).session.Ended e.shared s' w') :
    Joint initial id feeds (e.put k ⟨s', [], some r⟩ w') := by
  have hsane := h.sane k
  have hsane' := hsane.finish hended hfeed r
  have hledger := h.ledger.finish (r := r) hsane hreport hfeed hended
  have hentities : k ≠ .attachment → s'.entities = (e.member k).session.entities := by
    intro hk
    have hother : (e.member k).session.kind ≠ .attachment := by
      rw [hsane.proper.kind]
      exact hk
    rw [hended.of_unparked hother hsane.proper.kept]
  have hfiled : Filed initial w'.store id (ownersOf (feeds.claims ++ feeds.pods)) e.cached :=
    h.filed.of_entities (hended.store.sound h.filed.sound) hended.store.entities
  cases k with
  | claim => exact h.finish_claim hsane' hfeed (hentities nofun) hended.registry hfiled hledger
  | pod =>
      have hcached : (e.put .pod ⟨s', [], some r⟩ w').cached = e.cached :=
        congrArg ((e.member .claim).session.entities.values ++ ·.values) (hentities nofun)
      refine h.put_of_ne nofun hsane' hended.registry ?_ h.watched hledger
      rw [hcached]
      exact hfiled
  | attachment =>
      refine h.put_of_ne nofun hsane' hended.registry hfiled ?_ hledger
      have hwatched := h.watched
      rw [hlate rfl] at hwatched ⊢
      exact hwatched.finish hc.oneVolume hreport hfeed rfl hended r
  | count => exact h.put_of_ne nofun hsane' hended.registry hfiled h.watched hledger

/-! ## Runs -/

/-- Did every session that has ended end cleanly? -/
def Ensemble.NoneFailed (e : Ensemble MemoryStore) : Prop :=
  ∀ k r, (e.member k).report = some r → r.isClean = true

/-- A turn, after which no session that has ended failed. -/
theorem Joint.step (h : Joint initial id feeds e) (hfresh : initial.Fresh id)
    (hc : feeds.Consistent) {k : ObserverKind}
    (hlate : k = .attachment → (e.member k).feed = [] → (e.member .claim).feed = [])
    (hclean : (e.step k).NoneFailed) : Joint initial id feeds (e.step k) := by
  cases hreport : (e.member k).report with
  | some r =>
      rw [step_of_ended hreport]
      exact h
  | none =>
      cases hfeed : (e.member k).feed with
      | cons item rest =>
          rw [step_of_item hreport hfeed]
          exact h.take hfresh hc hreport hfeed
      | nil =>
          rw [step_of_done hreport hfeed] at hclean ⊢
          refine h.finish hc (fun hk => hlate hk hfeed) hreport hfeed ?_
          refine Session.ended_of_clean (hclean k _ ?_)
          rw [member_put_self]

/-- Whenever the session that watches attachments has its turn with nothing left to take, there is no
claim left to be told of. -/
def Ensemble.ClaimsFirst (e : Ensemble MemoryStore) : List ObserverKind → Prop
  | [] => True
  | k :: rest =>
    (k = .attachment → (e.member k).feed = [] → (e.member .claim).feed = []) ∧
      (e.step k).ClaimsFirst rest

instance Ensemble.decidableClaimsFirst :
    (e : Ensemble MemoryStore) → (schedule : List ObserverKind) → Decidable (e.ClaimsFirst schedule)
  | _, [] => isTrue trivial
  | e, k :: rest =>
    have := decidableClaimsFirst (e.step k) rest
    inferInstanceAs (Decidable (_ ∧ _))

theorem Joint.run (h : Joint initial id feeds e) (hfresh : initial.Fresh id)
    (hc : feeds.Consistent) {schedule : List ObserverKind} (hlate : e.ClaimsFirst schedule)
    (hclean : (e.run schedule).NoneFailed) : Joint initial id feeds (e.run schedule) := by
  induction schedule generalizing e with
  | nil => exact h
  | cons k rest ih =>
      -- A report is final, so a session that has ended by now has ended cleanly.
      have hstep : (e.step k).NoneFailed := fun k' r hr => hclean k' r (report_run rest hr)
      exact ih (h.step hfresh hc hlate.1 hstep) hlate.2 hclean

end StorageLifecycle

import StorageLifecycle.Proofs.Ensemble.Sharing

/-!
# What has been stored so far

Events and samples reach the store when a session ends, all of them at once. So at any moment the
events of the test case are those of the sessions that have ended.
-/

namespace StorageLifecycle

open Ensemble

/-- What a member has added to the store at its end. -/
def Member.stored (m : Member) : List Event := if m.report.isSome then m.session.batch else []

def Member.storedCounts (m : Member) : List CountSample :=
  if m.report.isSome then m.session.counts else []

/-- The events and samples of the test case are those of the members that have ended. -/
structure Ledger (initial : MemoryStore) (id : TestCaseId) (e : Ensemble MemoryStore) : Prop where
  events : ((e.shared.store.eventsOf id).map MemoryStore.trace).Perm
    (ObserverKind.all.flatMap fun k => (e.member k).stored.map MemoryStore.trace)
  counts : e.shared.store.countsOf id = (e.member .count).storedCounts
  testCases : e.shared.store.testCases = initial.testCases

variable {initial : MemoryStore} {id : TestCaseId} {feeds : Feeds} {e : Ensemble MemoryStore}

/-! ## Taking an item -/

theorem Ledger.take (h : Ledger initial id e) {k : ObserverKind} {item : Session.Item}
    {rest : List Session.Item} (hreport : (e.member k).report = none) :
    Ledger initial id (e.took k item rest) := by
  unfold Ensemble.took
  obtain ⟨hevents, hcounts, htests⟩ :=
    Session.take_frame (e.member k).session e.shared item
  generalize (e.member k).session.take e.shared item = taken at hevents hcounts htests ⊢
  have hstored : ∀ k', ((e.put k ⟨taken.1, rest, none⟩ taken.2).member k').stored =
        (e.member k').stored ∧
      ((e.put k ⟨taken.1, rest, none⟩ taken.2).member k').storedCounts =
        (e.member k').storedCounts := by
    intro k'
    by_cases hk : k' = k
    · subst hk
      unfold Member.stored Member.storedCounts
      rw [member_put_self, hreport]
      exact ⟨rfl, rfl⟩
    · rw [member_put_of_ne hk]
      exact ⟨rfl, rfl⟩
  refine ⟨?_, ?_, htests.trans h.testCases⟩
  · have hsame : (e.put k ⟨taken.1, rest, none⟩ taken.2).shared.store.eventsOf id =
        e.shared.store.eventsOf id := congrArg (List.filter _) hevents
    rw [hsame]
    simp only [hstored]
    exact h.events
  · rw [(hstored .count).2]
    exact (congrArg (List.filter _) hcounts).trans h.counts

/-! ## Ending -/

/-- What is put in one place of a list of lists may as well be put at the end. -/
theorem perm_flatMap_of_filled {α β : Type} [DecidableEq α] {l : List α} (hl : l.Nodup)
    {f g : α → List β} {a : α} (ha : a ∈ l) (hempty : f a = []) (hsame : ∀ b, b ≠ a → g b = f b) :
    (l.flatMap g).Perm (l.flatMap f ++ g a) := by
  induction l with
  | nil => exact nomatch ha
  | cons b rest ih =>
      obtain ⟨hb, hrest⟩ := List.nodup_cons.mp hl
      rw [List.flatMap_cons, List.flatMap_cons]
      by_cases heq : b = a
      · subst heq
        have htail : rest.flatMap g = rest.flatMap f := by
          unfold List.flatMap
          refine congrArg List.flatten (List.map_congr_left fun c hc => hsame c ?_)
          rintro rfl
          exact hb hc
        rw [hempty, htail, List.nil_append]
        exact List.perm_append_comm
      · rw [hsame b heq, List.append_assoc]
        exact (ih hrest (List.mem_of_ne_of_mem (Ne.symm heq) ha)).append_left _

theorem Ledger.finish (h : Ledger initial id e) {k : ObserverKind} {s' : Session}
    {w' : Shared MemoryStore} {r : SessionReport} (hsane : (e.member k).Sane id feeds k)
    (hreport : (e.member k).report = none) (hfeed : (e.member k).feed = [])
    (hended : (e.member k).session.Ended e.shared s' w') :
    Ledger initial id (e.put k ⟨s', [], some r⟩ w') := by
  have hsane' := hsane.finish hended hfeed r
  have hproper : s'.Proper k id := hsane'.proper
  have hown : ∀ ev ∈ s'.batch, ev.testCase = id := by
    intro ev hev
    obtain ⟨rec, hrec, rfl⟩ := List.mem_map.mp hev
    exact hproper.cases rec hrec
  have hself : ((e.put k ⟨s', [], some r⟩ w').member k).stored = s'.batch := by
    unfold Member.stored
    rw [member_put_self]
    rfl
  have hnone : (e.member k).stored = [] := by
    unfold Member.stored
    rw [hreport]
    rfl
  refine ⟨?_, ?_, hended.store.testCases.trans h.testCases⟩
  · have hall : ObserverKind.all.Nodup := by decide
    have hk : k ∈ ObserverKind.all := by cases k <;> decide
    have hfilled := perm_flatMap_of_filled hall
      (f := fun k' => (e.member k').stored.map MemoryStore.trace)
      (g := fun k' => ((e.put k ⟨s', [], some r⟩ w').member k').stored.map MemoryStore.trace) hk
      (by rw [hnone]; rfl) (fun k' hne => by rw [member_put_of_ne hne])
    refine List.Perm.trans ?_ hfilled.symm
    rw [hself]
    show ((w'.store.eventsOf id).map MemoryStore.trace).Perm _
    rw [hended.store.eventsOf hown]
    exact h.events.append_right _
  · refine (hended.store.countsOf hproper.sampled).trans ?_
    rw [h.counts]
    by_cases hk : k = .count
    · subst hk
      unfold Member.storedCounts
      rw [member_put_self, hreport]
      rfl
    · have hother : ObserverKind.count ≠ k := fun heq => hk heq.symm
      have hnothing : s'.counts = [] := hsane'.uncounted hk
      rw [member_put_of_ne hother, hnothing, List.append_nil]

end StorageLifecycle

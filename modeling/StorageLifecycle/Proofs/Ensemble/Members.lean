import StorageLifecycle.Proofs.Ensemble.Turns
import StorageLifecycle.Proofs.Session.HandOff
import StorageLifecycle.Proofs.Session.Proper

/-!
# What each session of an ensemble keeps

Whatever the others do to the store and the registry, a session keeps its own books: nothing that
fired gets lost, stamps do not go back, and a session that watches no attachments does what it would
do alone.
-/

namespace StorageLifecycle

/-- What an observer of notifications is fed. -/
theorem Feeds.eq_notification {feeds : Feeds} {k : ObserverKind} (hk : k ≠ .count)
    {item : Session.Item} (h : item ∈ feeds.items k) : ∃ n, item = .notification n := by
  cases k with
  | claim | pod | attachment =>
      obtain ⟨n, _, rfl⟩ := List.mem_map.mp h
      exact ⟨n, rfl⟩
  | count => exact absurd rfl hk

namespace Session

variable {s : Session}

theorem Owning.take (h : s.Owning) (hk : s.kind ≠ .attachment) (w : Shared MemoryStore)
    (item : Item) : (s.take w item).1.Owning := by
  cases item with
  | listing l => exact ⟨h.lawful, h.named, h.views⟩
  | notification n => exact h.handleAmid hk w w.registry n

/-- A session that watches no attachments is the same after its end but for the order of its
buffer. -/
theorem Ended.of_unparked {w w' : Shared MemoryStore} {s' : Session} (h : s.Ended w s' w')
    (hk : s.kind ≠ .attachment) (hkept : s.Kept) : s' = { s with buffer := inOrder s.buffer } :=
  h.session.trans (settle_of_unparked (hkept.own hk))

end Session

/-! ## Members -/

/-- The books of a session, of which `feeds` is all that it is ever fed. -/
structure Member.Sane (id : TestCaseId) (feeds : Feeds) (k : ObserverKind) (m : Member) : Prop where
  proper : m.session.Proper k id
  feed : m.feed <:+ feeds.items k
  uncounted : k ≠ .count → m.session.counts = []
  silent : k = .count → m.session.fired = []
  owning : k ≠ .attachment → m.session.Owning
  alike : k ≠ .attachment → ∃ taken, feeds.items k = taken ++ m.feed ∧
    m.session.Alike (Session.solo k id taken).1

namespace Member

variable {id : TestCaseId} {feeds : Feeds} {k : ObserverKind} {m : Member}

theorem sane_start (id : TestCaseId) (feeds : Feeds) (k : ObserverKind) :
    (⟨.start k id, feeds.items k, none⟩ : Member).Sane id feeds k where
  proper := Session.proper_start k id
  feed := List.suffix_refl _
  uncounted _ := rfl
  silent _ := rfl
  owning _ := ⟨Keyed.lawful_empty, (fun _ _ h => nomatch h), fun _ h => nomatch h⟩
  alike _ := ⟨[], rfl, Session.Alike.refl _⟩

theorem Sane.mem_feed (h : m.Sane id feeds k) {item : Session.Item} {rest : List Session.Item}
    (hfeed : m.feed = item :: rest) : item ∈ feeds.items k := by
  refine h.feed.mem ?_
  rw [hfeed]
  exact List.mem_cons_self

/-- A session knows each entity under its own name. -/
theorem Sane.find?_of_known (h : m.Sane id feeds k) (hk : k ≠ .attachment) {x : Entity}
    (hx : x ∈ m.session.entities.values) :
    m.session.entities.find? x.name = some x ∧ x.type = k.owns := by
  obtain ⟨name, hfind⟩ := (Keyed.mem_values_iff (h.owning hk).lawful).mp hx
  obtain ⟨hname, htype⟩ := (h.owning hk).named name x hfind
  rw [h.proper.kind] at htype
  exact ⟨hname ▸ hfind, htype⟩

theorem Sane.take (h : m.Sane id feeds k) {item : Session.Item} {rest : List Session.Item}
    (hfeed : m.feed = item :: rest) (w : Shared MemoryStore) :
    (⟨(m.session.take w item).1, rest, none⟩ : Member).Sane id feeds k := by
  have hmem := h.mem_feed hfeed
  have hsuffix : rest <:+ feeds.items k := by
    refine List.IsSuffix.trans ?_ h.feed
    rw [hfeed]
    exact List.suffix_cons item rest
  have hother : k ≠ .attachment → m.session.kind ≠ .attachment := fun hk => h.proper.kind ▸ hk
  refine ⟨h.proper.take w item, hsuffix, ?_, ?_, ?_, ?_⟩
  · intro hk
    obtain ⟨n, rfl⟩ := Feeds.eq_notification hk hmem
    exact (h.proper.plain_handle w n).counts.trans (h.uncounted hk)
  · intro hk
    subst hk
    obtain ⟨l, _, rfl⟩ := List.mem_map.mp hmem
    exact h.silent rfl
  · exact fun hk => (h.owning hk).take (hother hk) w item
  · intro hk
    obtain ⟨taken, hsplit, halike⟩ := h.alike hk
    refine ⟨taken ++ [item], ?_, ?_⟩
    · rw [hsplit, hfeed, List.append_assoc]
      rfl
    · rw [Session.solo_append]
      exact (halike.take (hother hk) item).1

theorem Sane.finish (h : m.Sane id feeds k) {w w' : Shared MemoryStore} {s' : Session}
    (hended : m.session.Ended w s' w') (hfeed : m.feed = []) (r : SessionReport) :
    (⟨s', [], some r⟩ : Member).Sane id feeds k := by
  obtain ⟨_, hguard, _, _, hcounts⟩ :=
    Session.settle_spec (w := w) h.proper.kept h.proper.clamped (m.session.lastTries w)
  rw [← hended.session] at hguard hcounts
  have hsame : k ≠ .attachment →
      s' = { m.session with buffer := Session.inOrder m.session.buffer } := by
    intro hk
    exact hended.of_unparked (h.proper.kind ▸ hk) h.proper.kept
  refine ⟨?_, List.nil_suffix, ?_, ?_, ?_, ?_⟩
  · rw [hended.session]
    exact h.proper.settle w _
  · exact fun hk => hcounts.trans (h.uncounted hk)
  · exact fun hk => (congrArg Guard.fired hguard).trans (h.silent hk)
  · intro hk
    obtain ⟨hlawful, hnamed, hviews⟩ := h.owning hk
    show s'.Owning
    rw [hsame hk]
    refine ⟨hlawful, hnamed, ?_⟩
    exact fun r hr => hviews r ((Session.inOrder_perm _).mem_iff.mp hr)
  · intro hk
    obtain ⟨taken, hsplit, halike⟩ := h.alike hk
    rw [hfeed] at hsplit
    refine ⟨taken, hsplit, ?_⟩
    show s'.Alike _
    rw [hsame hk]
    exact ⟨halike.guard, halike.testCase, halike.cache, halike.counts⟩

end Member

end StorageLifecycle

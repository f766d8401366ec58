import StorageLifecycle.Proofs.Ensemble.Members
import StorageLifecycle.Proofs.Ensemble.Naming
import StorageLifecycle.Proofs.Metrics.Coverage
import StorageLifecycle.Proofs.Session.Spans

/-!
# Where the events of a test case come from

Each event that can be read for a test case is one of a session that has ended, and each session has kept
the order of its firings. So the events of a stage were fired by one session; and when they are of one
entity, they were fired for one name, the first of them no later than the other. All of this is kept by
every turn, whoever has it, and over every store that does with its rows what it should.
-/

namespace StorageLifecycle

/-- The observer whose feed tells of resources of this kind. -/
theorem ObserverKind.eq_of_resource {k k' : ObserverKind} {kind : ResourceKind}
    (h : k.resource = some kind) (h' : k'.resource = some kind) : k = k' := by
  cases k <;> cases h <;> cases k' <;> cases h' <;> rfl

/-- The moment and the counts of what a feed brings can be written. -/
def RowReading.Admits {σ : Type} (v : RowReading σ) : Session.Item → Prop
  | .notification n => v.dated n.observedAt
  | .listing l => v.dated l.observedAt ∧ v.counted (Tally.ofListings l.pods l.claims)

/-- An observer is fed what it asks for. -/
theorem Feeds.fits_of_mem {feeds : Feeds} {k : ObserverKind} {item : Session.Item}
    (h : item ∈ feeds.items k) : item.fits k := by
  by_cases hk : k = .count
  · subst hk
    obtain ⟨l, _, rfl⟩ := List.mem_map.mp h
    exact rfl
  · obtain ⟨n, rfl⟩ := Feeds.eq_notification hk h
    exact hk

/-- The claims and pods that the feeds tell of. -/
def Feeds.owners (feeds : Feeds) : List Session.Owner := ownersOf (feeds.claims ++ feeds.pods)

/-- What a session heeds in its feed is of one of the owners that the feeds tell of. -/
theorem Feeds.owner_mem {feeds : Feeds} {s : Session} {n : Notification} {snapshot : Snapshot}
    {o : Session.Owner} (hn : .notification n ∈ feeds.items s.kind) (hheed : s.heeded n = some snapshot)
    (howner : snapshot.owner? = some o) : o ∈ feeds.owners := by
  obtain ⟨hobject, _, hkind, _⟩ := Session.heeded_eq_some_iff.mp hheed
  have hother := Session.kind_of_heeded_owner hheed howner
  refine mem_ownersOf (List.mem_append.mpr ?_) hobject howner
  generalize s.kind = k at hn hkind hother
  cases k with
  | claim =>
      obtain ⟨_, hmem, heq⟩ := List.mem_map.mp hn
      cases heq
      exact .inl hmem
  | pod =>
      obtain ⟨_, hmem, heq⟩ := List.mem_map.mp hn
      cases heq
      exact .inr hmem
  | attachment => exact absurd rfl hother
  | count => exact nomatch hkind

/-! ## Members -/

/-- What is kept of a session over every store. -/
structure Member.Traced {σ : Type} (v : RowReading σ) (store : σ) (id : TestCaseId) (feeds : Feeds)
    (k : ObserverKind) (m : Member) : Prop where
  proper : m.session.Proper k id
  unmixed : m.session.Unmixed k
  orderly : ∀ kind, k.resource = some kind → m.session.Orderly kind
  dated : m.session.Dated v.dated
  samples : ∀ c ∈ m.session.counts, v.dated c.timestamp ∧ v.counted c.tally
  named : k ≠ .attachment → m.session.Named v store feeds.owners k
  feed : m.feed <:+ feeds.items k

namespace Member.Traced

variable {σ : Type} {v : RowReading σ} {store store' : σ} {id : TestCaseId} {feeds : Feeds}
  {k : ObserverKind} {m : Member} {w : Shared σ}

theorem start (v : RowReading σ) (store : σ) (id : TestCaseId) (feeds : Feeds) (k : ObserverKind) :
    (⟨.start k id, feeds.items k, none⟩ : Member).Traced v store id feeds k where
  proper := Session.proper_start k id
  unmixed := Session.unmixed_start k id
  orderly kind hk := by
    obtain rfl := ObserverKind.eq_of_resource hk kind.resource_observer
    exact Session.orderly_start kind id
  dated := Session.dated_start v.dated k id
  samples _ h := nomatch h
  named _ := Session.named_start v store _ k id
  feed := List.suffix_refl _

theorem mono (h : m.Traced v store id feeds k) (hkept : v.entities store ⊆ v.entities store') :
    m.Traced v store' id feeds k :=
  ⟨h.proper, h.unmixed, h.orderly, h.dated, h.samples, fun hk => (h.named hk).mono hkept, h.feed⟩

/-- A notification does nothing to the rows but to enroll an owner, and what it fires stays in rows that
stand for the names. -/
theorem handle [EventStore σ] (hv : v.Lawful) (howned : v.Owned w.store id feeds.owners)
    (h : m.Traced v w.store id feeds k) {n : Notification} (hn : .notification n ∈ feeds.items k) :
    let after := m.session.handle w n
    v.Enrolls id feeds.owners w.store after.2.store ∧
      (k ≠ .attachment → after.1.Named v after.2.store feeds.owners k) := by
  intro after
  by_cases hk : k = .attachment
  · have hshared := Session.handleAmid_shared_of_attachment (w := w) w.registry n
      (h.proper.kind.trans hk)
    exact ⟨.of_eq howned hshared.1, fun hother => absurd hk hother⟩
  · have howners : ∀ snapshot o, m.session.heeded n = some snapshot → snapshot.owner? = some o →
        o ∈ feeds.owners := fun _ _ => Feeds.owner_mem (h.proper.kind.symm ▸ hn)
    obtain ⟨henrolls, hnamed⟩ := (h.named hk).handle hv howned h.proper hk howners
    exact ⟨henrolls, fun _ => hnamed⟩

/-- What a session takes does nothing to the rows but to enroll an owner. -/
theorem take [EventStore σ] (hv : v.Lawful) (howned : v.Owned w.store id feeds.owners)
    (hadmits : ∀ item ∈ feeds.items k, v.Admits item) (h : m.Traced v w.store id feeds k)
    {item : Session.Item} {rest : List Session.Item} (hfeed : m.feed = item :: rest) :
    v.Enrolls id feeds.owners w.store (m.session.take w item).2.store ∧
      (⟨(m.session.take w item).1, rest, none⟩ : Member).Traced v (m.session.take w item).2.store id
        feeds k := by
  have hsuffix : rest <:+ feeds.items k :=
    (hfeed ▸ List.suffix_cons item rest : rest <:+ m.feed).trans h.feed
  have hmem : item ∈ feeds.items k := h.feed.mem (hfeed ▸ List.mem_cons_self)
  have hproper := h.proper.take w item
  have hunmixed := h.unmixed.take (w := w) h.proper (Feeds.fits_of_mem hmem)
  have hadmitted := hadmits item hmem
  cases item with
  | listing l =>
      refine ⟨.of_eq howned rfl, hproper, hunmixed, ?_, h.dated.sample hadmitted.1, ?_, ?_, hsuffix⟩
      · exact fun kind hk => (h.orderly kind hk).sample l
      · refine List.forall_mem_append.mpr ⟨h.samples, List.forall_mem_singleton.mpr ?_⟩
        exact ⟨h.dated.stampOf hadmitted.1, hadmitted.2⟩
      · exact fun hk => ⟨(h.named hk).cached, (h.named hk).buffered⟩
  | notification n =>
      have hcounts : (m.session.take w (.notification n)).1.counts = m.session.counts :=
        (h.proper.plain_handle w n).counts
      obtain ⟨henrolls, hnamed⟩ := h.handle hv howned hmem
      refine ⟨henrolls, hproper, hunmixed, ?_, ?_, hcounts ▸ h.samples, hnamed, hsuffix⟩
      · exact fun kind hk =>
          (Session.steady_orderly kind).handleAmid trivial trivial trivial (h.orderly kind hk)
      · exact (Session.steady_dated v.dated).handleAmid trivial trivial hadmitted h.dated

/-- A session keeps its books also when it settles. -/
theorem settle (h : m.Traced v store id feeds k) (r : SessionReport) :
    (⟨(m.session.settle w (m.session.lastTries w)).1, [], some r⟩ : Member).Traced v store id
      feeds k := by
  obtain ⟨_, hguard, _, _, hcounts⟩ := Session.settle_spec (w := w) h.proper.kept h.proper.clamped
    (m.session.lastTries w)
  refine ⟨h.proper.settle w _, h.unmixed.settle h.proper _, ?_, h.dated.congr hguard, hcounts ▸ h.samples,
    fun hk => ?_, List.nil_suffix⟩
  · exact fun kind hk => (h.orderly kind hk).congr hguard
  · show (m.session.settle w (m.session.lastTries w)).1.Named v store _ k
    rw [Session.settle_of_unparked (h.proper.kept.own (h.proper.kind ▸ hk))]
    refine ⟨(h.named hk).cached, fun r hr => ?_⟩
    exact (h.named hk).buffered r ((Session.inOrder_perm _).mem_iff.mp hr)

/-- Storing what a session holds logs its events. -/
theorem save [EventStore σ] (hv : v.Lawful) (hsound : v.sound store) (h : m.Traced v store id feeds k)
    {answer : Except StoreError Unit} (hsave : m.session.save.perform store = (answer, store')) :
    v.Logged store m.session.batch store' := by
  have hdated : ∀ e ∈ m.session.batch, v.dated e.timestamp :=
    List.forall_mem_map.mpr fun r hr => h.dated.fired _ (h.proper.kept.firing_mem hr)
  refine Session.save_keeps hsave (.refl hsound _) (hv.saveEvents hsound hdated) ?_
  intro answer between after hbetween hrun
  have hlast := hv.saveCounts hbetween.sound h.samples hrun
  refine ⟨hlast.sound, hlast.entities.trans hbetween.entities, fun e he => ?_⟩
  rcases hlast.log e he with hold | ⟨_, hnone, _⟩
  · exact hbetween.log e hold
  · exact nomatch hnone

/-- A session that holds events fired them in the order of a course. -/
theorem orderly_of_buffer (h : m.Traced v store id feeds k) {r : Recorded}
    (hr : r ∈ m.session.buffer) : ∃ kind, k.resource = some kind ∧ m.session.Orderly kind := by
  cases hkind : k.resource with
  | some kind => exact ⟨kind, rfl, h.orderly kind hkind⟩
  | none =>
      have hcount : k = .count := by cases k <;> first | rfl | exact nomatch hkind
      rw [h.proper.kept.buffer_eq_nil (h.unmixed.silent hcount)] at hr
      exact nomatch hr

end Member.Traced

/-! ## Ensembles -/

/-- Events of different names are recorded for different entities. -/
def Session.Apart (s : Session) : Prop :=
  ∀ r ∈ s.buffer, ∀ r' ∈ s.buffer, r.event.entity = r'.event.entity → r.resource = r'.resource

instance (s : Session) : Decidable s.Apart :=
  inferInstanceAs (Decidable (∀ r ∈ s.buffer, ∀ r' ∈ s.buffer,
    r.event.entity = r'.event.entity → r.resource = r'.resource))

/-- What is kept of an ensemble over every store. -/
structure Traced {σ : Type} (v : RowReading σ) (id : TestCaseId) (feeds : Feeds) (e : Ensemble σ) :
    Prop where
  owned : v.Owned e.shared.store id feeds.owners
  member : ∀ k, (e.member k).Traced v e.shared.store id feeds k
  /-- The events of the test case are those of sessions that have ended. -/
  log : ∀ x ∈ v.log e.shared.store, x.testCase = id →
    ∃ k, (e.member k).report ≠ none ∧ ∃ r ∈ (e.member k).session.buffer, v.Says x r.event

namespace Traced

open Ensemble

variable {σ : Type} {v : RowReading σ} {id : TestCaseId} {feeds : Feeds} {e : Ensemble σ}
  {k : ObserverKind}

theorem assemble {w : Shared σ} (hsound : v.sound w.store)
    (hentities : ∀ row ∈ v.entities w.store, row.testCase ≠ id)
    (hlog : ∀ x ∈ v.log w.store, x.testCase ≠ id) : Traced v id feeds (assemble id feeds w) where
  owned := ⟨hsound, fun row hrow hcase => absurd hcase (hentities row hrow)⟩
  member k := Member.Traced.start v w.store id feeds k
  log x hx hcase := absurd hcase (hlog x hx)

/-- The events that are there already are of sessions other than one that has its turn. -/
theorem log_of_put (h : Traced v id feeds e) (hreport : (e.member k).report = none) (m : Member)
    (w : Shared σ) {x : Event} (hx : x ∈ v.log e.shared.store) (hcase : x.testCase = id) :
    ∃ k', ((e.put k m w).member k').report ≠ none ∧
      ∃ r ∈ ((e.put k m w).member k').session.buffer, v.Says x r.event := by
  obtain ⟨k', hended, hstored⟩ := h.log x hx hcase
  have hk : k' ≠ k := by
    rintro rfl
    exact hended hreport
  refine ⟨k', ?_⟩
  rw [member_put_of_ne hk]
  exact ⟨hended, hstored⟩

variable [EventStore σ]

theorem took (hv : v.Lawful) (hadmits : ∀ item ∈ feeds.items k, v.Admits item) (h : Traced v id feeds e)
    (hreport : (e.member k).report = none) {item : Session.Item} {rest : List Session.Item}
    (hfeed : (e.member k).feed = item :: rest) : Traced v id feeds (e.took k item rest) := by
  obtain ⟨henrolls, htraced⟩ := (h.member k).take hv h.owned hadmits hfeed
  refine ⟨henrolls.owned, ?_, ?_⟩
  · exact forall_member_put htraced fun k' => (h.member k').mono henrolls.kept
  · intro x hx hcase
    change x ∈ v.log ((e.member k).session.take e.shared item).2.store at hx
    rw [henrolls.log] at hx
    exact h.log_of_put hreport _ _ hx hcase

theorem finished (hv : v.Lawful) (h : Traced v id feeds e) (hreport : (e.member k).report = none) :
    let left := (e.member k).session.finish .stop e.shared
    Traced v id feeds (e.put k ⟨left.2.1, [], some left.1⟩ left.2.2) := by
  intro left
  obtain ⟨hsession, _, hsaved⟩ := Session.finish_stop_cases (e.member k).session e.shared
  have hsettled := (h.member k).settle (w := e.shared) left.1
  rw [← hsession] at hsettled hsaved
  have hlogged : v.Logged e.shared.store left.2.1.batch left.2.2.store := by
    rcases hsaved with ⟨hsave, _⟩ | ⟨_, hsave, _⟩
    · exact hsettled.save hv h.owned.sound hsave
    · exact hsettled.save hv h.owned.sound hsave
  refine ⟨⟨hlogged.sound, ?_⟩, ?_, ?_⟩
  · exact fun row hrow => h.owned.rows row (hlogged.entities ▸ hrow)
  · exact forall_member_put (hsettled.mono hlogged.kept) fun k' => (h.member k').mono hlogged.kept
  · intro x hx hcase
    rcases hlogged.log x hx with hold | ⟨b, hb, hread⟩
    · exact h.log_of_put hreport _ _ hold hcase
    · obtain ⟨r, hr, rfl⟩ := List.mem_map.mp hb
      refine ⟨k, ?_⟩
      rw [member_put_self]
      exact ⟨nofun, r, hr, hread⟩

theorem step (hv : v.Lawful) (hadmits : ∀ k, ∀ item ∈ feeds.items k, v.Admits item)
    (h : Traced v id feeds e) (k : ObserverKind) : Traced v id feeds (e.step k) := by
  cases hreport : (e.member k).report with
  | some r =>
      rw [step_of_ended hreport]
      exact h
  | none =>
      cases hfeed : (e.member k).feed with
      | cons item rest =>
          rw [step_of_item hreport hfeed]
          exact h.took hv (hadmits k) hreport hfeed
      | nil =>
          rw [step_of_done hreport hfeed]
          exact h.finished hv hreport

theorem run (hv : v.Lawful) (hadmits : ∀ k, ∀ item ∈ feeds.items k, v.Admits item)
    (h : Traced v id feeds e) (schedule : List ObserverKind) : Traced v id feeds (e.run schedule) := by
  induction schedule generalizing e with
  | nil => exact h
  | cons k rest ih => exact ih (h.step hv hadmits k)

/-! ## Stages -/

/-- Sessions record what fires for different names for different entities. -/
theorem resource_eq (hv : v.Lawful) (h : Traced v id feeds e)
    (hone : OneName feeds.owners)
    (hapart : (e.member .attachment).session.Apart) {r r' : Recorded}
    (hr : r ∈ (e.member k).session.buffer) (hr' : r' ∈ (e.member k).session.buffer)
    (hentity : r.event.entity = r'.event.entity) : r.resource = r'.resource := by
  by_cases hk : k = .attachment
  · subst hk
    exact hapart r hr r' hr' hentity
  · have hnamed := (h.member k).named hk
    exact (hnamed.buffered r hr).name_eq hv h.owned.sound hone (hentity ▸ hnamed.buffered r' hr')

/-- What starts a stage of an entity is read with a moment no later than what ends it. -/
theorem timely (hv : v.Lawful) (h : Traced v id feeds e)
    (hone : OneName feeds.owners)
    (hapart : (e.member .attachment).session.Apart) :
    CaseMetrics.Timely (v.log e.shared.store) id := by
  intro stage x hx y hy hxcase hycase hentity hstart hstop
  obtain ⟨k, -, r, hr, hread⟩ := h.log x hx hxcase
  obtain ⟨k', -, r', hr', hread'⟩ := h.log y hy hycase
  obtain ⟨kind, hkind, horderly⟩ := (h.member k).orderly_of_buffer hr
  obtain ⟨kind', hkind', horderly'⟩ := (h.member k').orderly_of_buffer hr'
  have hfired := (h.member k).proper.kept.firing_mem hr
  have hfired' := (h.member k').proper.kept.firing_mem hr'
  replace hstart : r.firing.type = stage.bounds.1 := hread.type.symm.trans hstart
  replace hstop : r'.firing.type = stage.bounds.2 := hread'.type.symm.trans hstop
  -- Both ends of the stage are of one course, so one session fired them.
  obtain rfl := Stage.same_course (hstart ▸ horderly.type_mem hfired) (hstop ▸ horderly'.type_mem hfired')
  obtain rfl := ObserverKind.eq_of_resource hkind hkind'
  have hname := h.resource_eq hv hone hapart hr hr'
    (hread.entity.symm.trans (hentity.trans hread'.entity))
  rw [hread.timestamp, hread'.timestamp]
  exact hv.mono (horderly.stage_le (h.member k).proper.clamped hfired hfired' hname hstart hstop)

end Traced

end StorageLifecycle

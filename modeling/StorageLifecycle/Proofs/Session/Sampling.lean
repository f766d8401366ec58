import Mathlib.Data.List.Forall2
import Mathlib.Data.List.Induction
import StorageLifecycle.Proofs.Session.Clamp
import StorageLifecycle.Proofs.Session.Proper

/-!
# What a session samples

A session that counts takes one sample of each listing. A sample says how many of the pods that were
listed as pods are leaving, ready and neither of these, and the same of claims; what else a listing has
and in which order it has it makes no difference. Taking samples touches nothing that is shared, and at its
end the session saves them and nothing else.
-/

namespace StorageLifecycle

namespace Snapshot

def pod? : Snapshot → Option PodState
  | pod p => some p
  | claim _ | attachment _ => none

def claim? : Snapshot → Option ClaimState
  | claim c => some c
  | pod _ | attachment _ => none

theorem isSome_pod? (s : Snapshot) : s.pod?.isSome = (s.kind == .pod) := by
  cases s <;> rfl

theorem isSome_claim? (s : Snapshot) : s.claim?.isSome = (s.kind == .claim) := by
  cases s <;> rfl

/-- The counts of a kind count the states of that kind, each of them once, and as leaving whatever else it
is. -/
theorem counts_ofKind {α : Type} (k : ResourceKind) (state? : Snapshot → Option α)
    (leaving settled : α → Bool) (hkind : ∀ s, (state? s).isSome = (s.kind == k))
    (hstate : ∀ s a, state? s = some a → s.isLeaving = leaving a ∧ s.isSettled = settled a)
    (l : List Snapshot) :
    countLeaving (ofKind k l) = (l.filterMap state?).countP leaving ∧
      countSettled (ofKind k l) = (l.filterMap state?).countP (fun a => !leaving a && settled a) ∧
      countCreating (ofKind k l) = (l.filterMap state?).countP (fun a => !leaving a && !settled a) ∧
      countCreating (ofKind k l) + countSettled (ofKind k l) + countLeaving (ofKind k l) =
        (l.filterMap state?).length := by
  have hcount : ∀ (test : Snapshot → Bool) (ofState : α → Bool),
      (∀ s a, state? s = some a → test s = ofState a) →
        (ofKind k l).countP test = (l.filterMap state?).countP ofState := by
    intro test ofState hsame
    rw [ofKind, List.countP_filter, List.countP_filterMap]
    refine List.countP_congr fun s _ => ?_
    rw [← hkind]
    cases hs : state? s with
    | none => simp
    | some a => simp [hsame s a hs]
  refine ⟨hcount _ _ fun s a h => (hstate s a h).1, hcount _ _ ?_, hcount _ _ ?_, ?_⟩
  · intro s a h
    rw [(hstate s a h).1, (hstate s a h).2]
  · intro s a h
    rw [(hstate s a h).1, (hstate s a h).2]
  · rw [countCreating_add_countSettled_add_countLeaving, ← List.countP_true, ← List.countP_true]
    exact hcount _ _ fun _ _ _ => rfl

end Snapshot

namespace Session

/-! ## One listing -/

namespace Listing

/-- The pods that are listed as pods. -/
def podStates (l : Listing) : List PodState := l.pods.filterMap Snapshot.pod?

/-- The claims that are listed as claims. -/
def claimStates (l : Listing) : List ClaimState := l.claims.filterMap Snapshot.claim?

/-- The tally counts each pod and each claim once: as leaving if its deletion has been asked for, whatever
else it is, and otherwise by whether it is ready or bound. -/
structure CountedAs (l : Listing) (t : Tally) : Prop where
  podsTerminating : t.podsTerminating = l.podStates.countP fun p => p.deletion.isSome
  podsReady : t.podsReady = l.podStates.countP fun p => !p.deletion.isSome && p.ready
  podsCreating : t.podsCreating = l.podStates.countP fun p => !p.deletion.isSome && !p.ready
  pods : t.podsCreating + t.podsReady + t.podsTerminating = l.podStates.length
  pvcTerminating : t.pvcTerminating = l.claimStates.countP fun c => c.deletion.isSome
  pvcBound : t.pvcBound = l.claimStates.countP fun c => !c.deletion.isSome && c.isBound
  pvcCreating : t.pvcCreating = l.claimStates.countP fun c => !c.deletion.isSome && !c.isBound
  claims : t.pvcCreating + t.pvcBound + t.pvcTerminating = l.claimStates.length

theorem countedAs_ofListings (l : Listing) : l.CountedAs (Tally.ofListings l.pods l.claims) := by
  obtain ⟨hpodsLeaving, hready, hpodsCreating, hpods⟩ := Snapshot.counts_ofKind .pod Snapshot.pod?
    (fun p => p.deletion.isSome) (fun p => p.ready) Snapshot.isSome_pod?
    (by rintro (_ | _ | _) p ⟨⟩; exact ⟨rfl, rfl⟩) l.pods
  obtain ⟨hclaimsLeaving, hbound, hclaimsCreating, hclaims⟩ := Snapshot.counts_ofKind .claim
    Snapshot.claim? (fun c => c.deletion.isSome) (fun c => c.isBound) Snapshot.isSome_claim?
    (by rintro (_ | _ | _) c ⟨⟩; exact ⟨rfl, rfl⟩) l.claims
  exact ⟨hpodsLeaving, hready, hpodsCreating, hpods, hclaimsLeaving, hbound, hclaimsCreating, hclaims⟩

/-- Listings of one moment that list the same pods as pods and the same claims as claims, in any order and
beside whatever else. -/
structure Resembles (l l' : Listing) : Prop where
  observedAt : l.observedAt = l'.observedAt
  pods : l.podStates.Perm l'.podStates
  claims : l.claimStates.Perm l'.claimStates

variable {l l' : Listing} {t t' : Tally}

/-- A listing resembles itself in another order and with resources of other kinds added. -/
theorem resembles_of_perm {pods claims morePods moreClaims : List Snapshot}
    (hpods : pods.Perm (l.pods ++ morePods)) (hnoPods : ∀ s ∈ morePods, s.kind ≠ .pod)
    (hclaims : claims.Perm (l.claims ++ moreClaims)) (hnoClaims : ∀ s ∈ moreClaims, s.kind ≠ .claim) :
    l.Resembles ⟨pods, claims, l.observedAt⟩ := by
  have hnonePod : morePods.filterMap Snapshot.pod? = [] := by
    refine List.filterMap_eq_nil_iff.mpr fun s hs => Option.not_isSome_iff_eq_none.mp ?_
    rw [Snapshot.isSome_pod?, beq_iff_eq]
    exact hnoPods s hs
  have hnoneClaim : moreClaims.filterMap Snapshot.claim? = [] := by
    refine List.filterMap_eq_nil_iff.mpr fun s hs => Option.not_isSome_iff_eq_none.mp ?_
    rw [Snapshot.isSome_claim?, beq_iff_eq]
    exact hnoClaims s hs
  refine ⟨rfl, ?_, ?_⟩
  · have hsame := (hpods.filterMap Snapshot.pod?).symm
    rwa [List.filterMap_append, hnonePod, List.append_nil] at hsame
  · have hsame := (hclaims.filterMap Snapshot.claim?).symm
    rwa [List.filterMap_append, hnoneClaim, List.append_nil] at hsame

theorem Resembles.tally_eq (h : l.Resembles l') (ht : l.CountedAs t) (ht' : l'.CountedAs t') : t = t' := by
  have hpods : ∀ test : PodState → Bool, l.podStates.countP test = l'.podStates.countP test :=
    h.pods.countP_eq
  have hclaims : ∀ test : ClaimState → Bool, l.claimStates.countP test = l'.claimStates.countP test :=
    h.claims.countP_eq
  cases t
  cases t'
  rw [Tally.mk.injEq]
  refine ⟨?_, ?_, ?_, ?_, ?_, ?_⟩
  · exact ht.podsCreating.trans ((hpods _).trans ht'.podsCreating.symm)
  · exact ht.podsReady.trans ((hpods _).trans ht'.podsReady.symm)
  · exact ht.podsTerminating.trans ((hpods _).trans ht'.podsTerminating.symm)
  · exact ht.pvcCreating.trans ((hclaims _).trans ht'.pvcCreating.symm)
  · exact ht.pvcBound.trans ((hclaims _).trans ht'.pvcBound.symm)
  · exact ht.pvcTerminating.trans ((hclaims _).trans ht'.pvcTerminating.symm)

/-- No count exceeds the length of the longer list. -/
theorem CountedAs.lt (h : l.CountedAs t) {bound : Nat} (hpods : l.pods.length < bound)
    (hclaims : l.claims.length < bound) : ∀ n ∈ t.toList, n < bound := by
  have hpodStates : l.podStates.length ≤ l.pods.length := List.length_filterMap_le _ _
  have hclaimStates : l.claimStates.length ≤ l.claims.length := List.length_filterMap_le _ _
  have hallPods := h.pods
  have hallClaims := h.claims
  simp only [Tally.toList, List.forall_mem_cons, List.not_mem_nil, false_implies, implies_true, and_true]
  omega

end Listing

/-! ## A session -/

/-- What becomes of a session that counts when it is fed listings. -/
def sampleAll (id : TestCaseId) (listings : List Listing) : Session :=
  listings.foldl sample (start .count id)

theorem sampleAll_append_singleton (id : TestCaseId) (listings : List Listing) (l : Listing) :
    sampleAll id (listings ++ [l]) = (sampleAll id listings).sample l := List.foldl_append

theorem takeAll_listings {σ : Type} [EventStore σ] (s : Session) (w : Shared σ) (listings : List Listing) :
    s.takeAll w (listings.map .listing) = (listings.foldl sample s, w) := by
  induction listings generalizing s with
  | nil => rfl
  | cons l rest ih => exact ih (s.sample l)

/-- The session holds a sample of each listing, and nothing else. -/
structure Samples (id : TestCaseId) (listings : List Listing) (s : Session) : Prop where
  testCase : s.testCase = id
  buffer : s.buffer = []
  parked : s.parked = .empty
  counts : List.Forall₂ (fun l c => c.testCase = id ∧ l.CountedAs c.tally) listings s.counts
  /-- Stamps are observed moments, so they are of every kind that all of these are. -/
  moments : ∀ dated : Instant → Prop, (∀ l ∈ listings, dated l.observedAt) →
    s.Dated dated ∧ ∀ c ∈ s.counts, dated c.timestamp

variable {id : TestCaseId} {listings others : List Listing} {s : Session}

theorem samples_start (id : TestCaseId) : (start .count id).Samples id [] :=
  ⟨rfl, rfl, rfl, .nil, fun dated _ => ⟨dated_start dated .count id, List.forall_mem_nil _⟩⟩

theorem Samples.sample (h : s.Samples id listings) (l : Listing) :
    (s.sample l).Samples id (listings ++ [l]) := by
  refine ⟨h.testCase, h.buffer, h.parked, ?_, fun dated hdated => ?_⟩
  · exact List.rel_append h.counts (.cons ⟨h.testCase, l.countedAs_ofListings⟩ .nil)
  · obtain ⟨hbefore, hlast⟩ := List.forall_mem_append.mp hdated
    have hl : dated l.observedAt := hlast l (List.mem_singleton.mpr rfl)
    obtain ⟨hguard, hcounts⟩ := h.moments dated hbefore
    exact ⟨hguard.sample hl,
      List.forall_mem_append.mpr ⟨hcounts, List.forall_mem_singleton.mpr (hguard.stampOf hl)⟩⟩

theorem samples_sampleAll (id : TestCaseId) (listings : List Listing) :
    (sampleAll id listings).Samples id listings := by
  induction listings using List.reverseRecOn with
  | nil => exact samples_start id
  | append_singleton listings l ih =>
      rw [sampleAll_append_singleton]
      exact ih.sample l

/-- Listings that resemble each other leave the same session. -/
theorem foldl_sample_eq (h : List.Forall₂ Listing.Resembles listings others) (s : Session) :
    listings.foldl sample s = others.foldl sample s := by
  induction h generalizing s with
  | nil => rfl
  | @cons l l' _ _ hsame _ ih =>
      have hsample : s.sample l = s.sample l' := by
        have htally := hsame.tally_eq l.countedAs_ofListings l'.countedAs_ofListings
        rw [sample, sample, hsame.observedAt, htally]
      rw [List.foldl_cons, List.foldl_cons, hsample]
      exact ih _

/-! ## Its end -/

/-- The end of a session that counts saves its samples and does nothing else to the store. It is clean if
the store accepts them. -/
theorem Samples.finish_saves {σ : Type} [EventStore σ] (h : s.Samples id listings) (w : Shared σ) :
    let saved := (saveUnlessEmpty s.counts EventStore.saveCounts).perform w.store
    (s.finish .stop w).1.isClean = saved.1.isOk ∧ (s.finish .stop w).2.2.store = saved.2 := by
  intro saved
  have hsettled : (s.settle w (s.lastTries w)).1 = s := by
    rw [settle_of_unparked h.parked, h.buffer, inOrder, List.mergeSort_nil, ← h.buffer]
  have hbatch : s.batch = [] := by
    rw [batch, h.buffer]
    rfl
  obtain ⟨-, -, hends⟩ := finish_stop_cases s w
  rw [hsettled, save_of_no_events hbatch] at hends
  rcases hends with ⟨hsaved, hreport⟩ | ⟨e, hsaved, hreport⟩
  · rw [hreport, show saved = _ from hsaved]
    exact ⟨rfl, rfl⟩
  · rw [hreport, show saved = _ from hsaved]
    exact ⟨rfl, rfl⟩

end Session

end StorageLifecycle

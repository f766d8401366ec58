import Mathlib.Data.List.Induction
import StorageLifecycle.Proofs.Session.Dealing
import StorageLifecycle.Proofs.Session.Proper
import StorageLifecycle.Session.Finish
import StorageLifecycle.Store.Memory

/-!
# Stamps and observed moments

Whatever comes to a session, all that fires or is sampled then has one stamp: the moment at which it was
observed, or the latest stamp again if the clock has gone back behind it. So stamps are in order, none is
before the moment that it stands for, and each is that moment as long as the clock does not go back.

A session that watches no attachments records what fires at once. Its buffer is therefore in the order of
the timestamps all along, and a flush moves nothing.
-/

namespace StorageLifecycle.Session

/-- When an item was observed. -/
def Item.observedAt : Item → Instant
  | .notification n => n.observedAt
  | .listing l => l.observedAt

/-- An item of a feed with what is shared when it comes, and the registry at its second lookup. -/
structure Intake (σ : Type) where
  item : Item
  shared : Shared σ
  after : Registry

/-- The moments at which the items of a run were observed. -/
def Intake.moments {σ : Type} (xs : List (Intake σ)) : List Instant := xs.map (·.item.observedAt)

variable {σ : Type} [EventStore σ] {s s' : Session}

/-- The session after an intake. -/
def receive (s : Session) (x : Intake σ) : Session :=
  match x.item with
  | .notification n => (s.handleAmid x.shared x.after n).1
  | .listing l => s.sample l

/-- The session after a run: others may do anything to what is shared between two intakes. -/
def receiveAll (s : Session) (xs : List (Intake σ)) : Session := xs.foldl receive s

theorem receiveAll_append_singleton (s : Session) (xs : List (Intake σ)) (x : Intake σ) :
    s.receiveAll (xs ++ [x]) = (s.receiveAll xs).receive x := List.foldl_append

/-! ## One intake -/

/-- All stamps of a session: those of its firings and those of its samples, each in their order. -/
def stamps (s : Session) : List Instant := s.fired.map (·.moment) ++ s.counts.map (·.timestamp)

/-- After something was observed at a moment these are the further firings and samples, and all of them
have the stamp of the moment. The latest stamp stays if there are none; it may move also then. -/
structure Adds (s : Session) (moment : Instant) (s' : Session) (firings : List Firing)
    (samples : List CountSample) : Prop where
  fired : s'.fired = s.fired ++ firings
  counts : s'.counts = s.counts ++ samples
  stamp : ∀ t ∈ firings.map (·.moment) ++ samples.map (·.timestamp), t = s.stampOf moment
  last : s'.last = some (s.stampOf moment) ∨ s'.last = s.last ∧ firings = [] ∧ samples = []

/-- Notifications leave the samples alone. -/
theorem steady_counts (samples : List CountSample) :
    Steady (fun _ => True) (fun _ => True) fun s => s.counts = samples where
  bare hbare h := (congrArg Session.counts hbare).trans h
  own {s n snapshot o e added} h _ _ _ _ := by
    rw [fire_eq]
    exact h
  retry _ _ _ h _ := (tryResolve_frame (fun _ _ _ => rfl) _ _).trans h
  attach {σ s} w {registry n a volume} h _ _ _ _ := by
    rw [fireAttachment_frame (f := Session.counts) (fun _ _ _ => rfl), fire_eq]
    exact h

theorem receive_adds (s : Session) (x : Intake σ) :
    ∃ firings samples, s.Adds x.item.observedAt (s.receive x) firings samples := by
  obtain ⟨item, w, after⟩ := x
  cases item with
  | listing l =>
      exact ⟨[], [_], (List.append_nil _).symm, rfl, fun _ ht => List.mem_singleton.mp ht, .inl rfl⟩
  | notification n =>
      have hcounts : (s.handleAmid w after n).1.counts = s.counts :=
        (steady_counts s.counts).handleAmid trivial trivial trivial rfl
      rcases guard_handleAmid_cases s w after n with hguard | ⟨name, types, hguard⟩
      · exact ⟨[], [], (congrArg Guard.fired hguard).trans (List.append_nil _).symm,
          hcounts.trans (List.append_nil _).symm, nofun, .inr ⟨congrArg Guard.last hguard, rfl, rfl⟩⟩
      · rw [fire_eq] at hguard
        refine ⟨firingsOf name (s.freshEvents name n.observedAt types), [],
          congrArg Guard.fired hguard, hcounts.trans (List.append_nil _).symm, fun t ht => ?_,
          .inl (congrArg Guard.last hguard)⟩
        rw [List.map_nil, List.append_nil] at ht
        obtain ⟨f, hf, rfl⟩ := List.mem_map.mp ht
        exact moment_of_mem_freshEvents hf

/-! ## Every run -/

/-- The stamps of a session that has observed things at these moments: the latest one is among them, and
the others come up to it in order. -/
structure Punctual (observed : List Instant) (s : Session) : Prop where
  fired : (s.fired.map (·.moment)).Pairwise (· ≤ ·)
  counts : (s.counts.map (·.timestamp)).Pairwise (· ≤ ·)
  le_last : ∀ t ∈ s.stamps, ∃ last, s.last = some last ∧ t ≤ last
  last_mem : ∀ last, s.last = some last → last ∈ observed

theorem punctual_start (kind : ObserverKind) (testCase : TestCaseId) :
    (start kind testCase).Punctual [] :=
  ⟨.nil, .nil, (fun _ h => nomatch h), fun _ h => nomatch h⟩

/-- Moments stay in order if one that is not before any of them is put behind them, as often as need be. -/
theorem pairwise_append_same {old new : List Instant} {t : Instant} (hold : old.Pairwise (· ≤ ·))
    (hle : ∀ a ∈ old, a ≤ t) (hnew : ∀ a ∈ new, a = t) : (old ++ new).Pairwise (· ≤ ·) := by
  refine List.pairwise_append.mpr ⟨hold, ?_, fun a ha b hb => hnew b hb ▸ hle a ha⟩
  refine List.pairwise_of_forall_mem_list fun a ha b hb => ?_
  rw [hnew a ha, hnew b hb]
  exact Int.le_refl _

variable {observed : List Instant} {moment : Instant} {firings : List Firing}
  {samples : List CountSample}

theorem Punctual.stampOf_mem (h : s.Punctual observed) (moment : Instant) :
    s.stampOf moment ∈ observed ++ [moment] := by
  rcases stampOf_cases (s := s) moment with heq | hlast
  · rw [heq]
    exact List.mem_append_right _ (List.mem_singleton.mpr rfl)
  · exact List.mem_append_left _ (h.last_mem _ hlast)

/-- While the clock does not go back, the stamp is the moment. -/
theorem Punctual.stampOf_eq (h : s.Punctual observed)
    (hclock : (observed ++ [moment]).Pairwise (· ≤ ·)) : s.stampOf moment = moment := by
  refine stampOf_eq_self fun last hlast => ?_
  exact (List.pairwise_append.mp hclock).2.2 last (h.last_mem last hlast) moment
    (List.mem_singleton.mpr rfl)

theorem Punctual.adds (h : s.Punctual observed) (hadds : s.Adds moment s' firings samples) :
    s'.Punctual (observed ++ [moment]) := by
  have hbefore : ∀ t ∈ s.stamps, t ≤ s.stampOf moment := by
    intro t ht
    obtain ⟨last, hlast, hle⟩ := h.le_last t ht
    exact Int.le_trans hle (last_le_stampOf hlast moment)
  refine ⟨?_, ?_, ?_, ?_⟩
  · rw [hadds.fired, List.map_append]
    exact pairwise_append_same h.fired (fun t ht => hbefore t (List.mem_append_left _ ht))
      fun t ht => hadds.stamp t (List.mem_append_left _ ht)
  · rw [hadds.counts, List.map_append]
    exact pairwise_append_same h.counts (fun t ht => hbefore t (List.mem_append_right _ ht))
      fun t ht => hadds.stamp t (List.mem_append_right _ ht)
  · rcases hadds.last with hlast | ⟨hlast, rfl, rfl⟩
    · intro t ht
      refine ⟨_, hlast, ?_⟩
      -- A stamp is an earlier one, or one of this intake.
      rw [stamps, hadds.fired, hadds.counts, List.map_append, List.map_append] at ht
      have hcases : t ∈ s.stamps ∨ t ∈ firings.map (·.moment) ++ samples.map (·.timestamp) := by
        simp only [stamps, List.mem_append] at ht ⊢
        tauto
      rcases hcases with hold | hnew
      · exact hbefore t hold
      · rw [hadds.stamp t hnew]
        exact Int.le_refl _
    · rw [stamps, hadds.fired, hadds.counts, hlast, List.append_nil, List.append_nil]
      exact h.le_last
  · intro last hlast
    rcases hadds.last with hnew | ⟨hsame, _, _⟩
    · cases hlast.symm.trans hnew
      exact h.stampOf_mem moment
    · exact List.mem_append_left _ (h.last_mem last (hsame.symm.trans hlast))

theorem punctual_receiveAll (kind : ObserverKind) (testCase : TestCaseId) (xs : List (Intake σ)) :
    ((start kind testCase).receiveAll xs).Punctual (Intake.moments xs) := by
  induction xs using List.reverseRecOn with
  | nil => exact punctual_start kind testCase
  | append_singleton xs x ih =>
      obtain ⟨firings, samples, hadds⟩ := receive_adds ((start kind testCase).receiveAll xs) x
      rw [receiveAll_append_singleton, Intake.moments, List.map_append]
      exact ih.adds hadds

/-! ## What is recorded at once -/

/-- Nothing of what fired is lost, and only attachments are kept waiting: for all else the buffer has what
fired, in the order of firing. -/
structure Prompt (s : Session) : Prop where
  kept : s.Kept
  recorded : s.kind ≠ .attachment → s.recorded = s.fired

theorem steady_prompt : Steady (fun _ => True) (fun _ => True) Prompt where
  bare {s t} hbare h := by
    have hkind : t.kind = s.kind := congrArg (·.kind) hbare
    have hfired : t.fired = s.fired := congrArg (·.fired) hbare
    have hbuffer : t.buffer = s.buffer := congrArg (·.buffer) hbare
    refine ⟨steady_kept.bare hbare h.kept, ?_⟩
    rw [hkind, recorded, hbuffer, hfired]
    exact h.recorded
  own {s n snapshot o e added} h hgot hheed howner hrec := by
    refine ⟨steady_kept.own h.kept hgot hheed howner hrec, fun _ => ?_⟩
    rw [recorded_extend, recorded_fire, hrec.firings, h.recorded (kind_of_heeded_owner hheed howner),
      fire_eq]
    rfl
  retry {_ s} w {registry} name h hseen := by
    refine ⟨steady_kept.retry w name h.kept hseen, ?_⟩
    rcases tryResolve_cases (s := s) (w := w) registry name with ⟨heq, _⟩ | ⟨p, _, _, hp, _, heq, _⟩
    · rw [heq]
      exact h.recorded
    · rw [heq]
      intro hkind
      rw [h.kept.own hkind] at hp
      cases hp
  attach {_ s} w {registry n a volume} h hseen hgot hheed hvolume := by
    refine ⟨steady_kept.attach w h.kept hseen hgot hheed hvolume, fun hkind => ?_⟩
    have hsame := congrArg Guard.kind (guard_fireAttachment (s := s) (w := w) registry a.name volume
      (s.asks n (.attachment a)) n.observedAt)
    rw [fire_eq] at hsame
    exact absurd (hsame.trans (kind_of_heeded_attachment hheed)) hkind

theorem prompt_start (kind : ObserverKind) (testCase : TestCaseId) : (start kind testCase).Prompt :=
  ⟨kept_start kind testCase, fun _ => rfl⟩

theorem Prompt.receive (h : s.Prompt) (x : Intake σ) : (s.receive x).Prompt := by
  obtain ⟨item, w, after⟩ := x
  cases item with
  | listing l => exact ⟨h.kept.sample l, h.recorded⟩
  | notification n => exact steady_prompt.handleAmid trivial trivial trivial h

theorem receive_kind (s : Session) (x : Intake σ) : (s.receive x).kind = s.kind := by
  obtain ⟨item, w, after⟩ := x
  cases item with
  | listing l => rfl
  | notification n => exact handleAmid_kind _ _

theorem prompt_receiveAll (kind : ObserverKind) (testCase : TestCaseId) (xs : List (Intake σ)) :
    ((start kind testCase).receiveAll xs).Prompt ∧ ((start kind testCase).receiveAll xs).kind = kind := by
  induction xs using List.reverseRecOn with
  | nil => exact ⟨prompt_start kind testCase, rfl⟩
  | append_singleton xs x ih =>
      rw [receiveAll_append_singleton]
      exact ⟨ih.1.receive x, (receive_kind _ x).trans ih.2⟩

/-- A flush moves nothing in a buffer that is in order already. -/
theorem flush_of_sorted {w : Shared σ} (hparked : s.parked = .empty)
    (hsorted : s.buffer.Pairwise fun a b => a.event.timestamp ≤ b.event.timestamp) :
    (s.flush w).2.1 = s := by
  have hsame : inOrder s.buffer = s.buffer :=
    List.mergeSort_of_pairwise (hsorted.imp fun hle => decide_eq_true hle)
  rw [flush_eq, (flushTrying_eq _).2.1, settle_of_unparked hparked, hsame]

/-- In every run of a session, whatever becomes of the store and the registry meanwhile and whatever the
clock does: the stamps of the firings are in order, and so are those of the samples. Each is at or after the
moment at which its own item was observed, and is the moment of this item or of an earlier one; if the clock
has not gone back so far it is the moment of its own item. What fired is recorded or waits. Only attachments
wait: all else is in the buffer in the order of firing, which is the order of the timestamps, and a flush
leaves the session as it is. -/
theorem stamps_follow_observations (kind : ObserverKind) (testCase : TestCaseId)
    (xs : List (Intake σ)) :
    let s := (start kind testCase).receiveAll xs
    (s.fired.map (·.moment)).Pairwise (· ≤ ·) ∧ (s.counts.map (·.timestamp)).Pairwise (· ≤ ·) ∧
    (∀ pre x post, xs = pre ++ x :: post →
      let before := (start kind testCase).receiveAll pre
      ∃ firings samples, (before.receive x).fired = before.fired ++ firings ∧
        (before.receive x).counts = before.counts ++ samples ∧
        ∀ t ∈ firings.map (·.moment) ++ samples.map (·.timestamp),
          x.item.observedAt ≤ t ∧ t ∈ Intake.moments (pre ++ [x]) ∧
          ((Intake.moments (pre ++ [x])).Pairwise (· ≤ ·) → t = x.item.observedAt)) ∧
    s.fired.Perm (s.recorded ++ s.waiting) ∧
    (kind ≠ .attachment → s.recorded = s.fired ∧
      (s.buffer.Pairwise fun a b => a.event.timestamp ≤ b.event.timestamp) ∧
      ∀ w : Shared σ, (s.flush w).2.1 = s) := by
  intro s
  have hpunctual := punctual_receiveAll kind testCase xs
  obtain ⟨hprompt, hkind⟩ := prompt_receiveAll kind testCase xs
  refine ⟨hpunctual.fired, hpunctual.counts, ?_, hprompt.kept.fired_perm, ?_⟩
  · rintro pre x post -
    have hbefore := punctual_receiveAll kind testCase pre
    obtain ⟨firings, samples, hadds⟩ := receive_adds ((start kind testCase).receiveAll pre) x
    refine ⟨firings, samples, hadds.fired, hadds.counts, fun t ht => ?_⟩
    rw [Intake.moments, List.map_append, hadds.stamp t ht]
    exact ⟨le_stampOf _, hbefore.stampOf_mem _, hbefore.stampOf_eq⟩
  · intro hown
    have hown' : s.kind ≠ .attachment := hkind.trans_ne hown
    have hrecorded := hprompt.recorded hown'
    have hsorted : s.buffer.Pairwise fun a b => a.event.timestamp ≤ b.event.timestamp := by
      have hmoments := List.pairwise_map.mp hpunctual.fired
      rw [← hrecorded, recorded, List.pairwise_map] at hmoments
      exact hmoments
    exact ⟨hrecorded, hsorted, fun w => flush_of_sorted (hprompt.kept.own hown') hsorted⟩

/-- A claim is shown as bound at a moment, to a session with a store in memory. -/
def boundAt (name : String) (nanos : Int) : Intake MemoryStore :=
  ⟨.notification ⟨.modified, some (.claim ⟨name, name, some "Bound", none, none⟩), ⟨nanos⟩⟩,
    .start .empty, .empty⟩

/-- The clock goes back before the second claim is seen: its events have the stamp of the first one's. -/
theorem stamps_follow_observations_clockBack :
    let xs := [boundAt "data" 5, boundAt "logs" 3, boundAt "tmp" 7]
    let s := (start .claim 1).receiveAll xs
    let before := (start .claim 1).receiveAll [boundAt "data" 5]
    s.fired.map (·.moment) = [⟨5⟩, ⟨5⟩, ⟨5⟩, ⟨5⟩, ⟨7⟩, ⟨7⟩] ∧
    (∃ firings, (before.receive (boundAt "logs" 3)).fired = before.fired ++ firings ∧
      ∀ t ∈ firings.map (·.moment), t ∈ ([⟨5⟩, ⟨3⟩] : List Instant)) ∧
    s.recorded = s.fired ∧ ∀ w : Shared MemoryStore, (s.flush w).2.1 = s := by
  intro xs s before
  obtain ⟨-, -, hadded, -, hown⟩ := stamps_follow_observations .claim 1 xs
  obtain ⟨firings, samples, hfired, -, hstamps⟩ :=
    hadded [boundAt "data" 5] (boundAt "logs" 3) [boundAt "tmp" 7] rfl
  obtain ⟨hrecorded, -, hflush⟩ := hown (by decide)
  exact ⟨by decide +kernel,
    ⟨firings, hfired, fun t ht => (hstamps t (List.mem_append_left _ ht)).2.1⟩, hrecorded, hflush⟩

end StorageLifecycle.Session

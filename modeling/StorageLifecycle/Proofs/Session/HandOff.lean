import Mathlib.Data.List.Dedup
import StorageLifecycle.Proofs.Session.Parking

/-!
# When a claim is published does not matter

An attachment may find its claim at once, at a later notification, or at the end. As long as the
registry only grows toward what it holds at the end, and each attachment keeps its volume, all of
its events are stored for the claim that the registry has then, or none if it has none.
-/

namespace StorageLifecycle

namespace Registry

variable {r r' : Registry} {v : String} {c : Entity}

/-- All that is published in the first registry is published in the second, and is the same. -/
def Within (r r' : Registry) : Prop := ∀ v c, r.lookup v = some c → r'.lookup v = some c

theorem Within.refl (r : Registry) : r.Within r := fun _ _ h => h

theorem Within.trans {r'' : Registry} (h : r.Within r') (h' : r'.Within r'') : r.Within r'' :=
  fun v c hc => h' v c (h v c hc)

theorem lookup_publish (r : Registry) (volume : String) (claim : Entity) (v : String) :
    (r.publish volume claim).lookup v = if v = volume then some claim else r.lookup v :=
  Keyed.find?_insert _ _ _ _

/-- A volume is never published with two entities, in the registry or later. -/
def Agrees (r : Registry) (claims : List (String × Entity)) : Prop :=
  ∀ v c c', (v, c) ∈ claims → (v, c') ∈ claims ∨ r.lookup v = some c' → c = c'

theorem Agrees.publish {claims : List (String × Entity)} {p : String × Entity}
    (h : r.Agrees (p :: claims)) : (r.publish p.1 p.2).Agrees claims := by
  intro v c c' hc hc'
  refine h v c c' (List.mem_cons_of_mem _ hc) ?_
  rw [lookup_publish] at hc'
  rcases hc' with hc' | hc'
  · exact Or.inl (List.mem_cons_of_mem _ hc')
  · split at hc'
    · rename_i hv
      cases hc'
      exact Or.inl (hv ▸ List.mem_cons_self)
    · exact Or.inr hc'

theorem Agrees.within_publish {claims : List (String × Entity)} {p : String × Entity}
    (h : r.Agrees (p :: claims)) : r.Within (r.publish p.1 p.2) := by
  intro v c hc
  rw [lookup_publish]
  split
  · rename_i hv
    subst hv
    exact congrArg some (h p.1 p.2 c List.mem_cons_self (Or.inr hc))
  · exact hc

/-- A registry only grows while claims are published. -/
theorem Agrees.within_publishAll {claims : List (String × Entity)} (h : r.Agrees claims) :
    r.Within (r.publishAll claims) := by
  induction claims generalizing r with
  | nil => exact Within.refl r
  | cons p rest ih => exact h.within_publish.trans (ih h.publish)

theorem Agrees.of_append {xs ys : List (String × Entity)} (h : r.Agrees (xs ++ ys)) :
    (r.publishAll xs).Agrees ys := by
  induction xs generalizing r with
  | nil => exact h
  | cons p rest ih => exact ih h.publish

/-- What a registry holds along the way, it holds at the end. -/
theorem Agrees.within_of_prefix {pre claims : List (String × Entity)} (h : r.Agrees claims)
    (hpre : pre <+: claims) : (r.publishAll pre).Within (r.publishAll claims) := by
  obtain ⟨rest, rfl⟩ := hpre
  rw [Session.publishAll_append]
  exact h.of_append.within_publishAll

end Registry

/-- The volume that a notification brings for an attachment. -/
def Notification.volume? (n : Notification) (name : String) : Option String :=
  match n.object with
  | some (.attachment a) => if a.name = name then a.volume else none
  | _ => none

/-- The volume of an attachment: the first that a notification brings. -/
def volumeOf (ns : List Notification) (name : String) : Option String :=
  ns.findSome? fun n => n.volume? name

/-- An attachment has the same volume in all notifications that bring one. -/
def OneVolume (ns : List Notification) : Prop :=
  ∀ n ∈ ns, ∀ n' ∈ ns, ∀ name v v', n.volume? name = some v → n'.volume? name = some v' → v = v'

/-- The attachment that a notification brings, with its volume. -/
def Notification.mounted? (n : Notification) : Option (String × String) :=
  match n.object with
  | some (.attachment a) => a.volume.map fun v => (a.name, v)
  | _ => none

theorem Notification.mounted?_eq_some {n : Notification} {name v : String} :
    n.mounted? = some (name, v) ↔ n.volume? name = some v := by
  unfold mounted? volume?
  split
  · rename_i a _
    cases ha : a.volume with
    | none => simp
    | some u =>
        rw [Option.map_some, Option.some_inj, Prod.mk.injEq]
        split
        · rename_i hname
          exact (and_iff_right hname).trans Option.some_inj.symm
        · rename_i hname
          exact iff_of_false (fun h => hname h.1) nofun
  · simp

theorem oneVolume_iff {ns : List Notification} : OneVolume ns ↔
    ∀ p ∈ ns.filterMap Notification.mounted?, ∀ q ∈ ns.filterMap Notification.mounted?,
      p.1 = q.1 → p.2 = q.2 := by
  constructor
  · rintro h ⟨name, v⟩ hp ⟨_, v'⟩ hq rfl
    obtain ⟨n, hn, hv⟩ := List.mem_filterMap.mp hp
    obtain ⟨n', hn', hv'⟩ := List.mem_filterMap.mp hq
    exact h n hn n' hn' name v v' (Notification.mounted?_eq_some.mp hv)
      (Notification.mounted?_eq_some.mp hv')
  · intro h n hn n' hn' name v v' hv hv'
    exact h (name, v) (List.mem_filterMap.mpr ⟨n, hn, Notification.mounted?_eq_some.mpr hv⟩)
      (name, v') (List.mem_filterMap.mpr ⟨n', hn', Notification.mounted?_eq_some.mpr hv'⟩) rfl

instance (ns : List Notification) : Decidable (OneVolume ns) :=
  decidable_of_iff _ oneVolume_iff.symm

theorem OneVolume.volumeOf_eq {ns : List Notification} (h : OneVolume ns) {n : Notification}
    (hn : n ∈ ns) {name v : String} (hv : n.volume? name = some v) :
    volumeOf ns name = some v := by
  cases hfound : volumeOf ns name with
  | none =>
      have hnone := List.findSome?_eq_none_iff.mp hfound n hn
      rw [hv] at hnone
      exact nomatch hnone
  | some v' =>
      obtain ⟨n', hn', hv'⟩ := List.exists_of_findSome?_eq_some hfound
      rw [h n hn n' hn' name v v' hv hv']

theorem Notification.volume?_of_attachment {n : Notification} {a : AttachmentState}
    (h : n.object = some (.attachment a)) : n.volume? a.name = a.volume := by
  unfold volume?
  rw [h]
  exact if_pos rfl

namespace Session

variable {σ : Type} {s : Session} {w : Shared σ}

/-- Recorded events are recorded for the claim of the volume of their attachment, and parked ones
wait for that claim. -/
structure HandedOff (volume : String → Option String) (final : Registry) (s : Session) : Prop where
  kind : s.kind = .attachment
  recorded : ∀ r ∈ s.buffer, ∃ v claim, volume r.resource = some v ∧
    final.lookup v = some claim ∧ r.event.entity = claim.id
  parked : ∀ name p, s.parked.find? name = some p → volume name = some p.volume

section

variable {volume : String → Option String} {final : Registry}

/-- Events that are recorded for the claim that the final registry has, too. -/
theorem HandedOff.extend (h : s.HandedOff volume final) {t : Session} {name v : String}
    {claim : Entity} {events : List (EventType × Instant)} {added : List Recorded}
    (hv : volume name = some v) (hclaim : final.lookup v = some claim)
    (hrec : t.Records claim.id (firingsOf name events) added) :
    (s.extend added).HandedOff volume final := by
  refine ⟨h.kind, ?_, h.parked⟩
  intro r hr
  rcases List.mem_append.mp hr with hr | hr
  · exact h.recorded r hr
  · have hname : r.resource = name := by
      have hmem : r.firing ∈ firingsOf name events :=
        hrec.firings ▸ List.mem_map_of_mem hr
      obtain ⟨e, _, he⟩ := List.mem_map.mp hmem
      exact (congrArg Firing.resource he).symm
    exact ⟨v, claim, by rw [hname, hv], hclaim, hrec.entity hr⟩

theorem HandedOff.unpark (h : s.HandedOff volume final) (name : String) :
    (s.unpark name).HandedOff volume final := by
  refine ⟨h.kind, h.recorded, ?_⟩
  intro name' p hp
  rw [find?_unpark] at hp
  split at hp
  · exact nomatch hp
  · exact h.parked name' p hp

theorem HandedOff.fire (h : s.HandedOff volume final) (name : String) (observedAt : Instant)
    (types : List EventType) : (s.fire name observedAt types).HandedOff volume final := by
  rw [fire_eq]
  exact ⟨h.kind, h.recorded, h.parked⟩

theorem HandedOff.parkMore (h : s.HandedOff volume final) {name v : String}
    (hv : volume name = some v) (events : List (EventType × Instant)) :
    (s.parkMore name v events).HandedOff volume final := by
  refine ⟨h.kind, h.recorded, ?_⟩
  intro name' p hp
  rw [find?_parkMore] at hp
  split at hp
  · rename_i hname
    subst hname
    cases hp
    cases hfind : s.parked.find? name' with
    | none => exact hv
    | some q => exact h.parked name' q hfind
  · exact h.parked name' p hp

/-- In a run in which the registry never holds anything that the final one does not hold, and each
attachment keeps its volume. -/
theorem steady_handedOff (volume : String → Option String) (final : Registry) :
    Steady (fun r => r.Within final)
      (fun n => ∀ name v, n.volume? name = some v → volume name = some v)
      (HandedOff volume final) where
  bare {s t} hbare h := by
    have hkind : t.kind = s.kind := congrArg (·.kind) hbare
    have hparked : t.parked = s.parked := congrArg (·.parked) hbare
    have hbuffer : t.buffer = s.buffer := congrArg (·.buffer) hbare
    exact ⟨hkind ▸ h.kind, hbuffer ▸ h.recorded, hparked ▸ h.parked⟩
  own h _ hheed howner _ := absurd h.kind (kind_of_heeded_owner hheed howner)
  retry {_ s} w {registry} name h hseen := by
    rcases tryResolve_cases (s := s) (w := w) registry name with
      ⟨heq, _⟩ | ⟨p, claim, added, hp, hclaim, heq, hrec⟩
    · rw [heq]
      exact h
    · rw [heq]
      exact (h.unpark name).extend (h.parked name p hp) (hseen p.volume claim hclaim) hrec
  attach {_ s} w {registry n a v} h hseen hn hheed hv := by
    have hvolume : volume a.name = some v := by
      refine hn a.name v ?_
      rw [Notification.volume?_of_attachment (heeded_eq_some_iff.mp hheed).1]
      exact hv
    rcases fireAttachment_cases (s := s) (w := w) registry a.name v
      (s.asks n (.attachment a)) n.observedAt with
      ⟨_, heq⟩ | ⟨claim, added, hclaim, _, heq, hrec⟩ | ⟨_, _, heq⟩
    · rw [heq]
      exact h.fire _ _ _
    · rw [heq]
      exact (h.fire _ _ _).extend hvolume (hseen v claim hclaim) hrec
    · rw [heq]
      exact (h.fire _ _ _).parkMore hvolume _

theorem HandedOff.settle (h : s.HandedOff volume final) {tries : List (String × Registry)}
    (hseen : ∀ t ∈ tries, t.2.Within final) : (s.settle w tries).1.HandedOff volume final := by
  have hresolved := (steady_handedOff volume final).resolveAll (w := w) h hseen
  refine ⟨hresolved.kind, ?_, hresolved.parked⟩
  intro r hr
  exact hresolved.recorded r ((inOrder_perm _).mem_iff.mp hr)

end

/-! ## The end of a run -/

/-- The claim of an attachment at the end. -/
def claimOf (volume : String → Option String) (final : Registry) (name : String) : Option Entity :=
  (volume name).bind final.lookup

/-- What is stored for a name: all that fired, for its claim, or nothing if it has none. -/
def outcome (claim : Option Entity) (fired : List Firing) : List (Firing × EntityId) :=
  match claim with
  | some c => fired.map fun f => (f, c.id)
  | none => []

theorem view_mem_bufferOn {name : String} {r : Recorded} (h : r ∈ s.bufferOn name) :
    r ∈ s.buffer ∧ r.resource = name := by
  obtain ⟨hmem, hname⟩ := List.mem_filter.mp h
  exact ⟨hmem, by simpa using hname⟩

section

variable {volume : String → Option String} {final : Registry}

theorem HandedOff.bufferOn_eq_nil (h : s.HandedOff volume final) {name : String}
    (hclaim : claimOf volume final name = none) : s.bufferOn name = [] := by
  refine List.eq_nil_iff_forall_not_mem.mpr fun r hr => ?_
  obtain ⟨hmem, hname⟩ := view_mem_bufferOn hr
  obtain ⟨v, claim, hv, hfinal, _⟩ := h.recorded r hmem
  rw [claimOf, ← hname, hv, Option.bind_some, hfinal] at hclaim
  exact nomatch hclaim

/-- When all that is parked lacks its claim, each name has the outcome that its claim gives. -/
theorem HandedOff.bufferOn_view (h : s.HandedOff volume final) (hk : s.Kept)
    (hlacking : ∀ name p, s.parked.find? name = some p → final.lookup p.volume = none)
    (name : String) :
    (s.bufferOn name).map Recorded.view = outcome (claimOf volume final name) (s.firedOn name) := by
  cases hclaim : claimOf volume final name with
  | none => rw [h.bufferOn_eq_nil hclaim, List.map_nil, outcome]
  | some c =>
      obtain ⟨v, hv, hc⟩ := Option.bind_eq_some_iff.mp hclaim
      -- Its events are not parked any more, since those that are lack their claim.
      have hunparked : s.parked.find? name = none := by
        cases hp : s.parked.find? name with
        | none => rfl
        | some p =>
            have hvolume : some v = some p.volume := hv.symm.trans (h.parked name p hp)
            cases hvolume
            exact absurd (hc.symm.trans (hlacking name p hp)) (by simp)
      have hfired : s.firedOn name = (s.bufferOn name).map Recorded.firing := by
        rw [hk.split name, waitingOn_eq_nil_of_find? hunparked, List.append_nil, recordedOn_eq]
      rw [outcome, hfired, List.map_map]
      refine List.map_congr_left fun r hr => ?_
      obtain ⟨hmem, hname⟩ := view_mem_bufferOn hr
      obtain ⟨v', claim, hv', hfinal, hentity⟩ := h.recorded r hmem
      rw [hname, hv] at hv'
      cases hv'
      rw [hc] at hfinal
      cases hfinal
      exact congrArg (Prod.mk r.firing) hentity

/-- Then exactly those names stay parked for which something fired and which have no claim. -/
theorem HandedOff.mem_keys_iff (h : s.HandedOff volume final) (hk : s.Kept)
    (hlacking : ∀ name p, s.parked.find? name = some p → final.lookup p.volume = none)
    (name : String) :
    name ∈ s.parked.keys ↔ claimOf volume final name = none ∧ s.firedOn name ≠ [] := by
  rw [Keyed.mem_keys_iff]
  constructor
  · rintro ⟨p, hp⟩
    constructor
    · rw [claimOf, h.parked name p hp]
      exact hlacking name p hp
    · rw [hk.split name, waitingOn, hp]
      intro hnil
      have hevents := List.map_eq_nil_iff.mp (List.append_eq_nil_iff.mp hnil).2
      exact hk.nonempty name p hp hevents
  · rintro ⟨hclaim, hfired⟩
    rw [hk.split name, recordedOn_eq, h.bufferOn_eq_nil hclaim, List.map_nil, List.nil_append,
      waitingOn] at hfired
    cases hp : s.parked.find? name with
    | none => rw [hp] at hfired; exact absurd rfl hfired
    | some p => exact ⟨p, rfl⟩

end

/-- After all parked attachments were tried with a registry, those that stay parked lack their claim
in it. -/
theorem lookup_eq_none_of_settled (h : s.Kept) (hc : s.Clamped) {registry : Registry}
    {names : List String} (hnames : names.Perm s.parked.keys) {name : String} {p : Parked}
    (hp : (s.settle w (names.map fun name => (name, registry))).1.parked.find? name = some p) :
    registry.lookup p.volume = none := by
  obtain ⟨_, _, _, hentries, _⟩ := settle_spec (w := w) h hc (names.map fun name => (name, registry))
  have hmem := Keyed.mem_entries_of_find? hp
  rw [hentries] at hmem
  obtain ⟨hparked, hstays⟩ := List.mem_filter.mp hmem
  have hname : name ∈ names := hnames.mem_iff.mpr (List.mem_map.mpr ⟨(name, p), hparked, rfl⟩)
  have hall := List.all_eq_true.mp hstays (name, registry) (List.mem_map.mpr ⟨name, hname, rfl⟩)
  simpa using hall

theorem views_filter (s : Session) (name : String) :
    ((s.buffer.map Recorded.view).filter fun v => v.1.resource == name) =
      (s.bufferOn name).map Recorded.view := by
  rw [List.filter_map]
  rfl

/-- Views that agree for each name are the same up to their order. -/
theorem views_perm {s t : Session}
    (h : ∀ name, (s.bufferOn name).map Recorded.view = (t.bufferOn name).map Recorded.view) :
    (s.buffer.map Recorded.view).Perm (t.buffer.map Recorded.view) := by
  refine perm_of_filter_eq (fun v : Firing × EntityId => v.1.resource) fun name => ?_
  rw [views_filter, views_filter]
  exact h name

/-! ## Whole runs -/

/-- A run in which the registry only grew toward the final one ends with the outcomes that the final
registry gives, whatever it held on the way. -/
theorem settled_of_runAmid [EventStore σ] (testCase : TestCaseId) {turns : List (Turn σ)}
    {volume : String → Option String} {final : Registry} (w : Shared σ) {names : List String}
    (hturns : ∀ t ∈ turns, t.shared.registry.Within final ∧ t.after.Within final ∧
      ∀ name v, t.notification.volume? name = some v → volume name = some v)
    (hnames : names.Perm ((start .attachment testCase).runAmid turns).parked.keys) :
    let fired := ((start .attachment testCase).advanceAll (turns.map (·.notification))).fired
    let s' := (((start .attachment testCase).runAmid turns).settle w
      (names.map fun name => (name, final))).1
    s'.fired = fired ∧ s'.parked.keys.Nodup ∧
    (∀ name, (s'.bufferOn name).map Recorded.view =
      outcome (claimOf volume final name) (Firing.on name fired)) ∧
    ∀ name, name ∈ s'.parked.keys ↔
      claimOf volume final name = none ∧ Firing.on name fired ≠ [] := by
  intro fired s'
  have hkept := kept_runAmid .attachment testCase turns
  have hclamped := clamped_runAmid .attachment testCase turns
  have hhanded : ((start .attachment testCase).runAmid turns).HandedOff volume final :=
    (steady_handedOff volume final).runAmid hturns
      ⟨rfl, (fun _ h => nomatch h), (fun _ _ h => nomatch h)⟩
  obtain ⟨hkept', hguard, _, _, _⟩ :=
    settle_spec (w := w) hkept hclamped (names.map fun name => (name, final))
  -- All parked attachments are tried with the final registry itself.
  have hhanded' : s'.HandedOff volume final := by
    refine hhanded.settle fun t ht => ?_
    obtain ⟨_, _, rfl⟩ := List.mem_map.mp ht
    exact Registry.Within.refl final
  have hfired : s'.fired = fired :=
    (congrArg Guard.fired hguard).trans (congrArg Guard.fired (guard_runAmid_of_attachment turns rfl))
  have hlacking : ∀ name p, s'.parked.find? name = some p → final.lookup p.volume = none :=
    fun name p hp => lookup_eq_none_of_settled hkept hclamped hnames hp
  refine ⟨hfired, hkept'.lawful, ?_, ?_⟩
  · intro name
    rw [← hfired]
    exact hhanded'.bufferOn_view hkept' hlacking name
  · intro name
    rw [← hfired]
    exact hhanded'.mem_keys_iff hkept' hlacking name

end Session

end StorageLifecycle

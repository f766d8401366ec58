import StorageLifecycle.Proofs.Session.Operations

/-!
# The names of events

The name of an event is made of its type and of the first eight of the thirty-two digits of an identifier.
Two names are the same exactly if the types are and these digits are; the other twenty-four do not count.
A session records each event under a name that is made with the next identifier of the supply, whatever it
handles, and no identifier is used for two events.
-/

namespace StorageLifecycle

/-! ## When two names are the same -/

namespace Uuid

/-- The first eight of the thirty-two hexadecimal digits. -/
def leading (u : Uuid) : BitVec 32 := u.extractLsb' 96 32

theorem hexDigit_injective : ∀ a < 16, ∀ b < 16, hexDigit a = hexDigit b → a = b := by decide

/-- The digits of the suffix are those of the leading part. -/
theorem digit_eq (u : Uuid) {i : Nat} (hi : i < 8) :
    u.toNat / Word.bound (4 * (31 - i)) % 16 = u.leading.toNat / Word.bound (4 * (7 - i)) % 16 := by
  have hbound : u.leading.toNat = u.toNat / 2 ^ 96 := by
    rw [leading, BitVec.extractLsb'_toNat, Nat.shiftRight_eq_div_pow]
    have hu := u.isLt
    omega
  have hpow : Word.bound (4 * (31 - i)) = 2 ^ 96 * Word.bound (4 * (7 - i)) := by
    show 2 ^ (4 * (31 - i)) = 2 ^ 96 * 2 ^ (4 * (7 - i))
    rw [← Nat.pow_add]
    exact congrArg (Nat.pow 2) (by omega)
  rw [hbound, hpow, Nat.div_div_eq_div_mul]

/-- A number has no more digits than its bound lets it have, so its digits make it up. -/
theorem eq_of_digits {n a b : Nat} (ha : a < Word.bound (4 * n)) (hb : b < Word.bound (4 * n))
    (hdigits : ∀ k < n, a / Word.bound (4 * k) % 16 = b / Word.bound (4 * k) % 16) : a = b := by
  induction n generalizing a b with
  | zero =>
      have hone : Word.bound (4 * 0) = 1 := rfl
      omega
  | succ n ih =>
      have hbound : ∀ k, Word.bound (4 * (k + 1)) = 16 * Word.bound (4 * k) := by
        intro k
        show 2 ^ (4 * k + 4) = 16 * 2 ^ (4 * k)
        rw [Nat.pow_add, Nat.mul_comm]
      rw [hbound] at ha hb
      have hrest : a / 16 = b / 16 := by
        refine ih (by omega) (by omega) fun k hk => ?_
        have hdigit := hdigits (k + 1) (Nat.succ_lt_succ hk)
        rwa [hbound, ← Nat.div_div_eq_div_mul, ← Nat.div_div_eq_div_mul] at hdigit
      have hlast : a % 16 = b % 16 := by
        have hdigit := hdigits 0 (Nat.succ_pos n)
        rwa [show Word.bound (4 * 0) = 1 from rfl, Nat.div_one, Nat.div_one] at hdigit
      omega

theorem suffix_eq_iff {u v : Uuid} : u.suffix = v.suffix ↔ u.leading = v.leading := by
  constructor
  · intro h
    refine BitVec.eq_of_toNat_eq (eq_of_digits (n := 8) u.leading.isLt v.leading.isLt fun k hk => ?_)
    have hi : 7 - k < 8 := by omega
    have hplace : 7 - (7 - k) = k := by omega
    have hchars := List.map_inj_left.mp (String.ofList_injective h) (7 - k) (List.mem_range.mpr hi)
    rw [digit_eq u hi, digit_eq v hi, hplace] at hchars
    exact hexDigit_injective _ (Nat.mod_lt _ (by decide)) _ (Nat.mod_lt _ (by decide)) hchars
  · intro h
    refine congrArg String.ofList (List.map_congr_left fun i hi => ?_)
    rw [digit_eq u (List.mem_range.mp hi), digit_eq v (List.mem_range.mp hi), h]

theorem length_suffix (u : Uuid) : u.suffix.toList.length = 8 := by
  rw [suffix, String.toList_ofList, List.length_map, List.length_range]

end Uuid

theorem EventType.slug_injective {t t' : EventType} (h : t.slug = t'.slug) : t = t' := by
  have hall : ∀ t ∈ all, ∀ t' ∈ all, t.slug = t'.slug → t = t' := by decide +kernel
  exact hall t t.mem_all t' t'.mem_all h

/-- Two names are the same exactly if the types are and the first eight digits of the identifiers are. -/
theorem Event.nameFor_eq_iff {t t' : EventType} {u u' : Uuid} :
    nameFor t u = nameFor t' u' ↔ t = t' ∧ u.leading = u'.leading := by
  rw [← Uuid.suffix_eq_iff]
  constructor
  · intro h
    have hlists := congrArg String.toList h
    simp only [nameFor, String.toList_append] at hlists
    -- the suffixes are of one length, so that a slug that is longer does not make up for it
    obtain ⟨hfront, hsuffix⟩ := List.append_inj' hlists (u.length_suffix.trans u'.length_suffix.symm)
    have hslug := List.append_cancel_left (List.append_cancel_right hfront)
    exact ⟨EventType.slug_injective (String.toList_injective hslug), String.toList_injective hsuffix⟩
  · rintro ⟨rfl, hsuffix⟩
    rw [nameFor, nameFor, hsuffix]

/-! ## Names and draws -/

/-- A name that a supply gives out: of which type its event is, and with which draw it is made. -/
structure Coin where
  type : EventType
  draw : Nat
deriving DecidableEq, Repr

namespace Coin

def name (draws : Nat → Uuid) (k : Coin) : String := Event.nameFor k.type (draws k.draw)

/-- Different draws make the same name. -/
def Clashes (draws : Nat → Uuid) (a b : Coin) : Prop :=
  a.draw ≠ b.draw ∧ a.type = b.type ∧ (draws a.draw).leading = (draws b.draw).leading

theorem clashes_iff {draws : Nat → Uuid} {a b : Coin} :
    a.Clashes draws b ↔ a.draw ≠ b.draw ∧ a.name draws = b.name draws :=
  and_congr_right fun _ => Event.nameFor_eq_iff.symm

end Coin

/-- Events were recorded behind others, each under a name that was made with the next draw of a supply. -/
def Mints (buffer : List Recorded) (supply : Supply) (buffer' : List Recorded) (supply' : Supply) :
    Prop :=
  ∃ (added : List Recorded) (coins : List Coin), buffer' = buffer ++ added ∧
    added.map (·.event.name) = coins.map (Coin.name supply.draws) ∧
    coins.map Coin.draw = List.range' supply.drawn coins.length ∧
    supply' = { supply with drawn := supply.drawn + coins.length }

namespace Mints

variable {b b' b'' : List Recorded} {u u' u'' : Supply}

theorem refl (b : List Recorded) (u : Supply) : Mints b u b u :=
  ⟨[], [], (List.append_nil b).symm, rfl, rfl, rfl⟩

theorem trans (h : Mints b u b' u') (h' : Mints b' u' b'' u'') : Mints b u b'' u'' := by
  obtain ⟨added, coins, rfl, hnames, hdraws, rfl⟩ := h
  obtain ⟨added', coins', rfl, hnames', hdraws', rfl⟩ := h'
  refine ⟨added ++ added', coins ++ coins', List.append_assoc .., ?_, ?_, ?_⟩
  · rw [List.map_append, List.map_append, hnames, hnames']
  · rw [List.map_append, hdraws, hdraws', List.length_append, List.range'_append_1]
  · rw [List.length_append, Nat.add_assoc]

end Mints

namespace Session

variable {σ : Type} {s : Session} {w : Shared σ}

/-- What came of a session recorded events under new names. -/
def Mints (s : Session) (w : Shared σ) (after : Session × Shared σ) : Prop :=
  StorageLifecycle.Mints s.buffer w.supply after.1.buffer after.2.supply

theorem record_mints (name : String) (type : EventType) (entity : EntityId) (stamp : Instant) :
    s.Mints w (s.record w name type entity stamp) :=
  ⟨_, [⟨type, w.supply.drawn⟩], rfl, rfl, rfl, rfl⟩

theorem recordAll_mints (name : String) (entity : EntityId) (events : List (EventType × Instant)) :
    s.Mints w (s.recordAll w name entity events) := by
  induction events generalizing s w with
  | nil => exact .refl _ _
  | cons e rest ih => exact (record_mints name e.1 entity e.2).trans ih

theorem tryResolve_mints (registry : Registry) (name : String) :
    s.Mints w (s.tryResolve w registry name) := by
  unfold tryResolve
  split
  · exact .refl _ _
  · split
    · exact .refl _ _
    · exact recordAll_mints _ _ _

theorem fireAttachment_mints (registry : Registry) (name volume : String) (types : List EventType)
    (observedAt : Instant) :
    s.Mints w (s.fireAttachment w registry name volume types observedAt) := by
  have hmarked : ∀ (fresh : List EventType) (stamp : Instant),
      ((s.stamped stamp).markAll name stamp fresh).buffer = s.buffer := by
    intro fresh stamp
    rw [markAll_eq]
    rfl
  unfold fireAttachment
  dsimp only
  split
  · unfold Mints
    rw [hmarked]
    exact .refl _ _
  · split
    · split
      · unfold Mints park
        rw [hmarked]
        exact .refl _ _
      · have hrecorded := recordAll_mints (s := (s.stamped (s.stampOf observedAt)).markAll name
          (s.stampOf observedAt) (types.filter fun t => !s.hasFired name t)) (w := w) name
        unfold Mints at hrecorded ⊢
        rw [hmarked] at hrecorded
        exact hrecorded _ _
    · unfold Mints park
      rw [hmarked]
      exact .refl _ _

theorem handOff_supply (o : Owner) (e : Entity) (type : EventType) :
    (handOff w o e type).supply = w.supply := by
  unfold handOff
  split
  · split <;> rfl
  · rfl

theorem fireOwn_mints (o : Owner) (e : Entity) (stamp : Instant) (type : EventType) :
    s.Mints w (s.fireOwn w o e stamp type) := by
  unfold fireOwn
  split
  · exact .refl _ _
  · unfold Mints
    dsimp only
    rw [handOff_supply]
    exact record_mints (s := s.mark o.name type stamp) o.name type e.id stamp

theorem fireAllOwn_mints (o : Owner) (e : Entity) (stamp : Instant) (types : List EventType) :
    s.Mints w (s.fireAllOwn w o e stamp types) := by
  induction types generalizing s w with
  | nil => exact .refl _ _
  | cons type rest ih => exact (fireOwn_mints o e stamp type).trans ih

section

variable [EventStore σ]

theorem applyOwn_mints (o : Owner) (types : List EventType) (observedAt : Instant) :
    s.Mints w (s.applyOwn w o types observedAt) := by
  have hensure : s.Mints w (s.ensureEntity w o).2 := by
    unfold ensureEntity
    split
    · exact .refl _ _
    · dsimp only
      split <;> exact .refl _ _
  unfold applyOwn
  split
  · exact .refl _ _
  · generalize s.ensureEntity w o = ensured at hensure ⊢
    obtain ⟨e, t, v⟩ := ensured
    cases e with
    | none => exact hensure
    | some e => exact hensure.trans (fireAllOwn_mints (s := t.stamped (t.stampOf observedAt)) o e _ types)

/-- Whatever a session is told, each event that it records has a name of its own draw. -/
theorem handleAmid_mints (after : Registry) (n : Notification) :
    s.Mints w (s.handleAmid w after n) := by
  unfold handleAmid
  dsimp only
  split
  · exact .refl _ _
  · split
    · exact .refl _ _
    · split
      · exact .refl _ _
      · split
        · exact .refl _ _
        · unfold applySnapshot
          dsimp only
          split
          · exact applyOwn_mints (s := s.countHandled) _ _ _
          · exact applyOwn_mints (s := s.countHandled) _ _ _
          · split
            · exact (tryResolve_mints (s := s.countHandled) _ _).trans (fireAttachment_mints _ _ _ _ _)
            · exact .refl _ _

theorem take_mints (item : Item) : s.Mints w (s.take w item) := by
  cases item with
  | notification n => exact handleAmid_mints _ n
  | listing l => exact .refl _ _

end

theorem resolveAll_mints (tries : List (String × Registry)) : s.Mints w (s.resolveAll w tries) := by
  induction tries generalizing s w with
  | nil => exact .refl _ _
  | cons t rest ih => exact (tryResolve_mints t.2 t.1).trans ih

end Session

end StorageLifecycle

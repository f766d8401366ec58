import Mathlib.Algebra.Ring.Nat
import StorageLifecycle.Proofs.Cluster.Resumption

/-!
# How long a watch waits, and for how long it asks

The state from which a watch is resumed counts the failures in a row, and the wait before the next window
doubles with each of them. It is worked out in words: the count has 32 bits, the doublings are a shift that
stops after sixteen, and the product is cut to the longest time. The wait is still the one that is worked out
in whole numbers without bounds, for its own limit is reached first. The seconds of the next window are a word,
too, into which the seconds that are left always fit.
-/

namespace StorageLifecycle

/-! ## Failures in a row -/

/-- How many failures came since the last object or bookmark: events of errors, and breaks of the stream. -/
def streak (items : List StreamItem) : Nat := (items.reverse.takeWhile fun i => !i.isProgress).length

theorem streak_append_singleton (items : List StreamItem) (i : StreamItem) :
    streak (items ++ [i]) = if i.isProgress then 0 else streak items + 1 := by
  unfold streak
  rw [List.reverse_append, List.reverse_singleton, List.singleton_append, List.takeWhile_cons]
  cases i.isProgress <;> rfl

namespace Resume

theorem failures_take (r : Resume) (i : StreamItem) :
    (r.take i).failures = if i.isProgress then 0 else r.failures + 1 := by
  cases i with
  | failure _ => rfl
  | event e => cases e <;> rfl

/-- The word that is kept while the items come counts the failures in a row. -/
theorem failures_takeAll (items : List StreamItem) :
    (start.takeAll items).failures = UInt32.ofNat (streak items) := by
  induction items using List.reverseRecOn with
  | nil => rfl
  | append_singleton items i ih =>
      have hlast : (start.takeAll (items ++ [i])).failures = ((start.takeAll items).take i).failures := by
        rw [takeAll_append]
        rfl
      rw [hlast, failures_take, ih, streak_append_singleton]
      split
      · rfl
      · exact (UInt32.ofNat_add _ _).symm

theorem toNat_failures_takeAll {items : List StreamItem} (h : streak items < 2 ^ 32) :
    (start.takeAll items).failures.toNat = streak items := by
  rw [failures_takeAll]
  exact UInt32.toNat_ofNat_of_lt' h

/-! ## The wait -/

/-- The wait after so many failures in a row, in whole numbers without bounds: a quarter of a second, twice as
much with each further failure, but not more than half a minute and than what is left. -/
def exactWait (millisecond failures remaining : Nat) : Nat :=
  if failures = 0 then 0
  else min (min (250 * millisecond * 2 ^ (failures - 1)) (30000 * millisecond)) remaining

/-- More failures and more time make no wait shorter. -/
theorem exactWait_mono (millisecond : Nat) {failures failures' remaining remaining' : Nat}
    (hfailures : failures ≤ failures') (hremaining : remaining ≤ remaining') :
    exactWait millisecond failures remaining ≤ exactWait millisecond failures' remaining' := by
  unfold exactWait
  by_cases hzero : failures = 0
  · rw [if_pos hzero]
    exact Nat.zero_le _
  rw [if_neg hzero, if_neg (by omega)]
  have hpow : 2 ^ (failures - 1) ≤ 2 ^ (failures' - 1) :=
    Nat.pow_le_pow_right (by decide) (Nat.sub_le_sub_right hfailures 1)
  have hdoubled := Nat.mul_le_mul_left (250 * millisecond) hpow
  omega

/-- Times in a finer unit make the same wait in this unit. -/
theorem exactWait_mul (n millisecond failures remaining : Nat) :
    exactWait (n * millisecond) failures (n * remaining) = n * exactWait millisecond failures remaining := by
  unfold exactWait
  split
  · rfl
  · rw [Nat.mul_left_comm 250, Nat.mul_assoc n, Nat.mul_left_comm 30000, Nat.mul_min_mul_left,
      Nat.mul_min_mul_left]

variable {r : Resume}

/-- A shift that stays in the word is a power of two. -/
theorem toNat_one_shiftLeft {k : UInt32} (h : k.toNat < 32) : (1 <<< k : UInt32).toNat = 2 ^ k.toNat := by
  rw [UInt32.toNat_shiftLeft, Nat.mod_eq_of_lt h, Nat.shiftLeft_eq, UInt32.toNat_one, Nat.one_mul]
  exact Nat.mod_eq_of_lt (Nat.pow_lt_pow_right (by decide) h)

theorem toNat_factor (h : r.failures.toNat ≠ 0) :
    r.factor.toNat = 2 ^ min (r.failures.toNat - 1) 16 := by
  have hone : 1 ≤ r.failures := UInt32.le_iff_toNat_le.mpr (Nat.one_le_iff_ne_zero.mpr h)
  have hamount : (min (r.failures - 1) 16).toNat = min (r.failures.toNat - 1) 16 := by
    rw [UInt32.toNat_min, UInt32.toNat_sub_of_le _ _ hone]
    rfl
  rw [← hamount]
  exact toNat_one_shiftLeft (by omega)

/-- The product is never cut. -/
theorem multiple_factor (h : r.failures.toNat ≠ 0) :
    multiple backoffBase r.factor = backoffBase * r.factor.toNat := by
  refine Nat.min_eq_left ?_
  have hfactor : r.factor.toNat ≤ 2 ^ 16 := by
    rw [toNat_factor h]
    exact Nat.pow_le_pow_right (by decide) (Nat.min_le_right _ _)
  calc backoffBase * r.factor.toNat ≤ backoffBase * 2 ^ 16 := Nat.mul_le_mul_left _ hfactor
    _ ≤ longest := by decide

/-- An exponent may be cut where the product has come to its greatest value. -/
theorem min_mul_pow_min {base most bound : Nat} (h : most ≤ base * 2 ^ bound) (n : Nat) :
    min (base * 2 ^ min n bound) most = min (base * 2 ^ n) most := by
  rcases Nat.le_total n bound with hle | hle
  · rw [Nat.min_eq_left hle]
  · rw [Nat.min_eq_right hle, Nat.min_eq_right h, Nat.min_eq_right]
    exact Nat.le_trans h (Nat.mul_le_mul_left _ (Nat.pow_le_pow_right (by decide) hle))

/-- The wait is the exact one. -/
theorem backoff_eq (r : Resume) (remaining : Nat) :
    r.backoff remaining = exactWait Tick.nanos r.failures.toNat remaining := by
  unfold backoff exactWait
  by_cases hzero : r.failures.toNat = 0
  · rw [if_pos hzero, if_pos (UInt32.toNat_inj.mp hzero)]
  · have hword : r.failures ≠ 0 := fun h => hzero (congrArg UInt32.toNat h)
    rw [if_neg hzero, if_neg hword, multiple_factor hzero, toNat_factor hzero]
    -- sixteen doublings of the first wait exceed the longest wait already
    exact congrArg (min · remaining) (min_mul_pow_min (by decide) _)

theorem backoff_mono {r' : Resume} {remaining remaining' : Nat} (hfailures : r.failures ≤ r'.failures)
    (hremaining : remaining ≤ remaining') : r.backoff remaining ≤ r'.backoff remaining' := by
  rw [backoff_eq, backoff_eq]
  exact exactWait_mono _ (UInt32.le_iff_toNat_le.mp hfailures) hremaining

/-- What a state waits after so many failures in a row. -/
structure WaitsAfter (failures : Nat) (r : Resume) : Prop where
  count : r.failures.toNat = failures
  /-- The shift stays in its word. -/
  factor : failures ≠ 0 → r.factor.toNat = 2 ^ min (failures - 1) 16
  /-- The product is not cut. -/
  product : failures ≠ 0 → multiple backoffBase r.factor = 250000000 * r.factor.toNat
  backoff : ∀ remaining, r.backoff remaining = exactWait 1000000 failures remaining

theorem waitsAfter_toNat_failures (r : Resume) : r.WaitsAfter r.failures.toNat :=
  ⟨rfl, toNat_factor, multiple_factor, backoff_eq r⟩

/-! ## The seconds of a window -/

/-- The word holds the seconds that are meant. -/
theorem toNat_windowSecs (remaining : Nat) :
    (windowSecs remaining).toNat = min 290 (max 1 (remaining / 1000000000)) := by
  have hmost : max 1 (min (remaining / 1000000000) 290) = min 290 (max 1 (remaining / 1000000000)) := by
    omega
  have hword : min 290 (max 1 (remaining / 1000000000)) < UInt32.size :=
    Nat.lt_of_le_of_lt (Nat.min_le_left _ _) (by decide)
  show (UInt32.ofNat (max 1 (min (remaining / 1000000000) 290))).toNat = _
  rw [hmost]
  exact UInt32.toNat_ofNat_of_lt' hword

theorem nextWindow_of_le {deadline now : Nat} (h : deadline ≤ now) : nextWindow deadline now = none :=
  if_pos (Nat.sub_eq_zero_of_le h)

theorem nextWindow_of_lt {deadline now : Nat} (h : now < deadline) :
    nextWindow deadline now = some (windowSecs (deadline - now)) :=
  if_neg (Nat.sub_ne_zero_of_lt h)

/-- A window is the one to ask for at a moment: none from the deadline on, and before it the whole seconds that
are left, from one to 290. -/
structure IsDue (deadline now : Nat) (window : Option UInt32) : Prop where
  none_iff : window = none ↔ deadline ≤ now
  range : ∀ secs ∈ window, 1 ≤ secs.toNat ∧ secs.toNat ≤ 290
  secs : ∀ secs ∈ window, secs.toNat = min 290 (max 1 ((deadline - now) / 1000000000))

theorem isDue_nextWindow (deadline now : Nat) : IsDue deadline now (nextWindow deadline now) := by
  rcases Nat.lt_or_ge now deadline with hlt | hle
  · rw [nextWindow_of_lt hlt]
    have hsecs := toNat_windowSecs (deadline - now)
    constructor
    · simp [hlt]
    · rintro secs ⟨⟩
      omega
    · rintro secs ⟨⟩
      exact hsecs
  · rw [nextWindow_of_le hle]
    constructor
    · simp [hle]
    · simp
    · simp

end Resume

end StorageLifecycle

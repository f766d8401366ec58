import Mathlib.Data.List.Basic
import StorageLifecycle.Metrics.Statistics

/-!
# What the statistics of durations say

Floating-point addition is not associative, so the mean of the same numbers in another order may be
another number. The seconds are sorted before they are added up, by an order in which two numbers at
one place have the same bits: a list has one sorted form then, and the statistics depend on how often
each duration occurs and on nothing else. Equality of statistics is equality of all bits here, so the
two zeros differ.
-/

namespace StorageLifecycle

namespace DurationStats

/-! ## The total order -/

/-- What the bits of a number are inverted by: all but the sign where the sign is set. -/
theorem getLsbD_mask (bits : BitVec 64) (i : Nat) :
    ((bits.sshiftRight 63) >>> 1).getLsbD i = (decide (i < 63) && bits.msb) := by
  rw [BitVec.getLsbD_ushiftRight, BitVec.getLsbD_sshiftRight, BitVec.msb_eq_getLsbD_last]
  grind

/-- Numbers at the same place have the same bits. -/
theorem place_injective {x y : Float} (h : place x = place y) : x = y := by
  have hinverted := BitVec.eq_of_toInt_eq h
  have hbit : ∀ i, (x.toBits.toBitVec.getLsbD i ^^ (decide (i < 63) && x.toBits.toBitVec.msb)) =
      (y.toBits.toBitVec.getLsbD i ^^ (decide (i < 63) && y.toBits.toBitVec.msb)) := by
    intro i
    rw [← getLsbD_mask, ← getLsbD_mask, ← BitVec.getLsbD_xor, ← BitVec.getLsbD_xor, hinverted]
  -- the sign is not inverted, so it is the same, and with it what the other bits are inverted by
  have hsign : x.toBits.toBitVec.msb = y.toBits.toBitVec.msb := by
    simpa [BitVec.msb_eq_getLsbD_last] using hbit 63
  have hbits : x.toBits.toBitVec = y.toBits.toBitVec := by
    refine BitVec.eq_of_getLsbD_eq fun i _ => ?_
    have hi := hbit i
    rw [hsign] at hi
    exact Bool.xor_left_inj.mp hi
  obtain ⟨⟨bitsx, validx⟩⟩ := x
  obtain ⟨⟨bitsy, validy⟩⟩ := y
  obtain rfl : bitsx = bitsy := UInt64.toBitVec_inj.mp hbits
  rfl

theorem precedes_trans (x y z : Float) (hxy : precedes x y) (hyz : precedes y z) : precedes x z :=
  decide_eq_true (Int.le_trans (of_decide_eq_true hxy) (of_decide_eq_true hyz))

theorem precedes_total (x y : Float) : (precedes x y || precedes y x) = true := by
  rw [Bool.or_eq_true]
  exact (Int.le_total (place x) (place y)).imp decide_eq_true decide_eq_true

theorem precedes_refl (x : Float) : precedes x x := decide_eq_true (Int.le_refl _)

theorem precedes_antisymm {x y : Float} (hxy : precedes x y) (hyx : precedes y x) : x = y :=
  place_injective (Int.le_antisymm (of_decide_eq_true hxy) (of_decide_eq_true hyx))

/-! ## The sorted seconds -/

/-- The seconds of a duration, as the statistics take them. -/
def seconds (d : Interval) : Float := toSeconds (clippedMicros d)

theorem ranked_perm (samples : List Interval) : (ranked samples).Perm ((counted samples).map seconds) :=
  List.mergeSort_perm _ _

theorem ranked_sorted (samples : List Interval) : (ranked samples).Pairwise fun x y => precedes x y :=
  List.pairwise_mergeSort precedes_trans precedes_total _

theorem length_ranked (samples : List Interval) : (ranked samples).length = (counted samples).length := by
  rw [(ranked_perm samples).length_eq, List.length_map]

/-- The sorted seconds depend only on how often each duration that counts occurs. -/
theorem ranked_eq_of_perm {a b : List Interval} (h : (counted a).Perm (counted b)) :
    ranked a = ranked b := by
  refine List.Perm.eq_of_pairwise ?_ (ranked_sorted a) (ranked_sorted b) ?_
  · exact fun x y _ _ hxy hyx => precedes_antisymm hxy hyx
  · exact (ranked_perm a).trans ((h.map seconds).trans (ranked_perm b).symm)

theorem counted_perm {a b : List Interval} (h : a.Perm b) : (counted a).Perm (counted b) := h.filter _

/-- The statistics of durations do not depend on their order. -/
theorem ofSamples_eq_of_perm {a b : List Interval} (h : a.Perm b) : ofSamples a = ofSamples b :=
  congrArg ofRanked (ranked_eq_of_perm (counted_perm h))

theorem ofRanked_nil : ofRanked [] = empty := rfl

theorem count_ofRanked (secs : List Float) : (ofRanked secs).count = secs.length := by
  unfold ofRanked
  split
  · rename_i hempty
    rw [List.isEmpty_iff.mp hempty]
    rfl
  · rfl

theorem count_ofSamples (samples : List Interval) :
    (ofSamples samples).count = (samples.filter fun d => !d.isNegative).length := by
  rw [ofSamples, count_ofRanked, length_ranked, counted]

/-! ## What is looked up -/

/-- What the statistics of one second or more look up in the sorted list and divide by. A place that
does not exist is `none` here, so every place that is looked up exists. -/
structure Reads (secs : List Float) (s : DurationStats) : Prop where
  least : secs[0]? = some s.minSecs
  greatest : secs[s.count - 1]? = some s.maxSecs
  divisor : s.count ≠ 0
  mean : s.avgSecs = secs.foldl (· + ·) 0 / Float.ofNat s.count
  middle : s.count % 2 = 1 → secs[s.count / 2]? = some s.medianSecs
  middles : s.count % 2 = 0 → 1 ≤ s.count / 2 ∧ ∃ lower upper,
    secs[s.count / 2 - 1]? = some lower ∧ secs[s.count / 2]? = some upper ∧
      s.medianSecs = (lower + upper) / 2

theorem getElem?_eq_some_getD {secs : List Float} {i : Nat} (h : i < secs.length) :
    secs[i]? = some (secs.getD i 0) := by
  rw [List.getD_eq_getElem?_getD, List.getElem?_eq_getElem h, Option.getD_some]

theorem reads_ofRanked {secs : List Float} (h : secs ≠ []) : Reads secs (ofRanked secs) := by
  have hpos : 0 < secs.length := List.length_pos_iff.mpr h
  have hranked : ofRanked secs = ⟨secs.length, secs.getD 0 0, secs.getD (secs.length - 1) 0,
      secs.foldl (· + ·) 0 / Float.ofNat secs.length, median secs⟩ := by
    rw [ofRanked, if_neg (by rwa [List.isEmpty_iff])]
  rw [hranked]
  constructor <;> dsimp only
  · exact getElem?_eq_some_getD hpos
  · exact getElem?_eq_some_getD (by omega)
  · omega
  · intro hodd
    rw [median, if_neg (by omega)]
    exact getElem?_eq_some_getD (by omega)
  · intro heven
    refine ⟨by omega, _, _, getElem?_eq_some_getD (by omega), getElem?_eq_some_getD (by omega), ?_⟩
    rw [median, if_pos heven]

/-! ## The samples -/

/-- What the statistics say about the samples. -/
structure Describes (samples : List Interval) (s : DurationStats) : Prop where
  count : s.count = (counted samples).length
  nothing : counted samples = [] → s = empty
  reads : counted samples ≠ [] → Reads (ranked samples) s
  least : counted samples ≠ [] → ∃ d ∈ counted samples, s.minSecs = seconds d
  le_all : ∀ d ∈ counted samples, precedes s.minSecs (seconds d)
  greatest : counted samples ≠ [] → ∃ d ∈ counted samples, s.maxSecs = seconds d
  all_le : ∀ d ∈ counted samples, precedes (seconds d) s.maxSecs
  median : s.count % 2 = 1 → ∃ d ∈ counted samples, s.medianSecs = seconds d

theorem exists_of_getElem?_ranked {samples : List Interval} {i : Nat} {x : Float}
    (h : (ranked samples)[i]? = some x) : ∃ d ∈ counted samples, x = seconds d := by
  have hmem : x ∈ (counted samples).map seconds :=
    (ranked_perm samples).mem_iff.mp (List.mem_of_getElem? h)
  obtain ⟨d, hd, hx⟩ := List.mem_map.mp hmem
  exact ⟨d, hd, hx.symm⟩

/-- The sorted seconds ascend from place to place. -/
theorem precedes_of_ranked {samples : List Interval} {i j : Nat} {x y : Float}
    (hx : (ranked samples)[i]? = some x) (hy : (ranked samples)[j]? = some y) (hij : i ≤ j) :
    precedes x y := by
  obtain ⟨hi, rfl⟩ := List.getElem?_eq_some_iff.mp hx
  obtain ⟨hj, rfl⟩ := List.getElem?_eq_some_iff.mp hy
  rcases Nat.eq_or_lt_of_le hij with rfl | hlt
  · exact precedes_refl _
  · exact List.pairwise_iff_getElem.mp (ranked_sorted samples) i j hi hj hlt

theorem describes_ofSamples (samples : List Interval) : Describes samples (ofSamples samples) := by
  have hcount : (ofSamples samples).count = (counted samples).length := count_ofSamples samples
  have hempty : counted samples = [] ↔ ranked samples = [] := by
    rw [← List.length_eq_zero_iff, ← List.length_eq_zero_iff, length_ranked]
  have hreads : counted samples ≠ [] → Reads (ranked samples) (ofSamples samples) :=
    fun h => reads_ofRanked fun hnil => h (hempty.mpr hnil)
  have hplace : ∀ d ∈ counted samples, ∃ i < (counted samples).length,
      (ranked samples)[i]? = some (seconds d) := by
    intro d hd
    have hmem : seconds d ∈ ranked samples :=
      (ranked_perm samples).mem_iff.mpr (List.mem_map_of_mem hd)
    obtain ⟨i, hi, hget⟩ := List.mem_iff_getElem.mp hmem
    exact ⟨i, length_ranked samples ▸ hi, List.getElem?_eq_some_iff.mpr ⟨hi, hget⟩⟩
  refine ⟨hcount, ?_, hreads, ?_, ?_, ?_, ?_, ?_⟩
  · intro h
    rw [ofSamples, hempty.mp h, ofRanked_nil]
  · exact fun h => exists_of_getElem?_ranked (hreads h).least
  · intro d hd
    obtain ⟨i, _, hget⟩ := hplace d hd
    exact precedes_of_ranked (hreads (List.ne_nil_of_mem hd)).least hget (Nat.zero_le i)
  · exact fun h => exists_of_getElem?_ranked (hreads h).greatest
  · intro d hd
    obtain ⟨i, hi, hget⟩ := hplace d hd
    exact precedes_of_ranked hget (hreads (List.ne_nil_of_mem hd)).greatest (by omega)
  · intro hodd
    have hne : counted samples ≠ [] := by
      rintro hnil
      rw [hcount, hnil] at hodd
      exact absurd hodd (by decide)
    exact exists_of_getElem?_ranked ((hreads hne).middle hodd)

/-- The statistics of durations depend only on how often each duration that does not run backwards
occurs: neither the order of the list nor what runs backwards in it changes a bit of them. They count
those durations; the least and the greatest, and of an odd number the median, are the seconds of one
of them; and where there is one, every place that is looked up exists and the sum is not divided by
zero. -/
theorem statistics_of_multiset {a b : List Interval} (h : (counted a).Perm (counted b)) :
    ofSamples a = ofSamples b ∧ Describes a (ofSamples a) :=
  ⟨congrArg ofRanked (ranked_eq_of_perm h), describes_ofSamples a⟩

/-- Three durations, one of them the longest there is, whose microseconds are beyond what is counted, in
two orders; the first list also has one that runs backwards by half a microsecond, the other one that
runs back by a second. -/
theorem statistics_of_multiset_backwards :
    let a : List Interval := [⟨9223372036854775807000000⟩, ⟨-500⟩, ⟨100000000⟩, ⟨300000000⟩]
    let b : List Interval := [⟨300000000⟩, ⟨9223372036854775807000000⟩, ⟨-1000000000⟩, ⟨100000000⟩]
    (counted a).Perm (counted b) ∧ (counted a).length = 3 ∧
      ofSamples a = ofSamples b ∧ Describes a (ofSamples a) := by
  intro a b
  have h : (counted a).Perm (counted b) := by decide
  exact ⟨h, by decide, statistics_of_multiset h⟩

end DurationStats

end StorageLifecycle

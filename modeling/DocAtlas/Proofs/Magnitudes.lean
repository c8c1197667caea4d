import DocAtlas.Decimal.Binary
import Mathlib.Tactic.Ring

/-!
Which integers are in the range of double precision numbers.
-/
namespace DocAtlas.Decimal

theorem roundHalfEven_cases (num den : Nat) :
    roundHalfEven num den = num / den ∨ roundHalfEven num den = num / den + 1 := by
  unfold roundHalfEven
  dsimp only
  split
  · exact .inr rfl
  · exact .inl rfl

/-- A quotient below an even number is rounded to it from half a unit below on. -/
theorem roundHalfEven_eq_even {num den top : Nat} (hden : 0 < den) (hlt : num < top * den)
    (heven : top % 2 = 0) : roundHalfEven num den = top ↔ 2 * top * den ≤ 2 * num + den := by
  have hq : num / den < top := (Nat.div_lt_iff_lt_mul hden).mpr hlt
  have hnum : den * (num / den) + num % den = num := Nat.div_add_mod num den
  have hr : num % den < den := Nat.mod_lt num hden
  by_cases hnext : num / den + 1 = top
  · -- the neighbour below is odd, so a half is rounded up
    have htop : top * den = den * (num / den) + den := by rw [← hnext]; ring
    have hup : roundHalfEven num den = top ↔ den ≤ 2 * (num % den) := by
      unfold roundHalfEven
      dsimp only
      simp only [Bool.or_eq_true, decide_eq_true_eq, Bool.and_eq_true, beq_iff_eq]
      split
      · omega
      · omega
    rw [hup, Nat.mul_assoc]
    omega
  · have hbelow : (num / den + 2) * den ≤ top * den := Nat.mul_le_mul_right den (by omega)
    have hexpand : (num / den + 2) * den = den * (num / den) + 2 * den := by ring
    rw [Nat.mul_assoc]
    have hcases := roundHalfEven_cases num den
    omega

theorem twoTo_pos (n : Nat) : 0 < twoTo n := Nat.two_pow_pos n

theorem twoTo_add (m n : Nat) : twoTo (m + n) = twoTo m * twoTo n := Nat.pow_add 2 m n

theorem twoTo_lt {m n : Nat} (h : m < n) : twoTo m < twoTo n :=
  Nat.pow_lt_pow_right (by decide) h

theorem twoTo_succ (n : Nat) : twoTo (n + 1) = 2 * twoTo n := Nat.pow_succ'

theorem twoTo_log2_le {num : Nat} (h : num ≠ 0) : twoTo num.log2 ≤ num := Nat.log2_self_le h

theorem lt_twoTo_log2 (num : Nat) : num < twoTo (num.log2 + 1) := Nat.lt_log2_self

theorem twoTo_mono {m n : Nat} (h : m ≤ n) : twoTo m ≤ twoTo n :=
  Nat.pow_le_pow_right (by decide) h

theorem scaled_of_nonneg (num den e : Nat) : scaled num den e = (num, den * twoTo e) := by
  rw [scaled, if_pos (Int.natCast_nonneg e), Int.toNat_natCast]

/-- The first guess at the exponent of an integer is one too small. -/
theorem guess_small {num : Nat} (h : num ≠ 0) :
    (scaled num 1 (num.log2 - 53)).2 * twoTo 53 ≤ (scaled num 1 (num.log2 - 53)).1 := by
  have hlow := twoTo_log2_le h
  by_cases hlarge : 53 ≤ num.log2
  · obtain ⟨k, hk⟩ := Nat.exists_eq_add_of_le' hlarge
    have hguess : (num.log2 : Int) - 53 = k := by omega
    rw [hguess, scaled_of_nonneg, Nat.one_mul, ← twoTo_add, ← hk]
    exact hlow
  · obtain ⟨k, hk⟩ := Nat.exists_eq_add_of_le (Nat.le_of_not_le hlarge)
    have hneg : ¬(0 : Int) ≤ num.log2 - 53 := by omega
    have hexponent : (-((num.log2 : Int) - 53)).toNat = k := by omega
    rw [scaled, if_neg hneg, hexponent, Nat.one_mul, hk, twoTo_add]
    exact Nat.mul_le_mul_right (twoTo k) hlow

theorem exponentFor_one {num : Nat} (h : num ≠ 0) : exponentFor num 1 = num.log2 - 52 := by
  have hone : ((1 : Nat).log2 : Int) = 0 := by rw [Nat.log2_def]; rfl
  have hguess := Nat.not_lt.mpr (guess_small h)
  unfold exponentFor
  dsimp only
  rw [hone, Int.sub_zero, if_neg hguess]
  omega

/-- An exponent is too large if it exceeds the largest one, or would after the mantissa is rounded.
-/
theorem bitsAt?_eq_none_iff {num den : Nat} {e : Int} :
    bitsAt? num den e = none ↔
      971 < e ∨ e = 971 ∧ roundHalfEven (scaled num den e).1 (scaled num den e).2 = twoTo 53 := by
  unfold bitsAt?
  dsimp only
  generalize roundHalfEven (scaled num den e).1 (scaled num den e).2 = m
  by_cases hm : m = twoTo 53
  · rw [if_pos hm]
    dsimp only
    split
    · exact iff_of_true rfl (by omega)
    · exact iff_of_false (by simp) (by omega)
  · rw [if_neg hm]
    dsimp only
    split
    · exact iff_of_true rfl (by omega)
    · refine iff_of_false ?_ (by omega)
      split
      · simp
      · simp

/-- The bits of a positive integer are not found exactly if it is nearer to `2 ^ 1024` than to the
largest double, or as near. -/
theorem nearestBits?_one {num : Nat} (h : num ≠ 0) :
    nearestBits? num 1 = none ↔ twoTo 1024 ≤ num + twoTo 970 := by
  have hlow := twoTo_log2_le h
  have hhigh := lt_twoTo_log2 num
  have htop : twoTo 1024 = 2 * twoTo 1023 := twoTo_succ 1023
  have hnext : twoTo 971 = 2 * twoTo 970 := twoTo_succ 970
  have hsplit : twoTo 1024 = twoTo 53 * twoTo 971 := twoTo_add 53 971
  rw [nearestBits?, exponentFor_one h, bitsAt?_eq_none_iff]
  rcases Nat.lt_trichotomy num.log2 1023 with hsmall | hedge | hlarge
  · have hbound : twoTo (num.log2 + 1) ≤ twoTo 1023 := twoTo_mono hsmall
    have hunit : twoTo 970 < twoTo 1023 := twoTo_lt (by decide)
    omega
  · have hexponent : (num.log2 : Int) - 52 = ((971 : Nat) : Int) := by omega
    rw [hedge, hsplit] at hhigh
    have hround := roundHalfEven_eq_even (twoTo_pos 971) hhigh rfl
    rw [hexponent, scaled_of_nonneg, Nat.one_mul, hround, Nat.mul_assoc, ← hsplit]
    omega
  · have hbound : twoTo 1024 ≤ twoTo num.log2 := twoTo_mono hlarge
    omega

/-- An integer has no double exactly if it is nearer to `2 ^ 1024` than to the largest double, or as
near. -/
theorem ofInt?_eq_none_iff (n : Int) : ofInt? n = none ↔ twoTo 1024 ≤ n.natAbs + twoTo 970 := by
  unfold ofInt? nearest?
  dsimp only
  split
  · rename_i hzero
    have hunit : twoTo 970 < twoTo 1024 := twoTo_lt (by decide)
    rw [hzero, Nat.zero_add]
    exact iff_of_false (by simp) (Nat.not_le.mpr hunit)
  · rename_i hne
    rw [Option.map_eq_none_iff, nearestBits?_one hne]

end DocAtlas.Decimal

import Mathlib.Tactic.NormNum
import Mathlib.Tactic.Ring
import RowSink.Number.Shortest

/-!
# Finite numbers under rounding and widening

Rounding a ratio to double precision gives a finite number as long as the ratio is far below the
largest one. All integers of 64 bits are, and so is whatever decimal a single-precision number is
widened through. Widening therefore keeps apart what is finite and what is not.
-/

namespace RowSink.Number

namespace BinaryFormat

theorem infinityBits_binary64 : binary64.infinityBits = 2047 * 2 ^ 52 := by
  norm_num [infinityBits, binary64]

theorem signBit_binary64 : binary64.signBit = 2 ^ 63 := by
  norm_num [signBit, binary64]

theorem roundedQuotient_le (numerator denominator : Nat) :
    roundedQuotient numerator denominator ≤ numerator / denominator + 1 := by
  simp only [roundedQuotient]
  split
  · omega
  · split <;> omega

/-- Scaling by a power of two is a shift of either side of the ratio. -/
theorem unscale_lt {numerator denominator upper lower places : Nat} {exponent : Int}
    (hupper : numerator < 2 ^ upper) (hlower : 2 ^ lower ≤ denominator)
    (hplaces : (upper : Int) ≤ lower + exponent + places) :
    (unscale numerator denominator exponent).1 <
      (unscale numerator denominator exponent).2 * 2 ^ places := by
  cases exponent with
  | ofNat power =>
    have hpowers : 2 ^ upper ≤ 2 ^ (lower + power + places) := by
      apply Nat.pow_le_pow_right
      · decide
      · simp only [Int.ofNat_eq_natCast] at hplaces
        omega
    calc
      numerator < 2 ^ upper := hupper
      _ ≤ 2 ^ (lower + power + places) := hpowers
      _ = 2 ^ lower * (2 ^ power * 2 ^ places) := by ring
      _ ≤ denominator * (2 ^ power * 2 ^ places) := Nat.mul_le_mul_right _ hlower
      _ = denominator * Nat.pow 2 power * 2 ^ places := by simp only [Nat.pow_eq]; ring
  | negSucc power =>
    have hpowers : 2 ^ (upper + (power + 1)) ≤ 2 ^ (lower + places) := by
      apply Nat.pow_le_pow_right
      · decide
      · rw [Int.negSucc_eq] at hplaces
        omega
    calc
      numerator * Nat.pow 2 (power + 1) < 2 ^ upper * Nat.pow 2 (power + 1) := by
        apply Nat.mul_lt_mul_of_pos_right hupper
        exact Nat.pow_pos (by decide)
      _ = 2 ^ (upper + (power + 1)) := by simp only [Nat.pow_eq]; ring
      _ ≤ 2 ^ (lower + places) := hpowers
      _ = 2 ^ lower * 2 ^ places := by ring
      _ ≤ denominator * 2 ^ places := Nat.mul_le_mul_right _ hlower

/-- The exponent is chosen such that few more places than the stored ones are left to round. -/
theorem roundedQuotient_unscale_le (numerator : Nat) {denominator : Nat} {exponent : Int}
    (hdenominator : denominator ≠ 0)
    (hexponent : (numerator.log2 : Int) - denominator.log2 - 53 ≤ exponent) :
    roundedQuotient (unscale numerator denominator exponent).1
      (unscale numerator denominator exponent).2 ≤ 2 ^ 54 := by
  have hscaled : (unscale numerator denominator exponent).1 <
      (unscale numerator denominator exponent).2 * 2 ^ 54 := by
    apply unscale_lt Nat.lt_log2_self (Nat.log2_self_le hdenominator)
    omega
  have hquotient := Nat.div_lt_of_lt_mul hscaled
  have hrounded := roundedQuotient_le (unscale numerator denominator exponent).1
    (unscale numerator denominator exponent).2
  omega

/-- The exponent of a rounded ratio is estimated from the numbers of digits, and may be one less. -/
theorem exists_fitted (format : BinaryFormat) {numerator : Nat} (denominator : Nat)
    (hnumerator : numerator ≠ 0) :
    ∃ fitted : Int, (numerator.log2 : Int) - denominator.log2 - format.fractionBits - 1 ≤ fitted ∧
      fitted ≤ (numerator.log2 : Int) - denominator.log2 - format.fractionBits ∧
      format.ofRatio numerator denominator = min format.infinityBits
        ((max fitted format.leastExponent - format.leastExponent).toNat *
            Nat.pow 2 format.fractionBits +
          roundedQuotient (unscale numerator denominator (max fitted format.leastExponent)).1
            (unscale numerator denominator (max fitted format.leastExponent)).2) := by
  rw [ofRatio, if_neg hnumerator]
  dsimp only
  split
  · exact ⟨_, Int.le_refl _, by omega, rfl⟩
  · exact ⟨_, by omega, Int.le_refl _, rfl⟩

/-- What lies far below the largest number is rounded to a finite one. -/
theorem ofRatio_lt_infinityBits (power : Nat) {numerator denominator : Nat}
    (hbound : numerator < 2 ^ power * denominator) (hpower : power ≤ 1000) :
    binary64.ofRatio numerator denominator < binary64.infinityBits := by
  by_cases hzero : numerator = 0
  · rw [ofRatio, if_pos hzero, infinityBits_binary64]
    norm_num
  have hdenominator : denominator ≠ 0 := by
    rintro rfl
    simp at hbound
  have hlog : numerator.log2 < power + (denominator.log2 + 1) := by
    rw [Nat.log2_lt hzero]
    calc
      numerator < 2 ^ power * denominator := hbound
      _ ≤ 2 ^ power * 2 ^ (denominator.log2 + 1) :=
        Nat.mul_le_mul_left _ (Nat.le_of_lt Nat.lt_log2_self)
      _ = 2 ^ (power + (denominator.log2 + 1)) := by ring
  obtain ⟨fitted, hlow, hhigh, hpattern⟩ := binary64.exists_fitted denominator hzero
  have hleast : binary64.leastExponent = -1074 := rfl
  have hfraction : binary64.fractionBits = 52 := rfl
  rw [hfraction] at hlow hhigh hpattern
  rw [hleast] at hpattern
  have hexponent : (numerator.log2 : Int) - denominator.log2 - 53 ≤ max fitted (-1074) := by
    omega
  have hsignificand := roundedQuotient_unscale_le numerator hdenominator hexponent
  have hplaces : (max fitted (-1074) - -1074).toNat ≤ 2023 := by omega
  rw [hpattern, infinityBits_binary64]
  apply Nat.lt_of_le_of_lt (Nat.min_le_right _ _)
  calc
    _ ≤ 2023 * 2 ^ 52 + 2 ^ 54 := Nat.add_le_add (Nat.mul_le_mul_right _ hplaces) hsignificand
    _ < 2047 * 2 ^ 52 := by norm_num

/-- The sign has no bearing on whether a number is finite. -/
theorem isFinite_withSign (negative : Bool) {magnitude : Nat} (hbound : magnitude < 2 ^ 63) :
    binary64.isFinite (binary64.withSign negative magnitude) =
      decide (magnitude < binary64.infinityBits) := by
  rw [isFinite, withSign, signBit_binary64]
  cases negative with
  | false => rw [if_neg Bool.false_ne_true, Nat.mod_eq_of_lt hbound]
  | true => rw [if_pos rfl, Nat.add_mod_left, Nat.mod_eq_of_lt hbound]

theorem withSign_lt (negative : Bool) {magnitude : Nat} (hbound : magnitude < 2 ^ 63) :
    binary64.withSign negative magnitude < 2 ^ 64 := by
  rw [withSign, signBit_binary64]
  split <;> omega

/-- The number nearest to an integer of 64 bits is finite. -/
theorem isFinite_ofInt {value : Int} (hbound : value.natAbs < 2 ^ 64) :
    binary64.isFinite (binary64.ofInt value) = true ∧ binary64.ofInt value < 2 ^ 64 := by
  have hmagnitude : binary64.ofRatio value.natAbs 1 < binary64.infinityBits := by
    apply ofRatio_lt_infinityBits 64
    · simpa using hbound
    · decide
  have hroom : binary64.ofRatio value.natAbs 1 < 2 ^ 63 := by
    rw [infinityBits_binary64] at hmagnitude
    omega
  rw [ofInt, isFinite_withSign _ hroom]
  exact ⟨decide_eq_true hmagnitude, withSign_lt _ hroom⟩

/-- A single-precision number is finite if it stands for one, and none of them is large. -/
theorem decode_binary32 (bits : Nat) :
    (binary32.isFinite bits = false ∧
        (binary32.decode bits = .nan ∨ ∃ negative, binary32.decode bits = .infinite negative)) ∨
      binary32.isFinite bits = true ∧ ∃ negative significand exponent,
        binary32.decode bits = .finite negative significand exponent ∧
          significand < 2 ^ 24 ∧ exponent ≤ 104 := by
  have hfraction : binary32.fractionBits = 23 := rfl
  have hleast : binary32.leastExponent = -149 := rfl
  have hinfinity : binary32.infinityBits = 255 * 2 ^ 23 := by norm_num [infinityBits, binary32]
  simp only [decode, isFinite, hfraction, hleast, Nat.pow_eq]
  generalize bits % binary32.signBit = magnitude
  rw [hinfinity]
  have hrest : magnitude % 2 ^ 23 < 2 ^ 23 := Nat.mod_lt _ (by norm_num)
  split
  · rename_i hinfinite
    exact .inl ⟨by simp [hinfinite], .inr ⟨_, rfl⟩⟩
  split
  · rename_i hnan
    exact .inl ⟨by simp; omega, .inl rfl⟩
  have hfinite : magnitude < 255 * 2 ^ 23 := by omega
  have hexponent : magnitude / 2 ^ 23 < 255 := by
    rw [Nat.div_lt_iff_lt_mul (by norm_num)]
    exact hfinite
  refine .inr ⟨decide_eq_true hfinite, ?_⟩
  split
  · exact ⟨_, _, _, rfl, by omega, by omega⟩
  · exact ⟨_, _, _, rfl, by omega, by omega⟩

end BinaryFormat

section Decimals

theorem powerRatio_snd_pos (base : Nat) (hbase : 0 < base) (exponent : Int) :
    0 < (powerRatio base exponent).2 := by
  cases exponent with
  | ofNat power => exact Nat.one_pos
  | negSucc power => exact Nat.pow_pos hbase

/-- A decimal that is found lies in the interval, so it does not exceed its upper end. -/
theorem le_high_of_nearestOnGrid? {tie : Tie} {around : Neighbourhood} {power : Int}
    {coefficient : Nat} (hfound : nearestOnGrid? tie around power = some coefficient) :
    coefficient * ((powerRatio 10 power).1 * (powerRatio 2 around.exponent).2) ≤
      around.high * ((powerRatio 2 around.exponent).1 * (powerRatio 10 power).2) := by
  have hinside : ∀ {low high point : Nat}, (if around.closed = true then
      decide (low ≤ point ∧ point ≤ high) else decide (low < point ∧ point < high)) = true →
        point ≤ high := by
    intro low high point hpoint
    split at hpoint
    · exact (of_decide_eq_true hpoint).2
    · exact Nat.le_of_lt (of_decide_eq_true hpoint).2
  rw [nearestOnGrid?] at hfound
  dsimp only at hfound
  split at hfound
  · cases hfound
  · rename_i hbelow _
    obtain rfl := Option.some.inj hfound
    exact hinside hbelow
  · rename_i _ habove
    obtain rfl := Option.some.inj hfound
    exact hinside habove
  · rename_i hbelow habove
    have hleBelow := hinside hbelow
    have hleAbove := hinside habove
    generalize around.centre * _ / _ = below at hfound hleBelow hleAbove
    grind

theorem searchGrids_eq (tie : Tie) (around : Neighbourhood) (steps : Nat) (power : Int) :
    searchGrids tie around steps power = ⟨0, 0⟩ ∨
      nearestOnGrid? tie around (searchGrids tie around steps power).exponent =
        some (searchGrids tie around steps power).coefficient := by
  induction steps generalizing power with
  | zero => exact .inl rfl
  | succ steps ih =>
    rw [searchGrids]
    cases hfound : nearestOnGrid? tie around power with
    | none => exact ih (power - 1)
    | some coefficient => exact .inr hfound

/-- A power of two that is not large, as a ratio. -/
theorem powerRatio_two_le (exponent : Int) (places : Nat) (hexponent : exponent ≤ places) :
    (powerRatio 2 exponent).1 ≤ 2 ^ places * (powerRatio 2 exponent).2 := by
  cases exponent with
  | ofNat power =>
    simp only [powerRatio, Nat.pow_eq, Nat.mul_one]
    apply Nat.pow_le_pow_right
    · decide
    · simpa using hexponent
  | negSucc power =>
    have hfirst : 0 < 2 ^ places := Nat.pow_pos (by decide)
    have hsecond := powerRatio_snd_pos 2 (by decide) (.negSucc power)
    exact Nat.mul_pos hfirst hsecond

theorem toBinary_zero_lt : (⟨0, 0⟩ : Decimal).toBinary binary64 < binary64.infinityBits := by
  rw [Decimal.toBinary]
  apply BinaryFormat.ofRatio_lt_infinityBits 0
  · simp
  · decide

/-- The shortest decimal of a number that is not large is rounded to a finite one. -/
theorem shortest_toBinary_lt (tie : Tie) {significand : Nat} {exponent : Int}
    (hsignificand : significand < 2 ^ 24) (hexponent : exponent ≤ 104) :
    (shortest binary32 tie significand exponent).toBinary binary64 < binary64.infinityBits := by
  rw [shortest]
  split
  · exact toBinary_zero_lt
  rcases searchGrids_eq tie (neighbourhood binary32 significand exponent) 24
    (startPower significand exponent) with hzero | hfound
  · rw [hzero]
    exact toBinary_zero_lt
  have hbound := le_high_of_nearestOnGrid? hfound
  generalize searchGrids tie (neighbourhood binary32 significand exponent) 24
    (startPower significand exponent) = decimal at hbound
  have hhigh : (neighbourhood binary32 significand exponent).high < 2 ^ 27 := by
    simp only [neighbourhood]
    omega
  have hunit := powerRatio_two_le (exponent - 2) 102 (by omega)
  have hgrid := powerRatio_snd_pos 10 (by decide) decimal.exponent
  have hscale := powerRatio_snd_pos 2 (by decide) (exponent - 2)
  change _ ≤ _ * ((powerRatio 2 (exponent - 2)).1 * _) at hbound
  rw [Decimal.toBinary]
  apply BinaryFormat.ofRatio_lt_infinityBits 129
  · apply Nat.lt_of_mul_lt_mul_right (a := (powerRatio 2 (exponent - 2)).2)
    calc
      decimal.coefficient * (powerRatio 10 decimal.exponent).1 * (powerRatio 2 (exponent - 2)).2
          = decimal.coefficient *
              ((powerRatio 10 decimal.exponent).1 * (powerRatio 2 (exponent - 2)).2) := by ring
      _ ≤ (neighbourhood binary32 significand exponent).high *
            ((powerRatio 2 (exponent - 2)).1 * (powerRatio 10 decimal.exponent).2) := hbound
      _ ≤ (neighbourhood binary32 significand exponent).high *
            (2 ^ 102 * (powerRatio 2 (exponent - 2)).2 * (powerRatio 10 decimal.exponent).2) := by
        gcongr
      _ < 2 ^ 27 *
            (2 ^ 102 * (powerRatio 2 (exponent - 2)).2 * (powerRatio 10 decimal.exponent).2) := by
        gcongr
      _ = 2 ^ 129 * (powerRatio 10 decimal.exponent).2 * (powerRatio 2 (exponent - 2)).2 := by ring
  · decide

/-- Widening keeps apart what is finite and what is not. -/
theorem isFinite_widen (bits : Nat) :
    binary64.isFinite (widen bits) = binary32.isFinite bits ∧ widen bits < 2 ^ 64 := by
  rw [widen]
  rcases BinaryFormat.decode_binary32 bits with ⟨hinfinite, hnan | ⟨negative, hdecode⟩⟩ |
    ⟨hfinite, negative, significand, exponent, hdecode, hsignificand, hexponent⟩
  · rw [hnan, hinfinite]
    dsimp only
    rw [BinaryFormat.isFinite, BinaryFormat.infinityBits_binary64, BinaryFormat.signBit_binary64]
    norm_num
  · have hroom : binary64.infinityBits < 2 ^ 63 := by
      rw [BinaryFormat.infinityBits_binary64]
      norm_num
    rw [hdecode, hinfinite]
    dsimp only
    rw [BinaryFormat.isFinite_withSign _ hroom]
    exact ⟨decide_eq_false (Nat.lt_irrefl _), BinaryFormat.withSign_lt _ hroom⟩
  · have hbound := shortest_toBinary_lt .up hsignificand hexponent
    have hroom : (shortest binary32 .up significand exponent).toBinary binary64 < 2 ^ 63 := by
      rw [BinaryFormat.infinityBits_binary64] at hbound
      omega
    rw [hdecode, hfinite]
    dsimp only
    rw [BinaryFormat.isFinite_withSign _ hroom]
    exact ⟨decide_eq_true hbound, BinaryFormat.withSign_lt _ hroom⟩

end Decimals

end RowSink.Number

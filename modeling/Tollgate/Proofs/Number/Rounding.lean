import Mathlib.Algebra.Order.Field.Power
import Mathlib.Algebra.Order.Field.Rat
import Mathlib.Tactic.Linarith
import Mathlib.Tactic.FieldSimp
import Mathlib.Tactic.Ring
import Tollgate.Number.Binary64

namespace Tollgate.Binary64

section

variable {a b c d : Nat}

theorem pow_toNat_div (base : Nat) (e : Int) :
    (Nat.pow base e.toNat : ℚ) / Nat.pow base (-e).toNat = base ^ e := by
  rcases Int.le_total 0 e with nonneg | nonpos
  · obtain ⟨n, rfl⟩ := Int.eq_ofNat_of_zero_le nonneg
    have other : (-(n : Int)).toNat = 0 := by omega
    simp [other]
  · obtain ⟨n, rfl⟩ := Int.exists_eq_neg_ofNat nonpos
    have other : (-(n : Int)).toNat = 0 := by omega
    simp [other]

theorem twoTo_div (e : Int) : (twoTo e : ℚ) / twoTo (-e) = 2 ^ e := pow_toNat_div 2 e

theorem twoTo_pos (e : Int) : 0 < twoTo e := Nat.pow_pos (by decide)

theorem div_le_roundHalfEven (a b : Nat) : a / b ≤ roundHalfEven a b := by
  unfold roundHalfEven
  dsimp only
  split <;> omega

theorem roundHalfEven_le (a b : Nat) : roundHalfEven a b ≤ a / b + 1 := by
  unfold roundHalfEven
  dsimp only
  split <;> omega

theorem roundHalfEven_mul (k : Nat) (positive : 0 < b) : roundHalfEven (k * b) b = k := by
  have whole : k * b / b = k := Nat.mul_div_cancel k positive
  have noRest : k * b % b = 0 := Nat.mul_mod_left k b
  simp [roundHalfEven, whole, noRest]
  omega

theorem div_mono (left : 0 < b) (right : 0 < d) (less : a * d ≤ c * b) : a / b ≤ c / d := by
  rw [Nat.le_div_iff_mul_le right]
  refine Nat.le_of_mul_le_mul_right ?_ left
  calc a / b * d * b = a / b * b * d := by ring
    _ ≤ a * d := Nat.mul_le_mul_right d (Nat.div_mul_le_self a b)
    _ ≤ c * b := less

theorem mod_mono (less : a * d ≤ c * b) (same : a / b = c / d) : a % b * d ≤ c % d * b := by
  have first := Nat.div_add_mod a b
  have second := Nat.div_add_mod c d
  rw [← same] at second
  rw [← first, ← second] at less
  nlinarith

theorem roundHalfEven_mono (left : 0 < b) (right : 0 < d) (less : a * d ≤ c * b) :
    roundHalfEven a b ≤ roundHalfEven c d := by
  rcases Nat.lt_or_eq_of_le (div_mono left right less) with apart | same
  · exact (roundHalfEven_le a b).trans (Nat.le_trans apart (div_le_roundHalfEven c d))
  · have rests := mod_mono less same
    unfold roundHalfEven
    dsimp only
    rw [← same]
    split
    · rename_i up
      have also : (decide (2 * (c % d) > d) || 2 * (c % d) == d && a / b % 2 == 1) = true := by
        simp only [Bool.or_eq_true, decide_eq_true_eq, Bool.and_eq_true, beq_iff_eq] at up ⊢
        rcases up with more | ⟨tie, odd⟩
        · refine .inl ?_
          by_contra notMore
          nlinarith
        · rcases Nat.lt_trichotomy (2 * (c % d)) d with less | equal | more
          · nlinarith
          · exact .inr ⟨equal, odd⟩
          · exact .inl more
      rw [if_pos also]
    · split <;> omega

end

section

variable {num den : Nat} {e f : Int} {q r : ℚ}

theorem scaled_ratio (num den : Nat) (e : Int) :
    ((scaled num den e).1 : ℚ) / (scaled num den e).2 = num / den * 2 ^ (-e) := by
  have power := twoTo_div (-e)
  rw [neg_neg] at power
  simp only [scaled, Nat.cast_mul]
  rw [← power, div_mul_div_comm]

theorem scaled_positive (positive : 0 < den) (e : Int) : 0 < (scaled num den e).2 :=
  Nat.mul_pos positive (twoTo_pos e)

theorem leastMantissa_eq : leastMantissa = 2 ^ 52 := rfl

theorem scaled_small_iff (positive : 0 < den) (e : Int) :
    (scaled num den e).1 / (scaled num den e).2 < leastMantissa ↔
      (num / den : ℚ) < 2 ^ (e + 52) := by
  have bottom : 0 < (scaled num den e).2 := scaled_positive positive e
  have ratio := scaled_ratio num den e
  rw [Nat.div_lt_iff_lt_mul bottom, ← Nat.cast_lt (α := ℚ), Nat.cast_mul, leastMantissa_eq,
    ← div_lt_iff₀ (by exact_mod_cast bottom), ratio, zpow_neg, ← div_eq_mul_inv,
    div_lt_iff₀ (by positivity), add_comm, zpow_add₀ two_ne_zero]
  norm_cast

theorem ratio_bounds (numerator : 0 < num) (positive : 0 < den) :
    (2 : ℚ) ^ ((num.log2 : Int) - den.log2 - 1) < num / den ∧
      (num / den : ℚ) < 2 ^ ((num.log2 : Int) - den.log2 + 1) := by
  have denominator : (0 : ℚ) < den := by exact_mod_cast positive
  have low : (2 : ℚ) ^ (num.log2 : Int) ≤ num := by
    exact_mod_cast Nat.log2_self_le numerator.ne'
  have high : (num : ℚ) < 2 ^ ((num.log2 : Int) + 1) := by
    exact_mod_cast (Nat.lt_log2_self (n := num))
  have below : (2 : ℚ) ^ (den.log2 : Int) ≤ den := by
    exact_mod_cast Nat.log2_self_le positive.ne'
  have above : (den : ℚ) < 2 ^ ((den.log2 : Int) + 1) := by
    exact_mod_cast (Nat.lt_log2_self (n := den))
  constructor
  · rw [lt_div_iff₀ denominator]
    calc (2 : ℚ) ^ ((num.log2 : Int) - den.log2 - 1) * den
        < 2 ^ ((num.log2 : Int) - den.log2 - 1) * 2 ^ ((den.log2 : Int) + 1) := by gcongr
      _ = 2 ^ (num.log2 : Int) := by rw [← zpow_add₀ two_ne_zero]; congr 1; omega
      _ ≤ num := low
  · rw [div_lt_iff₀ denominator]
    calc (num : ℚ) < 2 ^ ((num.log2 : Int) + 1) := high
      _ = 2 ^ ((num.log2 : Int) - den.log2 + 1) * 2 ^ (den.log2 : Int) := by
        rw [← zpow_add₀ two_ne_zero]; congr 1; omega
      _ ≤ 2 ^ ((num.log2 : Int) - den.log2 + 1) * den := by gcongr

/-- An exponent that fits a positive number: it leaves at most 53 bits of it, and no fewer unless it
is the least exponent. -/
structure Fits (e : Int) (q : ℚ) : Prop where
  below : q < 2 ^ (e + 53)
  least : leastExponent ≤ e
  full : e = leastExponent ∨ (2 : ℚ) ^ (e + 52) ≤ q

theorem fits_max (below : q < 2 ^ (e + 53)) (full : (2 : ℚ) ^ (e + 52) ≤ q) :
    Fits (max e leastExponent) q where
  below := lt_of_lt_of_le below (zpow_le_zpow_right₀ one_le_two (by omega))
  least := le_max_right _ _
  full := by
    rcases le_total e leastExponent with clamped | free
    · exact .inl (max_eq_right clamped)
    · rw [max_eq_left free]
      exact .inr full

theorem exponentFor_fits (numerator : 0 < num) (positive : 0 < den) :
    Fits (exponentFor num den) (num / den) := by
  obtain ⟨low, high⟩ := ratio_bounds numerator positive
  unfold exponentFor
  dsimp only
  simp only [scaled_small_iff positive, precision, Int.ofNat_eq_natCast]
  -- the guess from the bits of both numbers is right, or greater by one
  split
  · rename_i small
    refine fits_max (lt_of_lt_of_eq small ?_) (le_of_eq_of_le ?_ low.le)
    all_goals congr 1; omega
  · rename_i notSmall
    exact fits_max (lt_of_lt_of_eq high (by congr 1; omega)) (not_lt.mp notSmall)

theorem Fits.mono (left : Fits e q) (right : Fits f r) (less : q ≤ r) : e ≤ f := by
  rcases left.full with least | full
  · exact least ▸ right.least
  · by_contra above
    have far : (2 : ℚ) ^ (f + 53) ≤ 2 ^ (e + 52) := zpow_le_zpow_right₀ one_le_two (by omega)
    exact absurd (lt_of_lt_of_le right.below (far.trans full)) (not_lt.mpr less)

end

/-- The mantissa of the number nearest to a fraction; it may have one bit more than there is room
for, and is then a power of two. -/
def mantissaFor (num den : Nat) : Nat :=
  roundHalfEven (scaled num den (exponentFor num den)).1 (scaled num den (exponentFor num den)).2

/-- The number nearest to a fraction, among those of 53 bits that are not too fine; how great it may
be is left open. -/
def magnitude (num den : Nat) : ℚ := mantissaFor num den * 2 ^ exponentFor num den

section

variable {a b c d num den other base k : Nat} {f : Int}

theorem roundHalfEven_mono_ratio (left : 0 < b) (right : 0 < d) (less : (a / b : ℚ) ≤ c / d) :
    roundHalfEven a b ≤ roundHalfEven c d := by
  rw [div_le_div_iff₀ (by exact_mod_cast left) (by exact_mod_cast right)] at less
  exact roundHalfEven_mono left right (by exact_mod_cast less)

theorem le_roundHalfEven (positive : 0 < b) (less : (k : ℚ) ≤ a / b) : k ≤ roundHalfEven a b := by
  have exact : roundHalfEven (k * 1) 1 = k := roundHalfEven_mul k Nat.one_pos
  rw [← exact]
  exact roundHalfEven_mono_ratio Nat.one_pos positive (by simpa using less)

theorem roundHalfEven_le_of_le (positive : 0 < b) (less : (a / b : ℚ) ≤ k) :
    roundHalfEven a b ≤ k := by
  have exact : roundHalfEven (k * 1) 1 = k := roundHalfEven_mul k Nat.one_pos
  rw [← exact]
  exact roundHalfEven_mono_ratio positive Nat.one_pos (by simpa using less)

theorem mantissaFor_le (numerator : 0 < num) (positive : 0 < den) :
    mantissaFor num den ≤ 2 ^ 53 := by
  refine roundHalfEven_le_of_le (scaled_positive positive _) ?_
  rw [scaled_ratio, zpow_neg, ← div_eq_mul_inv, div_le_iff₀ (by positivity)]
  refine le_of_lt (lt_of_lt_of_eq (exponentFor_fits numerator positive).below ?_)
  rw [add_comm, zpow_add₀ two_ne_zero]
  norm_cast

theorem le_mantissaFor (positive : 0 < den)
    (full : (2 : ℚ) ^ (exponentFor num den + 52) ≤ num / den) : 2 ^ 52 ≤ mantissaFor num den := by
  refine le_roundHalfEven (scaled_positive positive _) ?_
  rw [scaled_ratio, zpow_neg, ← div_eq_mul_inv, le_div_iff₀ (by positivity)]
  refine le_of_eq_of_le ?_ full
  rw [add_comm, zpow_add₀ two_ne_zero]
  norm_cast

theorem magnitude_zero (den : Nat) : magnitude 0 den = 0 := by
  simp [magnitude, mantissaFor, scaled, roundHalfEven]

theorem magnitude_nonneg (num den : Nat) : 0 ≤ magnitude num den := by
  unfold magnitude
  positivity

theorem magnitude_mono (left : 0 < den) (right : 0 < base)
    (less : (num / den : ℚ) ≤ other / base) : magnitude num den ≤ magnitude other base := by
  rcases Nat.eq_zero_or_pos num with rfl | numerator
  · rw [magnitude_zero]
    exact magnitude_nonneg other base
  have leftPositive : (0 : ℚ) < num / den :=
    div_pos (by exact_mod_cast numerator) (by exact_mod_cast left)
  have also : 0 < other := by
    rcases Nat.eq_zero_or_pos other with rfl | also
    · rw [Nat.cast_zero, zero_div] at less
      exact absurd leftPositive (not_lt.mpr less)
    · exact also
  have fits := exponentFor_fits numerator left
  have fitsOther := exponentFor_fits also right
  unfold magnitude
  rcases (fits.mono fitsOther less).eq_or_lt with same | apart
  · have mantissas : mantissaFor num den ≤ mantissaFor other base := by
      refine roundHalfEven_mono_ratio (scaled_positive left _) (scaled_positive right _) ?_
      rw [scaled_ratio, scaled_ratio, same]
      gcongr
    rw [same]
    gcongr
  · -- one exponent further up, the least mantissa is as great as the greatest one here
    have full := fitsOther.full.resolve_left fun least => by
      have := fits.least
      omega
    have top : (mantissaFor num den : ℚ) ≤ 2 ^ 53 := by exact_mod_cast mantissaFor_le numerator left
    have bottom : (2 ^ 52 : ℚ) ≤ mantissaFor other base := by
      exact_mod_cast le_mantissaFor right full
    calc (mantissaFor num den : ℚ) * 2 ^ exponentFor num den
        ≤ 2 ^ 53 * 2 ^ exponentFor num den := by gcongr
      _ = 2 ^ 52 * 2 ^ (exponentFor num den + 1) := by rw [zpow_add₀ two_ne_zero]; ring
      _ ≤ 2 ^ 52 * 2 ^ exponentFor other base := by
        gcongr
        · exact one_le_two
        · omega
      _ ≤ mantissaFor other base * 2 ^ exponentFor other base := by gcongr

theorem magnitude_exact (positive : 0 < den) (small : k < 2 ^ 53) (least : leastExponent ≤ f)
    (shape : (num / den : ℚ) = k * 2 ^ f) : magnitude num den = num / den := by
  rcases Nat.eq_zero_or_pos num with rfl | numerator
  · rw [magnitude_zero, Nat.cast_zero, zero_div]
  have fits := exponentFor_fits numerator positive
  have below : exponentFor num den ≤ f := by
    rcases fits.full with same | full
    · exact same ▸ least
    · have room : (2 : ℚ) ^ (exponentFor num den + 52) < 2 ^ (f + 53) := by
        refine lt_of_le_of_lt full ?_
        rw [shape, add_comm, zpow_add₀ two_ne_zero]
        gcongr
        exact_mod_cast small
      have := (zpow_lt_zpow_iff_right₀ one_lt_two).mp room
      omega
  obtain ⟨shift, gap⟩ := Int.eq_ofNat_of_zero_le (show 0 ≤ f - exponentFor num den by omega)
  have ratio : ((scaled num den (exponentFor num den)).1 : ℚ) /
      (scaled num den (exponentFor num den)).2 = (k * 2 ^ shift : Nat) := by
    rw [scaled_ratio, shape, mul_assoc, ← zpow_add₀ two_ne_zero, ← sub_eq_add_neg, gap]
    norm_cast
  have mantissa : mantissaFor num den = k * 2 ^ shift :=
    Nat.le_antisymm (roundHalfEven_le_of_le (scaled_positive positive _) ratio.le)
      (le_roundHalfEven (scaled_positive positive _) ratio.ge)
  rw [magnitude, mantissa, shape, show f = shift + exponentFor num den by omega,
    zpow_add₀ two_ne_zero, zpow_natCast]
  push_cast
  ring

def normalized (num den : Nat) : Nat × Int :=
  if mantissaFor num den = 2 * leastMantissa then (leastMantissa, exponentFor num den + 1)
  else (mantissaFor num den, exponentFor num den)

theorem ofRatio_eq (negative : Bool) (numerator : num ≠ 0) (den : Nat) :
    ofRatio negative num den =
      if (normalized num den).2 > greatestExponent then .infinite negative
      else .finite negative (normalized num den).1 (normalized num den).2 := by
  unfold ofRatio
  rw [if_neg numerator]
  rfl

theorem normalized_magnitude (num den : Nat) :
    ((normalized num den).1 : ℚ) * 2 ^ (normalized num den).2 = magnitude num den := by
  unfold normalized magnitude
  split
  · rename_i carried
    rw [carried, zpow_add₀ two_ne_zero]
    push_cast
    ring
  · rfl

theorem normalized_bounds (numerator : 0 < num) (positive : 0 < den) :
    (normalized num den).1 < 2 ^ 53 ∧
      (greatestExponent < (normalized num den).2 → 2 ^ 52 ≤ (normalized num den).1) := by
  have room := mantissaFor_le numerator positive
  unfold normalized
  rw [leastMantissa_eq]
  split
  · exact ⟨by norm_num, fun _ => le_refl _⟩
  · refine ⟨by omega, fun far => ?_⟩
    have full := (exponentFor_fits numerator positive).full.resolve_left fun least => by
      simp only [least] at far
      exact absurd far (by decide)
    exact le_mantissaFor positive full

@[irreducible] def limit : ℚ := 2 ^ (greatestExponent + 53)

theorem limit_pos : 0 < limit := by
  unfold limit
  positivity

theorem ofRatio_ends (negative : Bool) (positive : 0 < den) :
    (magnitude num den < limit ∧ ∃ m e, ofRatio negative num den = .finite negative m e ∧
      m * 2 ^ e = magnitude num den) ∨
    limit ≤ magnitude num den ∧ ofRatio negative num den = .infinite negative := by
  rcases Nat.eq_zero_or_pos num with rfl | numerator
  · rw [magnitude_zero]
    exact .inl ⟨limit_pos, 0, leastExponent, rfl, by simp⟩
  obtain ⟨room, full⟩ := normalized_bounds numerator positive
  rw [ofRatio_eq negative numerator.ne', ← normalized_magnitude]
  unfold limit
  by_cases far : greatestExponent < (normalized num den).2
  · rw [if_pos far]
    have bits : (2 : ℚ) ^ (52 : Int) ≤ (normalized num den).1 := by exact_mod_cast full far
    refine .inr ⟨?_, rfl⟩
    calc (2 : ℚ) ^ (greatestExponent + 53) = 2 ^ (52 : Int) * 2 ^ (greatestExponent + 1) := by
          rw [← zpow_add₀ two_ne_zero]
          rfl
      _ ≤ (normalized num den).1 * 2 ^ (normalized num den).2 := by
        gcongr
        · exact one_le_two
        · exact far
  · rw [if_neg far]
    have bits : ((normalized num den).1 : ℚ) < 2 ^ (53 : Int) := by exact_mod_cast room
    refine .inl ⟨?_, _, _, rfl, rfl⟩
    calc ((normalized num den).1 : ℚ) * 2 ^ (normalized num den).2
        < 2 ^ (53 : Int) * 2 ^ (normalized num den).2 := by gcongr
      _ ≤ 2 ^ (53 : Int) * 2 ^ greatestExponent := by
        gcongr
        · exact one_le_two
        · exact not_lt.mp far
      _ = 2 ^ (greatestExponent + 53) := by
        rw [← zpow_add₀ two_ne_zero]
        rfl

theorem le_limit : (2 : ℚ) ^ (53 : Int) ≤ limit := by
  unfold limit
  exact zpow_le_zpow_right₀ one_le_two (by decide)

end

end Tollgate.Binary64

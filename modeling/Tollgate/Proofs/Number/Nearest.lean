import Tollgate.Proofs.Number.Rounding

namespace Tollgate.Binary64

/-- The mantissa and the exponent of a number: 53 bits at most, and no fewer unless the exponent is
the least one. -/
structure IsNormal (mantissa : Nat) (exponent : Int) : Prop where
  below : mantissa < 2 * leastMantissa
  least : leastExponent ≤ exponent
  greatest : exponent ≤ greatestExponent
  full : exponent = leastExponent ∨ leastMantissa ≤ mantissa

/-- A fraction at most half a step away from the number, and less if its mantissa is odd. The steps
are half as long below the numbers with the least mantissa of 53 bits. -/
structure RoundsTo (q : ℚ) (mantissa : Nat) (exponent : Int) : Prop where
  low : ((mantissa : ℚ) - 1 / 2) * 2 ^ exponent ≤ q
  high : q ≤ (mantissa + 1 / 2) * 2 ^ exponent
  odd : mantissa % 2 = 1 → ((mantissa : ℚ) - 1 / 2) * 2 ^ exponent < q ∧
    q < (mantissa + 1 / 2) * 2 ^ exponent
  close : mantissa = leastMantissa → leastExponent < exponent →
    ((mantissa : ℚ) - 1 / 4) * 2 ^ exponent ≤ q

section

variable {a b k num den : Nat} {mantissa : Nat} {exponent : Int} {q : ℚ}

theorem roundHalfEven_of_whole {q r : Nat} (shape : a = b * q + r) (small : r < b) :
    roundHalfEven a b = if 2 * r > b ∨ 2 * r = b ∧ q % 2 = 1 then q + 1 else q := by
  have positive : 0 < b := Nat.lt_of_le_of_lt (Nat.zero_le r) small
  have whole : a / b = q := by
    rw [shape, Nat.mul_add_div positive, Nat.div_eq_of_lt small, Nat.add_zero]
  have rest : a % b = r := by rw [shape, Nat.mul_add_mod, Nat.mod_eq_of_lt small]
  simp [roundHalfEven, whole, rest]

theorem roundHalfEven_of_near (positive : 0 < b) (low : (k : ℚ) - 1 / 2 ≤ a / b)
    (high : (a / b : ℚ) ≤ k + 1 / 2)
    (odd : k % 2 = 1 → (k : ℚ) - 1 / 2 < a / b ∧ (a / b : ℚ) < k + 1 / 2) :
    roundHalfEven a b = k := by
  have bottom : (0 : ℚ) < b := by exact_mod_cast positive
  have shape : a = b * (a / b) + a % b := (Nat.div_add_mod a b).symm
  have small : a % b < b := Nat.mod_lt a positive
  rw [roundHalfEven_of_whole shape small]
  generalize a / b = q, a % b = r at shape small ⊢
  have ratio : (a / b : ℚ) = q + r / b := by
    rw [shape]
    push_cast
    field_simp
  have nonneg : (0 : ℚ) ≤ r / b := div_nonneg (Nat.cast_nonneg r) bottom.le
  have less : (r / b : ℚ) < 1 := (div_lt_one₀ bottom).mpr (by exact_mod_cast small)
  have overHalf : (1 / 2 : ℚ) < r / b ↔ 2 * r > b := by
    rw [div_lt_div_iff₀ two_pos bottom]
    norm_cast
    omega
  have atHalf : (r / b : ℚ) = 1 / 2 ↔ 2 * r = b := by
    rw [div_eq_div_iff bottom.ne' two_ne_zero]
    norm_cast
    omega
  rw [ratio] at low high odd
  have above : k < q + 2 := by
    have : (k : ℚ) < q + 2 := by linarith
    exact_mod_cast this
  have below : q < k + 1 := by
    have : (q : ℚ) < k + 1 := by linarith
    exact_mod_cast this
  have either : k = q ∨ k = q + 1 := by omega
  rcases either with rfl | rfl
  · -- the rest is at most half, and less if the whole part is odd
    apply if_neg
    rw [← overHalf, ← atHalf]
    rintro (more | ⟨half, isOdd⟩)
    · linarith
    · have := (odd isOdd).2
      linarith
  · -- the rest is at least half, and at half the whole part is odd
    apply if_pos
    rw [← overHalf, ← atHalf]
    push_cast at low odd
    by_cases more : (1 / 2 : ℚ) < r / b
    · exact .inl more
    · have half : (r / b : ℚ) = 1 / 2 := by linarith
      refine .inr ⟨half, ?_⟩
      by_contra even
      have := (odd (by omega)).1
      linarith

theorem Fits.unique {e f : Int} (left : Fits e q) (right : Fits f q) : e = f :=
  Int.le_antisymm (left.mono right le_rfl) (right.mono left le_rfl)

theorem IsNormal.le (normal : IsNormal mantissa exponent) : (mantissa : ℚ) + 1 ≤ 2 ^ 53 := by
  have bits := normal.below
  rw [leastMantissa_eq] at bits
  exact_mod_cast (show mantissa + 1 ≤ 2 ^ 53 by omega)

theorem RoundsTo.lt_of_normal (rounds : RoundsTo q mantissa exponent)
    (normal : IsNormal mantissa exponent) : q < 2 ^ (exponent + 53) := by
  have bits := normal.le
  calc q ≤ (mantissa + 1 / 2) * 2 ^ exponent := rounds.high
    _ < 2 ^ 53 * 2 ^ exponent := by
      apply mul_lt_mul_of_pos_right _ (by positivity)
      linarith
    _ = 2 ^ (exponent + 53) := by
      rw [add_comm, zpow_add₀ two_ne_zero]
      norm_cast

theorem RoundsTo.pos (rounds : RoundsTo q mantissa exponent) (nonzero : 0 < mantissa) : 0 < q := by
  have one : (1 : ℚ) ≤ mantissa := by exact_mod_cast nonzero
  have step : (0 : ℚ) < 2 ^ exponent := by positivity
  have half : (0 : ℚ) < (mantissa - 1 / 2) * 2 ^ exponent := mul_pos (by linarith) step
  exact lt_of_lt_of_le half rounds.low

theorem RoundsTo.eq_leastMantissa (rounds : RoundsTo q mantissa exponent)
    (bits : leastMantissa ≤ mantissa) (small : q < 2 ^ (exponent + 52)) :
    mantissa = leastMantissa := by
  have step : (0 : ℚ) < 2 ^ exponent := by positivity
  apply Nat.le_antisymm _ bits
  by_contra more
  have far : (2 : ℚ) ^ 52 + 1 ≤ mantissa := by
    rw [leastMantissa_eq] at more
    exact_mod_cast (show 2 ^ 52 + 1 ≤ mantissa by omega)
  have large : (2 : ℚ) ^ (exponent + 52) ≤ q :=
    calc (2 : ℚ) ^ (exponent + 52) = 2 ^ 52 * 2 ^ exponent := by
          rw [add_comm, zpow_add₀ two_ne_zero]
          norm_cast
      _ ≤ (mantissa - 1 / 2) * 2 ^ exponent := by
        gcongr
        linarith
      _ ≤ q := rounds.low
  exact absurd small (not_lt.mpr large)

/-- A fraction that is rounded to a number has the number's exponent, unless it is below all numbers
of that exponent. The number is then the least of them. -/
theorem RoundsTo.fits (rounds : RoundsTo q mantissa exponent)
    (normal : IsNormal mantissa exponent) :
    Fits exponent q ∨ mantissa = leastMantissa ∧ leastExponent < exponent ∧
      q < 2 ^ (exponent + 52) ∧ Fits (exponent - 1) q := by
  have below := rounds.lt_of_normal normal
  by_cases least : exponent = leastExponent
  · exact .inl ⟨below, normal.least, .inl least⟩
  by_cases full : (2 : ℚ) ^ (exponent + 52) ≤ q
  · exact .inl ⟨below, normal.least, .inr full⟩
  rw [not_le] at full
  have above : leastExponent < exponent := lt_of_le_of_ne normal.least (Ne.symm least)
  have same := rounds.eq_leastMantissa (normal.full.resolve_left least) full
  have shifted : q < 2 ^ (exponent - 1 + 53) := by
    rwa [show exponent - 1 + 53 = exponent + 52 by omega]
  have enough : (2 : ℚ) ^ (exponent - 1 + 52) ≤ q :=
    calc (2 : ℚ) ^ (exponent - 1 + 52) = 2 ^ 51 * 2 ^ exponent := by
          rw [show exponent - 1 + 52 = 51 + exponent by omega, zpow_add₀ two_ne_zero]
          norm_cast
      _ ≤ (mantissa - 1 / 2) * 2 ^ exponent := by
        gcongr
        rw [same, leastMantissa_eq]
        norm_num
      _ ≤ q := rounds.low
  exact .inr ⟨same, above, full, shifted, by omega, .inr enough⟩

theorem normalized_of_fits (positive : 0 < den) (normal : IsNormal mantissa exponent)
    (rounds : RoundsTo (num / den) mantissa exponent) (scale : exponentFor num den = exponent) :
    normalized num den = (mantissa, exponent) := by
  have step : (0 : ℚ) < 2 ^ exponent := by positivity
  have size : mantissaFor num den = mantissa := by
    apply roundHalfEven_of_near (scaled_positive positive _)
    all_goals rw [scaled_ratio, scale, zpow_neg, ← div_eq_mul_inv]
    · exact (le_div_iff₀ step).mpr rounds.low
    · exact (div_le_iff₀ step).mpr rounds.high
    · intro odd
      obtain ⟨low, high⟩ := rounds.odd odd
      exact ⟨(lt_div_iff₀ step).mpr low, (div_lt_iff₀ step).mpr high⟩
  unfold normalized
  rw [size, scale, if_neg normal.below.ne]

theorem normalized_of_carry (positive : 0 < den)
    (close : ((leastMantissa : ℚ) - 1 / 4) * 2 ^ exponent ≤ num / den)
    (small : (num / den : ℚ) < 2 ^ (exponent + 52)) (scale : exponentFor num den = exponent - 1) :
    normalized num den = (leastMantissa, exponent) := by
  have step : (0 : ℚ) < 2 ^ exponent := by positivity
  have ratio : ((scaled num den (exponent - 1)).1 : ℚ) / (scaled num den (exponent - 1)).2 =
      2 * (num / den / 2 ^ exponent) := by
    rw [scaled_ratio, neg_sub, sub_eq_add_neg, zpow_add₀ two_ne_zero, zpow_neg]
    ring
  have low := (le_div_iff₀ step).mpr close
  have high : (num / den / 2 ^ exponent : ℚ) < 2 ^ 52 := by
    rw [div_lt_iff₀ step]
    rw [add_comm, zpow_add₀ two_ne_zero] at small
    exact_mod_cast small
  have size : mantissaFor num den = 2 * leastMantissa := by
    unfold mantissaFor
    rw [leastMantissa_eq] at low ⊢
    rw [scale]
    apply roundHalfEven_of_near (scaled_positive positive _)
    all_goals rw [ratio]
    · push_cast at low ⊢
      linarith
    · push_cast
      linarith
    · intro odd
      exact absurd odd (by decide)
  unfold normalized
  rw [size, scale, if_pos rfl, sub_add_cancel]

theorem ofRatio_of_roundsTo (negative : Bool) (positive : 0 < den)
    (normal : IsNormal mantissa exponent) (nonzero : 0 < mantissa)
    (rounds : RoundsTo (num / den) mantissa exponent) :
    ofRatio negative num den = .finite negative mantissa exponent := by
  have numerator : 0 < num := by
    have ratio := rounds.pos nonzero
    rw [Nat.pos_iff_ne_zero]
    intro zero
    rw [zero, Nat.cast_zero, zero_div] at ratio
    exact lt_irrefl _ ratio
  have fitting := exponentFor_fits numerator positive
  have pair : normalized num den = (mantissa, exponent) := by
    rcases rounds.fits normal with fits | ⟨same, above, small, fits⟩
    · exact normalized_of_fits positive normal rounds (fitting.unique fits)
    · have close := rounds.close same above
      rw [same] at close ⊢
      exact normalized_of_carry positive close small (fitting.unique fits)
  rw [ofRatio_eq negative numerator.ne', pair, if_neg (not_lt.mpr normal.greatest)]

/-- A number that is infinite or not one, or that has a normal mantissa and exponent. -/
def IsProper : Binary64 → Prop
  | .finite _ mantissa exponent => IsNormal mantissa exponent
  | .infinite _ | .nan => True

theorem isNormal_zero : IsNormal 0 leastExponent :=
  ⟨by decide, le_rfl, by decide, .inl rfl⟩

theorem isNormal_normalized (numerator : 0 < num) (positive : 0 < den)
    (room : (normalized num den).2 ≤ greatestExponent) :
    IsNormal (normalized num den).1 (normalized num den).2 := by
  have fits := exponentFor_fits numerator positive
  have below := mantissaFor_le numerator positive
  unfold normalized at room ⊢
  split
  · rename_i carried
    rw [if_pos carried] at room
    have least : leastExponent ≤ exponentFor num den + 1 := by
      have := fits.least
      omega
    exact ⟨show leastMantissa < 2 * leastMantissa by decide, least, room, .inr le_rfl⟩
  · rename_i plain
    rw [if_neg plain] at room
    rw [leastMantissa_eq] at plain
    refine ⟨by rw [leastMantissa_eq]; omega, fits.least, room, ?_⟩
    exact fits.full.imp_right (le_mantissaFor positive)

theorem isProper_ofRatio (negative : Bool) (positive : 0 < den) :
    (ofRatio negative num den).IsProper := by
  rcases Nat.eq_zero_or_pos num with rfl | numerator
  · exact isNormal_zero
  · rw [ofRatio_eq negative numerator.ne']
    split
    · trivial
    · rename_i room
      exact isNormal_normalized numerator positive (not_lt.mp room)

theorem tenTo_div (power : Int) : (tenTo power : ℚ) / tenTo (-power) = 10 ^ power :=
  pow_toNat_div 10 power

theorem tenTo_cast {power : Int} (nonneg : 0 ≤ power) : (tenTo power : ℚ) = 10 ^ power := by
  have one : tenTo (-power) = 1 := by
    unfold tenTo
    rw [Int.toNat_eq_zero.mpr (by omega)]
  rw [← tenTo_div, one, Nat.cast_one, div_one]

theorem tenTo_pos (power : Int) : 0 < tenTo power := Nat.pow_pos (by decide)

theorem length_toDigits_bounds {n : Nat} (nonzero : 0 < n) :
    10 ^ ((Nat.toDigits 10 n).length - 1) ≤ n ∧ n < 10 ^ (Nat.toDigits 10 n).length := by
  have some : 0 < (Nat.toDigits 10 n).length := List.length_pos_iff.mpr Nat.toDigits_ne_nil
  constructor
  · rcases Nat.eq_zero_or_pos ((Nat.toDigits 10 n).length - 1) with one | more
    · rw [one]
      exact nonzero
    · rw [← Nat.not_lt, ← Nat.length_toDigits_le_iff (by decide) more]
      omega
  · exact (Nat.length_toDigits_le_iff (by decide) some).mp le_rfl

theorem ten_lt_step : (10 : ℚ) ^ (-330 : Int) < 2 ^ (leastExponent - 1) := by
  have powers : (2 : ℚ) ^ 1075 < 10 ^ 330 := by
    exact_mod_cast (show 2 ^ 1075 < 10 ^ 330 by decide +kernel)
  have least : leastExponent - 1 = -1075 := rfl
  rw [least, zpow_neg, zpow_neg, inv_lt_inv₀ (by positivity) (by positivity)]
  exact powers

theorem limit_lt_ten : (2 : ℚ) ^ (greatestExponent + 53) < 10 ^ (330 : Int) := by
  have powers : (2 : ℚ) ^ 1024 < 10 ^ 330 := by
    exact_mod_cast (show 2 ^ 1024 < 10 ^ 330 by decide +kernel)
  exact powers

theorem isProper_ofDecimal (negative : Bool) (digits : Nat) (power : Int) :
    (ofDecimal negative digits power).IsProper := by
  unfold ofDecimal
  dsimp only
  split
  · exact isNormal_zero
  · split
    · trivial
    · exact isProper_ofRatio negative (tenTo_pos _)

theorem RoundsTo.range (rounds : RoundsTo q mantissa exponent)
    (normal : IsNormal mantissa exponent) (nonzero : 0 < mantissa) :
    (10 : ℚ) ^ (-330 : Int) < q ∧ q < 10 ^ (330 : Int) := by
  have one : (1 : ℚ) ≤ mantissa := by exact_mod_cast nonzero
  constructor
  · calc (10 : ℚ) ^ (-330 : Int) < 2 ^ (leastExponent - 1) := ten_lt_step
      _ ≤ 2 ^ (exponent - 1) := by
        apply zpow_le_zpow_right₀ (by norm_num)
        exact Int.sub_le_sub_right normal.least 1
      _ = 1 / 2 * 2 ^ exponent := by
        rw [zpow_sub_one₀ two_ne_zero]
        ring
      _ ≤ (mantissa - 1 / 2) * 2 ^ exponent := by
        apply mul_le_mul_of_nonneg_right _ (by positivity)
        linarith
      _ ≤ q := rounds.low
  · calc q < 2 ^ (exponent + 53) := rounds.lt_of_normal normal
      _ ≤ 2 ^ (greatestExponent + 53) := by
        apply zpow_le_zpow_right₀ (by norm_num)
        exact Int.add_le_add_right normal.greatest 53
      _ < 10 ^ (330 : Int) := limit_lt_ten

theorem places_bounds {digits : Nat} (nonzero : 0 < digits) (power : Int) :
    (10 : ℚ) ^ ((Nat.toDigits 10 digits).length + power - 1) ≤ digits * 10 ^ power ∧
      (digits * 10 ^ power : ℚ) < 10 ^ ((Nat.toDigits 10 digits).length + power) := by
  obtain ⟨first, past⟩ := length_toDigits_bounds nonzero
  have some : 0 < (Nat.toDigits 10 digits).length := List.length_pos_iff.mpr Nat.toDigits_ne_nil
  generalize (Nat.toDigits 10 digits).length = length at first past some ⊢
  constructor
  · rw [show (length : Int) + power - 1 = (length - 1 : Nat) + power by omega,
      zpow_add₀ (by norm_num), zpow_natCast]
    gcongr
    exact_mod_cast first
  · rw [zpow_add₀ (by norm_num), zpow_natCast]
    gcongr
    exact_mod_cast past

theorem ofDecimal_of_roundsTo (negative : Bool) (normal : IsNormal mantissa exponent)
    (nonzero : 0 < mantissa) {digits : Nat} {power : Int}
    (rounds : RoundsTo (digits * 10 ^ power) mantissa exponent) :
    ofDecimal negative digits power = .finite negative mantissa exponent := by
  have ten : (0 : ℚ) < 10 ^ power := by positivity
  have some : 0 < digits := by
    have whole := pos_of_mul_pos_left (rounds.pos nonzero) ten.le
    exact_mod_cast whole
  obtain ⟨low, high⟩ := rounds.range normal nonzero
  obtain ⟨first, past⟩ := places_bounds some power
  have notSmall := (zpow_lt_zpow_iff_right₀ (by norm_num)).mp (low.trans past)
  have notLarge := (zpow_lt_zpow_iff_right₀ (by norm_num)).mp (lt_of_le_of_lt first high)
  have ratio : ((digits * tenTo power : Nat) : ℚ) / tenTo (-power) = digits * 10 ^ power := by
    rw [Nat.cast_mul, mul_div_assoc, tenTo_div]
  unfold ofDecimal
  simp only [some.ne', decide_false, Bool.false_or, decide_eq_true_eq]
  rw [if_neg (by omega), if_neg (by omega)]
  exact ofRatio_of_roundsTo negative (tenTo_pos _) normal nonzero (ratio ▸ rounds)

end

end Tollgate.Binary64

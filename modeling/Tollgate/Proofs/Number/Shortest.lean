import Tollgate.Number.Shortest
import Tollgate.Proofs.Number.Nearest

namespace Tollgate.Binary64

def Decimal.value (d : Decimal) : ℚ := d.coefficient * 10 ^ d.power

section

variable {mantissa : Nat} {exponent : Int} {q : ℚ}

namespace Interval

def Contains (i : Interval) (q : ℚ) : Prop :=
  if i.closed then (i.low / i.den : ℚ) ≤ q ∧ q ≤ i.high / i.den
  else (i.low / i.den : ℚ) < q ∧ q < i.high / i.den

theorem holds_iff {i : Interval} (positive : 0 < i.den) (d : Decimal) :
    i.holds d.coefficient d.power = true ↔ i.Contains d.value := by
  have bottom : (0 : ℚ) < i.den := by exact_mod_cast positive
  have scale : (0 : ℚ) < tenTo (-d.power) := by exact_mod_cast tenTo_pos _
  have value : d.value = d.coefficient * tenTo d.power / tenTo (-d.power) := by
    rw [Decimal.value, ← tenTo_div, mul_div_assoc]
  unfold holds Contains
  cases i.closed with
  | true =>
    simp only [if_true, Bool.and_eq_true, decide_eq_true_eq, value]
    rw [div_le_div_iff₀ bottom scale, div_le_div_iff₀ scale bottom]
    norm_cast
  | false =>
    simp only [Bool.false_eq_true, if_false, Bool.and_eq_true, decide_eq_true_eq, value]
    rw [div_lt_div_iff₀ bottom scale, div_lt_div_iff₀ scale bottom]
    norm_cast

end Interval

theorem interval_den_pos (mantissa : Nat) (exponent : Int) : 0 < (interval mantissa exponent).den :=
  Nat.mul_pos (by decide) (twoTo_pos _)

theorem interval_value (mantissa : Nat) (exponent : Int) :
    ((interval mantissa exponent).value : ℚ) / (interval mantissa exponent).den =
      mantissa * 2 ^ exponent := by
  rw [← twoTo_div]
  unfold interval
  push_cast
  field_simp

theorem interval_high (mantissa : Nat) (exponent : Int) :
    ((interval mantissa exponent).high : ℚ) / (interval mantissa exponent).den =
      (mantissa + 1 / 2) * 2 ^ exponent := by
  rw [← twoTo_div]
  unfold interval
  push_cast
  field_simp
  ring

theorem interval_low (nonzero : 0 < mantissa) (exponent : Int) :
    ((interval mantissa exponent).low : ℚ) / (interval mantissa exponent).den =
      (mantissa - if mantissa = leastMantissa ∧ exponent > leastExponent then 1 / 4 else 1 / 2) *
        2 ^ exponent := by
  rw [← twoTo_div]
  unfold interval
  dsimp only
  split
  all_goals
    rw [Nat.cast_mul, Nat.cast_sub (by omega)]
    push_cast
    field_simp
  ring

theorem roundsTo_of_contains (nonzero : 0 < mantissa)
    (contains : (interval mantissa exponent).Contains q) : RoundsTo q mantissa exponent := by
  have step : (0 : ℚ) < 2 ^ exponent := by positivity
  unfold Interval.Contains at contains
  rw [interval_high, interval_low nonzero] at contains
  have closed : (interval mantissa exponent).closed = decide (mantissa % 2 = 0) := by
    unfold interval
    exact beq_eq_decide _ _
  have half : ((mantissa : ℚ) - 1 / 2) * 2 ^ exponent ≤ (mantissa - if mantissa = leastMantissa ∧
      exponent > leastExponent then 1 / 4 else 1 / 2) * 2 ^ exponent := by
    apply mul_le_mul_of_nonneg_right _ step.le
    split
    all_goals linarith
  rw [closed] at contains
  by_cases even : mantissa % 2 = 0
  · rw [if_pos (decide_eq_true even)] at contains
    obtain ⟨low, high⟩ := contains
    refine ⟨half.trans low, high, fun odd => absurd even (by omega), fun same above => ?_⟩
    rwa [if_pos ⟨same, above⟩] at low
  · rw [if_neg (by simp [even])] at contains
    obtain ⟨low, high⟩ := contains
    refine ⟨half.trans low.le, high.le, fun _ => ⟨lt_of_le_of_lt half low, high⟩, fun same _ => ?_⟩
    rw [same] at even
    exact absurd rfl even

theorem contains_of_above (nonzero : 0 < mantissa) (least : mantissa * 2 ^ exponent ≤ q)
    (less : q < (mantissa + 1 / 2) * 2 ^ exponent) :
    (interval mantissa exponent).Contains q := by
  have step : (0 : ℚ) < 2 ^ exponent := by positivity
  have low : ((interval mantissa exponent).low : ℚ) / (interval mantissa exponent).den < q := by
    refine lt_of_lt_of_le ?_ least
    rw [interval_low nonzero]
    apply mul_lt_mul_of_pos_right _ step
    split
    all_goals linarith
  rw [← interval_high] at less
  unfold Interval.Contains
  split
  · exact ⟨low.le, less.le⟩
  · exact ⟨low, less⟩

theorem Interval.leading_le {i : Interval} (positive : 0 < i.den) (nonzero : 0 < i.value) :
    (10 : ℚ) ^ i.leading ≤ i.value / i.den := by
  have bottom : (0 : ℚ) < i.den := by exact_mod_cast positive
  have top : (0 : ℚ) < i.value := by exact_mod_cast nonzero
  unfold leading
  split
  · rename_i large
    have whole : 0 < i.value / i.den := Nat.div_pos large positive
    have some : 0 < (Nat.toDigits 10 (i.value / i.den)).length :=
      List.length_pos_iff.mpr Nat.toDigits_ne_nil
    have low := (length_toDigits_bounds whole).1
    have places : ((Nat.toDigits 10 (i.value / i.den)).length : Int) - 1 =
        ((Nat.toDigits 10 (i.value / i.den)).length - 1 : Nat) := by omega
    rw [places, zpow_natCast, le_div_iff₀ bottom]
    calc (10 : ℚ) ^ ((Nat.toDigits 10 (i.value / i.den)).length - 1) * i.den
        ≤ (i.value / i.den : Nat) * i.den := by
          gcongr
          exact_mod_cast low
      _ ≤ i.value := by exact_mod_cast Nat.div_mul_le_self _ _
  · rename_i small
    have whole : 0 < i.den / i.value := Nat.div_pos (by omega) nonzero
    have high := (length_toDigits_bounds whole).2
    have some : 0 < (Nat.toDigits 10 (i.den / i.value)).length :=
      List.length_pos_iff.mpr Nat.toDigits_ne_nil
    dsimp only
    generalize (Nat.toDigits 10 (i.den / i.value)).length = places at high some ⊢
    rw [le_div_iff₀ bottom]
    split
    · rename_i same
      have scale : (i.value : ℚ) * 10 ^ (places - 1 : Int) = i.den := by
        rw [← tenTo_cast (by omega)]
        exact_mod_cast same
      rw [← scale, mul_left_comm, ← zpow_add₀ (by norm_num),
        show (1 : Int) - places + (places - 1) = 0 by omega, zpow_zero, mul_one]
    · rw [zpow_neg, zpow_natCast, inv_mul_le_iff₀ (by positivity)]
      rw [Nat.div_lt_iff_lt_mul nonzero] at high
      exact_mod_cast high.le

theorem Interval.holds_of_candidate {i : Interval} {power : Int} {n : Nat}
    (found : i.candidate? power = some n) : i.holds n power = true := by
  unfold candidate? at found
  dsimp only at found
  split at found
  · rename_i down up
    cases found
    split
    · exact up
    · exact down
  · rename_i down up
    cases found
    exact down
  · rename_i down up
    cases found
    exact up
  · cases found

theorem Interval.between {i : Interval} (positive : 0 < i.den) {power : Int} {down : Nat}
    (point : i.value * tenTo (-power) / (i.den * tenTo power) = down) :
    down * 10 ^ power ≤ (i.value / i.den : ℚ) ∧
      (i.value / i.den : ℚ) < (down + 1) * 10 ^ power := by
  have bottom : 0 < i.den * tenTo power := Nat.mul_pos positive (tenTo_pos power)
  have low : down * (i.den * tenTo power) ≤ i.value * tenTo (-power) :=
    point ▸ Nat.div_mul_le_self _ _
  have high : i.value * tenTo (-power) < (down + 1) * (i.den * tenTo power) :=
    (Nat.div_lt_iff_lt_mul bottom).mp (point ▸ Nat.lt_succ_self _)
  have den : (0 : ℚ) < i.den := by exact_mod_cast positive
  have scale : (0 : ℚ) < tenTo (-power) := by exact_mod_cast tenTo_pos _
  rw [← tenTo_div, mul_div_assoc', mul_div_assoc', div_le_div_iff₀ scale den,
    div_lt_div_iff₀ den scale]
  constructor
  · rw [mul_assoc, mul_comm (tenTo power : ℚ)]
    exact_mod_cast low
  · rw [mul_assoc, mul_comm (tenTo power : ℚ)]
    exact_mod_cast high

/-- On a grid whose steps are shorter than half a step between numbers, the point above the number
is in its interval. -/
theorem exists_candidate (nonzero : 0 < mantissa) {power : Int}
    (fine : (10 : ℚ) ^ power < 1 / 2 * 2 ^ exponent) :
    ∃ n, (interval mantissa exponent).candidate? power = some n := by
  have positive := interval_den_pos mantissa exponent
  unfold Interval.candidate?
  dsimp only
  generalize point : (interval mantissa exponent).value * tenTo (-power) /
    ((interval mantissa exponent).den * tenTo power) = down
  obtain ⟨low, high⟩ := Interval.between positive point
  rw [interval_value] at low high
  have up : (interval mantissa exponent).holds (down + 1) power = true := by
    apply (Interval.holds_iff positive ⟨down + 1, power⟩).mpr
    unfold Decimal.value
    push_cast
    apply contains_of_above nonzero high.le
    linarith
  rw [up]
  split
  · exact ⟨_, rfl⟩
  · exact ⟨_, rfl⟩
  · exact ⟨_, rfl⟩
  · rename_i noUp
    cases noUp

theorem exists_shortest (normal : IsNormal mantissa exponent) (nonzero : 0 < mantissa) :
    ∃ places n, (interval mantissa exponent).candidate?
        ((interval mantissa exponent).leading - (places : Nat)) = some n ∧
      shortest mantissa exponent =
        Decimal.strip 18 ⟨n, (interval mantissa exponent).leading - (places : Nat)⟩ := by
  have step : (0 : ℚ) < 2 ^ exponent := by positivity
  have value : 0 < (interval mantissa exponent).value :=
    Nat.mul_pos (Nat.mul_pos (by decide) nonzero) (twoTo_pos _)
  have first := Interval.leading_le (interval_den_pos mantissa exponent) value
  rw [interval_value] at first
  have fine : (10 : ℚ) ^ ((interval mantissa exponent).leading - (17 : Nat)) <
      1 / 2 * 2 ^ exponent := by
    have bits := normal.le
    rw [zpow_sub₀ (by norm_num), div_lt_iff₀ (by positivity)]
    calc (10 : ℚ) ^ (interval mantissa exponent).leading ≤ mantissa * 2 ^ exponent := first
      _ < 2 ^ 53 * 2 ^ exponent := by
        apply mul_lt_mul_of_pos_right _ step
        linarith
      _ ≤ 1 / 2 * 2 ^ exponent * 10 ^ (17 : Nat) := by
        nlinarith
  obtain ⟨last, found⟩ := exists_candidate nonzero fine
  unfold shortest
  dsimp only
  split
  · rename_i d search
    obtain ⟨places, -, here⟩ := List.exists_of_findSome?_eq_some search
    obtain ⟨n, found, rfl⟩ := Option.map_eq_some_iff.mp here
    exact ⟨places, n, found, rfl⟩
  · rename_i search
    have nothing := List.findSome?_eq_none_iff.mp search 17 (by decide)
    rw [found] at nothing
    cases nothing

theorem Decimal.value_strip (fuel : Nat) (d : Decimal) : (d.strip fuel).value = d.value := by
  induction fuel generalizing d with
  | zero => rfl
  | succ fuel ih =>
    unfold strip
    split
    · rename_i trailing
      rw [ih]
      have whole : (d.coefficient : ℚ) = (d.coefficient / 10 : Nat) * 10 := by
        exact_mod_cast (Nat.div_mul_cancel (Nat.dvd_of_mod_eq_zero trailing.1)).symm
      unfold value
      rw [whole, zpow_add₀ (by norm_num)]
      ring
    · rfl

theorem shortest_roundsTo (normal : IsNormal mantissa exponent) (nonzero : 0 < mantissa) :
    RoundsTo (shortest mantissa exponent).value mantissa exponent := by
  obtain ⟨places, n, found, same⟩ := exists_shortest normal nonzero
  rw [same, Decimal.value_strip]
  apply roundsTo_of_contains nonzero
  exact (Interval.holds_iff (interval_den_pos mantissa exponent) _).mp
    (Interval.holds_of_candidate found)

end

end Tollgate.Binary64

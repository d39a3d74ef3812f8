import Tollgate.Proofs.Clock
import Tollgate.Proofs.Webhook.Signature

namespace Tollgate.Seconds

open Binary64

def SameKind (now later : Seconds) : Prop :=
  match now, later with
  | whole _, whole _ => True
  | binary _, binary _ => True
  | _, _ => False

/-- The tolerance is taken from the clock without rounding: on a 64-bit clock the time is no less
than the tolerance and below `2 ^ 53`. -/
def IsExact (now : Seconds) (tolerance : Int) : Prop :=
  match now with
  | whole _ => True
  | binary (.finite negative mantissa exponent) =>
    (mantissa < 2 ^ 53 ∧ leastExponent ≤ exponent) ∧
      (tolerance : ℚ) ≤ signed negative (mantissa * 2 ^ exponent) ∧
        signed negative (mantissa * 2 ^ exponent) < 2 ^ 53
  | binary _ => False

section

variable {now later : Seconds} {tolerance wider timestamp : Int} {x y : Binary64} {q r : ℚ}
  {negative : Bool} {m : Nat} {e : Int}

theorem SameKind.measures (kind : now.SameKind later) (measures : later.Measures tolerance) :
    now.Measures tolerance := by
  match now, later, kind with
  | .whole _, .whole _, _ => trivial
  | .binary _, .binary _, _ => exact measures

theorem exists_finite (measures : (binary x).Measures tolerance) :
    ∃ minus n f, ofInt tolerance = .finite minus n f ∧
      signed minus ((n : Nat) * 2 ^ (f : Int)) = rounded tolerance ∧ rounded tolerance < limit := by
  have stands := standsFor_ofInt tolerance
  cases held : ofInt tolerance with
  | finite minus n f =>
    rw [held] at stands
    exact ⟨minus, n, f, rfl, stands.1, stands.2.2⟩
  | infinite minus => exact absurd held (measures minus)
  | nan =>
    rw [held] at stands
    exact stands.elim

theorem standsFor_difference (measures : (binary (.finite negative m e)).Measures tolerance) :
    ((finite negative m e).sub (ofInt tolerance)).StandsFor
      (rounded (signed negative (m * 2 ^ e) - rounded tolerance)) := by
  obtain ⟨minus, n, f, held, value, -⟩ := exists_finite measures
  rw [held, ← value]
  exact standsFor_sub negative minus m n e f

theorem infinite_sub (measures : (binary x).Measures tolerance) (negative : Bool) :
    (infinite negative).sub (ofInt tolerance) = .infinite negative := by
  obtain ⟨minus, n, f, held, -⟩ := exists_finite measures
  rw [held]
  rfl

theorem allows_whole {n : Int} :
    (whole n).Allows tolerance timestamp ↔ n - tolerance ≤ timestamp := Iff.rfl

theorem allows_binary : (binary x).Allows tolerance timestamp ↔
    ¬ (x.sub (ofInt tolerance)).isAbove timestamp = true := by
  rw [Bool.not_eq_true]
  exact Iff.rfl

theorem Allows.of_later (order : now ≤ later) (kind : now.SameKind later)
    (measures : now.Measures tolerance) (allowed : later.Allows tolerance timestamp) :
    now.Allows tolerance timestamp := by
  cases order with
  | finite first second less =>
    match now, later, first, second with
    | .whole n, .whole n', rfl, rfl =>
      have less : n ≤ n' := by exact_mod_cast less
      rw [allows_whole] at allowed ⊢
      omega
    | .binary (.finite negative m e), .binary (.finite minus n f), rfl, rfl =>
      have also : (binary (.finite minus n f)).Measures tolerance := measures
      have left := standsFor_difference measures
      have right := standsFor_difference also
      rw [allows_binary] at allowed ⊢
      exact fun above =>
        allowed (left.isAbove_mono right (rounded_mono (sub_le_sub_right less _)) above)
  | earliest =>
    rw [allows_binary, infinite_sub measures]
    exact Bool.false_ne_true
  | latest =>
    match now, kind with
    | .binary x, _ =>
      rw [allows_binary, infinite_sub measures] at allowed
      exact absurd rfl allowed

theorem Allows.of_le (less : tolerance ≤ wider) (measures : now.Measures tolerance)
    (also : now.Measures wider) (allowed : now.Allows tolerance timestamp) :
    now.Allows wider timestamp := by
  match now with
  | .whole n =>
    rw [allows_whole] at allowed ⊢
    omega
  | .binary (.finite _ _ _) =>
    have order : rounded tolerance ≤ rounded wider := rounded_mono (by exact_mod_cast less)
    have left := standsFor_difference also
    have right := standsFor_difference measures
    rw [allows_binary] at allowed ⊢
    exact fun above =>
      allowed (left.isAbove_mono right (rounded_mono (sub_le_sub_left order _)) above)
  | .binary (.infinite _) =>
    rw [allows_binary, infinite_sub measures] at allowed
    rwa [allows_binary, infinite_sub also]
  | .binary .nan =>
    rw [allows_binary]
    exact Bool.false_ne_true

theorem difference_shape {n : Nat} (bits : m < 2 ^ 53) (least : leastExponent ≤ e)
    (reached : (n : ℚ) ≤ m * 2 ^ e) (small : (m * 2 ^ e : ℚ) < 2 ^ 53) :
    ∃ (k : Nat) (f : Int), k < 2 ^ 53 ∧ leastExponent ≤ f ∧ (m * 2 ^ e - n : ℚ) = k * 2 ^ f := by
  rcases Int.le_total 0 e with nonneg | nonpos
  · obtain ⟨j, rfl⟩ := Int.eq_ofNat_of_zero_le nonneg
    have reached : n ≤ m * 2 ^ j := by exact_mod_cast reached
    have small : m * 2 ^ j < 2 ^ 53 := by exact_mod_cast small
    refine ⟨m * 2 ^ j - n, 0, by omega, by decide, ?_⟩
    push_cast [reached]
    simp
  · obtain ⟨j, rfl⟩ := Int.exists_eq_neg_ofNat nonpos
    have unit : (2 : ℚ) ^ (-(j : Int)) * 2 ^ j = 1 := by
      rw [← zpow_natCast, ← zpow_add₀ two_ne_zero, neg_add_cancel, zpow_zero]
    have reached : n * 2 ^ j ≤ m := by
      have scaled : (n * 2 ^ j : ℚ) ≤ m * 2 ^ (-(j : Int)) * 2 ^ j := by gcongr
      rw [mul_assoc, unit, mul_one] at scaled
      exact_mod_cast scaled
    refine ⟨m - n * 2 ^ j, -(j : Int), by omega, least, ?_⟩
    push_cast [reached]
    rw [sub_mul, mul_assoc, mul_comm (2 ^ j), unit, mul_one]

theorem rounded_difference {n : Nat} (bits : m < 2 ^ 53) (least : leastExponent ≤ e)
    (reached : (n : ℚ) ≤ m * 2 ^ e) (small : (m * 2 ^ e : ℚ) < 2 ^ 53) :
    rounded (m * 2 ^ e - n) = m * 2 ^ e - n := by
  obtain ⟨k, f, room, fine, shape⟩ := difference_shape bits least reached small
  refine rounded_exact room fine ?_
  rw [abs_of_nonneg (sub_nonneg.mpr reached), shape]

theorem measures_of_small {n : Nat} (small : n < 2 ^ 53) : now.Measures n := by
  have exact : rounded n = n := rounded_exact small (f := 0) (by decide) (by simp)
  have below : (n : ℚ) < limit := lt_of_lt_of_le (by exact_mod_cast small) le_limit
  match now with
  | .whole _ => trivial
  | .binary _ =>
    intro negative held
    have stands := standsFor_ofInt n
    rw [held, Int.cast_natCast, exact] at stands
    cases negative with
    | false => exact absurd stands (not_le.mpr below)
    | true =>
      have nonneg : (0 : ℚ) ≤ n := n.cast_nonneg
      exact absurd (nonneg.trans stands) (not_le.mpr (neg_neg_of_pos limit_pos))

theorem isAbove_difference {n : Nat} (bits : m < 2 ^ 53) (least : leastExponent ≤ e)
    (reached : (n : ℚ) ≤ m * 2 ^ e) (small : (m * 2 ^ e : ℚ) < 2 ^ 53) :
    ((finite false m e).sub (ofInt n)).isAbove timestamp = true ↔
      (timestamp : ℚ) < m * 2 ^ e - n := by
  have few : n < 2 ^ 53 := by exact_mod_cast lt_of_le_of_lt reached small
  have exact : rounded n = n := rounded_exact few (f := 0) (by decide) (by simp)
  have measures : (binary (.finite false m e)).Measures n := measures_of_small few
  have stands := standsFor_difference measures
  have nonneg : (0 : ℚ) ≤ m * 2 ^ e - n := sub_nonneg.mpr reached
  have room : (m * 2 ^ e - n : ℚ) < 2 ^ (53 : Int) := by
    have small : (m * 2 ^ e : ℚ) < 2 ^ (53 : Int) := by exact_mod_cast small
    exact lt_of_le_of_lt (sub_le_self _ n.cast_nonneg) small
  rw [Int.cast_natCast, exact] at stands
  have value : signed false (m * 2 ^ e) = (m * 2 ^ e : ℚ) := rfl
  rw [value, rounded_difference bits least reached small] at stands
  exact stands.isAbove_iff (lt_of_lt_of_le (neg_neg_of_pos limit_pos) nonneg)
    (lt_of_lt_of_le room le_limit)

theorem allows_iff_of_exact (timestamp : Int) (positive : 0 < tolerance)
    (exact : now.IsExact tolerance) (value : now.seconds? = some q) :
    now.Measures tolerance ∧ (now.Allows tolerance timestamp ↔ q - tolerance ≤ timestamp) := by
  obtain ⟨n, rfl⟩ := Int.eq_ofNat_of_zero_le positive.le
  match now, value with
  | .whole second, rfl =>
    refine ⟨trivial, ?_⟩
    rw [allows_whole]
    exact_mod_cast Iff.rfl
  | .binary (.finite false m e), rfl =>
    obtain ⟨⟨bits, least⟩, reached, small⟩ := exact
    have few : (n : ℚ) < 2 ^ 53 := lt_of_le_of_lt reached small
    refine ⟨measures_of_small (by exact_mod_cast few), ?_⟩
    rw [allows_binary, isAbove_difference bits least reached small, not_lt]
    exact Iff.rfl
  | .binary (.finite true m e), rfl =>
    have reached : (n : ℚ) ≤ -(m * 2 ^ e) := exact.2.1
    have above : (0 : ℚ) < n := by exact_mod_cast positive
    have nonneg := signed_nonneg m e
    linarith

end

end Tollgate.Seconds

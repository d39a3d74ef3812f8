import Mathlib.Algebra.Order.Field.Basic
import Mathlib.Data.Rat.Lemmas
import Tollgate.Proofs.Number.Rounding

namespace Tollgate.Binary64

def signed (negative : Bool) (q : ℚ) : ℚ := if negative then -q else q

/-- The nearest number to a rational number, as if there were room for every exponent. -/
def rounded (q : ℚ) : ℚ :=
  signed (q < 0) (magnitude q.num.natAbs q.den)

/-- What a 64-bit number says of a number that was rounded: all of it, or that there is no room. -/
def StandsFor (x : Binary64) (q : ℚ) : Prop :=
  match x with
  | .finite negative m e => signed negative (m * 2 ^ e) = q ∧ -limit < q ∧ q < limit
  | .infinite true => q ≤ -limit
  | .infinite false => limit ≤ q
  | .nan => False

section

variable {q r : ℚ} {x y : Binary64} {negative minus : Bool} {m n : Nat} {e f k : Int}

theorem cast_natAbs_div (num : Int) (den : Nat) : (num.natAbs / den : ℚ) = |(num / den : ℚ)| := by
  rw [abs_div, Nat.abs_cast, Nat.cast_natAbs, Int.cast_abs]

theorem natAbs_num_div_den (q : ℚ) : (q.num.natAbs / q.den : ℚ) = |q| := by
  rw [cast_natAbs_div, Rat.num_div_den]

theorem rounded_of_nonneg (nonneg : 0 ≤ q) : rounded q = magnitude q.num.natAbs q.den := by
  simp [rounded, signed, not_lt.mpr nonneg]

theorem rounded_of_neg (below : q < 0) : rounded q = -magnitude q.num.natAbs q.den := by
  simp [rounded, signed, below]

theorem rounded_mono (less : q ≤ r) : rounded q ≤ rounded r := by
  rcases lt_or_ge q 0 with below | nonneg
  · rw [rounded_of_neg below]
    rcases lt_or_ge r 0 with also | above
    · rw [rounded_of_neg also, neg_le_neg_iff]
      refine magnitude_mono r.den_pos q.den_pos ?_
      rw [natAbs_num_div_den, natAbs_num_div_den, abs_of_neg also, abs_of_neg below]
      exact neg_le_neg less
    · rw [rounded_of_nonneg above]
      exact (neg_nonpos.mpr (magnitude_nonneg _ _)).trans (magnitude_nonneg _ _)
  · have above : 0 ≤ r := nonneg.trans less
    rw [rounded_of_nonneg nonneg, rounded_of_nonneg above]
    refine magnitude_mono q.den_pos r.den_pos ?_
    rw [natAbs_num_div_den, natAbs_num_div_den, abs_of_nonneg nonneg, abs_of_nonneg above]
    exact less

theorem rounded_ratio (num : Int) {den : Nat} (positive : 0 < den) :
    rounded (num / den) = signed (num < 0) (magnitude num.natAbs den) := by
  have ratios : ((num / den : ℚ).num.natAbs / (num / den : ℚ).den : ℚ) = num.natAbs / den := by
    rw [natAbs_num_div_den, cast_natAbs_div]
  have same : magnitude (num / den : ℚ).num.natAbs (num / den : ℚ).den =
      magnitude num.natAbs den :=
    le_antisymm (magnitude_mono (Rat.den_pos _) positive ratios.le)
      (magnitude_mono positive (Rat.den_pos _) ratios.ge)
  have below : (num / den : ℚ) < 0 ↔ num < 0 := by
    rw [div_lt_iff₀ (by exact_mod_cast positive), zero_mul]
    norm_cast
  rw [rounded, same, decide_eq_decide.mpr below]

theorem rounded_exact {k : Nat} (small : k < 2 ^ 53) (least : leastExponent ≤ f)
    (shape : |q| = k * 2 ^ f) : rounded q = q := by
  have exact : magnitude q.num.natAbs q.den = |q| := by
    rw [← natAbs_num_div_den] at shape ⊢
    exact magnitude_exact q.den_pos small least shape
  rcases lt_or_ge q 0 with below | nonneg
  · rw [rounded_of_neg below, exact, abs_of_neg below, neg_neg]
  · rw [rounded_of_nonneg nonneg, exact, abs_of_nonneg nonneg]

theorem standsFor_ofRatio (num : Int) {den : Nat} (positive : 0 < den) :
    (ofRatio (num < 0) num.natAbs den).StandsFor (rounded (num / den)) := by
  have nonneg := magnitude_nonneg num.natAbs den
  have room := limit_pos
  rw [rounded_ratio num positive]
  have ends := @ofRatio_ends num.natAbs den (num < 0) positive
  rcases ends with ⟨within, m, e, held, value⟩ | ⟨far, held⟩
  · rw [held, StandsFor, value]
    refine ⟨rfl, ?_⟩
    unfold signed
    split <;> constructor <;> linarith
  · rw [held]
    by_cases below : num < 0
    · simpa [StandsFor, signed, below] using far
    · simpa [StandsFor, signed, below] using far

theorem standsFor_ofInt (n : Int) : (ofInt n).StandsFor (rounded n) := by
  have stands := standsFor_ofRatio n Nat.one_pos
  rwa [Nat.cast_one, div_one] at stands

theorem fraction_ratio (negative : Bool) (m : Nat) (e : Int) :
    ((fraction negative m e).1 / (fraction negative m e).2 : ℚ) = signed negative (m * 2 ^ e) := by
  rw [← twoTo_div]
  unfold fraction signed
  split <;> push_cast <;> ring

theorem fraction_pos (negative : Bool) (m : Nat) (e : Int) : 0 < (fraction negative m e).2 :=
  twoTo_pos (-e)

theorem isAbove_finite :
    (finite negative m e).isAbove k = true ↔ (k : ℚ) < signed negative (m * 2 ^ e) := by
  have positive : (0 : ℚ) < (fraction negative m e).2 := by exact_mod_cast fraction_pos negative m e
  rw [← fraction_ratio, lt_div_iff₀ positive]
  simp only [isAbove, decide_eq_true_eq]
  norm_cast

theorem StandsFor.isAbove_mono (left : x.StandsFor q) (right : y.StandsFor r) (less : q ≤ r)
    (above : x.isAbove k = true) : y.isAbove k = true := by
  match x, y with
  | .finite .., .finite .. =>
    rw [isAbove_finite, left.1] at above
    rw [isAbove_finite, right.1]
    exact lt_of_lt_of_le above less
  | .finite .., .infinite true => exact absurd (less.trans right) (not_le.mpr left.2.1)
  | .infinite false, .finite .. => exact absurd (left.trans less) (not_le.mpr right.2.2)
  | _, .infinite false => rfl
  | .infinite false, .infinite true =>
    have far : limit ≤ -limit := (left.trans less).trans right
    exact absurd far (not_le.mpr (neg_lt_self limit_pos))
  | .infinite true, _ => exact absurd above Bool.false_ne_true
  | .nan, _ => exact absurd above Bool.false_ne_true

theorem StandsFor.isAbove_iff (stands : x.StandsFor q) (low : -limit < q) (high : q < limit) :
    x.isAbove k = true ↔ (k : ℚ) < q := by
  match x with
  | .finite .. => rw [isAbove_finite, stands.1]
  | .infinite false => exact absurd stands (not_le.mpr high)
  | .infinite true => exact absurd stands (not_le.mpr low)
  | .nan => exact stands.elim

theorem standsFor_sub (negative minus : Bool) (m n : Nat) (e f : Int) :
    ((finite negative m e).sub (finite minus n f)).StandsFor
      (rounded (signed negative (m * 2 ^ e) - signed minus (n * 2 ^ f))) := by
  have first := fraction_pos negative m e
  have second := fraction_pos minus n f
  rw [← fraction_ratio, ← fraction_ratio, div_sub_div _ _ (by exact_mod_cast first.ne')
    (by exact_mod_cast second.ne')]
  have stands := standsFor_ofRatio ((fraction negative m e).1 * (fraction minus n f).2 -
    (fraction minus n f).1 * (fraction negative m e).2) (Nat.mul_pos first second)
  push_cast at stands
  rw [mul_comm ((fraction negative m e).2 : ℚ)]
  simp only [sub]
  split
  · rename_i zero
    rw [zero, Int.natAbs_zero] at stands
    simpa [ofRatio, StandsFor, signed] using stands
  · exact stands

end

end Tollgate.Binary64

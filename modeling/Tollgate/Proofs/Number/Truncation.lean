import Tollgate.Proofs.Number.Difference

namespace Tollgate.Binary64

structure InFormat (m : Nat) (e : Int) : Prop where
  bits : m < 2 ^ precision
  least : leastExponent ≤ e
  greatest : e ≤ greatestExponent

def whole (negative : Bool) (m : Nat) (e : Int) : Int :=
  (fraction negative m e).1.tdiv (fraction negative m e).2

section

variable {x : Binary64} {negative : Bool} {m : Nat} {e : Int} {q : ℚ}

theorem natAbs_whole (negative : Bool) (m : Nat) (e : Int) :
    (whole negative m e).natAbs = m * twoTo e / twoTo (-e) := by
  have numerator : (fraction negative m e).1.natAbs = m * twoTo e := by
    cases negative <;> simp [fraction, Int.natAbs_mul]
  unfold whole
  rw [Int.natAbs_tdiv, numerator]
  rfl

theorem twoTo_nonpos (nonpos : e ≤ 0) : twoTo e = 1 := by
  unfold twoTo
  rw [Int.toNat_of_nonpos nonpos]

theorem whole_shape (negative : Bool) (format : InFormat m e) : ∃ (n : Nat) (f : Int),
    n < 2 ^ 53 ∧ leastExponent ≤ f ∧ |(whole negative m e : ℚ)| = n * 2 ^ f := by
  have value : |(whole negative m e : ℚ)| = (whole negative m e).natAbs := by
    rw [Nat.cast_natAbs, Int.cast_abs]
  rw [value, natAbs_whole]
  rcases Int.le_total 0 e with nonneg | nonpos
  · obtain ⟨j, rfl⟩ := Int.eq_ofNat_of_zero_le nonneg
    refine ⟨m, j, format.bits, format.least, ?_⟩
    rw [twoTo_nonpos (e := -j) (by omega), Nat.div_one]
    simp [twoTo]
  · refine ⟨m / twoTo (-e), 0, lt_of_le_of_lt (Nat.div_le_self _ _) format.bits, by decide, ?_⟩
    rw [twoTo_nonpos nonpos, Nat.mul_one, zpow_zero, mul_one]

theorem rounded_whole (format : InFormat m e) :
    rounded (whole negative m e) = whole negative m e := by
  obtain ⟨n, f, small, least, shape⟩ := whole_shape negative format
  exact rounded_exact small least shape

theorem lt_whole_add_one (negative : Bool) (m : Nat) (e : Int) :
    signed negative (m * 2 ^ e) < whole negative m e + 1 := by
  have positive : 0 < ((fraction negative m e).2 : Int) := by
    exact_mod_cast fraction_pos negative m e
  have rest := Int.tmod_lt_of_pos (fraction negative m e).1 positive
  have parts := Int.mul_tdiv_add_tmod (fraction negative m e).1 (fraction negative m e).2
  have below :
      (fraction negative m e).1 < (whole negative m e + 1) * (fraction negative m e).2 := by
    unfold whole
    linarith
  rw [← fraction_ratio, div_lt_iff₀ (by exact_mod_cast positive)]
  exact_mod_cast below

theorem natAbs_whole_lt (negative : Bool) (format : InFormat m e) :
    (whole negative m e).natAbs < 2 ^ 53 * 2 ^ 971 := by
  have power : twoTo e ≤ 2 ^ 971 := by
    apply Nat.pow_le_pow_right (by decide)
    have greatest : e ≤ 971 := format.greatest
    omega
  rw [natAbs_whole]
  calc m * twoTo e / twoTo (-e) ≤ m * twoTo e := Nat.div_le_self _ _
    _ < 2 ^ 53 * 2 ^ 971 := Nat.mul_lt_mul_of_lt_of_le format.bits power (by positivity)

theorem limit_eq : limit = 2 ^ 53 * 2 ^ 971 := by
  unfold limit
  rw [zpow_add₀ two_ne_zero, mul_comm]
  rfl

theorem abs_whole_lt (negative : Bool) (format : InFormat m e) :
    |(whole negative m e : ℚ)| < limit := by
  have small := natAbs_whole_lt negative format
  rw [limit_eq, ← Int.cast_abs, ← Nat.cast_natAbs]
  exact_mod_cast small

theorem StandsFor.not_isAbove_whole (stands : x.StandsFor q) (format : InFormat m e)
    (less : q ≤ whole negative m e) : x.isAbove (whole negative m e) = false := by
  have room := abs_lt.mp (abs_whole_lt negative format)
  have also := standsFor_ofInt (whole negative m e)
  rw [rounded_whole format] at also
  by_contra above
  rw [Bool.not_eq_false] at above
  have beyond := stands.isAbove_mono also less above
  rw [also.isAbove_iff room.1 room.2] at beyond
  exact lt_irrefl _ beyond

end

end Tollgate.Binary64

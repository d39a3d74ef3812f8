import Tollgate.Proofs.Json.Completeness
import Tollgate.Proofs.Number.Decimal
import Tollgate.Proofs.Number.Shortest

namespace Tollgate

open Binary64 (Decimal zeros padded)

namespace Json

open Json.Numeral (IsWhole IsFraction IsExponent)

theorem natural_append (s t : Text) :
    Numeral.natural (s ++ t) = Numeral.natural s * 10 ^ t.length + Numeral.natural t := by
  have fold (n : Nat) : t.foldl (fun n c => n * 10 + (c.val - 0x30)) n =
      n * 10 ^ t.length + Numeral.natural t := by
    induction t generalizing n with
    | nil => simp [Numeral.natural]
    | cons c t ih =>
      unfold Numeral.natural
      rw [List.foldl_cons, List.foldl_cons, ih, ih (0 * 10 + (c.val - 0x30)), List.length_cons]
      ring
  unfold Numeral.natural
  rw [List.foldl_append, fold]
  rfl

theorem natural_zeros (n : Nat) : Numeral.natural (zeros n) = 0 := by
  induction n with
  | zero => rfl
  | succ n ih => exact ih

theorem isAsciiDigit_of_mem_zeros {n : Nat} {c : CodePoint} (member : c ∈ zeros n) :
    c.isAsciiDigit = true := by
  rw [List.eq_of_mem_replicate member]
  decide

theorem isDigits_zeros {n : Nat} (some : 0 < n) : IsDigits (zeros n) :=
  ⟨by simpa [zeros] using some.ne', fun _ => isAsciiDigit_of_mem_zeros⟩

theorem isAsciiDigit_of_mem_padded {width n : Nat} {c : CodePoint}
    (member : c ∈ padded width (Integer.natural n)) : c.isAsciiDigit = true := by
  rcases List.mem_append.mp member with zero | digit
  · exact isAsciiDigit_of_mem_zeros zero
  · exact Integer.isAsciiDigit_of_mem_natural digit

theorem natural_padded (width n : Nat) :
    Numeral.natural (padded width (Integer.natural n)) = n := by
  unfold padded
  rw [natural_append, natural_zeros, Nat.zero_mul, Nat.zero_add, natural_natural]

/-- The text spells digits with a point or an exponent, which amount to so many tens to a power. -/
def Spells (s : Text) (digits : Nat) (power : Int) : Prop :=
  ∃ whole fraction exponent point tail, IsWhole whole ∧ IsFraction fraction point ∧
    IsExponent exponent tail ∧ (fraction ≠ none ∨ exponent ≠ none) ∧
    s = whole ++ (point ++ tail) ∧ Numeral.natural (whole ++ fraction.getD []) = digits ∧
    Integer.signed (exponent.getD (false, [])).1 (Numeral.natural (exponent.getD (false, [])).2) -
      (fraction.getD []).length = power

section

variable {s rest : Text} {digits : Nat} {power : Int}

theorem Spells.exists_numeral (spells : Spells s digits power) (negative : Bool) :
    ∃ numeral : Numeral, numeral.IsSpelled ∧
      numeral.literal = Binary64.signText negative ++ s ∧
      numeral.value = .ok (.number (.ofDecimal negative digits power)) := by
  obtain ⟨whole, fraction, exponent, point, tail, isWhole, isFraction, isExponent, some, rfl, rfl,
    rfl⟩ := spells
  refine ⟨⟨_, negative, whole, fraction, exponent⟩, ⟨Binary64.signText negative, point, tail, ?_,
    isWhole, isFraction, isExponent, rfl⟩, rfl, ?_⟩
  · cases negative with
    | false => exact .absent
    | true => exact .minus
  · cases fraction with
    | some => rfl
    | none =>
      cases exponent with
      | some => rfl
      | none =>
        rcases some with absent | absent
        all_goals exact absurd rfl absent

theorem spells_zero : Spells (Text.lit "0.0") 0 (-1) :=
  ⟨_, _, _, _, _, .zero, .digits (zeros 1) (isDigits_zeros (by decide)), .absent,
    .inl (Option.some_ne_none _), rfl, rfl, rfl⟩

theorem isWhole_of_start {n : Nat} (nonzero : 0 < n) {start rest : Text}
    (shape : Integer.natural n = start ++ rest) (some : start ≠ []) (more : Text)
    (digits : ∀ c ∈ more, c.isAsciiDigit = true) : IsWhole (start ++ more) := by
  have all (c : CodePoint) (member : c ∈ start) : c.isAsciiDigit = true :=
    Integer.isAsciiDigit_of_mem_natural (n := n) (shape ▸ List.mem_append_left rest member)
  obtain ⟨c, start, rfl⟩ := List.exists_cons_of_ne_nil some
  refine .row c _ (Integer.head_natural_ne_zero nonzero shape) (all c (.head _)) fun d member => ?_
  rcases List.mem_append.mp member with early | late
  · exact all d (.tail _ early)
  · exact digits d late

section

variable {n : Nat}

theorem isDigits_drop {k : Nat} (less : k < (Integer.natural n).length) :
    IsDigits ((Integer.natural n).drop k) := by
  refine ⟨fun empty => ?_, fun c member => ?_⟩
  · rw [List.drop_eq_nil_iff] at empty
    omega
  · exact Integer.isAsciiDigit_of_mem_natural (List.mem_of_mem_drop member)

theorem spells_whole (nonzero : 0 < n) (count : Nat) :
    Spells (Integer.natural n ++ zeros count ++ Text.lit ".0") (n * 10 ^ count * 10) (-1) := by
  have whole : IsWhole (Integer.natural n ++ zeros count) :=
    isWhole_of_start nonzero (List.append_nil _).symm (Integer.natural_ne_nil n) _
      fun _ => isAsciiDigit_of_mem_zeros
  refine ⟨_, some (zeros 1), none, _, [], whole, .digits _ (isDigits_zeros (by decide)), .absent,
    .inl (Option.some_ne_none _), rfl, ?_, rfl⟩
  rw [Option.getD_some, natural_append, natural_append, natural_natural, natural_zeros,
    natural_zeros]
  simp [zeros]

theorem spells_small (n count : Nat) :
    Spells (Text.lit "0." ++ zeros count ++ Integer.natural n) n
      (-(count + (Integer.natural n).length : Int)) := by
  have digits : IsDigits (zeros count ++ Integer.natural n) := by
    refine ⟨by simp [Integer.natural_ne_nil], fun c member => ?_⟩
    rcases List.mem_append.mp member with zero | digit
    · exact isAsciiDigit_of_mem_zeros zero
    · exact Integer.isAsciiDigit_of_mem_natural digit
  refine ⟨zeros 1, _, none, _, [], .zero, .digits _ digits, .absent,
    .inl (Option.some_ne_none _), ?_, ?_, ?_⟩
  · rw [List.append_nil, List.append_assoc]
    rfl
  · rw [Option.getD_some, natural_append, natural_append, natural_natural, natural_zeros,
      natural_zeros, Nat.zero_mul, Nat.zero_mul, Nat.zero_add, Nat.zero_add]
  · simp [zeros, Integer.signed, Numeral.natural]

theorem spells_mixed (nonzero : 0 < n) {count : Nat} (some : 0 < count)
    (less : count < (Integer.natural n).length) :
    Spells ((Integer.natural n).take count ++ Text.lit "." ++ (Integer.natural n).drop count) n
      (count - (Integer.natural n).length) := by
  have halves := (List.take_append_drop count (Integer.natural n)).symm
  have start : (Integer.natural n).take count ≠ [] := by
    intro empty
    rw [List.take_eq_nil_iff] at empty
    exact empty.elim some.ne' (Integer.natural_ne_nil n)
  have whole := isWhole_of_start nonzero halves start [] (List.forall_mem_nil _)
  rw [List.append_nil] at whole
  refine ⟨_, _, none, _, [], whole, .digits _ (isDigits_drop less), .absent,
    .inl (Option.some_ne_none _), ?_, ?_, ?_⟩
  · rw [List.append_nil, List.append_assoc]
    rfl
  · rw [Option.getD_some, ← halves, natural_natural]
  · simp [Integer.signed, Numeral.natural]
    omega

theorem isExponent_written (first : Int) {digits : Text} (row : IsDigits digits) :
    IsExponent (some (decide (first < 0), digits))
      (Text.lit (if first < 0 then "e-" else "e+") ++ digits) := by
  by_cases negative : first < 0
  · rw [decide_eq_true negative, if_pos negative]
    exact .digits _ true _ digits (.inl rfl) .minus row
  · rw [decide_eq_false negative, if_neg negative]
    exact .digits _ false _ digits (.inl rfl) .plus row

theorem spells_scientific (nonzero : 0 < n) (first : Int) :
    Spells ((Integer.natural n).take 1 ++
      (if ((Integer.natural n).drop 1).isEmpty then [] else
        Text.lit "." ++ (Integer.natural n).drop 1) ++
      Text.lit (if first < 0 then "e-" else "e+") ++
        padded Binary64.layout.exponentWidth (Integer.natural first.natAbs)) n
      (first - ((Integer.natural n).length - 1)) := by
  have halves := (List.take_append_drop 1 (Integer.natural n)).symm
  have start : (Integer.natural n).take 1 ≠ [] := by simp [Integer.natural_ne_nil]
  have whole := isWhole_of_start nonzero halves start [] (List.forall_mem_nil _)
  rw [List.append_nil] at whole
  have row : IsDigits (padded Binary64.layout.exponentWidth (Integer.natural first.natAbs)) :=
    ⟨by simp [padded, Integer.natural_ne_nil], fun _ => isAsciiDigit_of_mem_padded⟩
  have exponent := isExponent_written first row
  by_cases single : (Integer.natural n).drop 1 = []
  · have length : (Integer.natural n).length = 1 := by
      have long := List.length_pos_iff.mpr (Integer.natural_ne_nil n)
      have short := List.drop_eq_nil_iff.mp single
      omega
    rw [single, List.append_nil] at halves
    refine ⟨_, none, _, [], _, whole, .absent, exponent, .inr (Option.some_ne_none _), ?_, ?_, ?_⟩
    · simp [single]
    · rw [Option.getD_none, List.append_nil, ← halves, natural_natural]
    · simp [natural_padded, Integer.signed_natAbs, length]
  · have less : 1 < (Integer.natural n).length := by
      rw [List.drop_eq_nil_iff] at single
      omega
    refine ⟨_, _, _, _, _, whole, .digits _ (isDigits_drop less), exponent,
      .inl (Option.some_ne_none _), ?_, ?_, ?_⟩
    · rw [if_neg (mt List.isEmpty_iff.mp single)]
      simp [Text.lit]
    · rw [Option.getD_some, ← halves, natural_natural]
    · simp [natural_padded, Integer.signed_natAbs]
      omega

end

theorem exists_spells_text {d : Decimal} (nonzero : 0 < d.coefficient) :
    ∃ digits power, Spells d.text digits power ∧ (digits : ℚ) * 10 ^ power = d.value := by
  have long := List.length_pos_iff.mpr (Integer.natural_ne_nil d.coefficient)
  unfold Binary64.Decimal.text
  dsimp only
  split
  · split
    · rename_i whole
      refine ⟨_, _, spells_whole nonzero d.power.toNat, ?_⟩
      have power : (10 : ℚ) ^ d.power = 10 ^ d.power.toNat := by
        rw [← zpow_natCast, Int.toNat_of_nonneg whole]
      rw [Binary64.Decimal.value, power]
      push_cast
      ring
    · split
      · rename_i small
        refine ⟨_, _, spells_small _ _, ?_⟩
        have power : -(((-((Integer.natural d.coefficient).length - 1 + d.power : Int) - 1).toNat :
            Int) + (Integer.natural d.coefficient).length) = d.power := by
          omega
        rw [power, Binary64.Decimal.value]
      · refine ⟨_, _, spells_mixed nonzero (by omega) (by omega), ?_⟩
        have power :
            (((Integer.natural d.coefficient).length - 1 + d.power + 1 : Int).toNat : Int) -
              (Integer.natural d.coefficient).length = d.power := by
          omega
        rw [power, Binary64.Decimal.value]
  · refine ⟨_, _, spells_scientific nonzero _, ?_⟩
    rw [add_sub_cancel_left, Binary64.Decimal.value]

theorem readsAs_numeral {escape : CodePoint → Text} {value result : Json} {numeral : Numeral}
    (spelled : numeral.IsSpelled) (written : compactWith escape value = numeral.literal)
    (valued : numeral.value = .ok result) : ReadsAs escape value result := by
  obtain ⟨c, s, shape, start, noText, noBracket⟩ := isScalarStart_number spelled
  have noList : c ≠ '[' := noBracket .list
  have noObject : c ≠ '{' := noBracket .object
  have noEnd : c ≠ ']' := start.2 .list
  refine readsAs_of_step ⟨c, s, written.trans shape, start.1, noEnd⟩ fun rest fuel ends _ => ?_
  have scanned := Numeral.scan?_append spelled ends.stops
  have noConstant := constant?_number spelled rest
  rw [written]
  rw [shape, List.cons_append] at scanned noConstant ⊢
  rw [readValue_scalar noText noList noObject]
  simp only [readScalar, noConstant, scanned, valued]
  rfl

theorem exists_spells_magnitude {mantissa : Nat} {exponent : Int}
    (normal : Binary64.IsNormal mantissa exponent) :
    ∃ digits power, Spells (Binary64.magnitudeText mantissa exponent) digits power ∧
      ∀ negative, Binary64.ofDecimal negative digits power =
        .finite negative mantissa exponent := by
  unfold Binary64.magnitudeText
  by_cases zero : mantissa = 0
  · rw [if_pos zero]
    subst zero
    have least : exponent = Binary64.leastExponent := normal.full.resolve_right (by decide)
    subst least
    exact ⟨0, -1, spells_zero, fun _ => rfl⟩
  · rw [if_neg zero]
    have nonzero := Nat.pos_of_ne_zero zero
    have rounds := Binary64.shortest_roundsTo normal nonzero
    have coefficient : 0 < (Binary64.shortest mantissa exponent).coefficient := by
      have whole := pos_of_mul_pos_left (rounds.pos nonzero) (zpow_pos (by norm_num) _).le
      exact_mod_cast whole
    obtain ⟨digits, power, spells, same⟩ := exists_spells_text coefficient
    refine ⟨digits, power, spells, fun negative => ?_⟩
    exact Binary64.ofDecimal_of_roundsTo negative normal nonzero (same ▸ rounds)

theorem readsAs_number {escape : CodePoint → Text} (negative : Bool) {mantissa : Nat}
    {exponent : Int} (normal : Binary64.IsNormal mantissa exponent) :
    ReadsAs escape (.number (.finite negative mantissa exponent))
      (.number (.finite negative mantissa exponent)) := by
  obtain ⟨digits, power, spells, rounded⟩ := exists_spells_magnitude normal
  obtain ⟨numeral, spelled, literal, value⟩ := spells.exists_numeral negative
  rw [rounded] at value
  exact readsAs_numeral spelled literal.symm value

end

end Json

end Tollgate

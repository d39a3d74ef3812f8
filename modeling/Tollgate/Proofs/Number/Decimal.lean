import Tollgate.Proofs.Json.Ascii
import Tollgate.Proofs.Text.Trim
import Tollgate.Proofs.Text.Utf8

namespace Tollgate

theorem CodePoint.decimal?_of_isAsciiDigit {c : CodePoint} (digit : c.isAsciiDigit = true) :
    c.decimal? = some (c.val - 0x30) := by
  have range := isAsciiDigit_iff.mp digit
  have inTable : c.val < 0x660 := by omega
  simp only [decimal?, inTable, range, and_self, if_true]

namespace Integer

theorem val_of_mem_decimal {n : Int} {c : CodePoint} (member : c ∈ decimal n) :
    c.val = 0x2D ∨ 0x30 ≤ c.val ∧ c.val ≤ 0x39 := by
  have digits (within : c ∈ natural n.natAbs) : 0x30 ≤ c.val ∧ c.val ≤ 0x39 :=
    CodePoint.isAsciiDigit_iff.mp (isAsciiDigit_of_mem_natural within)
  unfold decimal at member
  split at member
  · rcases List.mem_cons.mp member with rfl | within
    · exact .inl rfl
    · exact .inr (digits within)
  · exact .inr (digits member)

theorem not_isSpace_of_mem_decimal {n : Int} {c : CodePoint} (member : c ∈ decimal n) :
    c.isSpace = false := by
  have range := val_of_mem_decimal member
  simp [CodePoint.isSpace]
  omega

theorem separated?_of_digits {s : Text} (nonempty : s ≠ [])
    (digits : ∀ c ∈ s, c.isAsciiDigit = true) :
    separated? CodePoint.decimal? s = some (s.map fun c => c.val - 0x30) := by
  fun_induction separated? CodePoint.decimal? s with
  | case1 => exact absurd rfl nonempty
  | case2 c =>
    rw [CodePoint.decimal?_of_isAsciiDigit (digits c (List.mem_cons_self ..))]
    rfl
  | case3 c d s _ ih =>
    have other : d ≠ '_' := by
      rintro rfl
      exact absurd (digits _ (List.mem_cons_of_mem _ (List.mem_cons_self ..))) (by decide)
    have rest := ih (by simp) fun e member => digits e (List.mem_cons_of_mem _ member)
    rw [CodePoint.decimal?_of_isAsciiDigit (digits c (List.mem_cons_self ..)), rest]
    simp [other]

theorem ofDigits_natural (n : Nat) : ofDigits ((natural n).map fun c => c.val - 0x30) = n := by
  have value := Json.natural_natural n
  unfold ofDigits
  rw [List.foldl_map]
  exact value

theorem cutSign_decimal (n : Int) :
    cutSign (decimal n) = (decide (n < 0), natural n.natAbs) := by
  unfold decimal
  by_cases negative : n < 0
  · simp [negative, cutSign]
  · cases shape : natural n.natAbs with
    | nil => exact absurd shape (natural_ne_nil _)
    | cons c s =>
      have digit := isAsciiDigit_of_mem_natural (n := n.natAbs) (c := c) (by simp [shape])
      have noMinus : c ≠ '-' := by
        rintro rfl
        exact absurd digit (by decide)
      have noPlus : c ≠ '+' := by
        rintro rfl
        exact absurd digit (by decide)
      simp only [negative, if_false, cutSign, noMinus, noPlus, decide_false]

theorem signed_natAbs (n : Int) : signed (decide (n < 0)) n.natAbs = n := by
  unfold signed
  split
  · rename_i negative
    rw [decide_eq_true_eq] at negative
    omega
  · rename_i negative
    rw [decide_eq_true_eq] at negative
    omega

theorem parse?_decimal_eq (n : Int) :
    parse? (decimal n) = if (natural n.natAbs).length ≤ digitLimit then some n else none := by
  have solid : (decimal n).trimBy CodePoint.isSpace = decimal n :=
    Text.trimBy_eq_self fun _ member => not_isSpace_of_mem_decimal member
  have digits := separated?_of_digits (natural_ne_nil n.natAbs)
    fun _ member => isAsciiDigit_of_mem_natural member
  simp only [parse?, solid, cutSign_decimal, digits, Option.bind_eq_bind, Option.bind_some,
    List.length_map, ofDigits_natural, signed_natAbs]

theorem parse?_decimal {n : Int} (short : n.natAbs < 10 ^ digitLimit) :
    parse? (decimal n) = some n := by
  rw [parse?_decimal_eq, if_pos ((length_natural_le_iff (by decide)).mpr short)]

theorem parse?_decimal_of_long {n : Int} (long : 10 ^ digitLimit ≤ n.natAbs) :
    parse? (decimal n) = none := by
  rw [parse?_decimal_eq, if_neg]
  intro few
  rw [natural, List.length_map] at few
  have short := (Nat.length_toDigits_le_iff (by decide) (by decide)).mp few
  exact absurd long (Nat.not_le.mpr short)

theorem solid_of_val {c : CodePoint}
    (range : 0x30 ≤ c.val ∧ c.val ≤ 0x39 ∨ 0xB0 ≤ c.val ∧ c.val ≤ 0xBF) :
    c.isSpace = false ∧ c ≠ '-' ∧ c ≠ '+' := by
  have minus : (CodePoint.ofChar '-').val = 0x2D := rfl
  have plus : (CodePoint.ofChar '+').val = 0x2B := rfl
  refine ⟨by simp [CodePoint.isSpace]; omega, ?_, ?_⟩
  all_goals
    intro same
    rw [same] at range
    omega

theorem parse?_of_solid {s : Text}
    (solid : ∀ c ∈ s, c.isSpace = false ∧ c ≠ '-' ∧ c ≠ '+') :
    parse? s = (separated? CodePoint.decimal? s).bind fun digits =>
      if digits.length ≤ digitLimit then some (ofDigits digits : Int) else none := by
  have whole : s.trimBy CodePoint.isSpace = s :=
    Text.trimBy_eq_self fun c member => (solid c member).1
  have noSign : cutSign s = (false, s) := by
    cases s with
    | nil => rfl
    | cons c s =>
      obtain ⟨-, noMinus, noPlus⟩ := solid c (List.mem_cons_self ..)
      simp only [cutSign, noMinus, noPlus, if_false]
  simp only [parse?, whole, noSign, Option.bind_eq_bind]
  rfl

theorem parse?_of_digits {s : Text} (nonempty : s ≠ [])
    (digits : ∀ c ∈ s, c.isAsciiDigit = true) :
    parse? s = if s.length ≤ digitLimit then some (ofDigits (s.map fun c => c.val - 0x30) : Int)
      else none := by
  rw [parse?_of_solid, separated?_of_digits nonempty digits, Option.bind_some, List.length_map]
  intro c member
  have range := CodePoint.isAsciiDigit_iff.mp (digits c member)
  exact solid_of_val (by omega)

theorem separated?_eq_none {digit? : CodePoint → Option Nat} {s : Text} {c : CodePoint}
    (member : c ∈ s) (other : c ≠ '_') (noDigit : digit? c = none) :
    separated? digit? s = none := by
  fun_induction separated? digit? s with
  | case1 => cases member
  | case2 d =>
    cases List.mem_singleton.mp member
    rw [noDigit]
    rfl
  | case3 d e s skipped next =>
    rcases List.mem_cons.mp member with rfl | later
    · rw [noDigit]
      rfl
    · -- an underscore between digits is skipped, and is not the character in question
      by_cases mark : e = '_'
      · have inside : c ∈ s := (List.mem_cons.mp later).resolve_left fun same =>
          other (same.trans mark)
        simp [mark, skipped inside]
      · simp [mark, next later]

theorem decimal_injective {m n : Int} (same : decimal m = decimal n) : m = n := by
  have cut := congrArg cutSign same
  rw [cutSign_decimal, cutSign_decimal] at cut
  obtain ⟨sign, digits⟩ := Prod.mk.inj cut
  have size : m.natAbs = n.natAbs := by
    rw [← ofDigits_natural m.natAbs, digits, ofDigits_natural]
  rw [← signed_natAbs m, sign, size, signed_natAbs]

end Integer

end Tollgate

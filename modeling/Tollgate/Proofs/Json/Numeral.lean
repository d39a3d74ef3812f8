import Mathlib.Algebra.Group.Nat.Defs
import Tollgate.Proofs.Json.Scanning

namespace Tollgate

theorem CodePoint.isAsciiDigit_iff {c : CodePoint} :
    c.isAsciiDigit = true ↔ 0x30 ≤ c.val ∧ c.val ≤ 0x39 := by
  simp only [isAsciiDigit, Bool.and_eq_true, decide_eq_true_eq, Fin.le_def]
  exact Iff.rfl

namespace Integer

theorem natural_ne_nil (n : Nat) : natural n ≠ [] := by
  simp [natural, Nat.toDigits_ne_nil]

theorem isAsciiDigit_of_mem_natural {n : Nat} {c : CodePoint} (member : c ∈ natural n) :
    c.isAsciiDigit = true := by
  obtain ⟨d, digit, rfl⟩ := List.mem_map.mp member
  have isDigit := Nat.isDigit_of_mem_toDigits (by decide) (by decide) digit
  exact CodePoint.isAsciiDigit_iff.mpr (Char.isDigit_iff_toNat.mp isDigit)

theorem length_natural_le_iff {n k : Nat} (positive : 0 < k) :
    (natural n).length ≤ k ↔ n < 10 ^ k := by
  rw [natural, List.length_map]
  exact Nat.length_toDigits_le_iff (by decide) positive

theorem isWritable_iff {n : Int} : isWritable n = true ↔ n.natAbs < 10 ^ digitLimit := by
  rw [isWritable, decide_eq_true_eq]
  exact length_natural_le_iff (by decide)

theorem head_natural_ne_zero {n : Nat} (positive : 0 < n) {c : CodePoint} {s : Text}
    (shape : natural n = c :: s) : c ≠ '0' := by
  induction n using Nat.strongRecOn generalizing c s with
  | ind n ih =>
    unfold natural at shape
    rw [Nat.toDigits_eq_if (by decide)] at shape
    split at shape
    · rename_i small
      have all : ∀ i : Fin 10, 0 < i.val → CodePoint.ofChar (Nat.digitChar i.val) ≠ '0' := by decide
      cases shape
      exact all ⟨n, small⟩ positive
    · rename_i large
      rw [List.map_append] at shape
      cases first : natural (n / 10) with
      | nil => exact absurd first (natural_ne_nil _)
      | cons d t =>
        have head := ih (n / 10) (by omega) (by omega) first
        unfold natural at first
        rw [first] at shape
        cases shape
        exact head

end Integer

namespace Json

theorem natural_natural (n : Nat) : Numeral.natural (Integer.natural n) = n := by
  have step : (fun (sofar : Nat) (c : Char) => sofar * 10 + ((CodePoint.ofChar c).val - 0x30)) =
      fun sofar c => 10 * sofar + (c.toNat - '0'.toNat) := by
    funext sofar c
    rw [Nat.mul_comm]
    rfl
  unfold Numeral.natural Integer.natural
  rw [List.foldl_map, step, ← Nat.ofDigitChars_eq_foldl]
  exact Nat.ofDigitChars_ten_toDigits

def EndsNumeral (rest : Text) : Prop :=
  rest = [] ∨ ∃ c s, rest = c :: s ∧ (c = ',' ∨ c = ']' ∨ c = '}')

section

variable {rest : Text}

theorem EndsNumeral.stops (ends : EndsNumeral rest) : Numeral.Stops rest := by
  rcases ends with rfl | ⟨c, s, rfl, rfl | rfl | rfl⟩
  · exact Numeral.stops_nil
  all_goals exact Numeral.stops_cons (by decide) (by decide) (by decide) (by decide) s

theorem isWhole_natural (n : Nat) : Numeral.IsWhole (Integer.natural n) := by
  rcases Nat.eq_zero_or_pos n with rfl | positive
  · exact .zero
  · cases shape : Integer.natural n with
    | nil => exact absurd shape (Integer.natural_ne_nil n)
    | cons c s =>
      have all : ∀ d ∈ c :: s, d.isAsciiDigit = true := by
        rw [← shape]
        exact fun d => Integer.isAsciiDigit_of_mem_natural
      exact .row c s (Integer.head_natural_ne_zero positive shape) (all c (.head _))
        fun d member => all d (.tail _ member)

def wholeNumeral (negative : Bool) (n : Nat) : Numeral where
  literal := if negative then '-' :: Integer.natural n else Integer.natural n
  negative
  whole := Integer.natural n
  fraction := none
  exponent := none

theorem isSpelled_wholeNumeral (negative : Bool) (n : Nat) :
    (wholeNumeral negative n).IsSpelled := by
  cases negative with
  | false => exact ⟨_, [], [], .absent, isWhole_natural n, .absent, .absent, by simp [wholeNumeral]⟩
  | true => exact ⟨_, [], [], .minus, isWhole_natural n, .absent, .absent, by simp [wholeNumeral]⟩

theorem value_wholeNumeral (negative : Bool) {n : Nat} (short : n < 10 ^ Integer.digitLimit) :
    (wholeNumeral negative n).value = .ok (.integer (Integer.signed negative n)) := by
  have length := (Integer.length_natural_le_iff (by decide)).mpr short
  simp [Numeral.value, wholeNumeral, length, natural_natural]

theorem ofChar_ne_digit {d : Char} {c : CodePoint} (digit : c.isAsciiDigit = true)
    (noDigit : (CodePoint.ofChar d).isAsciiDigit = false) : CodePoint.ofChar d ≠ c := by
  rintro rfl
  exact absurd (digit.symm.trans noDigit) (by decide)

theorem constant?_unsigned {c : CodePoint} (digit : c.isAsciiDigit = true) (s : Text) :
    constant? (c :: s) = none := by
  have other : ∀ d ∈ ['n', 't', 'f', 'N', 'I', '-'], CodePoint.ofChar d ≠ c := by
    have noDigit : ∀ d ∈ ['n', 't', 'f', 'N', 'I', '-'],
        (CodePoint.ofChar d).isAsciiDigit = false := by
      simp [CodePoint.isAsciiDigit, CodePoint.ofChar]
    exact fun d member => ofChar_ne_digit digit (noDigit d member)
  simp only [List.forall_mem_cons] at other
  simp [constant?, constants, Text.startsWith, Text.lit, other]

theorem constant?_negative {c : CodePoint} (digit : c.isAsciiDigit = true) (s : Text) :
    constant? (CodePoint.ofChar '-' :: c :: s) = none := by
  have noLetter : CodePoint.ofChar 'I' ≠ c := ofChar_ne_digit digit (by decide)
  have others : ∀ d ∈ ['n', 't', 'f', 'N', 'I'], CodePoint.ofChar d ≠ '-' := by
    simp [CodePoint.ofChar]
  simp only [List.forall_mem_cons] at others
  simp [constant?, constants, Text.startsWith, Text.lit, noLetter, others]

theorem readScalar_decimal (ends : EndsNumeral rest) {n : Int}
    (short : n.natAbs < 10 ^ Integer.digitLimit) :
    readScalar Numeral.value (Integer.decimal n ++ rest) = .ok (.integer n, rest) := by
  obtain ⟨c, s, shape⟩ := List.exists_cons_of_ne_nil (Integer.natural_ne_nil n.natAbs)
  have digit := Integer.isAsciiDigit_of_mem_natural (n := n.natAbs) (c := c) (by simp [shape])
  unfold Integer.decimal readScalar
  by_cases negative : n < 0
  · have noConstant :
        constant? (CodePoint.ofChar '-' :: Integer.natural n.natAbs ++ rest) = none := by
      rw [shape]
      exact constant?_negative digit _
    have scanned : Numeral.scan? (CodePoint.ofChar '-' :: Integer.natural n.natAbs ++ rest) =
        some (wholeNumeral true n.natAbs, rest) :=
      Numeral.scan?_append (isSpelled_wholeNumeral true n.natAbs) ends.stops
    have value : Integer.signed true n.natAbs = n := by
      simp only [Integer.signed, if_true]
      omega
    simp only [negative, if_true, noConstant, scanned, value_wholeNumeral true short, value]
    rfl
  · have noConstant : constant? (Integer.natural n.natAbs ++ rest) = none := by
      rw [shape]
      exact constant?_unsigned digit _
    have scanned : Numeral.scan? (Integer.natural n.natAbs ++ rest) =
        some (wholeNumeral false n.natAbs, rest) :=
      Numeral.scan?_append (isSpelled_wholeNumeral false n.natAbs) ends.stops
    have value : Integer.signed false n.natAbs = n := by
      simp only [Integer.signed, Bool.false_eq_true, if_false]
      omega
    simp only [negative, if_false, noConstant, scanned, value_wholeNumeral false short, value]
    rfl

end

end Json

end Tollgate

import Tollgate.Proofs.Json.Literal
import Tollgate.Proofs.Json.Numeral

namespace Tollgate

theorem Text.isAscii_append {s t : Text} : (s ++ t).isAscii = (s.isAscii && t.isAscii) :=
  List.all_append

theorem Text.isAscii_join (separator : Text) (mark : separator.isAscii = true) {items : List Text}
    (all : ∀ item ∈ items, item.isAscii = true) : (Text.join separator items).isAscii = true := by
  induction items with
  | nil => rfl
  | cons first items ih =>
    have head := all first (List.mem_cons_self ..)
    have tail := ih fun item member => all item (List.mem_cons_of_mem _ member)
    cases items with
    | nil => exact head
    | cons second items =>
      simp only [Text.join, Text.isAscii_append, head, mark, tail, Bool.and_self]

theorem Text.isAscii_of_subset {s t : Text} (ascii : t.isAscii = true) (subset : s ⊆ t) :
    s.isAscii = true :=
  List.all_eq_true.mpr fun c member => List.all_eq_true.mp ascii c (subset member)

theorem Integer.isAscii_natural (n : Nat) : (natural n).isAscii = true := by
  refine List.all_eq_true.mpr fun c member => ?_
  have range := CodePoint.isAsciiDigit_iff.mp (isAsciiDigit_of_mem_natural member)
  simp only [CodePoint.isAscii, decide_eq_true_eq]
  omega

theorem Integer.isAscii_decimal (n : Int) : (decimal n).isAscii = true := by
  have digits := isAscii_natural n.natAbs
  unfold decimal
  split
  · have sign : (CodePoint.ofChar '-').isAscii = true := by decide
    simp only [Text.isAscii, List.all_cons, sign, Bool.true_and]
    exact digits
  · exact digits

namespace Binary64

theorem isAscii_zeros (n : Nat) : (zeros n).isAscii = true := by
  refine List.all_eq_true.mpr fun c member => ?_
  rw [List.eq_of_mem_replicate member]
  decide

theorem Decimal.isAscii_text (d : Decimal) : d.text.isAscii = true := by
  have digits := Integer.isAscii_natural d.coefficient
  have start (k : Nat) := Text.isAscii_of_subset digits (List.take_subset k _)
  have rest (k : Nat) := Text.isAscii_of_subset digits (List.drop_subset k _)
  have point : (Text.lit ".").isAscii = true := by decide
  have zero : (Text.lit "0.").isAscii = true ∧ (Text.lit ".0").isAscii = true := by decide
  unfold Decimal.text
  dsimp only
  split
  · split
    · simp only [Text.isAscii_append, digits, isAscii_zeros, zero, Bool.and_self]
    · split
      · simp only [Text.isAscii_append, digits, isAscii_zeros, zero, Bool.and_self]
      · simp only [Text.isAscii_append, start, rest, point, Bool.and_self]
  · have mark (first : Int) : (Text.lit (if first < 0 then "e-" else "e+")).isAscii = true := by
      split <;> decide
    have fraction : Text.isAscii (if ((Integer.natural d.coefficient).drop 1).isEmpty then [] else
        Text.lit "." ++ (Integer.natural d.coefficient).drop 1) = true := by
      split
      · rfl
      · simp only [Text.isAscii_append, point, rest, Bool.and_self]
    simp only [Text.isAscii_append, start, fraction, mark, padded, isAscii_zeros,
      Integer.isAscii_natural, Bool.and_self]

theorem isAscii_text (x : Binary64) {infinity notANumber : String}
    (named : (Text.lit infinity).isAscii = true ∧ (Text.lit notANumber).isAscii = true) :
    (x.text infinity notANumber).isAscii = true := by
  have sign (negative : Bool) : (signText negative).isAscii = true := by cases negative <;> decide
  cases x with
  | finite negative m e =>
    have size : (magnitudeText m e).isAscii = true := by
      unfold magnitudeText
      split
      · decide
      · exact Decimal.isAscii_text _
    simp only [text, Text.isAscii_append, sign, size, Bool.and_self]
  | infinite negative => simp only [text, Text.isAscii_append, sign, named.1, Bool.and_self]
  | nan => exact named.2

end Binary64

namespace Json

theorem isAscii_string (s : Text) : (string escapeToAscii s).isAscii = true := by
  have content : Text.isAscii (s.flatMap escapeToAscii) = true := by
    refine List.all_eq_true.mpr fun c member => ?_
    obtain ⟨d, -, member⟩ := List.mem_flatMap.mp member
    exact List.all_eq_true.mp (isAscii_escapeToAscii d) c member
  simp only [string, Text.isAscii_append, content]
  decide

mutual

theorem isAscii_compact : ∀ value : Json, (compact value).isAscii = true
  | .null => by decide
  | .bool b => by cases b <;> decide
  | .integer n => Integer.isAscii_decimal n
  | .number x => x.isAscii_text (by decide)
  | .text s => isAscii_string s
  | .list items => by
    have all := Text.isAscii_join (Text.lit ",") (by decide) (isAscii_items items)
    simp only [compact, compactWith, Text.isAscii_append, all]
    decide
  | .object members => by
    have all := Text.isAscii_join (Text.lit ",") (by decide) (isAscii_members members)
    simp only [compact, compactWith, Text.isAscii_append, all]
    decide

theorem isAscii_items : ∀ items : List Json,
    ∀ item ∈ compactItems escapeToAscii items, item.isAscii = true
  | [], _, member => nomatch member
  | item :: items, s, member => by
    rcases List.mem_cons.mp member with rfl | member
    · exact isAscii_compact item
    · exact isAscii_items items s member

theorem isAscii_members : ∀ members : List (Text × Json),
    ∀ member ∈ compactMembers escapeToAscii members, member.isAscii = true
  | [], _, member => nomatch member
  | (key, value) :: members, s, member => by
    rcases List.mem_cons.mp member with rfl | member
    · have value := isAscii_compact value
      unfold compact at value
      simp only [Text.isAscii_append, isAscii_string, value]
      decide
    · exact isAscii_members members s member

end

end Json

end Tollgate

import Mathlib.Data.List.TakeDrop
import Mathlib.Data.List.TakeWhile
import Tollgate.Json.Reader

namespace Tollgate.Json

def IsDigits (s : Text) : Prop := s ≠ [] ∧ ∀ c ∈ s, c.isAsciiDigit = true

namespace Numeral

inductive IsMinus : Bool → Text → Prop where
  | absent : IsMinus false []
  | minus : IsMinus true ['-']

inductive IsWhole : Text → Prop where
  | zero : IsWhole ['0']
  | row (c : CodePoint) (s : Text) (nonzero : c ≠ '0') (first : c.isAsciiDigit = true)
    (digits : ∀ d ∈ s, d.isAsciiDigit = true) : IsWhole (c :: s)

inductive IsFraction : Option Text → Text → Prop where
  | absent : IsFraction none []
  | digits (s : Text) (digits : IsDigits s) : IsFraction (some s) ('.' :: s)

inductive IsSign : Bool → Text → Prop where
  | absent : IsSign false []
  | plus : IsSign false ['+']
  | minus : IsSign true ['-']

inductive IsExponent : Option (Bool × Text) → Text → Prop where
  | absent : IsExponent none []
  | digits (mark : CodePoint) (negative : Bool) (sign s : Text) (letter : mark = 'e' ∨ mark = 'E')
    (signed : IsSign negative sign) (digits : IsDigits s) :
    IsExponent (some (negative, s)) (mark :: (sign ++ s))

/-- The literal spells the parts of the numeral, as JSON has them. -/
def IsSpelled (numeral : Numeral) : Prop :=
  ∃ minus fraction exponent, IsMinus numeral.negative minus ∧ IsWhole numeral.whole ∧
    IsFraction numeral.fraction fraction ∧ IsExponent numeral.exponent exponent ∧
    numeral.literal = minus ++ (numeral.whole ++ (fraction ++ exponent))

structure IsOverlong (numeral : Numeral) : Prop where
  fraction : numeral.fraction = none
  exponent : numeral.exponent = none
  long : Integer.digitLimit < numeral.whole.length

def StopsDigits (s : Text) : Prop := ∀ c t, s = c :: t → c.isAsciiDigit = false

def StopsFraction (s : Text) : Prop :=
  ∀ c t, s = CodePoint.ofChar '.' :: c :: t → c.isAsciiDigit = false

def StopsExponent (s : Text) : Prop :=
  ∀ mark negative sign c t, mark = CodePoint.ofChar 'e' ∨ mark = CodePoint.ofChar 'E' →
    IsSign negative sign → s = mark :: (sign ++ c :: t) → c.isAsciiDigit = false

/-- Nothing comes next that a whole number goes on with. -/
structure Stops (s : Text) : Prop where
  digits : StopsDigits s
  fraction : StopsFraction s
  exponent : StopsExponent s

section

variable {s rest digits whole : Text} {c : CodePoint}

theorem stops_nil : Stops [] := ⟨nofun, nofun, nofun⟩

theorem stops_cons (noDigit : c.isAsciiDigit = false) (noPoint : c ≠ '.') (noMark : c ≠ 'e')
    (noCapital : c ≠ 'E') (s : Text) : Stops (c :: s) where
  digits _ _ same := by cases same; exact noDigit
  fraction _ _ same := by cases same; exact absurd rfl noPoint
  exponent _ _ _ _ _ letter _ same := by
    cases same
    rcases letter with mark | capital
    · exact absurd mark noMark
    · exact absurd capital noCapital

theorem digitsOf_eq (s : Text) :
    ∃ digits rest, digitsOf s = (digits, rest) ∧ s = digits ++ rest ∧
      (∀ c ∈ digits, c.isAsciiDigit = true) ∧ StopsDigits rest := by
  refine ⟨_, _, List.span_eq_takeWhile_dropWhile .., List.takeWhile_append_dropWhile.symm,
    fun c => List.mem_takeWhile_imp, fun c t shape => ?_⟩
  have stopped := List.head?_dropWhile_not CodePoint.isAsciiDigit s
  rwa [shape] at stopped

theorem digitsOf_append (all : ∀ c ∈ digits, c.isAsciiDigit = true) (stops : StopsDigits rest) :
    digitsOf (digits ++ rest) = (digits, rest) := by
  have none : rest.takeWhile CodePoint.isAsciiDigit = [] ∧
      rest.dropWhile CodePoint.isAsciiDigit = rest := by
    cases rest with
    | nil => exact ⟨rfl, rfl⟩
    | cons c t => simp [stops c t rfl]
  unfold digitsOf
  rw [List.span_eq_takeWhile_dropWhile, List.takeWhile_append_of_pos all,
    List.dropWhile_append_of_pos all, none.1, none.2, List.append_nil]

theorem digitsOf_of_digit (digit : c.isAsciiDigit = true) (t : Text) :
    ∃ digits rest, digitsOf (c :: t) = (digits, rest) ∧ digits ≠ [] := by
  obtain ⟨digits, rest, cut, shape, -, stops⟩ := digitsOf_eq (c :: t)
  refine ⟨digits, rest, cut, ?_⟩
  rintro rfl
  have stopped := stops c t shape.symm
  rw [digit] at stopped
  cases stopped

theorem scanWhole?_sound (scanned : scanWhole? s = some (whole, rest)) :
    IsWhole whole ∧ s = whole ++ rest ∧ (1 < whole.length → StopsDigits rest) := by
  cases s with
  | nil => cases scanned
  | cons c s =>
    simp only [scanWhole?] at scanned
    split at scanned
    · rename_i zero
      cases zero
      cases scanned
      -- digits may follow a zero, and are left alone
      exact ⟨.zero, rfl, fun long => absurd long (by decide)⟩
    · rename_i nonzero
      split at scanned
      · rename_i first
        obtain ⟨digits, after, cut, shape, all, stops⟩ := digitsOf_eq (c :: s)
        rw [cut] at scanned
        cases scanned
        cases whole with
        | nil =>
          have continued := stops c s shape.symm
          rw [first] at continued
          cases continued
        | cons d whole =>
          cases shape
          exact ⟨.row c whole nonzero first fun d member => all d (.tail _ member), rfl,
            fun _ => stops⟩
      · cases scanned

theorem scanWhole?_append (isWhole : IsWhole whole) (stops : StopsDigits rest) :
    scanWhole? (whole ++ rest) = some (whole, rest) := by
  cases isWhole with
  | zero => rfl
  | row c s nonzero first digits =>
    have all : ∀ d ∈ c :: s, d.isAsciiDigit = true := List.forall_mem_cons.mpr ⟨first, digits⟩
    have cut := digitsOf_append all stops
    rw [List.cons_append] at cut ⊢
    simp only [scanWhole?, nonzero, first, if_false, if_true, cut]

theorem scanFraction_of_digit (digit : c.isAsciiDigit = true) (t : Text) :
    ∃ fraction rest, scanFraction (CodePoint.ofChar '.' :: c :: t) = (some fraction, rest) := by
  obtain ⟨digits, after, cut, nonempty⟩ := digitsOf_of_digit digit t
  refine ⟨digits, after, ?_⟩
  simp [scanFraction, cut, nonempty]

theorem scanFraction_sound {fraction : Option Text} (scanned : scanFraction s = (fraction, rest)) :
    ∃ spelling, IsFraction fraction spelling ∧ s = spelling ++ rest ∧
      (fraction = none → StopsFraction rest) := by
  have stops (none : fraction = none) : StopsFraction s := by
    rintro c t rfl
    by_contra digit
    rw [Bool.not_eq_false] at digit
    obtain ⟨other, after, found⟩ := scanFraction_of_digit digit t
    cases none
    cases scanned.symm.trans found
  cases s with
  | nil =>
    cases scanned
    exact ⟨[], .absent, rfl, stops⟩
  | cons c s =>
    obtain ⟨digits, after, cut, rfl, all, -⟩ := digitsOf_eq s
    simp only [scanFraction, cut] at scanned
    split at scanned
    · rename_i pointed
      simp only [Bool.and_eq_true, decide_eq_true_eq, Bool.not_eq_true', List.isEmpty_eq_false_iff]
        at pointed
      cases scanned
      cases pointed.1
      exact ⟨_, .digits digits ⟨pointed.2, all⟩, rfl, nofun⟩
    · cases scanned
      exact ⟨[], .absent, rfl, stops⟩

theorem scanFraction_append {fraction : Option Text} {spelling : Text}
    (isFraction : IsFraction fraction spelling) (digits : StopsDigits rest)
    (stops : StopsFraction rest) : scanFraction (spelling ++ rest) = (fraction, rest) := by
  cases isFraction with
  | absent =>
    cases scanned : scanFraction rest with
    | mk found after =>
      obtain ⟨other, isFraction, rfl, -⟩ := scanFraction_sound scanned
      cases isFraction with
      | absent => exact scanned
      | digits s row =>
        obtain ⟨c, t, rfl⟩ := List.exists_cons_of_ne_nil row.1
        have stopped := stops c (t ++ after) rfl
        rw [row.2 c (.head _)] at stopped
        cases stopped
  | digits s row =>
    simp [scanFraction, digitsOf_append row.2 digits, row.1]

theorem cutSign_eq (s : Text) :
    ∃ negative sign rest, Integer.cutSign s = (negative, rest) ∧ IsSign negative sign ∧
      s = sign ++ rest := by
  cases s with
  | nil => exact ⟨false, [], [], rfl, .absent, rfl⟩
  | cons c s =>
    by_cases minus : c = '-'
    · subst minus
      exact ⟨true, _, s, rfl, .minus, rfl⟩
    · by_cases plus : c = '+'
      · subst plus
        exact ⟨false, _, s, rfl, .plus, rfl⟩
      · refine ⟨false, [], c :: s, ?_, .absent, rfl⟩
        simp only [Integer.cutSign, minus, plus, if_false]

theorem cutSign_append {negative : Bool} {sign : Text} (signed : IsSign negative sign)
    (digit : c.isAsciiDigit = true) (t : Text) :
    Integer.cutSign (sign ++ c :: t) = (negative, c :: t) := by
  cases signed with
  | absent =>
    have noMinus : c ≠ '-' := by rintro rfl; exact absurd digit (by decide)
    have noPlus : c ≠ '+' := by rintro rfl; exact absurd digit (by decide)
    simp only [List.nil_append, Integer.cutSign, noMinus, noPlus, if_false]
  | plus => rfl
  | minus => rfl

theorem scanExponent_of_digit {mark : CodePoint} {negative : Bool} {sign : Text}
    (letter : mark = 'e' ∨ mark = 'E') (signed : IsSign negative sign)
    (digit : c.isAsciiDigit = true) (t : Text) :
    ∃ exponent rest, scanExponent (mark :: (sign ++ c :: t)) = (some exponent, rest) := by
  obtain ⟨digits, after, cut, nonempty⟩ := digitsOf_of_digit digit t
  refine ⟨(negative, digits), after, ?_⟩
  simp [scanExponent, cutSign_append signed digit t, cut, letter, nonempty]

theorem scanExponent_sound {exponent : Option (Bool × Text)}
    (scanned : scanExponent s = (exponent, rest)) :
    ∃ spelling, IsExponent exponent spelling ∧ s = spelling ++ rest ∧
      (exponent = none → StopsExponent rest) := by
  have stops (none : exponent = none) : StopsExponent s := by
    rintro mark negative sign c t letter signed rfl
    by_contra digit
    rw [Bool.not_eq_false] at digit
    obtain ⟨other, after, found⟩ := scanExponent_of_digit letter signed digit t
    cases none
    cases scanned.symm.trans found
  cases s with
  | nil =>
    cases scanned
    exact ⟨[], .absent, rfl, stops⟩
  | cons mark s =>
    obtain ⟨negative, sign, unsigned, signCut, signed, rfl⟩ := cutSign_eq s
    obtain ⟨digits, after, cut, rfl, all, -⟩ := digitsOf_eq unsigned
    simp only [scanExponent, signCut, cut] at scanned
    split at scanned
    · rename_i marked
      simp only [Bool.and_eq_true, Bool.or_eq_true, decide_eq_true_eq, Bool.not_eq_true',
        List.isEmpty_eq_false_iff] at marked
      cases scanned
      exact ⟨_, .digits mark negative sign digits marked.1 signed ⟨marked.2, all⟩,
        by simp, nofun⟩
    · cases scanned
      exact ⟨[], .absent, rfl, stops⟩

theorem scanExponent_append {exponent : Option (Bool × Text)} {spelling : Text}
    (isExponent : IsExponent exponent spelling) (digits : StopsDigits rest)
    (stops : StopsExponent rest) : scanExponent (spelling ++ rest) = (exponent, rest) := by
  cases isExponent with
  | absent =>
    cases scanned : scanExponent rest with
    | mk found after =>
      obtain ⟨other, isExponent, rfl, -⟩ := scanExponent_sound scanned
      cases isExponent with
      | absent => exact scanned
      | digits mark negative sign s letter signed row =>
        obtain ⟨c, t, rfl⟩ := List.exists_cons_of_ne_nil row.1
        have stopped := stops mark negative sign c (t ++ after) letter signed (by simp)
        rw [row.2 c (.head _)] at stopped
        cases stopped
  | digits mark negative sign s letter signed row =>
    obtain ⟨c, t, rfl⟩ := List.exists_cons_of_ne_nil row.1
    have cut := digitsOf_append row.2 digits
    have signCut := cutSign_append signed (row.2 c (.head _)) (t ++ rest)
    simp only [List.cons_append] at cut
    simp [scanExponent, signCut, cut, letter]

def cutMinus : Text → Bool × Text
  | [] => (false, [])
  | c :: rest => if c = '-' then (true, rest) else (false, c :: rest)

theorem scan?_eq_some_iff {numeral : Numeral} : scan? s = some (numeral, rest) ↔
    ∃ unsigned afterWhole afterFraction, cutMinus s = (numeral.negative, unsigned) ∧
      scanWhole? unsigned = some (numeral.whole, afterWhole) ∧
      scanFraction afterWhole = (numeral.fraction, afterFraction) ∧
      scanExponent afterFraction = (numeral.exponent, rest) ∧
      numeral.literal = s.take (s.length - rest.length) := by
  have parts : scan? s = (scanWhole? (cutMinus s).2).map fun whole =>
      let fraction := scanFraction whole.2
      let exponent := scanExponent fraction.2
      ({ literal := s.take (s.length - exponent.2.length), negative := (cutMinus s).1,
         whole := whole.1, fraction := fraction.1, exponent := exponent.1 }, exponent.2) := by
    unfold scan? cutMinus
    cases s with
    | nil => rfl
    | cons c s =>
      dsimp only
      cases scanWhole? (if c = CodePoint.ofChar '-' then (true, s) else (false, c :: s)).2 <;> rfl
  rw [parts]
  constructor
  · intro scanned
    obtain ⟨⟨whole, afterWhole⟩, wholeScanned, same⟩ := Option.map_eq_some_iff.mp scanned
    cases same
    exact ⟨_, _, _, rfl, wholeScanned, rfl, rfl, rfl⟩
  · rintro ⟨unsigned, afterWhole, afterFraction, minus, whole, fraction, exponent, literal⟩
    rw [minus, whole]
    simp only [Option.map_some, fraction, exponent, ← literal]

theorem cutMinus_sound {negative : Bool} (cut : cutMinus s = (negative, rest)) :
    ∃ minus, IsMinus negative minus ∧ s = minus ++ rest := by
  cases s with
  | nil =>
    cases cut
    exact ⟨[], .absent, rfl⟩
  | cons c s =>
    simp only [cutMinus] at cut
    split at cut
    · rename_i minus
      cases minus
      cases cut
      exact ⟨_, .minus, rfl⟩
    · cases cut
      exact ⟨[], .absent, rfl⟩

theorem IsWhole.exists_digit (isWhole : IsWhole whole) :
    ∃ c s, whole = c :: s ∧ c.isAsciiDigit = true := by
  cases isWhole with
  | zero => exact ⟨_, [], rfl, by decide⟩
  | row c s _ first => exact ⟨c, s, rfl, first⟩

theorem cutMinus_append {negative : Bool} {minus : Text} (isMinus : IsMinus negative minus)
    (isWhole : IsWhole whole) (t : Text) :
    cutMinus (minus ++ (whole ++ t)) = (negative, whole ++ t) := by
  obtain ⟨c, s, rfl, digit⟩ := isWhole.exists_digit
  cases isMinus with
  | absent =>
    have noMinus : c ≠ '-' := by
      rintro rfl
      exact absurd digit (by decide)
    simp only [List.nil_append, List.cons_append, cutMinus, noMinus, if_false]
  | minus => rfl

theorem scan?_sound {numeral : Numeral} (scanned : scan? s = some (numeral, rest)) :
    numeral.IsSpelled ∧ s = numeral.literal ++ rest ∧ (numeral.IsOverlong → Stops rest) := by
  obtain ⟨unsigned, afterWhole, afterFraction, cut, wholeScanned, fractionScanned,
    exponentScanned, literal⟩ := scan?_eq_some_iff.mp scanned
  obtain ⟨minus, isMinus, rfl⟩ := cutMinus_sound cut
  obtain ⟨isWhole, rfl, stopsDigits⟩ := scanWhole?_sound wholeScanned
  obtain ⟨fraction, isFraction, rfl, stopsFraction⟩ := scanFraction_sound fractionScanned
  obtain ⟨exponent, isExponent, rfl, stopsExponent⟩ := scanExponent_sound exponentScanned
  have whole : numeral.literal = minus ++ (numeral.whole ++ (fraction ++ exponent)) := by
    rw [literal, ← List.append_assoc, ← List.append_assoc, ← List.append_assoc, List.length_append,
      Nat.add_sub_cancel, List.take_left]
    simp only [List.append_assoc]
  refine ⟨⟨minus, fraction, exponent, isMinus, isWhole, isFraction, isExponent, whole⟩, ?_, ?_⟩
  · rw [whole]
    simp only [List.append_assoc]
  · intro overlong
    have long : 1 < numeral.whole.length := Nat.lt_trans (by decide) overlong.long
    rw [overlong.fraction] at isFraction
    rw [overlong.exponent] at isExponent
    cases isFraction
    cases isExponent
    exact ⟨stopsDigits long, stopsFraction overlong.fraction, stopsExponent overlong.exponent⟩

theorem IsExponent.stopsDigits {exponent : Option (Bool × Text)} {spelling : Text}
    (isExponent : IsExponent exponent spelling) (stops : StopsDigits rest) :
    StopsDigits (spelling ++ rest) := by
  cases isExponent with
  | absent => exact stops
  | digits mark negative sign s letter =>
    intro c t shape
    cases shape
    rcases letter with rfl | rfl
    all_goals decide

theorem IsExponent.stopsFraction {exponent : Option (Bool × Text)} {spelling : Text}
    (isExponent : IsExponent exponent spelling) (stops : StopsFraction rest) :
    StopsFraction (spelling ++ rest) := by
  cases isExponent with
  | absent => exact stops
  | digits mark negative sign s letter =>
    intro c t shape
    rw [List.cons_append] at shape
    have mark := (List.cons.inj shape).1
    rcases letter with rfl | rfl
    all_goals exact absurd mark (by decide)

theorem IsFraction.stopsDigits {fraction : Option Text} {spelling : Text}
    (isFraction : IsFraction fraction spelling) (stops : StopsDigits rest) :
    StopsDigits (spelling ++ rest) := by
  cases isFraction with
  | absent => exact stops
  | digits s row =>
    intro c t shape
    cases shape
    decide

theorem scan?_append {numeral : Numeral} (spelled : numeral.IsSpelled) (stops : Stops rest) :
    scan? (numeral.literal ++ rest) = some (numeral, rest) := by
  obtain ⟨minus, fraction, exponent, isMinus, isWhole, isFraction, isExponent, literal⟩ := spelled
  have afterFraction := isExponent.stopsDigits stops.digits
  refine scan?_eq_some_iff.mpr ⟨numeral.whole ++ (fraction ++ (exponent ++ rest)),
    fraction ++ (exponent ++ rest), exponent ++ rest, ?_, ?_, ?_, ?_, ?_⟩
  · rw [literal, List.append_assoc, List.append_assoc, List.append_assoc]
    exact cutMinus_append isMinus isWhole _
  · exact scanWhole?_append isWhole (isFraction.stopsDigits afterFraction)
  · exact scanFraction_append isFraction afterFraction (isExponent.stopsFraction stops.fraction)
  · exact scanExponent_append isExponent stops.digits stops.exponent
  · rw [List.length_append, Nat.add_sub_cancel, List.take_left]

theorem value_eq_tooManyDigits_iff {numeral : Numeral} :
    numeral.value = .error .tooManyDigits ↔ numeral.IsOverlong := by
  obtain ⟨literal, negative, whole, fraction, exponent⟩ := numeral
  unfold value
  cases fraction with
  | some fraction =>
    refine iff_of_false nofun fun overlong => ?_
    cases overlong.fraction
  | none =>
    cases exponent with
    | some exponent =>
      refine iff_of_false nofun fun overlong => ?_
      cases overlong.exponent
    | none =>
      by_cases short : whole.length ≤ Integer.digitLimit
      · refine iff_of_false (by simp [short]) fun overlong => ?_
        exact absurd overlong.long (Nat.not_lt.mpr short)
      · exact iff_of_true (by simp [short]) ⟨rfl, rfl, Nat.lt_of_not_le short⟩

theorem value_ne_malformed (numeral : Numeral) : numeral.value ≠ .error .malformed := by
  unfold value
  split
  · split <;> nofun
  · nofun

end

end Numeral

end Tollgate.Json

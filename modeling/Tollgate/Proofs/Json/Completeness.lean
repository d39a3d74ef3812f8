import Tollgate.Proofs.Json.Soundness

namespace Tollgate.Json

def IsStart (c : CodePoint) : Prop :=
  isPadding c = false ∧ ∀ bracket : Bracket, c ≠ bracket.closing

def IsScalarStart (c : CodePoint) : Prop :=
  IsStart c ∧ c ≠ '"' ∧ ∀ bracket : Bracket, c ≠ bracket.opening

section starts

variable {part : Part} {bracket : Bracket} {s t rest : Text} {c : CodePoint}

theorem isStart_quote : IsStart (CodePoint.ofChar '"') :=
  ⟨by decide, fun bracket => by cases bracket <;> decide⟩

theorem isStart_opening (bracket : Bracket) : IsStart bracket.opening :=
  ⟨by cases bracket <;> decide, fun other => by cases bracket <;> cases other <;> decide⟩

theorem isScalarStart_of_digit (digit : c.isAsciiDigit = true) : IsScalarStart c := by
  have other {d : Char} (noDigit : (CodePoint.ofChar d).isAsciiDigit = false) :
      c ≠ CodePoint.ofChar d := (ofChar_ne_digit digit noDigit).symm
  refine ⟨⟨(isOpening_of_digit digit).1, fun bracket => ?_⟩, other (by decide), fun bracket => ?_⟩
  all_goals
    cases bracket
    all_goals exact other (by decide)

theorem isScalarStart_constant {word : String} (named : word ∈ constants.map (·.1)) :
    ∃ c s, Text.lit word = c :: s ∧ IsScalarStart c := by
  have start {c : Char} (mark : isPadding (CodePoint.ofChar c) = false)
      (others : CodePoint.ofChar c ≠ '"' ∧ CodePoint.ofChar c ≠ '[' ∧ CodePoint.ofChar c ≠ ']' ∧
        CodePoint.ofChar c ≠ '{' ∧ CodePoint.ofChar c ≠ '}') :
      IsScalarStart (CodePoint.ofChar c) := by
    obtain ⟨quote, openList, closeList, openObject, closeObject⟩ := others
    refine ⟨⟨mark, fun bracket => ?_⟩, quote, fun bracket => ?_⟩
    · cases bracket with
      | list => exact closeList
      | object => exact closeObject
    · cases bracket with
      | list => exact openList
      | object => exact openObject
  simp only [constants, List.map_cons, List.map_nil, List.mem_cons, List.not_mem_nil, or_false]
    at named
  rcases named with rfl | rfl | rfl | rfl | rfl | rfl
  all_goals exact ⟨_, _, rfl, start (by decide) (by decide)⟩

theorem isScalarStart_number {numeral : Numeral} (spelled : numeral.IsSpelled) :
    ∃ c s, numeral.literal = c :: s ∧ IsScalarStart c := by
  obtain ⟨c, s, digit, literal | literal⟩ := spelled.exists_digit
  · exact ⟨c, s, literal, isScalarStart_of_digit digit⟩
  · refine ⟨_, c :: s, literal, ⟨by decide, fun bracket => ?_⟩, by decide, fun bracket => ?_⟩
    all_goals
      cases bracket
      all_goals decide

theorem Spans.exists_start (spans : Spans part s rest) : ∃ c t, s = c :: t ∧ IsStart c := by
  induction spans with
  | constant word rest named =>
    obtain ⟨c, s, shape, start⟩ := isScalarStart_constant named
    exact ⟨c, s ++ rest, by rw [shape]; rfl, start.1⟩
  | number numeral rest spelled =>
    obtain ⟨c, s, shape, start⟩ := isScalarStart_number spelled
    exact ⟨c, s ++ rest, by rw [shape]; rfl, start.1⟩
  | text s | member s => exact ⟨_, s, rfl, isStart_quote⟩
  | empty bracket s | full bracket s => exact ⟨_, s, rfl, isStart_opening bracket⟩
  | last _ _ _ _ _ _ ih => exact ih
  | next _ _ _ _ _ _ _ _ _ _ ih => exact ih

theorem Breaks.exists_start (breaks : Breaks part s) : ∃ c t, s = c :: t ∧ IsStart c := by
  induction breaks with
  | number numeral rest spelled =>
    obtain ⟨c, s, shape, start⟩ := isScalarStart_number spelled
    exact ⟨c, s ++ rest, by rw [shape]; rfl, start.1⟩
  | inside bracket s => exact ⟨_, s, rfl, isStart_opening bracket⟩
  | element _ _ _ ih => exact ih
  | later _ _ _ _ _ element => exact element.exists_start
  | member s => exact ⟨_, s, rfl, isStart_quote⟩

theorem Spans.length_lt (spans : Spans part s rest) : rest.length < s.length := by
  induction spans with
  | constant word rest named =>
    obtain ⟨c, s, shape, -⟩ := isScalarStart_constant named
    simp only [shape, List.cons_append, List.length_cons, List.length_append]
    omega
  | number numeral rest spelled =>
    obtain ⟨c, s, shape, -⟩ := isScalarStart_number spelled
    simp only [shape, List.cons_append, List.length_cons, List.length_append]
    omega
  | text s rest quoted => exact Nat.lt_succ_of_lt quoted.length_lt
  | empty bracket s rest padded =>
    have := padded.length_le
    simp only [List.length_cons] at this ⊢
    omega
  | full bracket s t rest padded row ih =>
    have := padded.length_le
    simp only [List.length_cons]
    omega
  | last bracket s t rest element padded ih =>
    have := padded.length_le
    simp only [List.length_cons] at this
    omega
  | next bracket s t u v rest element comma padded row ih rows =>
    have := comma.length_le
    have := padded.length_le
    simp only [List.length_cons] at *
    omega
  | member s t u v rest name colon padded value ih =>
    have := name.length_lt
    have := colon.length_le
    have := padded.length_le
    simp only [List.length_cons] at *
    omega

theorem Padded.stops (padded : Padded s t) (stops : Numeral.Stops t) : Numeral.Stops s := by
  obtain ⟨padding, all, rfl⟩ := padded
  cases padding with
  | nil => exact stops
  | cons c padding =>
    have pad := all c (.head _)
    simp only [isPadding, Bool.or_eq_true, decide_eq_true_eq] at pad
    rcases pad with ((rfl | rfl) | rfl) | rfl
    all_goals exact Numeral.stops_cons (by decide) (by decide) (by decide) (by decide) _

theorem stops_closing (bracket : Bracket) (s : Text) : Numeral.Stops (bracket.closing :: s) := by
  cases bracket
  all_goals exact Numeral.stops_cons (by decide) (by decide) (by decide) (by decide) _

theorem stops_comma (s : Text) : Numeral.Stops (CodePoint.ofChar ',' :: s) :=
  Numeral.stops_cons (by decide) (by decide) (by decide) (by decide) _

end starts

/-- The fuel that reading the part takes at most. -/
def Part.cost : Part → Text → Nat
  | .row _, s => 2 * s.length + 1
  | _, s => 2 * s.length

theorem Part.cost_element (bracket : Bracket) (s : Text) :
    bracket.element.cost s = 2 * s.length := by
  cases bracket <;> rfl

/-- Reading leaves this rest, or ends at a number with too many digits. -/
def Passes (result : Except ReadError Text) (rest : Text) : Prop :=
  result = .ok rest ∨ result = .error .tooManyDigits

section completeness

variable {fuel : Nat} {part : Part} {bracket : Bracket} {s t u v rest : Text}

theorem after_scalar {c : CodePoint} (start : IsScalarStart c) (s : Text) :
    after (fuel + 1) .value (c :: s) = (·.2) <$> readScalar Numeral.value (c :: s) :=
  after_value_scalar start.2.1 start.2.2 s

theorem after_constant {word : String} (named : word ∈ constants.map (·.1)) (rest : Text) :
    after (fuel + 1) .value (Text.lit word ++ rest) = .ok rest := by
  obtain ⟨c, s, shape, start⟩ := isScalarStart_constant named
  obtain ⟨⟨word, value⟩, known, rfl⟩ := List.mem_map.mp named
  have constant := constant?_named known rest
  dsimp only at shape constant ⊢
  rw [shape, List.cons_append] at constant ⊢
  rw [after_scalar start]
  simp only [readScalar, constant]
  rfl

theorem after_number {numeral : Numeral} (spelled : numeral.IsSpelled)
    (stops : Numeral.Stops rest) :
    after (fuel + 1) .value (numeral.literal ++ rest) = (fun _ => rest) <$> numeral.value := by
  obtain ⟨c, s, shape, start⟩ := isScalarStart_number spelled
  have noConstant := constant?_number spelled rest
  have scanned := Numeral.scan?_append spelled stops
  rw [shape, List.cons_append] at noConstant scanned ⊢
  rw [after_scalar start]
  simp only [readScalar, noConstant, scanned]
  cases numeral.value <;> rfl

theorem afterOpening_empty (padded : Padded s (bracket.closing :: rest)) :
    afterOpening fuel bracket s = .ok rest := by
  have mark : isPadding bracket.closing = false := by cases bracket <;> decide
  unfold afterOpening
  rw [padded.skip_cons mark]
  simp only [if_true]

theorem afterOpening_row (padded : Padded s t) (start : ∃ c u, t = c :: u ∧ IsStart c) :
    afterOpening fuel bracket s = after fuel (.row bracket) t := by
  obtain ⟨c, u, rfl, mark, noClosing⟩ := start
  unfold afterOpening
  rw [padded.skip_cons mark]
  simp only [noClosing bracket, if_false]

theorem afterElement_last (padded : Padded s (bracket.closing :: rest)) :
    afterElement fuel bracket s = .ok rest := by
  have mark : isPadding bracket.closing = false := by cases bracket <;> decide
  unfold afterElement
  rw [padded.skip_cons mark]
  simp only [if_true]

theorem afterElement_next (comma : Padded s (CodePoint.ofChar ',' :: t)) (padded : Padded t u)
    (start : ∃ c v, u = c :: v ∧ IsStart c) :
    afterElement fuel bracket s = after fuel (.row bracket) u := by
  have mark : isPadding (CodePoint.ofChar ',') = false := by decide
  have noClosing : CodePoint.ofChar ',' ≠ bracket.closing := by cases bracket <;> decide
  obtain ⟨c, v, rfl, opens, -⟩ := start
  unfold afterElement
  rw [comma.skip_cons mark]
  simp only [noClosing, if_false, if_true, padded.skip_cons opens]

theorem after_member (name : Quoted s t) (colon : Padded t (CodePoint.ofChar ':' :: u))
    (padded : Padded u v) (start : ∃ c w, v = c :: w ∧ IsStart c) :
    after fuel .member (CodePoint.ofChar '"' :: s) = after fuel .value v := by
  have mark : isPadding (CodePoint.ofChar ':') = false := by decide
  obtain ⟨key, read⟩ := quoted_iff.mp name
  obtain ⟨c, w, rfl, opens, -⟩ := start
  simp only [after, if_true, read, colon.skip_cons mark, ne_eq, not_true_eq_false, if_false,
    padded.skip_cons opens]

theorem Passes.bind {f : Text → Except ReadError Text} {result : Except ReadError Text}
    (first : Passes result t) (next : Passes (f t) rest) : Passes (result >>= f) rest := by
  rcases first with rfl | rfl
  · exact next
  · exact .inr rfl

theorem Spans.passes (spans : Spans part s rest) (stops : Numeral.Stops rest)
    (enough : part.cost s < fuel) : Passes (after fuel part s) rest := by
  induction spans generalizing fuel with
  | constant word rest named =>
    obtain ⟨fuel, rfl⟩ := Nat.exists_eq_succ_of_ne_zero (Nat.ne_zero_of_lt enough)
    exact .inl (after_constant named rest)
  | number numeral rest spelled =>
    obtain ⟨fuel, rfl⟩ := Nat.exists_eq_succ_of_ne_zero (Nat.ne_zero_of_lt enough)
    rw [after_number spelled stops]
    cases valued : numeral.value with
    | ok value => exact .inl rfl
    | error flaw =>
      -- a document with a number of too many digits spans as well, and is not read to its end
      cases flaw with
      | malformed => exact absurd valued numeral.value_ne_malformed
      | tooManyDigits => exact .inr rfl
  | text s rest quoted =>
    obtain ⟨fuel, rfl⟩ := Nat.exists_eq_succ_of_ne_zero (Nat.ne_zero_of_lt enough)
    obtain ⟨content, read⟩ := quoted_iff.mp quoted
    refine .inl ?_
    rw [after_value_quote, read]
  | empty bracket s rest padded =>
    obtain ⟨fuel, rfl⟩ := Nat.exists_eq_succ_of_ne_zero (Nat.ne_zero_of_lt enough)
    refine .inl ?_
    rw [after_value_opening, afterOpening_empty padded]
  | full bracket s t rest padded row ih =>
    obtain ⟨fuel, rfl⟩ := Nat.exists_eq_succ_of_ne_zero (Nat.ne_zero_of_lt enough)
    have shorter := padded.length_le
    rw [after_value_opening, afterOpening_row padded row.exists_start]
    apply ih stops
    simp only [Part.cost, List.length_cons] at enough ⊢
    omega
  | last bracket s t rest element padded ih =>
    obtain ⟨fuel, rfl⟩ := Nat.exists_eq_succ_of_ne_zero (Nat.ne_zero_of_lt enough)
    rw [after_row]
    refine Passes.bind (ih (padded.stops (stops_closing bracket rest)) ?_)
      (.inl (afterElement_last padded))
    rw [Part.cost_element]
    simp only [Part.cost] at enough
    omega
  | next bracket s t u v rest element comma padded row ih rows =>
    obtain ⟨fuel, rfl⟩ := Nat.exists_eq_succ_of_ne_zero (Nat.ne_zero_of_lt enough)
    have shorter := comma.length_le
    have further := padded.length_le
    have first := element.length_lt
    rw [after_row]
    refine Passes.bind (ih (comma.stops (stops_comma u)) ?_) ?_
    · rw [Part.cost_element]
      simp only [Part.cost] at enough
      omega
    · rw [afterElement_next comma padded row.exists_start]
      apply rows stops
      simp only [Part.cost, List.length_cons] at enough shorter ⊢
      omega
  | member s t u v rest name colon padded value ih =>
    have shorter := name.length_lt
    have further := colon.length_le
    have last := padded.length_le
    rw [after_member name colon padded value.exists_start]
    apply ih stops
    simp only [Part.cost, List.length_cons] at enough further ⊢
    omega

theorem Breaks.after_eq (breaks : Breaks part s) (enough : part.cost s < fuel) :
    after fuel part s = .error .tooManyDigits := by
  induction breaks generalizing fuel with
  | number numeral rest spelled overlong stops =>
    obtain ⟨fuel, rfl⟩ := Nat.exists_eq_succ_of_ne_zero (Nat.ne_zero_of_lt enough)
    rw [after_number spelled stops, Numeral.value_eq_tooManyDigits_iff.mpr overlong]
    rfl
  | inside bracket s t padded row ih =>
    obtain ⟨fuel, rfl⟩ := Nat.exists_eq_succ_of_ne_zero (Nat.ne_zero_of_lt enough)
    have shorter := padded.length_le
    rw [after_value_opening, afterOpening_row padded row.exists_start]
    apply ih
    simp only [Part.cost, List.length_cons] at enough ⊢
    omega
  | element bracket s element ih =>
    obtain ⟨fuel, rfl⟩ := Nat.exists_eq_succ_of_ne_zero (Nat.ne_zero_of_lt enough)
    have read : after fuel bracket.element s = .error .tooManyDigits := by
      apply ih
      rw [Part.cost_element]
      simp only [Part.cost] at enough
      omega
    rw [after_row, read]
    rfl
  | later bracket s t u v element comma padded row ih =>
    obtain ⟨fuel, rfl⟩ := Nat.exists_eq_succ_of_ne_zero (Nat.ne_zero_of_lt enough)
    have shorter := comma.length_le
    have further := padded.length_le
    have first := element.length_lt
    have enoughFirst : bracket.element.cost s < fuel := by
      rw [Part.cost_element]
      simp only [Part.cost] at enough
      omega
    rw [after_row]
    -- the element may hold a number with too many digits itself, which ends the reading before
    rcases element.passes (comma.stops (stops_comma u)) enoughFirst with read | read
    · rw [read]
      change afterElement fuel bracket t = _
      rw [afterElement_next comma padded row.exists_start]
      apply ih
      simp only [Part.cost, List.length_cons] at enough shorter ⊢
      omega
    · rw [read]
      rfl
  | member s t u v name colon padded value ih =>
    have shorter := name.length_lt
    have further := colon.length_le
    have last := padded.length_le
    rw [after_member name colon padded value.exists_start]
    apply ih
    simp only [Part.cost, List.length_cons] at enough further ⊢
    omega

end completeness

section texts

variable {text rest : Text}

def afterValue (text : Text) : Except ReadError Text :=
  after (fuelFor (skipPadding text)) .value (skipPadding text)

theorem read_of_error {flaw : ReadError} (refused : afterValue text = .error flaw) :
    read text = .error flaw := by
  simp only [afterValue, after] at refused
  cases valued : readValue Numeral.value (fuelFor (skipPadding text)) (skipPadding text) with
  | error other =>
    rw [valued] at refused
    cases refused
    simp only [read, readWith, valued]
    rfl
  | ok answer =>
    rw [valued] at refused
    cases refused

theorem read_of_ok (taken : afterValue text = .ok rest) :
    ∃ value, read text = if (skipPadding rest).isEmpty then .ok value else .error .malformed := by
  simp only [afterValue, after] at taken
  cases valued : readValue Numeral.value (fuelFor (skipPadding text)) (skipPadding text) with
  | error flaw =>
    rw [valued] at taken
    cases taken
  | ok answer =>
    rw [valued] at taken
    cases taken
    simp only [read, readWith, valued]
    exact ⟨answer.1, rfl⟩

theorem settles_afterValue (text : Text) :
    Settles .value (skipPadding text) (afterValue text) :=
  settles_after _ .value _

theorem cost_lt_fuelFor (s : Text) : Part.value.cost s < fuelFor s := Nat.lt_succ_self _

theorem isDocumentText_of_read {value : Json} (given : read text = .ok value) :
    IsDocumentText text := by
  have settled := settles_afterValue text
  cases taken : afterValue text with
  | error flaw => cases (read_of_error taken).symm.trans given
  | ok rest =>
    obtain ⟨other, ended⟩ := read_of_ok taken
    rw [taken] at settled
    have trailing := padded_skipPadding rest
    cases more : skipPadding rest with
    | nil =>
      rw [more] at trailing
      exact ⟨_, rest, padded_skipPadding text, settled, trailing⟩
    | cons c s =>
      rw [more] at ended
      cases ended.symm.trans given

theorem read_eq_tooManyDigits_iff : read text = .error .tooManyDigits ↔ BreaksOff text := by
  constructor
  · intro refused
    have settled := settles_afterValue text
    cases taken : afterValue text with
    | error flaw =>
      cases (read_of_error taken).symm.trans refused
      rw [taken] at settled
      exact ⟨_, padded_skipPadding text, settled⟩
    | ok rest =>
      obtain ⟨value, ended⟩ := read_of_ok taken
      rw [ended] at refused
      split_ifs at refused
      cases refused
  · rintro ⟨s, padded, breaks⟩
    obtain ⟨c, t, rfl, mark, -⟩ := breaks.exists_start
    apply read_of_error
    rw [afterValue, padded.skip_cons mark]
    exact breaks.after_eq (cost_lt_fuelFor _)

theorem exists_read_iff (unbroken : ¬ BreaksOff text) :
    (∃ value, read text = .ok value) ↔ IsDocumentText text := by
  refine ⟨fun ⟨value, given⟩ => isDocumentText_of_read given, ?_⟩
  rintro ⟨s, rest, padded, spans, trailing⟩
  obtain ⟨c, t, rfl, mark, -⟩ := spans.exists_start
  have passes := spans.passes (trailing.stops Numeral.stops_nil) (cost_lt_fuelFor _)
  rw [← padded.skip_cons mark] at passes
  rcases passes with taken | refused
  · obtain ⟨value, ended⟩ := read_of_ok taken
    rw [trailing.skip_eq] at ended
    exact ⟨value, ended⟩
  · exact absurd (read_eq_tooManyDigits_iff.mp (read_of_error refused)) unbroken

end texts

end Tollgate.Json

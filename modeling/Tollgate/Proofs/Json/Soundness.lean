import Tollgate.Proofs.Json.Grammar

namespace Tollgate.Json

/-- What the reader leaves of a text after a part of it. A member is read within the row that it
stands in. -/
def after (fuel : Nat) : Part → Text → Except ReadError Text
  | .value, s => (·.2) <$> readValue Numeral.value fuel s
  | .row .list, s => (·.2) <$> readItems Numeral.value fuel s
  | .row .object, s => (·.2) <$> readPairs Numeral.value fuel s
  | .member, [] => .error .malformed
  | .member, quote :: s =>
    match if quote = '"' then string? s else none with
    | none => .error .malformed
    | some (_, rest) =>
      match skipPadding rest with
      | [] => .error .malformed
      | colon :: rest =>
        if colon ≠ ':' then .error .malformed
        else (·.2) <$> readValue Numeral.value fuel (skipPadding rest)

def afterOpening (fuel : Nat) (bracket : Bracket) (s : Text) : Except ReadError Text :=
  match skipPadding s with
  | [] => .error .malformed
  | c :: rest =>
    if c = bracket.closing then .ok rest else after fuel (.row bracket) (c :: rest)

def afterElement (fuel : Nat) (bracket : Bracket) (s : Text) : Except ReadError Text :=
  match skipPadding s with
  | [] => .error .malformed
  | c :: rest =>
    if c = bracket.closing then .ok rest
    else if c = ',' then after fuel (.row bracket) (skipPadding rest)
    else .error .malformed

section reading

variable {fuel : Nat} {s t rest : Text}

theorem after_value_quote (s : Text) : after (fuel + 1) .value (CodePoint.ofChar '"' :: s) =
    match string? s with
    | some (_, rest) => .ok rest
    | none => .error .malformed := by
  simp only [after, readValue, if_true]
  cases string? s <;> rfl

theorem after_value_opening (bracket : Bracket) (s : Text) :
    after (fuel + 1) .value (bracket.opening :: s) = afterOpening fuel bracket s := by
  unfold afterOpening
  cases bracket with
  | list =>
    have noText : CodePoint.ofChar '[' ≠ '"' := by decide
    simp only [after, Bracket.opening, Bracket.closing, readValue, noText, if_false, if_true]
    cases skipPadding s with
    | nil => rfl
    | cons c rest =>
      by_cases closes : c = ']'
      · simp only [closes, if_true]
        rfl
      · simp only [closes, if_false]
        cases readItems Numeral.value fuel (c :: rest) <;> rfl
  | object =>
    have noText : CodePoint.ofChar '{' ≠ '"' := by decide
    have noList : CodePoint.ofChar '{' ≠ '[' := by decide
    simp only [after, Bracket.opening, Bracket.closing, readValue, noText, noList, if_false,
      if_true]
    cases skipPadding s with
    | nil => rfl
    | cons c rest =>
      by_cases closes : c = '}'
      · simp only [closes, if_true]
        rfl
      · simp only [closes, if_false]
        cases readPairs Numeral.value fuel (c :: rest) <;> rfl

theorem after_value_scalar {c : CodePoint} (noText : c ≠ '"')
    (noBracket : ∀ bracket : Bracket, c ≠ bracket.opening) (s : Text) :
    after (fuel + 1) .value (c :: s) = (·.2) <$> readScalar Numeral.value (c :: s) := by
  have noList : c ≠ '[' := noBracket .list
  have noObject : c ≠ '{' := noBracket .object
  simp only [after, readValue, noText, noList, noObject, if_false]

theorem after_items (s : Text) : after (fuel + 1) (.row .list) s =
    after fuel .value s >>= afterElement fuel .list := by
  simp only [after, readItems]
  cases readValue Numeral.value fuel s with
  | error flaw => rfl
  | ok read =>
    obtain ⟨item, rest⟩ := read
    simp only [Except.map, Functor.map, bind, Except.bind, afterElement, Bracket.closing]
    cases skipPadding rest with
    | nil => rfl
    | cons c rest =>
      by_cases closes : c = ']'
      · simp only [closes, if_true]
        rfl
      · by_cases comma : c = ','
        · simp only [comma, if_true, after]
          cases readItems Numeral.value fuel (skipPadding rest) <;> rfl
        · simp only [closes, comma, if_false]

theorem after_pairs (s : Text) : after (fuel + 1) (.row .object) s =
    after fuel .member s >>= afterElement fuel .object := by
  cases s with
  | nil => rfl
  | cons quote s =>
    simp only [after, readPairs]
    cases (if quote = CodePoint.ofChar '"' then string? s else none) with
    | none => rfl
    | some name =>
      obtain ⟨key, rest⟩ := name
      dsimp only
      cases skipPadding rest with
      | nil => rfl
      | cons colon rest =>
        by_cases known : colon = ':'
        · simp only [known, ne_eq, not_true_eq_false, if_false]
          cases readValue Numeral.value fuel (skipPadding rest) with
          | error flaw => rfl
          | ok read =>
            obtain ⟨value, rest⟩ := read
            simp only [Except.map, Functor.map, bind, Except.bind, afterElement, Bracket.closing]
            cases skipPadding rest with
            | nil => rfl
            | cons c rest =>
              by_cases closes : c = '}'
              · simp only [closes, if_true]
                rfl
              · by_cases comma : c = ','
                · simp only [comma, if_true, after]
                  cases readPairs Numeral.value fuel (skipPadding rest) <;> rfl
                · simp only [closes, comma, if_false]
        · simp only [ne_eq, known, not_false_eq_true, if_true]
          rfl

theorem after_row (bracket : Bracket) (s : Text) : after (fuel + 1) (.row bracket) s =
    after fuel bracket.element s >>= afterElement fuel bracket := by
  cases bracket with
  | list => exact after_items s
  | object => exact after_pairs s

end reading

/-- What the grammar says about the way in which reading a part ended. -/
def Settles (part : Part) (s : Text) : Except ReadError Text → Prop
  | .ok rest => Spans part s rest
  | .error .tooManyDigits => Breaks part s
  | .error .malformed => True

section soundness

variable {part whole : Part} {bracket : Bracket} {fuel : Nat} {s t : Text}

theorem Settles.mono {result : Except ReadError Text} (settled : Settles part s result)
    (spans : ∀ rest, Spans part s rest → Spans whole t rest)
    (breaks : Breaks part s → Breaks whole t) : Settles whole t result := by
  cases result with
  | ok rest => exact spans rest settled
  | error flaw =>
    cases flaw with
    | malformed => trivial
    | tooManyDigits => exact breaks settled

theorem Settles.bind {result : Except ReadError Text} {f : Text → Except ReadError Text}
    (settled : Settles part s result) (next : ∀ rest, Spans part s rest → Settles whole s (f rest))
    (breaks : Breaks part s → Breaks whole s) : Settles whole s (result >>= f) := by
  cases result with
  | ok rest => exact next rest settled
  | error flaw =>
    cases flaw with
    | malformed => trivial
    | tooManyDigits => exact breaks settled

theorem settles_scalar (s : Text) : Settles .value s ((·.2) <$> readScalar Numeral.value s) := by
  unfold readScalar
  cases named : constant? s with
  | some answer =>
    obtain ⟨value, rest⟩ := answer
    obtain ⟨word, known, rfl⟩ := constant?_sound named
    exact .constant word rest known
  | none =>
    cases scanned : Numeral.scan? s with
    | none => trivial
    | some answer =>
      obtain ⟨numeral, rest⟩ := answer
      obtain ⟨spelled, rfl, stops⟩ := Numeral.scan?_sound scanned
      cases valued : numeral.value with
      | ok value =>
        simp only [valued]
        exact .number numeral rest spelled
      | error flaw =>
        simp only [valued]
        cases flaw with
        | malformed => trivial
        | tooManyDigits =>
          have overlong := Numeral.value_eq_tooManyDigits_iff.mp valued
          exact .number numeral rest spelled overlong (stops overlong)

theorem settles_afterOpening (row : ∀ s, Settles (.row bracket) s (after fuel (.row bracket) s))
    (s : Text) : Settles .value (bracket.opening :: s) (afterOpening fuel bracket s) := by
  have padded := padded_skipPadding s
  unfold afterOpening
  generalize skipPadding s = t at padded
  cases t with
  | nil => trivial
  | cons c t =>
    by_cases closes : c = bracket.closing
    · subst closes
      simp only [if_true]
      exact .empty bracket s t padded
    · simp only [closes, if_false]
      exact (row (c :: t)).mono (fun rest => .full bracket s _ rest padded)
        (.inside bracket s _ padded)

theorem settles_afterElement (row : ∀ s, Settles (.row bracket) s (after fuel (.row bracket) s))
    (element : Spans bracket.element s t) :
    Settles (.row bracket) s (afterElement fuel bracket t) := by
  have padded := padded_skipPadding t
  unfold afterElement
  generalize skipPadding t = u at padded
  cases u with
  | nil => trivial
  | cons c u =>
    have further := padded_skipPadding u
    by_cases closes : c = bracket.closing
    · subst closes
      simp only [if_true]
      exact .last bracket s t u element padded
    · by_cases comma : c = ','
      · subst comma
        simp only [closes, if_false, if_true]
        exact (row _).mono (fun rest => .next bracket s t u _ rest element padded further)
          (.later bracket s t u _ element padded further)
      · simp only [closes, comma, if_false]
        trivial

theorem settles_member (value : ∀ s, Settles .value s (after fuel .value s)) (s : Text) :
    Settles .member s (after fuel .member s) := by
  cases s with
  | nil => trivial
  | cons quote s =>
    by_cases quoted : quote = '"'
    · subst quoted
      simp only [after, if_true]
      cases name : string? s with
      | none => trivial
      | some answer =>
        obtain ⟨key, t⟩ := answer
        have quoted := quoted_iff.mpr ⟨key, name⟩
        have padded := padded_skipPadding t
        dsimp only
        generalize skipPadding t = u at padded
        cases u with
        | nil => trivial
        | cons colon u =>
          have further := padded_skipPadding u
          by_cases known : colon = ':'
          · subst known
            simp only [ne_eq, not_true_eq_false, if_false]
            exact (value _).mono (fun rest => .member s t u _ rest quoted padded further)
              (.member s t u _ quoted padded further)
          · simp only [ne_eq, known, not_false_eq_true, if_true]
            trivial
    · simp only [after, quoted, if_false]
      trivial

theorem settles_value (rows : ∀ bracket s, Settles (.row bracket) s (after fuel (.row bracket) s))
    (s : Text) : Settles .value s (after (fuel + 1) .value s) := by
  cases s with
  | nil => trivial
  | cons c s =>
    by_cases quote : c = '"'
    · subst quote
      rw [after_value_quote]
      cases content : string? s with
      | none => trivial
      | some answer =>
        exact .text s answer.2 (quoted_iff.mpr ⟨answer.1, content⟩)
    · by_cases opens : ∃ bracket : Bracket, c = bracket.opening
      · obtain ⟨bracket, rfl⟩ := opens
        rw [after_value_opening]
        exact settles_afterOpening (rows bracket) s
      · rw [after_value_scalar quote (not_exists.mp opens)]
        exact settles_scalar (c :: s)

theorem settles_after (fuel : Nat) (part : Part) (s : Text) :
    Settles part s (after fuel part s) := by
  -- a member is read with the fuel of its value, so the induction is on values and rows
  have both : (∀ s, Settles .value s (after fuel .value s)) ∧
      ∀ bracket s, Settles (.row bracket) s (after fuel (.row bracket) s) := by
    induction fuel with
    | zero =>
      refine ⟨fun s => trivial, fun bracket s => ?_⟩
      cases bracket <;> trivial
    | succ fuel ih =>
      obtain ⟨values, rows⟩ := ih
      refine ⟨settles_value rows, fun bracket s => ?_⟩
      have element : Settles bracket.element s (after fuel bracket.element s) := by
        cases bracket with
        | list => exact values s
        | object => exact settles_member values s
      rw [after_row]
      exact element.bind (fun t => settles_afterElement (rows bracket)) (.element bracket s)
  cases part with
  | value => exact both.1 s
  | member => exact settles_member both.1 s
  | row bracket => exact both.2 bracket s

end soundness

end Tollgate.Json

import Tollgate.Proofs.Json.RoundTrip
import Tollgate.Proofs.Json.Scanning

namespace Tollgate.Json

/-- Padding stands at the start of the first text, and the second follows it. -/
def Padded (s t : Text) : Prop := ∃ padding : Text, (∀ c ∈ padding, isPadding c = true) ∧
  s = padding ++ t

def escapeLetters : List Char := ['"', '\\', '/', 'b', 'f', 'n', 'r', 't']

/-- The first text goes on with a string up to its closing quote, and the second follows that. -/
inductive Quoted : Text → Text → Prop where
  | close (rest : Text) : Quoted ('"' :: rest) rest
  | plain (c : CodePoint) (s rest : Text) (noQuote : c ≠ '"') (noEscape : c ≠ '\\')
    (noControl : 0x20 ≤ c.val) (quoted : Quoted s rest) : Quoted (c :: s) rest
  | short (letter : Char) (s rest : Text) (known : letter ∈ escapeLetters)
    (quoted : Quoted s rest) : Quoted ('\\' :: letter :: s) rest
  | unit (h₁ h₂ h₃ h₄ : CodePoint) (s rest : Text)
    (digits : ∀ h ∈ [h₁, h₂, h₃, h₄], (hexValue? h).isSome = true) (quoted : Quoted s rest) :
    Quoted ('\\' :: 'u' :: h₁ :: h₂ :: h₃ :: h₄ :: s) rest

inductive Bracket where
  | list
  | object

namespace Bracket

def opening : Bracket → CodePoint
  | list => '['
  | object => '{'

def closing : Bracket → CodePoint
  | list => ']'
  | object => '}'

end Bracket

/-- A part of a JSON text. A row is what stands between brackets, with the closing one. -/
inductive Part where
  | value
  | member
  | row (bracket : Bracket)

def Bracket.element : Bracket → Part
  | list => .value
  | object => .member

/-- The part stands at the start of the first text, and the second follows it. -/
inductive Spans : Part → Text → Text → Prop where
  | constant (word : String) (rest : Text) (named : word ∈ constants.map (·.1)) :
    Spans .value (Text.lit word ++ rest) rest
  | number (numeral : Numeral) (rest : Text) (spelled : numeral.IsSpelled) :
    Spans .value (numeral.literal ++ rest) rest
  | text (s rest : Text) (quoted : Quoted s rest) : Spans .value ('"' :: s) rest
  | empty (bracket : Bracket) (s rest : Text) (padded : Padded s (bracket.closing :: rest)) :
    Spans .value (bracket.opening :: s) rest
  | full (bracket : Bracket) (s t rest : Text) (padded : Padded s t)
    (row : Spans (.row bracket) t rest) : Spans .value (bracket.opening :: s) rest
  | last (bracket : Bracket) (s t rest : Text) (element : Spans bracket.element s t)
    (padded : Padded t (bracket.closing :: rest)) : Spans (.row bracket) s rest
  | next (bracket : Bracket) (s t u v rest : Text) (element : Spans bracket.element s t)
    (comma : Padded t (',' :: u)) (padded : Padded u v) (row : Spans (.row bracket) v rest) :
    Spans (.row bracket) s rest
  | member (s t u v rest : Text) (name : Quoted s t) (colon : Padded t (':' :: u))
    (padded : Padded u v) (value : Spans .value v rest) : Spans .member ('"' :: s) rest

/-- The text starts like the part, up to a number with too many digits. -/
inductive Breaks : Part → Text → Prop where
  | number (numeral : Numeral) (rest : Text) (spelled : numeral.IsSpelled)
    (overlong : numeral.IsOverlong) (stops : Numeral.Stops rest) :
    Breaks .value (numeral.literal ++ rest)
  | inside (bracket : Bracket) (s t : Text) (padded : Padded s t)
    (row : Breaks (.row bracket) t) : Breaks .value (bracket.opening :: s)
  | element (bracket : Bracket) (s : Text) (element : Breaks bracket.element s) :
    Breaks (.row bracket) s
  | later (bracket : Bracket) (s t u v : Text) (element : Spans bracket.element s t)
    (comma : Padded t (',' :: u)) (padded : Padded u v) (row : Breaks (.row bracket) v) :
    Breaks (.row bracket) s
  | member (s t u v : Text) (name : Quoted s t) (colon : Padded t (':' :: u))
    (padded : Padded u v) (value : Breaks .value v) : Breaks .member ('"' :: s)

def IsDocumentText (text : Text) : Prop :=
  ∃ s rest, Padded text s ∧ Spans .value s rest ∧ Padded rest []

def BreaksOff (text : Text) : Prop := ∃ s, Padded text s ∧ Breaks .value s

section padding

variable {s t rest : Text} {c : CodePoint}

theorem padded_skipPadding (s : Text) : Padded s (skipPadding s) :=
  ⟨s.takeWhile isPadding, fun _ => List.mem_takeWhile_imp, List.takeWhile_append_dropWhile.symm⟩

theorem Padded.skip_eq (padded : Padded s t) : skipPadding s = skipPadding t := by
  obtain ⟨padding, all, rfl⟩ := padded
  exact List.dropWhile_append_of_pos all

theorem Padded.skip_cons (padded : Padded s (c :: t)) (mark : isPadding c = false) :
    skipPadding s = c :: t := by
  rw [padded.skip_eq, skipPadding_mark mark]

theorem Padded.length_le (padded : Padded s t) : t.length ≤ s.length := by
  obtain ⟨padding, -, rfl⟩ := padded
  rw [List.length_append]
  exact Nat.le_add_left ..

end padding

section strings

variable {s rest : Text} {pieces : List Piece}

theorem letter_of_shortEscape {e c : CodePoint} (short : shortEscape? e = some c) :
    ∃ letter ∈ escapeLetters, e = CodePoint.ofChar letter := by
  unfold shortEscape? at short
  split_ifs at short with itself b f n r t
  · simp only [Bool.or_eq_true, decide_eq_true_eq] at itself
    rcases itself with (quote | backslash) | slash
    · exact ⟨_, by decide, quote⟩
    · exact ⟨_, by decide, backslash⟩
    · exact ⟨_, by decide, slash⟩
  · exact ⟨_, by decide, b⟩
  · exact ⟨_, by decide, f⟩
  · exact ⟨_, by decide, n⟩
  · exact ⟨_, by decide, r⟩
  · exact ⟨_, by decide, t⟩

theorem shortEscape_of_letter {letter : Char} (known : letter ∈ escapeLetters) :
    (∃ c, shortEscape? letter = some c) ∧ CodePoint.ofChar letter ≠ 'u' := by
  simp only [escapeLetters, List.mem_cons, List.not_mem_nil, or_false] at known
  rcases known with rfl | rfl | rfl | rfl | rfl | rfl | rfl | rfl
  all_goals exact ⟨⟨_, rfl⟩, by decide⟩

theorem hexValue?_lt {c : CodePoint} {n : Nat} (value : hexValue? c = some n) : n < 16 := by
  unfold hexValue? at value
  split_ifs at value
  all_goals
    cases value
    omega

theorem unit?_isSome_iff {h₁ h₂ h₃ h₄ : CodePoint} : (∃ c, unit? h₁ h₂ h₃ h₄ = some c) ↔
    ∀ h ∈ [h₁, h₂, h₃, h₄], (hexValue? h).isSome = true := by
  simp only [List.forall_mem_cons, List.not_mem_nil, false_implies, implies_true, and_true,
    Option.isSome_iff_exists]
  constructor
  · rintro ⟨c, unit⟩
    unfold unit? at unit
    obtain ⟨n₁, first, unit⟩ := Option.bind_eq_some_iff.mp unit
    obtain ⟨n₂, second, unit⟩ := Option.bind_eq_some_iff.mp unit
    obtain ⟨n₃, third, unit⟩ := Option.bind_eq_some_iff.mp unit
    obtain ⟨n₄, fourth, -⟩ := Option.bind_eq_some_iff.mp unit
    exact ⟨⟨n₁, first⟩, ⟨n₂, second⟩, ⟨n₃, third⟩, ⟨n₄, fourth⟩⟩
  · rintro ⟨⟨n₁, first⟩, ⟨n₂, second⟩, ⟨n₃, third⟩, ⟨n₄, fourth⟩⟩
    have bound : n₁ * 0x1000 + n₂ * 0x100 + n₃ * 0x10 + n₄ < 0x110000 := by
      have := hexValue?_lt first
      have := hexValue?_lt second
      have := hexValue?_lt third
      have := hexValue?_lt fourth
      omega
    refine ⟨⟨_, bound⟩, ?_⟩
    simp only [unit?, first, second, third, fourth, Option.bind_eq_bind, Option.bind_some]
    exact dif_pos _

theorem quoted_of_pieces (read : pieces? s = some (pieces, rest)) : Quoted s rest := by
  fun_induction pieces? s generalizing pieces with
  | case1 | case3 | case5 | case7 => cases read
  | case2 =>
    cases read
    exact .close rest
  | case4 h₁ h₂ h₃ h₄ s _ ih =>
    obtain ⟨c, unit, read⟩ := Option.bind_eq_some_iff.mp read
    obtain ⟨⟨others, after⟩, read, same⟩ := Option.bind_eq_some_iff.mp read
    cases same
    exact .unit h₁ h₂ h₃ h₄ s rest (unit?_isSome_iff.mp ⟨c, unit⟩) (ih read)
  | case6 e s _ _ ih =>
    obtain ⟨c, short, read⟩ := Option.bind_eq_some_iff.mp read
    obtain ⟨⟨others, after⟩, further, same⟩ := Option.bind_eq_some_iff.mp read
    cases same
    obtain ⟨letter, known, rfl⟩ := letter_of_shortEscape short
    exact .short letter s rest known (ih further)
  | case8 c s noQuote noEscape noControl ih =>
    obtain ⟨⟨others, after⟩, read, same⟩ := Option.bind_eq_some_iff.mp read
    cases same
    exact .plain c s rest noQuote noEscape (Nat.not_lt.mp noControl) (ih read)

theorem Quoted.exists_pieces (quoted : Quoted s rest) :
    ∃ pieces, pieces? s = some (pieces, rest) := by
  induction quoted with
  | close rest => exact ⟨[], pieces?_quote rest⟩
  | plain c s rest noQuote noEscape noControl _ ih =>
    obtain ⟨pieces, read⟩ := ih
    exact ⟨_, pieces?_plain noQuote noEscape (Nat.not_lt.mpr noControl) read⟩
  | short letter s rest known _ ih =>
    obtain ⟨pieces, read⟩ := ih
    obtain ⟨⟨c, short⟩, notUnit⟩ := shortEscape_of_letter known
    exact ⟨_, pieces?_short short notUnit read⟩
  | unit h₁ h₂ h₃ h₄ s rest digits _ ih =>
    obtain ⟨pieces, read⟩ := ih
    obtain ⟨c, unit⟩ := unit?_isSome_iff.mpr digits
    exact ⟨_, pieces?_unit unit read⟩

theorem quoted_iff : Quoted s rest ↔ ∃ content, string? s = some (content, rest) := by
  constructor
  · intro quoted
    obtain ⟨pieces, read⟩ := quoted.exists_pieces
    exact ⟨joinPieces pieces, by rw [string?, read]; rfl⟩
  · rintro ⟨content, read⟩
    obtain ⟨⟨pieces, after⟩, read, same⟩ := Option.map_eq_some_iff.mp read
    cases same
    exact quoted_of_pieces read

theorem Quoted.length_lt (quoted : Quoted s rest) : rest.length < s.length := by
  induction quoted with
  | close => exact Nat.lt_succ_self _
  | plain | short | unit =>
    simp only [List.length_cons]
    omega

end strings

section scalars

variable {s rest : Text}

theorem constant?_sound {value : Json} (found : constant? s = some (value, rest)) :
    ∃ word, word ∈ constants.map (·.1) ∧ s = Text.lit word ++ rest := by
  obtain ⟨⟨word, other⟩, named, same⟩ := List.exists_of_findSome?_eq_some found
  dsimp only at same
  split at same
  · rename_i starts
    cases same
    obtain ⟨rest, rfl⟩ := List.isPrefixOf_iff_prefix.mp starts
    exact ⟨word, List.mem_map.mpr ⟨_, named, rfl⟩, by rw [List.drop_left]⟩
  · cases same

theorem Numeral.IsSpelled.exists_digit {numeral : Numeral} (spelled : numeral.IsSpelled) :
    ∃ c s, c.isAsciiDigit = true ∧
      (numeral.literal = c :: s ∨ numeral.literal = CodePoint.ofChar '-' :: c :: s) := by
  obtain ⟨minus, fraction, exponent, isMinus, isWhole, -, -, literal⟩ := spelled
  obtain ⟨c, s, whole, digit⟩ := isWhole.exists_digit
  rw [whole] at literal
  refine ⟨c, s ++ (fraction ++ exponent), digit, ?_⟩
  generalize numeral.negative = negative at isMinus
  cases isMinus with
  | absent => exact .inl literal
  | minus => exact .inr literal

theorem constant?_number {numeral : Numeral} (spelled : numeral.IsSpelled) (rest : Text) :
    constant? (numeral.literal ++ rest) = none := by
  obtain ⟨c, s, digit, literal | literal⟩ := spelled.exists_digit
  · rw [literal]
    exact constant?_unsigned digit _
  · rw [literal]
    exact constant?_negative digit _

end scalars

end Tollgate.Json

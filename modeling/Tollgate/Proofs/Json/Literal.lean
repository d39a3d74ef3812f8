import Tollgate.Json.Writer

namespace Tollgate

namespace Json

theorem backslash_ne_quote : CodePoint.ofChar '\\' ≠ CodePoint.ofChar '"' := by decide

theorem hexValue?_hexDigit {n : Nat} (small : n < 16) : hexValue? (Text.hexDigit n) = some n := by
  have all : ∀ i : Fin 16, hexValue? (Text.hexDigit i.val) = some i.val := by decide
  exact all ⟨n, small⟩

section

variable {s rest : Text} {pieces : List Piece} {c : CodePoint}

theorem pieces?_quote (rest : Text) : pieces? (CodePoint.ofChar '"' :: rest) = some ([], rest) := by
  rw [pieces?.eq_def]
  simp only [if_true]

theorem pieces?_plain (noQuote : c ≠ '"') (noEscape : c ≠ '\\') (noControl : ¬ c.val < 0x20)
    (read : pieces? s = some (pieces, rest)) :
    pieces? (c :: s) = some (.plain c :: pieces, rest) := by
  rw [pieces?.eq_def]
  simp [noQuote, noEscape, noControl, read]

theorem pieces?_short {e : CodePoint} (short : shortEscape? e = some c) (notUnit : e ≠ 'u')
    (read : pieces? s = some (pieces, rest)) :
    pieces? (CodePoint.ofChar '\\' :: e :: s) = some (.plain c :: pieces, rest) := by
  rw [pieces?.eq_def]
  simp [backslash_ne_quote, short, notUnit, read]

theorem pieces?_unit {h₁ h₂ h₃ h₄ : CodePoint} (unit : unit? h₁ h₂ h₃ h₄ = some c)
    (read : pieces? s = some (pieces, rest)) :
    pieces? (CodePoint.ofChar '\\' :: CodePoint.ofChar 'u' :: h₁ :: h₂ :: h₃ :: h₄ :: s) =
      some (.escaped c :: pieces, rest) := by
  rw [pieces?.eq_def]
  simp [backslash_ne_quote, unit, read]

theorem pieces?_hexEscape (short : c.val < 0x10000) (read : pieces? s = some (pieces, rest)) :
    pieces? (hexEscape c.val ++ s) = some (.escaped c :: pieces, rest) := by
  have value : c.val / 16 ^ 3 % 16 * 0x1000 + c.val / 16 ^ 2 % 16 * 0x100 +
      c.val / 16 ^ 1 % 16 * 0x10 + c.val / 16 ^ 0 % 16 = c.val := by omega
  refine pieces?_unit ?_ read
  simp only [unit?, hexValue?_hexDigit (Nat.mod_lt _ (by decide : 16 > 0)),
    Option.bind_eq_bind, Option.bind_some, value]
  exact dif_pos c.isLt

end

/-- A spelling of a code point: reading it yields pieces that join to the code point. -/
def Spelled (spelling : Text) (c : CodePoint) : Prop :=
  ∃ own : List Piece, (∀ s rest pieces, pieces? s = some (pieces, rest) →
      pieces? (spelling ++ s) = some (own ++ pieces, rest)) ∧
    ∀ pieces, joinPieces (own ++ pieces) = c :: joinPieces pieces

theorem spelled_plain {c : CodePoint} (noQuote : c ≠ '"') (noEscape : c ≠ '\\')
    (noControl : ¬ c.val < 0x20) : Spelled [c] c :=
  ⟨[.plain c], fun _ _ _ read => pieces?_plain noQuote noEscape noControl read, fun _ => rfl⟩

theorem spelled_short {e c : CodePoint} (short : shortEscape? e = some c) (notUnit : e ≠ 'u') :
    Spelled [CodePoint.ofChar '\\', e] c :=
  ⟨[.plain c], fun _ _ _ read => pieces?_short short notUnit read, fun _ => rfl⟩

theorem joinPieces_escaped {c : CodePoint} (noHigh : c.isHighSurrogate = false)
    (pieces : List Piece) : joinPieces (.escaped c :: pieces) = c :: joinPieces pieces := by
  rcases pieces with _ | ⟨d | d, pieces⟩
  · rfl
  · rfl
  · simp [joinPieces, noHigh]

theorem spelled_hexEscape {c : CodePoint} (short : c.val < 0x10000)
    (noHigh : c.isHighSurrogate = false) : Spelled (hexEscape c.val) c :=
  ⟨[.escaped c], fun _ _ _ read => pieces?_hexEscape short read, joinPieces_escaped noHigh⟩

/-- The pieces that one code point is written as: itself, one escape, or the two escapes of its
surrogate pair. -/
inductive IsWrittenAs (c : CodePoint) : List Piece → Prop where
  | plain : c.isSurrogate = false → IsWrittenAs c [.plain c]
  | escaped : IsWrittenAs c [.escaped c]
  | pair {high low : CodePoint} : high.isHighSurrogate = true → low.isLowSurrogate = true →
      CodePoint.ofPair high low = c → c.isSurrogate = false →
      IsWrittenAs c [.escaped high, .escaped low]

def YieldsPieces (spelling : Text) (own : List Piece) : Prop :=
  ∀ s rest pieces, pieces? s = some (pieces, rest) →
    pieces? (spelling ++ s) = some (own ++ pieces, rest)

theorem isSurrogate_of_high {c : CodePoint} (high : c.isHighSurrogate = true) :
    c.isSurrogate = true := by
  simp only [CodePoint.isHighSurrogate, CodePoint.isSurrogate, Bool.and_eq_true,
    decide_eq_true_eq] at high ⊢
  omega

theorem isSurrogate_of_low {c : CodePoint} (low : c.isLowSurrogate = true) :
    c.isSurrogate = true := by
  simp only [CodePoint.isLowSurrogate, CodePoint.isSurrogate, Bool.and_eq_true,
    decide_eq_true_eq] at low ⊢
  omega

theorem not_low_of_high {c : CodePoint} (high : c.isHighSurrogate = true) :
    c.isLowSurrogate = false := by
  simp only [CodePoint.isHighSurrogate, CodePoint.isLowSurrogate, Bool.and_eq_true,
    decide_eq_true_eq, Bool.and_eq_false_iff, decide_eq_false_iff_not] at high ⊢
  omega

theorem exists_pair {c : CodePoint} (long : 0x10000 ≤ c.val) :
    ∃ own, IsWrittenAs c own ∧
      YieldsPieces (hexEscape (0xD800 + (c.val - 0x10000) / 0x400) ++
        hexEscape (0xDC00 + (c.val - 0x10000) % 0x400)) own := by
  have bound := c.isLt
  let high : CodePoint := ⟨0xD800 + (c.val - 0x10000) / 0x400, by omega⟩
  let low : CodePoint := ⟨0xDC00 + (c.val - 0x10000) % 0x400, by omega⟩
  have isHigh : high.isHighSurrogate = true := by simp [high, CodePoint.isHighSurrogate]; omega
  have isLow : low.isLowSurrogate = true := by simp [low, CodePoint.isLowSurrogate]; omega
  have joined : CodePoint.ofPair high low = c := by
    apply Fin.ext
    show 0x10000 + (0xD800 + (c.val - 0x10000) / 0x400) % 0x400 * 0x400 +
      (0xDC00 + (c.val - 0x10000) % 0x400) % 0x400 = c.val
    omega
  have scalar : c.isSurrogate = false := by simp [CodePoint.isSurrogate]; omega
  refine ⟨_, .pair isHigh isLow joined scalar, fun s rest pieces read => ?_⟩
  rw [List.append_assoc]
  have second := pieces?_hexEscape (c := low) (by show 0xDC00 + _ < _; omega) read
  exact pieces?_hexEscape (c := high) (by show 0xD800 + _ < _; omega) second

theorem escapeNeeded?_cases {c : CodePoint} {spelling : Text}
    (needed : escapeNeeded? c = some spelling) :
    (∃ e : CodePoint, spelling = [CodePoint.ofChar '\\', e] ∧ shortEscape? e = some c ∧ e ≠ 'u' ∧
      e.isAscii = true ∧ c.isAscii = true) ∨ spelling = hexEscape c.val ∧ c.val < 0x20 := by
  unfold escapeNeeded? at needed
  split at needed
  case isTrue mark =>
    cases needed
    rw [Bool.or_eq_true, decide_eq_true_eq, decide_eq_true_eq] at mark
    rcases mark with rfl | rfl
    all_goals exact .inl ⟨_, rfl, by decide, by decide, by decide, by decide⟩
  iterate 5
    split at needed
    case isTrue same =>
      cases needed
      subst same
      exact .inl ⟨_, rfl, by decide, by decide, by decide, by decide⟩
  split at needed
  case isTrue control =>
    cases needed
    exact .inr ⟨rfl, control⟩
  case isFalse => cases needed

theorem spelled_of_escapeNeeded {c : CodePoint} {spelling : Text}
    (needed : escapeNeeded? c = some spelling) : Spelled spelling c := by
  rcases escapeNeeded?_cases needed with ⟨e, rfl, short, notUnit, -⟩ | ⟨rfl, control⟩
  · exact spelled_short short notUnit
  · exact spelled_hexEscape (by omega) (by simp [CodePoint.isHighSurrogate]; omega)

theorem plain_of_not_needed {c : CodePoint} (free : escapeNeeded? c = none) :
    c ≠ '"' ∧ c ≠ '\\' ∧ ¬ c.val < 0x20 := by
  refine ⟨?_, ?_, ?_⟩
  · rintro rfl
    exact absurd free (by decide)
  · rintro rfl
    exact absurd free (by decide)
  · intro control
    unfold escapeNeeded? at free
    simp only [control, if_true] at free
    repeat' split at free
    all_goals cases free

/-- An escape under which every code point but a surrogate is read back. -/
def Faithful (escape : CodePoint → Text) : Prop :=
  ∀ c : CodePoint, c.isSurrogate = false → Spelled (escape c) c

theorem escapeLittle_faithful : Faithful escapeLittle := by
  intro c scalar
  unfold escapeLittle
  cases needed : escapeNeeded? c with
  | some spelling => exact spelled_of_escapeNeeded needed
  | none =>
    obtain ⟨noQuote, noEscape, noControl⟩ := plain_of_not_needed needed
    exact spelled_plain noQuote noEscape noControl

theorem exists_isWrittenAs (c : CodePoint) :
    ∃ own, IsWrittenAs c own ∧ YieldsPieces (escapeToAscii c) own := by
  unfold escapeToAscii
  cases needed : escapeNeeded? c with
  | some spelling =>
    rcases escapeNeeded?_cases needed with ⟨e, rfl, short, notUnit, -, ascii⟩ | ⟨rfl, control⟩
    · simp only [CodePoint.isAscii, decide_eq_true_eq] at ascii
      have scalar : c.isSurrogate = false := by simp [CodePoint.isSurrogate]; omega
      exact ⟨_, .plain scalar, fun s rest pieces read => pieces?_short short notUnit read⟩
    · exact ⟨_, .escaped, fun s rest pieces read => pieces?_hexEscape (by omega) read⟩
  | none =>
    obtain ⟨noQuote, noEscape, noControl⟩ := plain_of_not_needed needed
    rw [Option.getD_none]
    split
    · have scalar : c.isSurrogate = false := by simp [CodePoint.isSurrogate]; omega
      exact ⟨_, .plain scalar, fun s rest pieces read =>
        pieces?_plain noQuote noEscape noControl read⟩
    · split
      · rename_i short
        exact ⟨_, .escaped, fun s rest pieces read => pieces?_hexEscape short read⟩
      · exact exists_pair (by omega)

theorem IsWrittenAs.joinPieces_eq {c : CodePoint} {own : List Piece} (written : IsWrittenAs c own)
    (scalar : c.isSurrogate = false) (pieces : List Piece) :
    joinPieces (own ++ pieces) = c :: joinPieces pieces := by
  cases written with
  | plain => rfl
  | escaped =>
    refine joinPieces_escaped ?_ pieces
    cases high : c.isHighSurrogate with
    | false => rfl
    | true => cases (isSurrogate_of_high high).symm.trans scalar
  | pair isHigh isLow joined => simp [joinPieces, isHigh, isLow, joined]

theorem escapeToAscii_faithful : Faithful escapeToAscii := by
  intro c scalar
  obtain ⟨own, written, yields⟩ := exists_isWrittenAs c
  exact ⟨own, yields, written.joinPieces_eq scalar⟩

theorem string?_written {escape : CodePoint → Text} (faithful : Faithful escape) {s : Text}
    (scalar : s.hasSurrogate = false) (rest : Text) :
    string? (s.flatMap escape ++ CodePoint.ofChar '"' :: rest) = some (s, rest) := by
  have read : ∃ pieces, pieces? (s.flatMap escape ++ CodePoint.ofChar '"' :: rest) =
      some (pieces, rest) ∧ joinPieces pieces = s := by
    induction s with
    | nil => exact ⟨[], pieces?_quote rest, rfl⟩
    | cons c s ih =>
      simp only [Text.hasSurrogate, List.any_cons, Bool.or_eq_false_iff] at scalar
      obtain ⟨pieces, others, joined⟩ := ih scalar.2
      obtain ⟨own, first, joins⟩ := faithful c scalar.1
      refine ⟨own ++ pieces, ?_, by rw [joins, joined]⟩
      rw [List.flatMap_cons, List.append_assoc]
      exact first _ _ _ others
  obtain ⟨pieces, read, joined⟩ := read
  simp only [string?, read, Option.map_some, joined]

end Json

theorem Text.hasSurrogate_of_isAscii {s : Text} (ascii : s.isAscii = true) :
    s.hasSurrogate = false := by
  refine List.any_eq_false.mpr fun c member => ?_
  have small := List.all_eq_true.mp ascii c member
  simp only [CodePoint.isAscii, decide_eq_true_eq] at small
  simp only [CodePoint.isSurrogate, Bool.and_eq_true, decide_eq_true_eq]
  omega

theorem Text.hasSurrogate_append (s t : Text) :
    (s ++ t).hasSurrogate = (s.hasSurrogate || t.hasSurrogate) :=
  List.any_append

theorem Text.hasSurrogate_join {separator : Text} (mark : separator.hasSurrogate = false)
    (items : List Text) :
    (Text.join separator items).hasSurrogate = items.any Text.hasSurrogate := by
  induction items with
  | nil => rfl
  | cons first items ih =>
    cases items with
    | nil => simp [Text.join]
    | cons second items =>
      simp only [Text.join, Text.hasSurrogate_append, mark, ih, Bool.or_false, List.any_cons]

namespace Json

theorem isAscii_hexEscape (n : Nat) : Text.isAscii (hexEscape n) = true := by
  have digits : ∀ i : Fin 16, (Text.hexDigit i.val).isAscii = true := by decide
  have digit (m : Nat) : (Text.hexDigit (m % 16)).isAscii = true :=
    digits ⟨m % 16, Nat.mod_lt _ (by decide)⟩
  change List.all [CodePoint.ofChar '\\', CodePoint.ofChar 'u', Text.hexDigit (n / 16 ^ 3 % 16),
    Text.hexDigit (n / 16 ^ 2 % 16), Text.hexDigit (n / 16 ^ 1 % 16),
    Text.hexDigit (n / 16 ^ 0 % 16)] CodePoint.isAscii = true
  simp only [List.all_cons, List.all_nil, digit]
  decide

theorem isAscii_of_escapeNeeded {c : CodePoint} {spelling : Text}
    (needed : escapeNeeded? c = some spelling) : spelling.isAscii = true := by
  rcases escapeNeeded?_cases needed with ⟨e, rfl, -, -, ascii, -⟩ | ⟨rfl, -⟩
  · have mark : (CodePoint.ofChar '\\').isAscii = true := by decide
    simp only [Text.isAscii, List.all_cons, List.all_nil, mark, ascii, Bool.and_self]
  · exact isAscii_hexEscape _

theorem isAscii_escapeToAscii (c : CodePoint) : (escapeToAscii c).isAscii = true := by
  unfold escapeToAscii
  cases needed : escapeNeeded? c with
  | some spelling => exact isAscii_of_escapeNeeded needed
  | none =>
    rw [Option.getD_none]
    split
    · rename_i small
      simp only [Text.isAscii, List.all_cons, List.all_nil, CodePoint.isAscii, Bool.and_true,
        decide_eq_true_eq]
      omega
    · split
      · exact isAscii_hexEscape _
      · rw [Text.isAscii, List.all_append]
        exact Bool.and_eq_true_iff.mpr ⟨isAscii_hexEscape _, isAscii_hexEscape _⟩

theorem escapeNeeded?_of_surrogate {c : CodePoint} (surrogate : c.isSurrogate = true) :
    escapeNeeded? c = none := by
  simp only [CodePoint.isSurrogate, Bool.and_eq_true, decide_eq_true_eq] at surrogate
  cases needed : escapeNeeded? c with
  | none => rfl
  | some spelling =>
    rcases escapeNeeded?_cases needed with ⟨e, -, -, -, -, ascii⟩ | ⟨-, control⟩
    · simp only [CodePoint.isAscii, decide_eq_true_eq] at ascii
      omega
    · omega

theorem hasSurrogate_escapeLittle (c : CodePoint) :
    Text.hasSurrogate (escapeLittle c) = c.isSurrogate := by
  unfold escapeLittle
  cases needed : escapeNeeded? c with
  | none => simp [Text.hasSurrogate]
  | some spelling =>
    have ascii := isAscii_of_escapeNeeded needed
    cases surrogate : c.isSurrogate with
    | true => simp [escapeNeeded?_of_surrogate surrogate] at needed
    | false => exact Text.hasSurrogate_of_isAscii ascii

theorem hasSurrogate_string (s : Text) :
    (string escapeLittle s).hasSurrogate = s.hasSurrogate := by
  have content : Text.hasSurrogate (s.flatMap escapeLittle) = s.hasSurrogate := by
    unfold Text.hasSurrogate
    rw [List.any_flatMap]
    exact congrArg s.any (funext hasSurrogate_escapeLittle)
  have quote : Text.hasSurrogate (Text.lit "\"") = false := by decide
  simp only [string, Text.hasSurrogate, List.any_append] at content quote ⊢
  rw [quote, content, Bool.false_or, Bool.or_false]

end Json

end Tollgate

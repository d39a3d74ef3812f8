import Tollgate.Proofs.Json.Literal
import Tollgate.Text.Wide

namespace Tollgate.Json

inductive AreWrittenAs : Text → List Piece → Prop where
  | nil : AreWrittenAs [] []
  | cons {c : CodePoint} {own : List Piece} {s : Text} {pieces : List Piece} :
      IsWrittenAs c own → AreWrittenAs s pieces → AreWrittenAs (c :: s) (own ++ pieces)

theorem exists_areWrittenAs (s rest : Text) :
    ∃ pieces, AreWrittenAs s pieces ∧
      pieces? (s.flatMap escapeToAscii ++ CodePoint.ofChar '"' :: rest) = some (pieces, rest) := by
  induction s with
  | nil => exact ⟨[], .nil, pieces?_quote rest⟩
  | cons c s ih =>
    obtain ⟨pieces, others, read⟩ := ih
    obtain ⟨own, written, yields⟩ := exists_isWrittenAs c
    refine ⟨own ++ pieces, .cons written others, ?_⟩
    rw [List.flatMap_cons, List.append_assoc]
    exact yields _ _ _ read

section

variable {c d : CodePoint} {s : Text} {own pieces : List Piece}

theorem IsWrittenAs.eq_escaped (written : IsWrittenAs c own) (surrogate : c.isSurrogate = true) :
    own = [.escaped c] := by
  cases written with
  | escaped => rfl
  | plain scalar => cases surrogate.symm.trans scalar
  | pair _ _ _ scalar => cases surrogate.symm.trans scalar

theorem joinPieces_pair (first : IsWrittenAs c own) {next : List Piece}
    (second : IsWrittenAs d next) (isPair : (c.isHighSurrogate && d.isLowSurrogate) = true) :
    joinPieces (own ++ (next ++ pieces)) = CodePoint.ofPair c d :: joinPieces pieces := by
  rw [Bool.and_eq_true] at isPair
  rw [first.eq_escaped (isSurrogate_of_high isPair.1),
    second.eq_escaped (isSurrogate_of_low isPair.2)]
  simp [joinPieces, isPair]

theorem joinPieces_apart (first : IsWrittenAs c own) {next : List Piece}
    (second : IsWrittenAs d next) (apart : ¬ (c.isHighSurrogate && d.isLowSurrogate) = true) :
    joinPieces (own ++ (next ++ pieces)) = c :: joinPieces (next ++ pieces) := by
  cases first with
  | plain => rfl
  | pair isHigh isLow joined => simp [joinPieces, isHigh, isLow, joined]
  | escaped =>
    cases second with
    | plain => rfl
    | escaped => simp [joinPieces, apart]
    | pair isHigh => simp [joinPieces, not_low_of_high isHigh]

theorem joinPieces_single (written : IsWrittenAs c own) : joinPieces (own ++ []) = [c] := by
  cases written with
  | plain | escaped => rfl
  | pair isHigh isLow joined => simp [joinPieces, isHigh, isLow, joined]

theorem AreWrittenAs.joinPieces_eq (written : AreWrittenAs s pieces) :
    joinPieces pieces = s.joinPairs := by
  fun_induction Text.joinPairs s generalizing pieces with
  | case1 =>
    cases written
    rfl
  | case2 c =>
    obtain ⟨⟩ | ⟨first, ⟨⟩⟩ := written
    exact joinPieces_single first
  | case3 c d s isPair ih =>
    obtain ⟨⟩ | ⟨first, ⟨⟩ | ⟨second, others⟩⟩ := written
    rw [joinPieces_pair first second isPair, ih others]
  | case4 c d s apart ih =>
    obtain ⟨⟩ | ⟨first, ⟨⟩ | ⟨second, others⟩⟩ := written
    rw [joinPieces_apart first second apart, ih (.cons second others)]

end

theorem string?_escapeToAscii (s rest : Text) :
    string? (s.flatMap escapeToAscii ++ CodePoint.ofChar '"' :: rest) =
      some (s.joinPairs, rest) := by
  obtain ⟨pieces, written, read⟩ := exists_areWrittenAs s rest
  simp only [string?, read, Option.map_some, written.joinPieces_eq]

end Tollgate.Json

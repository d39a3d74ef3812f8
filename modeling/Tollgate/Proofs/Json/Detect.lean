import Tollgate.Json.Detect
import Tollgate.Proofs.Json.RoundTrip
import Tollgate.Proofs.Text.Utf8
import Tollgate.Proofs.Trace

namespace Tollgate

theorem Utf8.scalar?_loose {least n : Nat} {c : CodePoint} (read : scalar? false least n = some c) :
    scalar? true least n = some c := by
  obtain ⟨value, enough, -⟩ := scalar?_eq_some read
  have inRange : CodePoint.ofNat? c.val = some c := dif_pos c.isLt
  have short : ¬ c.val < least := by omega
  simp [scalar?, ← value, inRange, short]

theorem Utf8.decodeLoose_of_decode {bytes : Bytes} {s : Text} (decoded : decode bytes = some s) :
    decodeLoose bytes = some s := by
  unfold decode at decoded
  unfold decodeLoose
  fun_induction decodeWith false bytes generalizing s with
  | case1 => cases decoded; rfl
  | case2 a bytes ascii ih =>
    obtain ⟨rest, others, rfl⟩ := Option.map_eq_some_iff.mp decoded
    rw [decodeWith.eq_def]
    simp [ascii, ih others]
  | case4 a long b bytes form ih =>
    obtain ⟨c, read, decoded⟩ := Option.bind_eq_some_iff.mp decoded
    obtain ⟨rest, others, rfl⟩ := Option.map_eq_some_iff.mp decoded
    rw [decodeWith.eq_def]
    simp only [long, form, if_true, if_false, scalar?_loose read, ih others]
    rfl
  | case6 a long b noTwo c bytes form ih =>
    obtain ⟨point, read, decoded⟩ := Option.bind_eq_some_iff.mp decoded
    obtain ⟨rest, others, rfl⟩ := Option.map_eq_some_iff.mp decoded
    rw [decodeWith.eq_def]
    simp only [long, noTwo, form, if_true, if_false, scalar?_loose read, ih others]
    rfl
  | case8 a long b noTwo c noThree d bytes form ih =>
    obtain ⟨point, read, decoded⟩ := Option.bind_eq_some_iff.mp decoded
    obtain ⟨rest, others, rfl⟩ := Option.map_eq_some_iff.mp decoded
    rw [decodeWith.eq_def]
    simp only [long, noTwo, noThree, form, if_true, if_false, scalar?_loose read, ih others]
    rfl
  | case3 | case5 | case7 | case9 => cases decoded

def CodePoint.IsPlain (c : CodePoint) : Prop := 0 < c.val ∧ c.val < 0x80

namespace Json

section

variable {c d : CodePoint} {s rest more : Text} {value : Json} {members : Members} {fuel : Nat}

theorem isPlain_of_isPadding (padding : isPadding c = true) : c.IsPlain := by
  have marks : c = ' ' ∨ c = '\t' ∨ c = '\n' ∨ c = '\r' := by
    simpa [isPadding, or_assoc] using padding
  rcases marks with rfl | rfl | rfl | rfl
  all_goals exact ⟨by decide, by decide⟩

theorem constant?_ne_object (named : constant? s = some (value, rest)) :
    value ≠ .object members := by
  unfold constant? at named
  obtain ⟨⟨word, held⟩, member, found⟩ := List.exists_of_findSome?_eq_some named
  have scalars : ∀ constant ∈ constants, ∀ members, constant.2 ≠ .object members := by
    simp [constants]
  have held := scalars _ member members
  dsimp only at found
  split at found
  · cases found
    exact held
  · cases found

theorem numeral_ne_object (numeral : Numeral) : numeral.value ≠ .ok (.object members) := by
  unfold Numeral.value
  split
  · split <;> exact nofun
  · exact nofun

theorem readScalar_ne_object : readScalar Numeral.value s ≠ .ok (.object members, rest) := by
  intro read
  unfold readScalar at read
  split at read
  · rename_i answer named
    cases read
    exact constant?_ne_object named rfl
  · split at read
    · obtain ⟨value, given, same⟩ := bind_eq_ok.mp read
      cases same
      exact numeral_ne_object _ given
    · cases read

theorem readPairs_opening {number : NumberReader} {pairs : List (Text × Json)}
    (read : readPairs number fuel (c :: s) = .ok (pairs, rest)) : c = '"' := by
  by_contra other
  cases fuel with
  | zero => cases read
  | succ fuel => simp [readPairs, other] at read

theorem readValue_opening (read : readValue Numeral.value fuel s = .ok (.object members, rest)) :
    ∃ inside c more, s = CodePoint.ofChar '{' :: inside ∧ skipPadding inside = c :: more ∧
      (c = '}' ∨ c = '"') := by
  cases fuel with
  | zero => cases read
  | succ fuel =>
  cases s with
  | nil => cases read
  | cons c s =>
  unfold readValue at read
  split at read
  · split at read <;> cases read
  split at read
  · split at read
    · cases read
    · split at read
      · cases read
      · obtain ⟨items, -, same⟩ := bind_eq_ok.mp read
        cases same
  split at read
  · rename_i brace
    subst brace
    split at read
    · cases read
    · rename_i d more shape
      refine ⟨s, d, more, rfl, shape, ?_⟩
      split at read
      · rename_i closed
        exact .inl closed
      · obtain ⟨⟨pairs, after⟩, inside, -⟩ := bind_eq_ok.mp read
        exact .inr (readPairs_opening inside)
  · exact absurd read readScalar_ne_object

theorem exists_plain_of_skipPadding (shape : skipPadding s = c :: more) (plain : c.IsPlain) :
    ∃ d rest, s = d :: rest ∧ d.IsPlain := by
  cases s with
  | nil => cases shape
  | cons d s =>
    refine ⟨d, s, rfl, ?_⟩
    cases padding : isPadding d with
    | true => exact isPlain_of_isPadding padding
    | false =>
      rw [skipPadding_mark padding] at shape
      cases shape
      exact plain

theorem exists_plain_of_object (object : Json.read s = .ok (.object members)) :
    ∃ c d rest, s = c :: d :: rest ∧ c.IsPlain ∧ d.IsPlain := by
  have brace : (CodePoint.ofChar '{').IsPlain := ⟨by decide, by decide⟩
  obtain ⟨⟨value, after⟩, given, ended⟩ := bind_eq_ok.mp object
  dsimp only at ended
  have same : value = .object members := by
    split at ended
    · exact Except.ok.inj ended
    · cases ended
  subst same
  obtain ⟨inside, c, more, start, next, mark⟩ := readValue_opening given
  have plain : c.IsPlain := by
    rcases mark with rfl | rfl
    all_goals exact ⟨by decide, by decide⟩
  cases s with
  | nil => cases start
  | cons d s =>
    cases padding : isPadding d with
    | true =>
      have shape : skipPadding s = CodePoint.ofChar '{' :: inside := by
        rw [← start]
        simp [skipPadding, padding]
      obtain ⟨e, rest, rfl, also⟩ := exists_plain_of_skipPadding shape brace
      exact ⟨d, e, rest, rfl, isPlain_of_isPadding padding, also⟩
    | false =>
      rw [skipPadding_mark padding] at start
      cases start
      obtain ⟨e, rest, rfl, also⟩ := exists_plain_of_skipPadding next plain
      exact ⟨_, e, rest, rfl, brace, also⟩

end

section

variable {a b : UInt8} {bytes rest : Bytes} {s : Text} {members : Members}

theorem cutMark?_of_ascii (low : 0 < a.toNat) (high : a.toNat < 0x80) (rest : Bytes) :
    cutMark? (a :: rest) = none := by
  unfold cutMark?
  split
  case h_6 => rfl
  all_goals
    rename_i same
    cases same
    first
    | exact absurd low (by decide)
    | exact absurd high (by decide)

theorem guess_of_nonzero (first : a ≠ 0) (second : b ≠ 0) (rest : Bytes) :
    guess (a :: b :: rest) = .utf8 := by
  match rest with
  | [] => simp [guess, first, second]
  | [_] => rfl
  | _ :: _ :: _ => simp [guess, first, second]

theorem encode_plain {c : CodePoint} (plain : c.IsPlain)
    (written : Utf8.encode (c :: s) = some bytes) :
    ∃ a rest, bytes = a :: rest ∧ a.toNat = c.val ∧ Utf8.encode s = some rest := by
  have one : Utf8.encodeOne c = some [UInt8.ofNat c.val] := if_pos plain.2
  have value : (UInt8.ofNat c.val).toNat = c.val :=
    Utf8.toNat_ofNat (Nat.lt_trans plain.2 (by decide))
  cases others : Utf8.encode s with
  | none => simp [Utf8.encode, one, others] at written
  | some rest =>
    cases (Utf8.encode_cons one others).symm.trans written
    exact ⟨_, rest, rfl, value, rfl⟩

theorem decode_of_plain {c d : CodePoint} (decoded : Utf8.decode bytes = some (c :: d :: s))
    (first : c.IsPlain) (second : d.IsPlain) : Json.decode bytes = some (c :: d :: s) := by
  obtain ⟨a, others, rfl, value, written⟩ := encode_plain first (Utf8.encode_of_decode decoded)
  obtain ⟨b, more, rfl, also, -⟩ := encode_plain second written
  have noMark : cutMark? (a :: b :: more) = none := by
    apply cutMark?_of_ascii
    · exact value ▸ first.1
    · exact value ▸ first.2
  have nonzero {byte : UInt8} (positive : 0 < byte.toNat) : byte ≠ 0 := by
    intro zero
    subst zero
    exact absurd positive (by decide)
  unfold Json.decode
  rw [noMark, guess_of_nonzero (nonzero (value ▸ first.1)) (nonzero (also ▸ second.1))]
  exact Utf8.decodeLoose_of_decode decoded

theorem decode_of_object (decoded : Utf8.decode bytes = some s)
    (object : Json.read s = .ok (.object members)) : Json.decode bytes = some s := by
  obtain ⟨c, d, rest, rfl, first, second⟩ := exists_plain_of_object object
  exact decode_of_plain decoded first second

end

end Json

end Tollgate

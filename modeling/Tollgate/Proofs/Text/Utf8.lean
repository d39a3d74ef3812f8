import Tollgate.Text.Utf8

namespace Tollgate.Utf8

theorem scalar?_eq_some {least n : Nat} {c : CodePoint} (read : scalar? false least n = some c) :
    c.val = n ∧ least ≤ n ∧ c.isSurrogate = false := by
  obtain ⟨point, inRange, kept⟩ := Option.bind_eq_some_iff.mp read
  unfold CodePoint.ofNat? at inRange
  split at inRange
  · cases inRange
    simp only [Bool.not_false, Bool.and_true, Bool.or_eq_true, decide_eq_true_eq,
      Option.ite_none_left_eq_some, not_or, Nat.not_lt, Bool.not_eq_true, Option.some.injEq] at kept
    obtain ⟨⟨enough, scalar⟩, rfl⟩ := kept
    exact ⟨rfl, enough, scalar⟩
  · cases inRange

theorem isTail_iff {b : UInt8} : isTail b = true ↔ 0x80 ≤ b.toNat ∧ b.toNat < 0xC0 := by
  simp [isTail, UInt8.le_iff_toNat_le, UInt8.lt_iff_toNat_lt]

theorem encodeOne_ofByte {a : UInt8} (ascii : a < 0x80) :
    encodeOne (CodePoint.ofByte a) = some [a] := by
  have small : a.toNat < 0x80 := UInt8.lt_iff_toNat_lt.mp ascii
  simp [encodeOne, CodePoint.ofByte, small]

theorem encodeOne_two {a b : UInt8} {c : CodePoint} (low : 0xC0 ≤ a.toNat) (high : a.toNat < 0xE0)
    (tail : isTail b = true) (read : scalar? false 0x80 (two a b) = some c) :
    encodeOne c = some [a, b] := by
  obtain ⟨value, enough, _⟩ := scalar?_eq_some read
  obtain ⟨tailLow, tailHigh⟩ := isTail_iff.mp tail
  unfold two at value enough
  have first : 0xC0 + c.val / 0x40 = a.toNat := by omega
  have second : 0x80 + c.val % 0x40 = b.toNat := by omega
  have long : ¬ c.val < 0x80 := by omega
  have short : c.val < 0x800 := by omega
  simp only [encodeOne, long, short, UInt8.ofNat_toNat, if_true, if_false, first, second]

theorem encodeOne_three {a b c : UInt8} {point : CodePoint} (low : 0xE0 ≤ a.toNat)
    (high : a.toNat < 0xF0) (tail₁ : isTail b = true) (tail₂ : isTail c = true)
    (read : scalar? false 0x800 (three a b c) = some point) :
    encodeOne point = some [a, b, c] := by
  obtain ⟨value, enough, scalar⟩ := scalar?_eq_some read
  obtain ⟨tailLow₁, tailHigh₁⟩ := isTail_iff.mp tail₁
  obtain ⟨tailLow₂, tailHigh₂⟩ := isTail_iff.mp tail₂
  unfold three at value enough
  have first : 0xE0 + point.val / 0x1000 = a.toNat := by omega
  have second : 0x80 + point.val / 0x40 % 0x40 = b.toNat := by omega
  have third : 0x80 + point.val % 0x40 = c.toNat := by omega
  have long₁ : ¬ point.val < 0x80 := by omega
  have long₂ : ¬ point.val < 0x800 := by omega
  have short : point.val < 0x10000 := by omega
  simp only [encodeOne, long₁, long₂, scalar, short, Bool.false_eq_true, if_true, if_false, first,
    second, third, UInt8.ofNat_toNat]

theorem encodeOne_four {a b c d : UInt8} {point : CodePoint} (low : 0xF0 ≤ a.toNat)
    (high : a.toNat < 0xF8) (tail₁ : isTail b = true) (tail₂ : isTail c = true)
    (tail₃ : isTail d = true) (read : scalar? false 0x10000 (four a b c d) = some point) :
    encodeOne point = some [a, b, c, d] := by
  obtain ⟨value, enough, scalar⟩ := scalar?_eq_some read
  obtain ⟨tailLow₁, tailHigh₁⟩ := isTail_iff.mp tail₁
  obtain ⟨tailLow₂, tailHigh₂⟩ := isTail_iff.mp tail₂
  obtain ⟨tailLow₃, tailHigh₃⟩ := isTail_iff.mp tail₃
  unfold four at value enough
  have first : 0xF0 + point.val / 0x40000 = a.toNat := by omega
  have second : 0x80 + point.val / 0x1000 % 0x40 = b.toNat := by omega
  have third : 0x80 + point.val / 0x40 % 0x40 = c.toNat := by omega
  have fourth : 0x80 + point.val % 0x40 = d.toNat := by omega
  have long₁ : ¬ point.val < 0x80 := by omega
  have long₂ : ¬ point.val < 0x800 := by omega
  have long₃ : ¬ point.val < 0x10000 := by omega
  simp only [encodeOne, long₁, long₂, long₃, scalar, Bool.false_eq_true, if_false, first, second,
    third, fourth, UInt8.ofNat_toNat]

theorem encode_cons {c : CodePoint} {s : Text} {bytes rest : Bytes}
    (first : encodeOne c = some bytes) (others : encode s = some rest) :
    encode (c :: s) = some (bytes ++ rest) := by
  simp [encode, first, others]

theorem encode_of_decode {bytes : Bytes} {s : Text} (decoded : decode bytes = some s) :
    encode s = some bytes := by
  unfold decode at decoded
  fun_induction decodeWith false bytes generalizing s with
  | case1 => cases decoded; rfl
  | case2 a bytes ascii ih =>
    obtain ⟨rest, others, rfl⟩ := Option.map_eq_some_iff.mp decoded
    exact encode_cons (encodeOne_ofByte ascii) (ih others)
  | case4 a _ b bytes form ih =>
    obtain ⟨c, read, decoded⟩ := Option.bind_eq_some_iff.mp decoded
    obtain ⟨rest, others, rfl⟩ := Option.map_eq_some_iff.mp decoded
    simp only [Bool.and_eq_true, decide_eq_true_eq] at form
    exact encode_cons (encodeOne_two form.1.1 form.1.2 form.2 read) (ih others)
  | case6 a _ b _ c bytes form ih =>
    obtain ⟨point, read, decoded⟩ := Option.bind_eq_some_iff.mp decoded
    obtain ⟨rest, others, rfl⟩ := Option.map_eq_some_iff.mp decoded
    simp only [Bool.and_eq_true, decide_eq_true_eq] at form
    exact encode_cons (encodeOne_three form.1.1.1 form.1.1.2 form.1.2 form.2 read) (ih others)
  | case8 a _ b _ c _ d bytes form ih =>
    obtain ⟨point, read, decoded⟩ := Option.bind_eq_some_iff.mp decoded
    obtain ⟨rest, others, rfl⟩ := Option.map_eq_some_iff.mp decoded
    simp only [Bool.and_eq_true, decide_eq_true_eq] at form
    exact encode_cons
      (encodeOne_four form.1.1.1.1 form.1.1.1.2 form.1.1.2 form.1.2 form.2 read) (ih others)
  | case3 | case5 | case7 | case9 => cases decoded

theorem scalar?_of_val {c : CodePoint} {least n : Nat} (value : n = c.val) (enough : least ≤ n)
    (scalar : c.isSurrogate = false) : scalar? false least n = some c := by
  subst value
  have inRange : CodePoint.ofNat? c.val = some c := dif_pos c.isLt
  have short : ¬ c.val < least := by omega
  simp [scalar?, inRange, short, scalar]

theorem toNat_ofNat {n : Nat} (small : n < 0x100) : (UInt8.ofNat n).toNat = n := by
  rw [UInt8.toNat_ofNat']
  omega

theorem isTail_ofNat (n : Nat) : isTail (UInt8.ofNat (0x80 + n % 0x40)) = true := by
  rw [isTail_iff, toNat_ofNat (by omega)]
  omega

theorem not_ascii {a : UInt8} (low : 0x80 ≤ a.toNat) : ¬ a < 0x80 :=
  UInt8.not_lt.mpr (UInt8.le_iff_toNat_le.mpr low)

theorem decodeWith_one {c : CodePoint} (ascii : c.val < 0x80) (rest : Bytes) :
    decodeWith false (UInt8.ofNat c.val :: rest) = (c :: ·) <$> decodeWith false rest := by
  have value := toNat_ofNat (n := c.val) (by omega)
  have small : UInt8.ofNat c.val < 0x80 := UInt8.lt_iff_toNat_lt.mpr (by rw [value]; exact ascii)
  have same : CodePoint.ofByte (UInt8.ofNat c.val) = c := Fin.ext value
  rw [decodeWith.eq_def]
  simp only [small, if_true, same]

theorem decodeWith_two {a b : UInt8} {c : CodePoint} (low : 0xC0 ≤ a.toNat)
    (high : a.toNat < 0xE0) (tail : isTail b = true)
    (read : scalar? false 0x80 (two a b) = some c) (rest : Bytes) :
    decodeWith false (a :: b :: rest) = (c :: ·) <$> decodeWith false rest := by
  have least : 0xC0 ≤ a := UInt8.le_iff_toNat_le.mpr low
  have greatest : a < 0xE0 := UInt8.lt_iff_toNat_lt.mpr high
  rw [decodeWith.eq_def]
  simp [not_ascii (Nat.le_trans (by decide) low), least, greatest, tail, read]

theorem decodeWith_three {a b c : UInt8} {point : CodePoint} (low : 0xE0 ≤ a.toNat)
    (high : a.toNat < 0xF0) (tail₁ : isTail b = true) (tail₂ : isTail c = true)
    (read : scalar? false 0x800 (three a b c) = some point) (rest : Bytes) :
    decodeWith false (a :: b :: c :: rest) = (point :: ·) <$> decodeWith false rest := by
  have least : 0xE0 ≤ a := UInt8.le_iff_toNat_le.mpr low
  have greatest : a < 0xF0 := UInt8.lt_iff_toNat_lt.mpr high
  rw [decodeWith.eq_def]
  simp [not_ascii (Nat.le_trans (by decide) low), least, greatest, UInt8.not_lt.mpr least, tail₁,
    tail₂, read]

theorem decodeWith_four {a b c d : UInt8} {point : CodePoint} (low : 0xF0 ≤ a.toNat)
    (high : a.toNat < 0xF8) (tail₁ : isTail b = true) (tail₂ : isTail c = true)
    (tail₃ : isTail d = true) (read : scalar? false 0x10000 (four a b c d) = some point)
    (rest : Bytes) :
    decodeWith false (a :: b :: c :: d :: rest) = (point :: ·) <$> decodeWith false rest := by
  have least : 0xF0 ≤ a := UInt8.le_iff_toNat_le.mpr low
  have greatest : a < 0xF8 := UInt8.lt_iff_toNat_lt.mpr high
  have notTwo : ¬ a < 0xE0 := UInt8.not_lt.mpr (UInt8.le_trans (by decide) least)
  rw [decodeWith.eq_def]
  simp [not_ascii (Nat.le_trans (by decide) low), least, greatest, notTwo, UInt8.not_lt.mpr least,
    tail₁, tail₂, tail₃, read]

theorem decodeWith_encodeOne {c : CodePoint} {bytes : Bytes} (written : encodeOne c = some bytes)
    (rest : Bytes) : decodeWith false (bytes ++ rest) = (c :: ·) <$> decodeWith false rest := by
  have bound := c.isLt
  simp only [encodeOne] at written
  split at written
  case isTrue ascii =>
    cases written
    exact decodeWith_one ascii rest
  split at written
  case isTrue long short =>
    cases written
    have first := toNat_ofNat (n := 0xC0 + c.val / 0x40) (by omega)
    have second := toNat_ofNat (n := 0x80 + c.val % 0x40) (by omega)
    have scalar : c.isSurrogate = false := by simp [CodePoint.isSurrogate]; omega
    refine decodeWith_two (by omega) (by omega) (isTail_ofNat _) (scalar?_of_val ?_ ?_ scalar) rest
    all_goals unfold two; omega
  split at written
  case isTrue => cases written
  rename_i long₁ long₂ scalar
  rw [Bool.not_eq_true] at scalar
  split at written
  case isTrue short =>
    cases written
    have first := toNat_ofNat (n := 0xE0 + c.val / 0x1000) (by omega)
    have second := toNat_ofNat (n := 0x80 + c.val / 0x40 % 0x40) (by omega)
    have third := toNat_ofNat (n := 0x80 + c.val % 0x40) (by omega)
    refine decodeWith_three (by omega) (by omega) (isTail_ofNat _) (isTail_ofNat _)
      (scalar?_of_val ?_ ?_ scalar) rest
    all_goals unfold three; omega
  case isFalse long₃ =>
    cases written
    have first := toNat_ofNat (n := 0xF0 + c.val / 0x40000) (by omega)
    have second := toNat_ofNat (n := 0x80 + c.val / 0x1000 % 0x40) (by omega)
    have third := toNat_ofNat (n := 0x80 + c.val / 0x40 % 0x40) (by omega)
    have fourth := toNat_ofNat (n := 0x80 + c.val % 0x40) (by omega)
    refine decodeWith_four (by omega) (by omega) (isTail_ofNat _) (isTail_ofNat _)
      (isTail_ofNat _) (scalar?_of_val ?_ ?_ scalar) rest
    all_goals unfold four; omega

theorem decode_of_encode {s : Text} {bytes : Bytes} (written : encode s = some bytes) :
    decode bytes = some s := by
  unfold decode
  induction s generalizing bytes with
  | nil => cases written; rfl
  | cons c s ih =>
    simp only [encode, Option.bind_eq_bind, Option.bind_eq_some_iff, Option.pure_def,
      Option.some.injEq] at written
    obtain ⟨first, one, others, rest, rfl⟩ := written
    rw [decodeWith_encodeOne one, ih rest]
    rfl

theorem exists_encode {s : Text} (scalar : s.hasSurrogate = false) :
    ∃ bytes, encode s = some bytes := by
  induction s with
  | nil => exact ⟨[], rfl⟩
  | cons c s ih =>
    simp only [Text.hasSurrogate, List.any_cons, Bool.or_eq_false_iff] at scalar
    obtain ⟨rest, others⟩ := ih scalar.2
    have one : ∃ bytes, encodeOne c = some bytes := by
      simp only [encodeOne, scalar.1, Bool.false_eq_true, if_false]
      repeat' split
      all_goals exact ⟨_, rfl⟩
    obtain ⟨bytes, first⟩ := one
    exact ⟨_, encode_cons first others⟩

theorem hasSurrogate_of_encode {s : Text} {bytes : Bytes} (written : encode s = some bytes) :
    s.hasSurrogate = false := by
  induction s generalizing bytes with
  | nil => rfl
  | cons c s ih =>
    simp only [encode, Option.bind_eq_bind, Option.bind_eq_some_iff] at written
    obtain ⟨first, one, rest, others, -⟩ := written
    have scalar : c.isSurrogate = false := by
      cases surrogate : c.isSurrogate with
      | false => rfl
      | true =>
        have range := surrogate
        simp only [CodePoint.isSurrogate, Bool.and_eq_true, decide_eq_true_eq] at range
        have long : ¬ c.val < 0x80 := by omega
        have longer : ¬ c.val < 0x800 := by omega
        simp [encodeOne, long, longer, surrogate] at one
    simp only [Text.hasSurrogate, List.any_cons, scalar, Bool.false_or]
    exact ih others

theorem encode_ne_none_iff {s : Text} : ¬ encode s = none ↔ s.hasSurrogate = false := by
  rw [← ne_eq, Option.ne_none_iff_exists']
  exact ⟨fun ⟨_, written⟩ => hasSurrogate_of_encode written, exists_encode⟩

theorem encode_lowBytes {s : Text} (ascii : s.isAscii = true) : encode s = some s.lowBytes := by
  induction s with
  | nil => rfl
  | cons c s ih =>
    simp only [Text.isAscii, List.all_cons, Bool.and_eq_true] at ascii
    have small : c.val < 0x80 := by simpa [CodePoint.isAscii] using ascii.1
    have first : encodeOne c = some [UInt8.ofNat c.val] := by simp [encodeOne, small]
    exact encode_cons first (ih ascii.2)

end Tollgate.Utf8

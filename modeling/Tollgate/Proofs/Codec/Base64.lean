import Tollgate.Codec.Base64
import Tollgate.Text.Blank

namespace Tollgate.Base64

theorem sextet?_digit {n : Nat} (small : n < 64) : sextet? (digit n) = some n := by
  have all : ∀ i : Fin 64, sextet? (digit i.val) = some i.val := by decide
  exact all ⟨n, small⟩

def IsDigit (b : UInt8) : Prop := ∃ n < 64, b = digit n

theorem isDigit_digit {n : Nat} (small : n < 64) : IsDigit (digit n) := ⟨n, small, rfl⟩

theorem IsDigit.ne_padMark {b : UInt8} (isDigit : IsDigit b) : b ≠ padMark := by
  have all : ∀ i : Fin 64, digit i.val ≠ padMark := by decide
  obtain ⟨n, small, rfl⟩ := isDigit
  exact all ⟨n, small⟩

theorem IsDigit.ne_dot {b : UInt8} (isDigit : IsDigit b) : b ≠ 0x2E := by
  have all : ∀ i : Fin 64, digit i.val ≠ 0x2E := by decide
  obtain ⟨n, small, rfl⟩ := isDigit
  exact all ⟨n, small⟩

theorem IsDigit.isAscii {b : UInt8} (isDigit : IsDigit b) :
    (CodePoint.ofByte b).isAscii = true := by
  have all : ∀ i : Fin 64, (CodePoint.ofByte (digit i.val)).isAscii = true := by decide
  obtain ⟨n, small, rfl⟩ := isDigit
  exact all ⟨n, small⟩

theorem IsDigit.not_blank {b : UInt8} (isDigit : IsDigit b) :
    (CodePoint.ofByte b).isBlank = false := by
  have all : ∀ i : Fin 64, (CodePoint.ofByte (digit i.val)).isBlank = false := by decide
  obtain ⟨n, small, rfl⟩ := isDigit
  exact all ⟨n, small⟩

theorem decodeFrom_digit {n pads : Nat} {digits : List Nat} (small : n < 64)
    (unfinished : digits.length ≠ 3) (rest : Bytes) :
    decodeFrom digits pads (digit n :: rest) = decodeFrom (digits ++ [n]) 0 rest := by
  simp [decodeFrom, (isDigit_digit small).ne_padMark, sextet?_digit small, unfinished]

theorem decodeFrom_lastDigit {n pads : Nat} {digits : List Nat} (small : n < 64)
    (last : digits.length = 3) (rest : Bytes) :
    decodeFrom digits pads (digit n :: rest) =
      (group (digits ++ [n]) ++ ·) <$> decodeFrom [] 0 rest := by
  simp [decodeFrom, (isDigit_digit small).ne_padMark, sextet?_digit small, last]

theorem ofNat_eq {n : Nat} {b : UInt8} (same : n = b.toNat) : UInt8.ofNat n = b := by
  rw [same, UInt8.ofNat_toNat]

theorem group_two (a : UInt8) : group [a.toNat / 4, a.toNat % 4 * 16] = [a] := by
  simp only [group]
  rw [ofNat_eq (b := a) (by omega)]

theorem group_three (a b : UInt8) :
    group [a.toNat / 4, a.toNat % 4 * 16 + b.toNat / 16, b.toNat % 16 * 4] = [a, b] := by
  have bound := b.toNat_lt
  simp only [group]
  rw [ofNat_eq (b := a) (by omega), ofNat_eq (b := b) (by omega)]

theorem group_four (a b c : UInt8) :
    group [a.toNat / 4, a.toNat % 4 * 16 + b.toNat / 16, b.toNat % 16 * 4 + c.toNat / 64,
      c.toNat % 64] = [a, b, c] := by
  have bound₁ := b.toNat_lt
  have bound₂ := c.toNat_lt
  simp only [group]
  rw [ofNat_eq (b := a) (by omega), ofNat_eq (b := b) (by omega), ofNat_eq (b := c) (by omega)]

def padding (length : Nat) : Bytes := List.replicate ((4 - length % 4) % 4) padMark

theorem padding_add_four (length : Nat) : padding (length + 4) = padding length := by
  unfold padding
  rw [Nat.add_mod_right]

theorem decodeFrom_encode (bytes : Bytes) :
    decodeFrom [] 0 (encode bytes ++ padding (encode bytes).length) = some bytes := by
  fun_induction encode bytes with
  | case1 => rfl
  | case2 a =>
    have bound := a.toNat_lt
    rw [List.cons_append, decodeFrom_digit (by omega) (by simp), List.cons_append,
      decodeFrom_digit (by omega) (by simp)]
    change some (group [a.toNat / 4, a.toNat % 4 * 16]) = some [a]
    rw [group_two]
  | case3 a b =>
    have bound₁ := a.toNat_lt
    have bound₂ := b.toNat_lt
    rw [List.cons_append, decodeFrom_digit (by omega) (by simp), List.cons_append,
      decodeFrom_digit (by omega) (by simp), List.cons_append,
      decodeFrom_digit (by omega) (by simp)]
    change some (group [a.toNat / 4, a.toNat % 4 * 16 + b.toNat / 16, b.toNat % 16 * 4]) =
      some [a, b]
    rw [group_three]
  | case4 a b c rest ih =>
    have bound₁ := a.toNat_lt
    have bound₂ := b.toNat_lt
    have bound₃ := c.toNat_lt
    simp only [List.length_cons, padding_add_four]
    rw [List.cons_append, decodeFrom_digit (by omega) (by simp), List.cons_append,
      decodeFrom_digit (by omega) (by simp), List.cons_append,
      decodeFrom_digit (by omega) (by simp), List.cons_append,
      decodeFrom_lastDigit (by omega) (by simp), ih]
    change some (group [a.toNat / 4, a.toNat % 4 * 16 + b.toNat / 16,
      b.toNat % 16 * 4 + c.toNat / 64, c.toNat % 64] ++ rest) = some ([a, b, c] ++ rest)
    rw [group_four]

theorem decode_encode (bytes : Bytes) : decode (encode bytes) = some bytes :=
  decodeFrom_encode bytes

theorem isDigit_of_mem_encode {bytes : Bytes} {b : UInt8} (member : b ∈ encode bytes) :
    IsDigit b := by
  fun_induction encode bytes with
  | case1 => cases member
  | case2 a =>
    have bound := a.toNat_lt
    simp only [List.mem_cons, List.not_mem_nil, or_false] at member
    rcases member with rfl | rfl
    all_goals exact isDigit_digit (by omega)
  | case3 a c =>
    have bound₁ := a.toNat_lt
    have bound₂ := c.toNat_lt
    simp only [List.mem_cons, List.not_mem_nil, or_false] at member
    rcases member with rfl | rfl | rfl
    all_goals exact isDigit_digit (by omega)
  | case4 a c d rest ih =>
    have bound₁ := a.toNat_lt
    have bound₂ := c.toNat_lt
    have bound₃ := d.toNat_lt
    simp only [List.mem_cons] at member
    rcases member with rfl | rfl | rfl | rfl | member
    case inr.inr.inr.inr => exact ih member
    all_goals exact isDigit_digit (by omega)

end Tollgate.Base64

import Tollgate.Codec.Hex
import Tollgate.Proofs.Json.Literal

namespace Tollgate.Hex

theorem hexDigit_injective {m n : Nat} (smallM : m < 16) (smallN : n < 16)
    (same : Text.hexDigit m = Text.hexDigit n) : m = n := by
  have read := Json.hexValue?_hexDigit smallM
  rw [same, Json.hexValue?_hexDigit smallN] at read
  exact (Option.some.inj read).symm

theorem encode_cons (b : UInt8) (bytes : Bytes) :
    encode (b :: bytes) =
      Text.hexDigit (b.toNat / 16 % 16) :: Text.hexDigit (b.toNat % 16) :: encode bytes := by
  change Text.hexDigit (b.toNat / 16 % 16) :: Text.hexDigit (b.toNat / 1 % 16) :: encode bytes = _
  rw [Nat.div_one]

theorem encode_injective {left right : Bytes} (same : encode left = encode right) :
    left = right := by
  induction left generalizing right with
  | nil =>
    cases right with
    | nil => rfl
    | cons c right =>
      rw [encode_cons] at same
      cases same
  | cons b left ih =>
    cases right with
    | nil =>
      rw [encode_cons] at same
      cases same
    | cons c right =>
      rw [encode_cons, encode_cons] at same
      injection same with high same
      injection same with low rest
      have highs := hexDigit_injective (Nat.mod_lt _ (by decide)) (Nat.mod_lt _ (by decide)) high
      have lows := hexDigit_injective (Nat.mod_lt _ (by decide)) (Nat.mod_lt _ (by decide)) low
      have boundB := b.toNat_lt
      have boundC := c.toNat_lt
      have value : b.toNat = c.toNat := by omega
      rw [UInt8.toNat_inj.mp value, ih rest]

def IsDigit (c : CodePoint) : Prop := ∃ n < 16, c = Text.hexDigit n

theorem isDigit_of_mem_encode {bytes : Bytes} {c : CodePoint} (member : c ∈ encode bytes) :
    IsDigit c := by
  induction bytes with
  | nil => cases member
  | cons b bytes ih =>
    rw [encode_cons] at member
    rcases List.mem_cons.mp member with rfl | member
    · exact ⟨_, Nat.mod_lt _ (by decide), rfl⟩
    rcases List.mem_cons.mp member with rfl | member
    · exact ⟨_, Nat.mod_lt _ (by decide), rfl⟩
    · exact ih member

theorem IsDigit.isAscii {c : CodePoint} (isDigit : IsDigit c) : c.isAscii = true := by
  have all : ∀ i : Fin 16, (Text.hexDigit i.val).isAscii = true := by decide
  obtain ⟨n, small, rfl⟩ := isDigit
  exact all ⟨n, small⟩

theorem IsDigit.ne_mark {c : CodePoint} (isDigit : IsDigit c) : c ≠ ',' ∧ c ≠ '=' := by
  have all : ∀ i : Fin 16, Text.hexDigit i.val ≠ ',' ∧ Text.hexDigit i.val ≠ '=' := by decide
  obtain ⟨n, small, rfl⟩ := isDigit
  exact all ⟨n, small⟩

end Tollgate.Hex

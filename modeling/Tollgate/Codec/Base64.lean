import Tollgate.Text.Basic

namespace Tollgate.Base64

def digit (n : Nat) : UInt8 :=
  if n < 26 then UInt8.ofNat (0x41 + n)
  else if n < 52 then UInt8.ofNat (0x61 + (n - 26))
  else if n < 62 then UInt8.ofNat (0x30 + (n - 52))
  else if n = 62 then 0x2D
  else 0x5F

def sextet? (b : UInt8) : Option Nat :=
  if 0x41 ≤ b ∧ b ≤ 0x5A then some (b.toNat - 0x41)
  else if 0x61 ≤ b ∧ b ≤ 0x7A then some (b.toNat - 0x61 + 26)
  else if 0x30 ≤ b ∧ b ≤ 0x39 then some (b.toNat - 0x30 + 52)
  else if b = 0x2D ∨ b = 0x2B then some 62
  else if b = 0x5F ∨ b = 0x2F then some 63
  else none

def encode : Bytes → Bytes
  | [] => []
  | [a] => [digit (a.toNat / 4), digit (a.toNat % 4 * 16)]
  | [a, b] =>
    [digit (a.toNat / 4), digit (a.toNat % 4 * 16 + b.toNat / 16), digit (b.toNat % 16 * 4)]
  | a :: b :: c :: rest =>
    digit (a.toNat / 4) :: digit (a.toNat % 4 * 16 + b.toNat / 16) ::
      digit (b.toNat % 16 * 4 + c.toNat / 64) :: digit (c.toNat % 64) :: encode rest

def group : List Nat → Bytes
  | [a, b] => [UInt8.ofNat (a * 4 + b / 16)]
  | [a, b, c] => [UInt8.ofNat (a * 4 + b / 16), UInt8.ofNat (b % 16 * 16 + c / 4)]
  | [a, b, c, d] =>
    [UInt8.ofNat (a * 4 + b / 16), UInt8.ofNat (b % 16 * 16 + c / 4), UInt8.ofNat (c % 4 * 64 + d)]
  | _ => []

def padMark : UInt8 := 0x3D

/-- Reads on with the digits of an unfinished group, and the number of padding marks that have come
since the last of them. -/
def decodeFrom : (digits : List Nat) → (pads : Nat) → Bytes → Option Bytes
  | digits, _, [] => if digits.isEmpty then some [] else none
  | digits, pads, b :: rest =>
    if b = padMark then
      if digits.length < 2 then decodeFrom digits pads rest
      else if digits.length + pads + 1 ≥ 4 then some (group digits)
      else decodeFrom digits (pads + 1) rest
    else
      match sextet? b with
      | none => decodeFrom digits pads rest
      | some n =>
        if digits.length = 3 then (group (digits ++ [n]) ++ ·) <$> decodeFrom [] 0 rest
        else decodeFrom (digits ++ [n]) 0 rest

def decode (bytes : Bytes) : Option Bytes :=
  decodeFrom [] 0 (bytes ++ List.replicate ((4 - bytes.length % 4) % 4) padMark)

end Tollgate.Base64

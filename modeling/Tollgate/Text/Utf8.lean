import Tollgate.Text.Basic

namespace Tollgate.Utf8

def encodeOne (c : CodePoint) : Option Bytes :=
  let n := c.val
  if n < 0x80 then some [UInt8.ofNat n]
  else if n < 0x800 then some [UInt8.ofNat (0xC0 + n / 0x40), UInt8.ofNat (0x80 + n % 0x40)]
  else if c.isSurrogate then none
  else if n < 0x10000 then
    some [UInt8.ofNat (0xE0 + n / 0x1000), UInt8.ofNat (0x80 + n / 0x40 % 0x40),
      UInt8.ofNat (0x80 + n % 0x40)]
  else
    some [UInt8.ofNat (0xF0 + n / 0x40000), UInt8.ofNat (0x80 + n / 0x1000 % 0x40),
      UInt8.ofNat (0x80 + n / 0x40 % 0x40), UInt8.ofNat (0x80 + n % 0x40)]

def encode : Text → Option Bytes
  | [] => some []
  | c :: s => do
    let bytes ← encodeOne c
    let rest ← encode s
    return bytes ++ rest

def isTail (b : UInt8) : Bool := 0x80 ≤ b && b < 0xC0

def two (a b : UInt8) : Nat := (a.toNat - 0xC0) * 0x40 + (b.toNat - 0x80)

def three (a b c : UInt8) : Nat :=
  (a.toNat - 0xE0) * 0x1000 + (b.toNat - 0x80) * 0x40 + (c.toNat - 0x80)

def four (a b c d : UInt8) : Nat :=
  (a.toNat - 0xF0) * 0x40000 + (b.toNat - 0x80) * 0x1000 + (c.toNat - 0x80) * 0x40 +
    (d.toNat - 0x80)

/-- The code point `n`, unless it is below the least that needs a form of this length, or a
surrogate that is not let through. -/
def scalar? (loose : Bool) (least n : Nat) : Option CodePoint := do
  let c ← CodePoint.ofNat? n
  if n < least || (c.isSurrogate && !loose) then none else some c

def decodeWith (loose : Bool) : Bytes → Option Text
  | [] => some []
  | a :: s =>
    if a < 0x80 then (CodePoint.ofByte a :: ·) <$> decodeWith loose s
    else match s with
    | [] => none
    | b :: s =>
      if 0xC0 ≤ a && a < 0xE0 && isTail b then do
        let c ← scalar? loose 0x80 (two a b)
        (c :: ·) <$> decodeWith loose s
      else match s with
      | [] => none
      | c :: s =>
        if 0xE0 ≤ a && a < 0xF0 && isTail b && isTail c then do
          let c ← scalar? loose 0x800 (three a b c)
          (c :: ·) <$> decodeWith loose s
        else match s with
        | [] => none
        | d :: s =>
          if 0xF0 ≤ a && a < 0xF8 && isTail b && isTail c && isTail d then do
            let c ← scalar? loose 0x10000 (four a b c d)
            (c :: ·) <$> decodeWith loose s
          else none

def decode (bytes : Bytes) : Option Text := decodeWith false bytes

def decodeLoose (bytes : Bytes) : Option Text := decodeWith true bytes

end Tollgate.Utf8

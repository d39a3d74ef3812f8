import Tollgate.Text.Basic

namespace Tollgate

inductive ByteOrder where
  | big
  | little

namespace ByteOrder

def word16 : ByteOrder → UInt8 → UInt8 → Nat
  | big, a, b => a.toNat * 0x100 + b.toNat
  | little, a, b => b.toNat * 0x100 + a.toNat

def word32 (order : ByteOrder) (a b c d : UInt8) : Nat :=
  match order with
  | big => order.word16 a b * 0x10000 + order.word16 c d
  | little => order.word16 c d * 0x10000 + order.word16 a b

end ByteOrder

namespace Text

def joinPairs : Text → Text
  | [] => []
  | [c] => [c]
  | c :: d :: s =>
    if c.isHighSurrogate && d.isLowSurrogate then CodePoint.ofPair c d :: joinPairs s
    else c :: joinPairs (d :: s)

end Text

namespace Utf16

def units (order : ByteOrder) : Bytes → Option Text
  | [] => some []
  | [_] => none
  | a :: b :: s => do
    let c ← CodePoint.ofNat? (order.word16 a b)
    (c :: ·) <$> units order s

def decode (order : ByteOrder) (bytes : Bytes) : Option Text :=
  Text.joinPairs <$> units order bytes

end Utf16

namespace Utf32

def decode (order : ByteOrder) : Bytes → Option Text
  | [] => some []
  | a :: b :: c :: d :: s => do
    let point ← CodePoint.ofNat? (order.word32 a b c d)
    (point :: ·) <$> decode order s
  | _ => none

end Utf32

end Tollgate

import Tollgate.Text.Utf8
import Tollgate.Text.Wide

namespace Tollgate.Json

inductive Encoding where
  | utf8
  | utf16 (order : ByteOrder)
  | utf32 (order : ByteOrder)

def cutMark? : Bytes → Option (Encoding × Bytes)
  | 0x00 :: 0x00 :: 0xFE :: 0xFF :: rest => some (.utf32 .big, rest)
  | 0xFF :: 0xFE :: 0x00 :: 0x00 :: rest => some (.utf32 .little, rest)
  | 0xFE :: 0xFF :: rest => some (.utf16 .big, rest)
  | 0xFF :: 0xFE :: rest => some (.utf16 .little, rest)
  | 0xEF :: 0xBB :: 0xBF :: rest => some (.utf8, rest)
  | _ => none

def guess : Bytes → Encoding
  | a :: b :: c :: d :: _ =>
    if a = 0 then if b = 0 then .utf32 .big else .utf16 .big
    else if b = 0 then if c = 0 && d = 0 then .utf32 .little else .utf16 .little
    else .utf8
  | [a, b] => if a = 0 then .utf16 .big else if b = 0 then .utf16 .little else .utf8
  | _ => .utf8

namespace Encoding

def decode : Encoding → Bytes → Option Text
  | utf8, bytes => Utf8.decodeLoose bytes
  | utf16 order, bytes => Utf16.decode order bytes
  | utf32 order, bytes => Utf32.decode order bytes

end Encoding

def decode (bytes : Bytes) : Option Text :=
  match cutMark? bytes with
  | some (encoding, rest) => encoding.decode rest
  | none => (guess bytes).decode bytes

end Tollgate.Json

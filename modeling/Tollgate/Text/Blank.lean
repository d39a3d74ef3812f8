import Tollgate.Text.Basic

namespace Tollgate

namespace CodePoint

def isSpace (c : CodePoint) : Bool :=
  (0x09 ≤ c.val && c.val ≤ 0x0D) || c.val == 0x20 || c.val == 0x85 || c.val == 0xA0 ||
  c.val == 0x1680 || (0x2000 ≤ c.val && c.val ≤ 0x200A) || c.val == 0x2028 || c.val == 0x2029 ||
  c.val == 0x202F || c.val == 0x205F || c.val == 0x3000

def isBlank (c : CodePoint) : Bool :=
  c.isSpace || (0x1C ≤ c.val && c.val ≤ 0x1F)

def isAsciiSpace (c : CodePoint) : Bool :=
  (0x09 ≤ c.val && c.val ≤ 0x0D) || c.val == 0x20

end CodePoint

namespace Text

def trimEndBy (drop : CodePoint → Bool) (s : Text) : Text :=
  (s.reverse.dropWhile drop).reverse

def trimBy (drop : CodePoint → Bool) (s : Text) : Text :=
  trimEndBy drop (s.dropWhile drop)

def trim (s : Text) : Text := trimBy CodePoint.isBlank s

def trimEnd (s : Text) : Text := trimEndBy CodePoint.isBlank s

end Text

end Tollgate

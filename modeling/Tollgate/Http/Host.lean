import Tollgate.Http.Ipv6

namespace Tollgate.Host

def isLetter (c : CodePoint) : Bool := 'a' ≤ c.asciiLower && c.asciiLower ≤ 'z'

def isNamePart (c : CodePoint) : Bool :=
  isLetter c || c.isAsciiDigit || (Text.lit "-._~%!$&\x27()*+,;=").elem c

def isName (s : Text) : Bool := !s.isEmpty && s.all isNamePart

def isFutureAddress (s : Text) : Bool :=
  match cutFirst? (CodePoint.ofChar '.') s with
  | some (version, rest) =>
    version.head? = some (CodePoint.ofChar 'v') && 2 ≤ version.length &&
      (version.drop 1).all Ipv6.isHexDigit && !rest.isEmpty
  | none => false

def isAddress (s : Text) : Bool :=
  (s.all fun c => isNamePart c || c = ':') && (isFutureAddress s || Ipv6.isAddress s)

def greatestPort : Nat := 65535

def isPort (s : Text) : Bool :=
  !s.isEmpty && s.all CodePoint.isAsciiDigit &&
    Integer.ofDigits (s.map fun c => c.val - 0x30) ≤ greatestPort

def isPortPart : Text → Bool
  | [] => true
  | c :: s => c = ':' && isPort s

def isValid : Text → Bool
  | [] => false
  | c :: s =>
    if c = '[' then
      match cutFirst? (CodePoint.ofChar ']') s with
      | some (address, rest) => isAddress address && isPortPart rest
      | none => false
    else
      let name := (c :: s).takeWhile isNamePart
      isName name && isPortPart ((c :: s).drop name.length)

end Tollgate.Host

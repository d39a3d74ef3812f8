import Tollgate.Number.Integer
import Tollgate.Fault

namespace Tollgate.Settings.Numeral

def sizeLimit : Nat := Integer.digitLimit

def cutMinus : Text → Bool × Text
  | [] => (false, [])
  | c :: s => if c = '-' then (true, s) else (false, c :: s)

def isZero (c : CodePoint) : Bool := c = '0'

def leadsWithZero (s : Text) : Bool := s.head?.any isZero

def plain? (s : Text) : Option Int :=
  let (negative, digits) := cutMinus s
  if !digits.isEmpty && digits.all CodePoint.isAsciiDigit && s.length ≤ sizeLimit &&
      (digits.length = 1 || !leadsWithZero digits)
  then some (Integer.signed negative (Integer.ofDigits (digits.map fun c => c.val - 0x30)))
  else none

def isOversized (s : Text) : Bool :=
  let unsigned := (cutMinus s).2
  let rest := unsigned.dropWhile CodePoint.isAsciiDigit
  !leadsWithZero unsigned && rest.length < unsigned.length && s.length - rest.length > sizeLimit

/-- Drops zeros and underscores up to the first other digit or to a minus. Where they end in a point
or with the text, the last of them stays. -/
def dropZerosAfter (last : CodePoint) : Text → Option Text
  | [] => some [last]
  | c :: s =>
    if c = '0' || c = '_' then dropZerosAfter c s
    else if c.isAsciiDigit || c = '-' then some (c :: s)
    else if c = '.' then some (last :: c :: s)
    else none

def dropLeadingZeros : Text → Option Text
  | [] => none
  | c :: s =>
    if c = '0' then dropZerosAfter c s
    else if c.isAsciiDigit then some (c :: s)
    else none

def dropZeroFraction (s : Text) : Text :=
  match cutFirst? (CodePoint.ofChar '.') s with
  | some (whole, fraction) => if !fraction.isEmpty && fraction.all isZero then whole else s
  | none => s

def dropSeparators (s : Text) : Text :=
  let groups := Text.splitOn '_' s
  if groups.any List.isEmpty then s else groups.flatten

def tidy? (s : Text) : Option Text :=
  let (negative, unsigned) := Integer.cutSign (s.trimBy CodePoint.isSpace)
  (dropLeadingZeros unsigned).map fun kept =>
    let digits := dropSeparators (dropZeroFraction kept)
    if negative then '-' :: digits else digits

/-- The number that a setting spells. Only a plain spelling is told to be too long. -/
def read (s : Text) : Except FieldFlaw Int :=
  if s.hasSurrogate then .error .notUnicode
  else if isOversized s then .error .tooLong
  else match plain? s <|> (tidy? s).bind plain? with
    | some n => .ok n
    | none => .error .notInteger

end Tollgate.Settings.Numeral

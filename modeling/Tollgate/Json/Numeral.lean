import Tollgate.Json.Basic
import Tollgate.Number.Integer

namespace Tollgate.Json

inductive ReadError where
  | malformed
  | tooManyDigits
deriving DecidableEq, Repr

structure Numeral where
  literal : Text
  negative : Bool
  whole : Text
  fraction : Option Text
  exponent : Option (Bool × Text)

namespace Numeral

def digitsOf (s : Text) : Text × Text := s.span CodePoint.isAsciiDigit

def scanWhole? (s : Text) : Option (Text × Text) :=
  match s with
  | [] => none
  | c :: rest =>
    if c = '0' then some ([c], rest)
    else if c.isAsciiDigit then some (digitsOf s)
    else none

def scanFraction (s : Text) : Option Text × Text :=
  match s with
  | [] => (none, s)
  | c :: rest =>
    let (digits, after) := digitsOf rest
    if c = '.' && !digits.isEmpty then (some digits, after) else (none, s)

def scanExponent (s : Text) : Option (Bool × Text) × Text :=
  match s with
  | [] => (none, s)
  | c :: rest =>
    let (negative, rest) := Integer.cutSign rest
    let (digits, after) := digitsOf rest
    if (c = 'e' || c = 'E') && !digits.isEmpty then (some (negative, digits), after) else (none, s)

def scan? (s : Text) : Option (Numeral × Text) := do
  let (negative, unsigned) := match s with
    | [] => (false, s)
    | c :: rest => if c = '-' then (true, rest) else (false, s)
  let (whole, rest) ← scanWhole? unsigned
  let (fraction, rest) := scanFraction rest
  let (exponent, rest) := scanExponent rest
  let literal := s.take (s.length - rest.length)
  return ({ literal, negative, whole, fraction, exponent }, rest)

def natural (digits : Text) : Nat :=
  digits.foldl (fun n c => n * 10 + (c.val - 0x30)) 0

def value (numeral : Numeral) : Except ReadError Json :=
  match numeral.fraction, numeral.exponent with
  | none, none =>
    if numeral.whole.length ≤ Integer.digitLimit then
      .ok (.integer (Integer.signed numeral.negative (natural numeral.whole)))
    else .error .tooManyDigits
  | fraction, exponent =>
    let fraction := fraction.getD []
    let (negative, digits) := exponent.getD (false, [])
    let power := Integer.signed negative (natural digits) - fraction.length
    .ok (.number (.ofDecimal numeral.negative (natural (numeral.whole ++ fraction)) power))

def spelled (numeral : Numeral) : Except ReadError Json := .ok (.text numeral.literal)

end Numeral

end Tollgate.Json

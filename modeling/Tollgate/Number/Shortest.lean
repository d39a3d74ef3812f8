import Tollgate.Number.Binary64
import Tollgate.Number.Integer

namespace Tollgate.Binary64

structure Decimal where
  coefficient : Nat
  power : Int
deriving DecidableEq, Repr

/-- The reals that round to a number, as fractions over one denominator. -/
structure Interval where
  low : Nat
  value : Nat
  high : Nat
  den : Nat
  closed : Bool

def interval (mantissa : Nat) (exponent : Int) : Interval :=
  let below := if mantissa = leastMantissa ∧ exponent > leastExponent then 1 else 2
  let scale := twoTo exponent
  { low := (4 * mantissa - below) * scale
    value := 4 * mantissa * scale
    high := (4 * mantissa + 2) * scale
    den := 4 * twoTo (-exponent)
    closed := mantissa % 2 == 0 }

namespace Interval

def holds (i : Interval) (n : Nat) (power : Int) : Bool :=
  let x := n * tenTo power * i.den
  let scale := tenTo (-power)
  if i.closed then i.low * scale ≤ x && x ≤ i.high * scale
  else i.low * scale < x && x < i.high * scale

def leading (i : Interval) : Int :=
  if i.den ≤ i.value then (Nat.toDigits 10 (i.value / i.den)).length - 1
  else
    let places := (Nat.toDigits 10 (i.den / i.value)).length
    if i.value * tenTo (places - 1) = i.den then 1 - places else -places

/-- The grid point in the interval nearest to the value, of the two beside it. -/
def candidate? (i : Interval) (power : Int) : Option Nat :=
  let a := i.value * tenTo (-power)
  let b := i.den * tenTo power
  let down := a / b
  let twice := 2 * (a % b)
  let up := down + 1
  let upNearer := twice > b || (twice == b && down % 2 == 1)
  match i.holds down power, i.holds up power with
  | true, true => some (if upNearer then up else down)
  | true, false => some down
  | false, true => some up
  | false, false => none

end Interval

def Decimal.strip : (fuel : Nat) → Decimal → Decimal
  | 0, d => d
  | fuel + 1, d =>
    if d.coefficient % 10 = 0 ∧ d.coefficient ≠ 0 then strip fuel ⟨d.coefficient / 10, d.power + 1⟩
    else d

def shortest (mantissa : Nat) (exponent : Int) : Decimal :=
  let i := interval mantissa exponent
  let first := i.leading
  let power (places : Nat) : Int := first - places
  match (List.range 18).findSome? fun places =>
    (i.candidate? (power places)).map (Decimal.mk · (power places)) with
  | some d => Decimal.strip 18 d
  | none => ⟨mantissa, exponent⟩

structure Layout where
  least : Int
  greatest : Int
  exponentWidth : Nat

/-- Positional from 0.0001 up to below 10^16; exponents have a sign and at least two digits. -/
def layout : Layout := ⟨-4, 15, 2⟩

def zeros (n : Nat) : Text := List.replicate n '0'

def padded (width : Nat) (digits : Text) : Text :=
  zeros (width - digits.length) ++ digits

def Decimal.text (d : Decimal) : Text :=
  let digits := Integer.natural d.coefficient
  let first : Int := digits.length - 1 + d.power
  if layout.least ≤ first ∧ first ≤ layout.greatest then
    if d.power ≥ 0 then digits ++ zeros d.power.toNat ++ Text.lit ".0"
    else if first < 0 then Text.lit "0." ++ zeros (-first - 1).toNat ++ digits
    else digits.take (first + 1).toNat ++ Text.lit "." ++ digits.drop (first + 1).toNat
  else
    let fraction := digits.drop 1
    digits.take 1 ++ (if fraction.isEmpty then [] else Text.lit "." ++ fraction) ++
      Text.lit (if first < 0 then "e-" else "e+") ++
      padded layout.exponentWidth (Integer.natural first.natAbs)

def magnitudeText (mantissa : Nat) (exponent : Int) : Text :=
  if mantissa = 0 then Text.lit "0.0" else (shortest mantissa exponent).text

def signText (negative : Bool) : Text := Text.lit (if negative then "-" else "")

def text (infinity notANumber : String) : Binary64 → Text
  | .finite negative m e => signText negative ++ magnitudeText m e
  | .infinite negative => signText negative ++ Text.lit infinity
  | .nan => Text.lit notANumber

end Tollgate.Binary64

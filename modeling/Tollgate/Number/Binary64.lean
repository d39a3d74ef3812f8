namespace Tollgate

inductive Binary64 where
  | finite (negative : Bool) (mantissa : Nat) (exponent : Int)
  | infinite (negative : Bool)
  | nan
deriving DecidableEq, Repr, Inhabited

namespace Binary64

def precision : Nat := 53

def leastExponent : Int := -1074

def greatestExponent : Int := 971

def twoTo (power : Int) : Nat := Nat.pow 2 power.toNat

def tenTo (power : Int) : Nat := Nat.pow 10 power.toNat

def leastMantissa : Nat := twoTo (precision - 1)

def scaled (num den : Nat) (exponent : Int) : Nat × Nat :=
  (num * twoTo (-exponent), den * twoTo exponent)

def roundHalfEven (num den : Nat) : Nat :=
  let q := num / den
  let twice := 2 * (num % den)
  if twice > den || (twice == den && q % 2 == 1) then q + 1 else q

def exponentFor (num den : Nat) : Int :=
  let guess : Int := Int.ofNat num.log2 - Int.ofNat den.log2 - Int.ofNat (precision - 1)
  let (a, b) := scaled num den guess
  let exponent := if a / b < leastMantissa then guess - 1 else guess
  max exponent leastExponent

def ofRatio (negative : Bool) (num den : Nat) : Binary64 :=
  if num = 0 then .finite negative 0 leastExponent
  else
    let exponent := exponentFor num den
    let (a, b) := scaled num den exponent
    let mantissa := roundHalfEven a b
    let (mantissa, exponent) :=
      if mantissa = 2 * leastMantissa then (leastMantissa, exponent + 1) else (mantissa, exponent)
    if exponent > greatestExponent then .infinite negative else .finite negative mantissa exponent

/-- The nearest number to `digits` times ten to the power `power`. Far outside the range the answer
does not depend on the digits, and the powers are not computed. -/
def ofDecimal (negative : Bool) (digits : Nat) (power : Int) : Binary64 :=
  let places : Int := (Nat.toDigits 10 digits).length + power
  if digits = 0 || places < -330 then .finite negative 0 leastExponent
  else if places > 330 then .infinite negative
  else ofRatio negative (digits * tenTo power) (tenTo (-power))

def ofInt (n : Int) : Binary64 := ofRatio (n < 0) n.natAbs 1

def isZero : Binary64 → Bool
  | .finite _ m _ => m == 0
  | _ => false

def fraction (negative : Bool) (mantissa : Nat) (exponent : Int) : Int × Nat :=
  let m : Int := if negative then -mantissa else mantissa
  (m * twoTo exponent, twoTo (-exponent))

def nearest : Binary64 → Nat
  | .finite _ m e => roundHalfEven (m * twoTo e) (twoTo (-e))
  | _ => 0

def truncate? : Binary64 → Option Int
  | .finite negative m e => let (a, b) := fraction negative m e; some (a.tdiv b)
  | _ => none

def isAbove (x : Binary64) (n : Int) : Bool :=
  match x with
  | .finite negative m e => let (a, b) := fraction negative m e; n * b < a
  | .infinite negative => !negative
  | .nan => false

/-- The difference of two finite numbers, rounded; a difference of zero is positive unless it is
minus zero less zero. -/
def sub (x y : Binary64) : Binary64 :=
  match x, y with
  | .finite s m e, .finite t n f =>
    let (a, b) := fraction s m e
    let (c, d) := fraction t n f
    let num := a * d - c * b
    if num = 0 then .finite (s && !t && m == 0 && n == 0) 0 leastExponent
    else ofRatio (num < 0) num.natAbs (b * d)
  | .nan, _ => .nan
  | _, .nan => .nan
  | .infinite s, .infinite t => if s == t then .nan else .infinite s
  | .infinite s, .finite .. => .infinite s
  | .finite .., .infinite t => .infinite (!t)

end Binary64

end Tollgate

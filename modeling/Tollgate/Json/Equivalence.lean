import Tollgate.Json.Basic

namespace Tollgate.Json

/-- The number that a value amounts to, over a positive denominator; true is one and false is
zero. -/
def ratio? : Json → Option (Int × Nat)
  | .bool b => some (if b then 1 else 0, 1)
  | .integer n => some (n, 1)
  | .number (.finite negative mantissa exponent) =>
    some (Binary64.fraction negative mantissa exponent)
  | _ => none

def isSameNumber (a b : Int × Nat) : Bool := a.1 * b.2 = b.1 * a.2

mutual

def isEquivalent : Json → Json → Bool
  | .list items, .list others => areEquivalent items others
  | .object members, .object others =>
    members.length = others.length && areMembersOf others members
  | a, b =>
    match a.ratio?, b.ratio? with
    | some x, some y => isSameNumber x y
    | none, none => a = b
    | _, _ => false

def areEquivalent : List Json → List Json → Bool
  | [], [] => true
  | a :: items, b :: others => isEquivalent a b && areEquivalent items others
  | _, _ => false

def areMembersOf (others : List (Text × Json)) : List (Text × Json) → Bool
  | [] => true
  | (key, value) :: members =>
    (others.lookup key).any (isEquivalent value) && areMembersOf others members

end

end Tollgate.Json

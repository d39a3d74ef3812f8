import Tollgate.Json.Literal
import Tollgate.Number.Integer

namespace Tollgate.Ipv6

def groupCount : Nat := 8

def isHexDigit (c : CodePoint) : Bool := (Json.hexValue? c).isSome

def isGroup (s : Text) : Bool := !s.isEmpty && s.length ≤ 4 && s.all isHexDigit

def isByte (s : Text) : Bool :=
  !s.isEmpty && s.length ≤ 3 && s.all CodePoint.isAsciiDigit &&
    (s.length = 1 || s.head? ≠ some (CodePoint.ofChar '0')) &&
    Integer.ofDigits (s.map fun c => c.val - 0x30) ≤ 255

def isDottedQuad (s : Text) : Bool :=
  let bytes := Text.splitOn '.' s
  bytes.length = 4 && bytes.all isByte

/-- The groups, where four decimal bytes at the end are replaced by two groups. -/
def groups? (s : Text) : Option (List Text) :=
  let parts := Text.splitOn ':' s
  let last := parts.getLastD []
  if last.elem (CodePoint.ofChar '.') then
    if isDottedQuad last then some (parts.dropLast ++ [Text.lit "0", Text.lit "0"]) else none
  else some parts

def gaps (groups : List Text) : List Nat :=
  (List.range groups.length).filter fun i =>
    0 < i && i + 1 < groups.length && (groups.getD i []).isEmpty

def isSide (groups : List Text) : Bool := groups.all isGroup || groups = [[]]

def sideLength (groups : List Text) : Nat := (groups.filter fun group => !group.isEmpty).length

def areGroups (groups : List Text) : Bool :=
  match gaps groups with
  | [] => groups.length = groupCount && groups.all isGroup
  | [gap] =>
    let high := groups.take gap
    let low := groups.drop (gap + 1)
    isSide high && isSide low && sideLength high + sideLength low < groupCount
  | _ => false

def cutZone? (s : Text) : Option Text :=
  match cutFirst? (CodePoint.ofChar '%') s with
  | none => some s
  | some (address, zone) =>
    if zone.isEmpty || zone.elem (CodePoint.ofChar '%') then none else some address

def isAddress (s : Text) : Bool :=
  match (cutZone? s).map fun address => (Text.splitOn ':' address, groups? address) with
  | some (parts, some groups) => 3 ≤ parts.length && areGroups groups
  | _ => false

end Tollgate.Ipv6

import Tollgate.Number.Digit
import Tollgate.Text.Blank

namespace Tollgate.Integer

/-- The most digits that are read as one number, leading zeros among them, or written. -/
def digitLimit : Nat := 4300

def ofDigits (digits : List Nat) : Nat := digits.foldl (fun n d => n * 10 + d) 0

def separated? (digit? : CodePoint → Option Nat) : Text → Option (List Nat)
  | [] => none
  | [c] => (digit? c).map ([·])
  | c :: d :: s => do
    let n ← digit? c
    if d = '_' then (n :: ·) <$> separated? digit? s else (n :: ·) <$> separated? digit? (d :: s)

def cutSign : Text → Bool × Text
  | [] => (false, [])
  | c :: s => if c = '-' then (true, s) else if c = '+' then (false, s) else (false, c :: s)

def signed (negative : Bool) (n : Nat) : Int := if negative then -n else n

def parse? (s : Text) : Option Int := do
  let (negative, s) := cutSign (s.trimBy CodePoint.isSpace)
  let digits ← separated? CodePoint.decimal? s
  if digits.length ≤ digitLimit then some (signed negative (ofDigits digits)) else none

def natural (n : Nat) : Text := (Nat.toDigits 10 n).map CodePoint.ofChar

def decimal (n : Int) : Text :=
  if n < 0 then '-' :: natural n.natAbs else natural n.natAbs

def isWritable (n : Int) : Bool := (natural n.natAbs).length ≤ digitLimit

end Tollgate.Integer

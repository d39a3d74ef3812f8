import Tollgate.Text.Basic

namespace Tollgate

abbrev Headers := List (Text × Text)

namespace Headers

def ofPairs (pairs : List (Text × Text)) : Headers :=
  pairs.map fun (name, value) => (name.asciiLower, value)

def get? (headers : Headers) (name : String) : Option Text := headers.lookup (Text.lit name)

def has (headers : Headers) (name : String) : Bool := (headers.get? name).isSome

def sorted (headers : Headers) : Headers :=
  headers.mergeSort fun a b => if a.1 = b.1 then a.2.le b.2 else a.1.le b.1

end Headers

end Tollgate

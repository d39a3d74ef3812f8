import Tollgate.Json.Literal
import Tollgate.Json.Basic
import Tollgate.Number.Shortest

namespace Tollgate.Json

mutual

/-- Whether every whole number in a value can be written. What was read from JSON text can be. -/
def isWritable : Json → Bool
  | .integer n => Integer.isWritable n
  | .list items => areWritable items
  | .object members => membersAreWritable members
  | _ => true

def areWritable : List Json → Bool
  | [] => true
  | item :: items => isWritable item && areWritable items

def membersAreWritable : List (Text × Json) → Bool
  | [] => true
  | (_, value) :: members => isWritable value && membersAreWritable members

end

def numberText (x : Binary64) : Text := x.text "Infinity" "NaN"

def string (escape : CodePoint → Text) (s : Text) : Text :=
  Text.lit "\"" ++ s.flatMap escape ++ Text.lit "\""

mutual

def compactWith (escape : CodePoint → Text) : Json → Text
  | .null => Text.lit "null"
  | .bool b => Text.lit (if b then "true" else "false")
  | .integer n => Integer.decimal n
  | .number x => numberText x
  | .text s => string escape s
  | .list items =>
    Text.lit "[" ++ Text.join (Text.lit ",") (compactItems escape items) ++ Text.lit "]"
  | .object members =>
    Text.lit "\x7b" ++ Text.join (Text.lit ",") (compactMembers escape members) ++ Text.lit "\x7d"

def compactItems (escape : CodePoint → Text) : List Json → List Text
  | [] => []
  | item :: items => compactWith escape item :: compactItems escape items

def compactMembers (escape : CodePoint → Text) : List (Text × Json) → List Text
  | [] => []
  | (key, value) :: members =>
    (string escape key ++ Text.lit ":" ++ compactWith escape value) :: compactMembers escape members

end

def compact (value : Json) : Text := compactWith escapeToAscii value

def compactUnicode (value : Json) : Text := compactWith escapeLittle value

def newline (depth : Nat) : Text := '\n' :: List.replicate (2 * depth) ' '

def enclose (opening closing : String) (depth : Nat) (lines : List Text) : Text :=
  if lines.isEmpty then Text.lit opening ++ Text.lit closing
  else
    Text.lit opening ++ newline (depth + 1) ++
      Text.join (Text.lit "," ++ newline (depth + 1)) lines ++ newline depth ++ Text.lit closing

def sortByKey {α : Type} (entries : List (Text × α)) : List (Text × α) :=
  entries.mergeSort fun a b => a.1.le b.1

mutual

def prettyAt : (depth : Nat) → Json → Text
  | depth, .list items => enclose "[" "]" depth (prettyItems (depth + 1) items)
  | depth, .object members =>
    let entries := sortByKey (prettyMembers (depth + 1) members)
    enclose "\x7b" "\x7d" depth <| entries.map fun (key, value) =>
      string escapeToAscii key ++ Text.lit ": " ++ value
  | _, .null => Text.lit "null"
  | _, .bool b => Text.lit (if b then "true" else "false")
  | _, .integer n => Integer.decimal n
  | _, .number x => numberText x
  | _, .text s => string escapeToAscii s

def prettyItems : (depth : Nat) → List Json → List Text
  | _, [] => []
  | depth, item :: items => prettyAt depth item :: prettyItems depth items

def prettyMembers : (depth : Nat) → List (Text × Json) → List (Text × Text)
  | _, [] => []
  | depth, (key, value) :: members => (key, prettyAt depth value) :: prettyMembers depth members

end

def pretty (value : Json) : Text := prettyAt 0 value

end Tollgate.Json

import Tollgate.Json.Writer
import Tollgate.Text.Quoted

namespace Tollgate.Json

mutual

def shown : Json → Text
  | .null => Text.lit "None"
  | .bool b => Text.lit (if b then "True" else "False")
  | .integer n => Integer.decimal n
  | .number x => x.text "inf" "nan"
  | .text s => s.quoted
  | .list items => Text.lit "[" ++ Text.join (Text.lit ", ") (shownItems items) ++ Text.lit "]"
  | .object members =>
    Text.lit "\x7b" ++ Text.join (Text.lit ", ") (shownMembers members) ++ Text.lit "\x7d"

def shownItems : List Json → List Text
  | [] => []
  | item :: items => shown item :: shownItems items

def shownMembers : List (Text × Json) → List Text
  | [] => []
  | (key, value) :: members =>
    (key.quoted ++ Text.lit ": " ++ shown value) :: shownMembers members

end

def display : Json → Text
  | .text s => s
  | value => shown value

end Tollgate.Json

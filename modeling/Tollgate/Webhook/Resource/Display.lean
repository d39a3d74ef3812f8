import Tollgate.Webhook.Resource.Basic
import Tollgate.Webhook.Resource.Name
import Tollgate.Json.Display

namespace Tollgate.Resource

def isList : Json → Bool
  | .list _ => true
  | _ => false

mutual

/-- What the JSON text of a resource spells of a value in it. In brief, a listing has to have a
length. -/
def spelled (brief : Bool) (place : Place) : Json → Except Crash Json
  | .list items => .list <$> spelledItems brief place items
  | .object members =>
    if place = .options then .object <$> spelledMembers true place members members
    else if brief && isListing members then
      match dataLength? members with
      | none => .error .noLength
      | some 0 => .ok (.object [])
      | some _ => .object <$> spelledMembers brief place members members
    else .object <$> spelledMembers brief place members members
  | value => .ok value

def spelledItems (brief : Bool) (place : Place) : List Json → Except Crash (List Json)
  | [] => .ok []
  | item :: items => do
    let first ← spelled (brief || isList item) place item
    return first :: (← spelledItems brief place items)

def spelledMembers (brief : Bool) (place : Place) (whole : Members) :
    List (Text × Json) → Except Crash (List (Text × Json))
  | [] => .ok []
  | (key, value) :: members => do
    let first ← spelled brief (place.ofMember whole key) value
    return (key, first) :: (← spelledMembers brief place whole members)

end

def text (members : Members) : Except Crash Text :=
  Json.pretty <$> spelled false .ordinary (.object members)

/-- The name of the kind, the kind and the id, as far as they are texts. -/
def title (members : Members) : Text :=
  let name := match kind? members with
    | some kind => Text.lit (nameOf kind) ++ Text.lit " " ++ kind
    | none => Text.lit (if isListing members then "ListObject" else "StripeObject")
  match (members.at? "id").bind Json.text? with
  | some id => name ++ Text.lit " id=" ++ id
  | none => name

def shownObject (members : Members) : Except Crash Text := do
  return Text.lit "<" ++ title members ++ Text.lit " at 0x0> JSON: " ++ (← text members)

mutual

def shown : Json → Except Crash Text
  | .list items => do
    let items ← shownItems items
    return Text.lit "[" ++ Text.join (Text.lit ", ") items ++ Text.lit "]"
  | .object members => shownObject members
  | value => .ok (Json.shown value)

def shownItems : List Json → Except Crash (List Text)
  | [] => .ok []
  | item :: items => do
    let first ← shown item
    return first :: (← shownItems items)

end

def display : Json → Except Crash Text
  | .text s => .ok s
  | .object members => text members
  | value => shown value

end Tollgate.Resource

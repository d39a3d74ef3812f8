import Tollgate.Json.Basic
import Tollgate.Fault

namespace Tollgate.Resource

def kind? (members : Members) : Option Text := (members.at? "object").bind Json.text?

def listingKinds : List Text := [Text.lit "list", Text.lit "search_result"]

/-- A resource that tells no kind is a listing if it has data and an address for more. -/
def isListing (members : Members) : Bool :=
  match kind? members with
  | some kind => listingKinds.elem kind
  | none => members.has "data" && members.has "next_page_url"

mutual

def length? : Json → Option Nat
  | .text s => some s.length
  | .list items => some items.length
  | .object members => if isListing members then dataLength? members else some members.length
  | _ => none

def dataLength? : List (Text × Json) → Option Nat
  | [] => some 0
  | (key, value) :: members => if key = Text.lit "data" then length? value else dataLength? members

end

/-- Whether a value is there: a resource counts as none if it is empty. -/
def isPresent : Json → Except Crash Bool
  | .object members =>
    match length? (.object members) with
    | some n => .ok (n ≠ 0)
    | none => .error .noLength
  | value => .ok value.isTruthy

inductive Place where
  | ordinary
  | holder
  /-- Currency options: an object by currency, which is no resource itself. -/
  | options
deriving DecidableEq, Repr

def holders : List (Text × Text) :=
  [(Text.lit "promotion_code", Text.lit "restrictions"),
   (Text.lit "shipping_rate", Text.lit "fixed_amount")]

def Place.ofMember (place : Place) (members : Members) (key : Text) : Place :=
  match place, kind? members with
  | .options, _ => .ordinary
  | _, some kind => if holders.elem (kind, key) then .holder else .ordinary
  | .holder, none =>
    if key = Text.lit "currency_options" && !isListing members then .options else .ordinary
  | .ordinary, none => .ordinary

mutual

/-- Whether a value can be taken as resources: currency options have to be an object. What is said
of a list's place is said of its items. -/
def isReadable (place : Place) : Json → Bool
  | .list items => place ≠ .options && areReadable place items
  | .object members => areReadableMembers place members members
  | _ => place ≠ .options

def areReadable (place : Place) : List Json → Bool
  | [] => true
  | item :: items => isReadable place item && areReadable place items

def areReadableMembers (place : Place) (whole : Members) : List (Text × Json) → Bool
  | [] => true
  | (key, value) :: members =>
    isReadable (place.ofMember whole key) value && areReadableMembers place whole members

end

end Tollgate.Resource

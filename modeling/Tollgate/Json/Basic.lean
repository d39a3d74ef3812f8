import Tollgate.Text.Basic
import Tollgate.Number.Binary64

namespace Tollgate

inductive Json where
  | null
  | bool (value : Bool)
  | integer (value : Int)
  | number (value : Binary64)
  | text (value : Text)
  | list (items : List Json)
  | object (members : List (Text × Json))
deriving Inhabited

abbrev Members := List (Text × Json)

namespace Members

def get? (key : Text) (members : Members) : Option Json := members.lookup key

def at? (members : Members) (key : String) : Option Json := members.get? (Text.lit key)

def has (members : Members) (key : String) : Bool := (members.at? key).isSome

def put (key : Text) (value : Json) : Members → Members
  | [] => [(key, value)]
  | (k, v) :: members => if k = key then (k, value) :: members else (k, v) :: put key value members

def ofPairs (pairs : List (Text × Json)) : Members :=
  pairs.foldl (fun members (key, value) => members.put key value) []

end Members

namespace Json

mutual

def isSame : Json → Json → Bool
  | null, null => true
  | bool a, bool b => a = b
  | integer a, integer b => a = b
  | number a, number b => a = b
  | text a, text b => a = b
  | list a, list b => areSame a b
  | object a, object b => areSameMembers a b
  | _, _ => false

def areSame : List Json → List Json → Bool
  | [], [] => true
  | a :: s, b :: t => isSame a b && areSame s t
  | _, _ => false

def areSameMembers : List (Text × Json) → List (Text × Json) → Bool
  | [], [] => true
  | (k, a) :: s, (l, b) :: t => k = l && isSame a b && areSameMembers s t
  | _, _ => false

end

mutual

theorem isSame_iff : ∀ a b : Json, isSame a b = true ↔ a = b
  | null, b => by cases b <;> simp [isSame]
  | bool _, b => by cases b <;> simp [isSame]
  | integer _, b => by cases b <;> simp [isSame]
  | number _, b => by cases b <;> simp [isSame]
  | text _, b => by cases b <;> simp [isSame]
  | list s, b => by
    cases b with
    | list t => simpa [isSame] using areSame_iff s t
    | _ => simp [isSame]
  | object s, b => by
    cases b with
    | object t => simpa [isSame] using areSameMembers_iff s t
    | _ => simp [isSame]

theorem areSame_iff : ∀ s t : List Json, areSame s t = true ↔ s = t
  | [], t => by cases t <;> simp [areSame]
  | a :: s, [] => by simp [areSame]
  | a :: s, b :: t => by simp [areSame, isSame_iff a b, areSame_iff s t]

theorem areSameMembers_iff : ∀ s t : List (Text × Json), areSameMembers s t = true ↔ s = t
  | [], t => by cases t <;> simp [areSameMembers]
  | (k, a) :: s, [] => by simp [areSameMembers]
  | (k, a) :: s, (l, b) :: t => by
    simp [areSameMembers, isSame_iff a b, areSameMembers_iff s t]

end

instance : DecidableEq Json := fun a b => decidable_of_iff (isSame a b = true) (isSame_iff a b)

def lit (s : String) : Json := .text (Text.lit s)

def isTruthy : Json → Bool
  | null => false
  | bool b => b
  | integer n => n != 0
  | number x => !x.isZero
  | text t => !t.isEmpty
  | list items => !items.isEmpty
  | object members => !members.isEmpty

def text? : Json → Option Text
  | text t => some t
  | _ => none

end Json

end Tollgate

import Tollgate.Json.Literal
import Tollgate.Json.Numeral

namespace Tollgate.Json

abbrev NumberReader := Numeral → Except ReadError Json

def isPadding (c : CodePoint) : Bool := c = ' ' || c = '\t' || c = '\n' || c = '\r'

def skipPadding (s : Text) : Text := s.dropWhile isPadding

def constants : List (String × Json) :=
  [("null", .null), ("true", .bool true), ("false", .bool false), ("NaN", .number .nan),
   ("Infinity", .number (.infinite false)), ("-Infinity", .number (.infinite true))]

def constant? (s : Text) : Option (Json × Text) :=
  constants.findSome? fun (word, value) =>
    let word := Text.lit word
    if s.startsWith word then some (value, s.drop word.length) else none

def readScalar (number : NumberReader) (s : Text) : Except ReadError (Json × Text) :=
  match constant? s with
  | some answer => .ok answer
  | none =>
    match Numeral.scan? s with
    | some (numeral, rest) => do return (← number numeral, rest)
    | none => .error .malformed

mutual

def readValue (number : NumberReader) : (fuel : Nat) → Text → Except ReadError (Json × Text)
  | 0, _ => .error .malformed
  | _ + 1, [] => .error .malformed
  | fuel + 1, c :: s =>
    if c = '"' then
      match string? s with
      | some (content, rest) => .ok (.text content, rest)
      | none => .error .malformed
    else if c = '[' then
      match skipPadding s with
      | [] => .error .malformed
      | d :: rest =>
        if d = ']' then .ok (.list [], rest)
        else do
          let (items, rest) ← readItems number fuel (d :: rest)
          return (.list items, rest)
    else if c = '{' then
      match skipPadding s with
      | [] => .error .malformed
      | d :: rest =>
        if d = '}' then .ok (.object [], rest)
        else do
          let (pairs, rest) ← readPairs number fuel (d :: rest)
          return (.object (Members.ofPairs pairs), rest)
    else readScalar number (c :: s)

def readItems (number : NumberReader) :
    (fuel : Nat) → Text → Except ReadError (List Json × Text)
  | 0, _ => .error .malformed
  | fuel + 1, s => do
    let (item, rest) ← readValue number fuel s
    match skipPadding rest with
    | [] => .error .malformed
    | c :: rest =>
      if c = ']' then return ([item], rest)
      else if c = ',' then do
        let (items, rest) ← readItems number fuel (skipPadding rest)
        return (item :: items, rest)
      else .error .malformed

def readPairs (number : NumberReader) :
    (fuel : Nat) → Text → Except ReadError (List (Text × Json) × Text)
  | 0, _ => .error .malformed
  | _ + 1, [] => .error .malformed
  | fuel + 1, quote :: s =>
    match if quote = '"' then string? s else none with
    | none => .error .malformed
    | some (key, rest) =>
      match skipPadding rest with
      | [] => .error .malformed
      | colon :: rest =>
        if colon ≠ ':' then .error .malformed
        else do
          let (value, rest) ← readValue number fuel (skipPadding rest)
          match skipPadding rest with
          | [] => .error .malformed
          | c :: rest =>
            if c = '}' then return ([(key, value)], rest)
            else if c = ',' then do
              let (pairs, rest) ← readPairs number fuel (skipPadding rest)
              return ((key, value) :: pairs, rest)
            else .error .malformed

end

/-- A nested value starts at least one code point further on, and two steps lie between them. -/
def fuelFor (s : Text) : Nat := 2 * s.length + 1

/-- One value, with padding around it and nothing else. It may be nested to any depth: where a run
of the program would give up for lack of stack is left out. -/
def readWith (number : NumberReader) (s : Text) : Except ReadError Json := do
  let start := skipPadding s
  let (value, rest) ← readValue number (fuelFor start) start
  if (skipPadding rest).isEmpty then return value else .error .malformed

def read (s : Text) : Except ReadError Json := readWith Numeral.value s

end Tollgate.Json

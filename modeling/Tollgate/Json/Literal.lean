import Tollgate.Text.Quoted

namespace Tollgate.Json

/-- A code point that is written as itself or by a short escape, or one written in hexadecimal. -/
inductive Piece where
  | plain (c : CodePoint)
  | escaped (c : CodePoint)

def hexValue? (c : CodePoint) : Option Nat :=
  if 0x30 ≤ c.val ∧ c.val ≤ 0x39 then some (c.val - 0x30)
  else if 0x41 ≤ c.val ∧ c.val ≤ 0x46 then some (c.val - 0x37)
  else if 0x61 ≤ c.val ∧ c.val ≤ 0x66 then some (c.val - 0x57)
  else none

def unit? (a b c d : CodePoint) : Option CodePoint := do
  CodePoint.ofNat?
    ((← hexValue? a) * 0x1000 + (← hexValue? b) * 0x100 + (← hexValue? c) * 0x10 + (← hexValue? d))

def shortEscape? (c : CodePoint) : Option CodePoint :=
  if c = '"' || c = '\\' || c = '/' then some c
  else if c = 'b' then some '\x08'
  else if c = 'f' then some '\x0c'
  else if c = 'n' then some '\n'
  else if c = 'r' then some '\r'
  else if c = 't' then some '\t'
  else none

def pieces? : Text → Option (List Piece × Text)
  | [] => none
  | c :: s =>
    if c = '"' then some ([], s)
    else if c = '\\' then
      match s with
      | [] => none
      | e :: s =>
        if e = 'u' then
          match s with
          | h₁ :: h₂ :: h₃ :: h₄ :: s => do
            let unit ← unit? h₁ h₂ h₃ h₄
            let (pieces, rest) ← pieces? s
            return (.escaped unit :: pieces, rest)
          | _ => none
        else do
          let c ← shortEscape? e
          let (pieces, rest) ← pieces? s
          return (.plain c :: pieces, rest)
    else if c.val < 0x20 then none
    else do
      let (pieces, rest) ← pieces? s
      return (.plain c :: pieces, rest)

def joinPieces : List Piece → Text
  | [] => []
  | .plain c :: pieces => c :: joinPieces pieces
  | [.escaped c] => [c]
  | .escaped c :: .plain d :: pieces => c :: d :: joinPieces pieces
  | .escaped c :: .escaped d :: pieces =>
    if c.isHighSurrogate && d.isLowSurrogate then CodePoint.ofPair c d :: joinPieces pieces
    else c :: joinPieces (.escaped d :: pieces)

def string? (s : Text) : Option (Text × Text) :=
  (pieces? s).map fun (pieces, rest) => (joinPieces pieces, rest)

def hexEscape (n : Nat) : Text := '\\' :: 'u' :: Text.hex 4 n

def escapeNeeded? (c : CodePoint) : Option Text :=
  if c = '"' || c = '\\' then some ['\\', c]
  else if c = '\n' then some ['\\', 'n']
  else if c = '\r' then some ['\\', 'r']
  else if c = '\t' then some ['\\', 't']
  else if c = '\x08' then some ['\\', 'b']
  else if c = '\x0c' then some ['\\', 'f']
  else if c.val < 0x20 then some (hexEscape c.val)
  else none

def escapeLittle (c : CodePoint) : Text := (escapeNeeded? c).getD [c]

/-- Printable ASCII as itself, and what lies above 0xFFFF as a surrogate pair. -/
def escapeToAscii (c : CodePoint) : Text :=
  (escapeNeeded? c).getD <|
    if c.val < 0x7F then [c]
    else if c.val < 0x10000 then hexEscape c.val
    else
      let offset := c.val - 0x10000
      hexEscape (0xD800 + offset / 0x400) ++ hexEscape (0xDC00 + offset % 0x400)

end Tollgate.Json

namespace Tollgate

abbrev Bytes := List UInt8

abbrev CodePoint := Fin 0x110000

abbrev Text := List CodePoint

namespace CodePoint

def ofChar (c : Char) : CodePoint :=
  ⟨c.toNat, by rcases c.valid with h | ⟨_, h⟩ <;> (have : c.toNat = c.val.toNat := rfl; omega)⟩

instance : Coe Char CodePoint := ⟨ofChar⟩

def ofNat? (n : Nat) : Option CodePoint :=
  if h : n < 0x110000 then some ⟨n, h⟩ else none

def ofByte (b : UInt8) : CodePoint :=
  ⟨b.toNat, by have := b.toNat_lt; omega⟩

def isHighSurrogate (c : CodePoint) : Bool := 0xD800 ≤ c.val && c.val < 0xDC00

def isLowSurrogate (c : CodePoint) : Bool := 0xDC00 ≤ c.val && c.val < 0xE000

def isSurrogate (c : CodePoint) : Bool := 0xD800 ≤ c.val && c.val < 0xE000

def ofPair (high low : CodePoint) : CodePoint :=
  ⟨0x10000 + (high.val % 0x400) * 0x400 + low.val % 0x400, by omega⟩

def isAscii (c : CodePoint) : Bool := c.val < 0x80

def isAsciiDigit (c : CodePoint) : Bool := '0' ≤ c && c ≤ '9'

def asciiLower (c : CodePoint) : CodePoint :=
  if h : 0x41 ≤ c.val ∧ c.val ≤ 0x5A then ⟨c.val + 0x20, by omega⟩ else c

end CodePoint

namespace Text

def lit (s : String) : Text := s.toList.map CodePoint.ofChar

def ofLatin1 (bytes : Bytes) : Text := bytes.map CodePoint.ofByte

/-- Each code point as the byte of the same number, modulo 256. -/
def lowBytes (s : Text) : Bytes := s.map fun c => UInt8.ofNat c.val

def asciiLower (s : Text) : Text := s.map CodePoint.asciiLower

def isAscii (s : Text) : Bool := s.all CodePoint.isAscii

def hasSurrogate (s : Text) : Bool := s.any CodePoint.isSurrogate

def le : Text → Text → Bool
  | [], _ => true
  | _ :: _, [] => false
  | a :: s, b :: t => a < b || (a == b && le s t)

def endsWith (s pattern : Text) : Bool := pattern.reverse.isPrefixOf s.reverse

def startsWith (s pattern : Text) : Bool := pattern.isPrefixOf s

def holds : (s pattern : Text) → Bool
  | [], pattern => pattern.isEmpty
  | c :: s, pattern => startsWith (c :: s) pattern || holds s pattern

/-- The items between separators: one more than there are separators. -/
def splitOn (separator : CodePoint) : Text → List Text
  | [] => [[]]
  | c :: s =>
    if c = separator then [] :: splitOn separator s
    else match splitOn separator s with
      | [] => [[c]]
      | item :: items => (c :: item) :: items

def join (separator : Text) : List Text → Text
  | [] => []
  | [item] => item
  | item :: items => item ++ separator ++ join separator items

end Text

def cutFirst? {α : Type} [BEq α] (a : α) : List α → Option (List α × List α)
  | [] => none
  | b :: s => if b == a then some ([], s) else (cutFirst? a s).map fun (l, r) => (b :: l, r)

def cutLast? {α : Type} [BEq α] (a : α) : List α → Option (List α × List α)
  | [] => none
  | b :: s =>
    match cutLast? a s with
    | some (l, r) => some (b :: l, r)
    | none => if b == a then some ([], s) else none

end Tollgate

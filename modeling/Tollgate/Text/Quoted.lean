import Tollgate.Text.Printable

namespace Tollgate.Text

def hexDigit (n : Nat) : CodePoint := CodePoint.ofChar (Nat.digitChar n)

def hex : (width n : Nat) → Text
  | 0, _ => []
  | width + 1, n => hexDigit (n / 16 ^ width % 16) :: hex width n

def apostrophe : CodePoint := '\x27'

def quoteMark (s : Text) : CodePoint :=
  if List.elem apostrophe s && !List.elem (CodePoint.ofChar '"') s then '"' else apostrophe

def escapeQuoted (mark c : CodePoint) : Text :=
  if c = mark || c = '\\' then ['\\', c]
  else if c = '\n' then ['\\', 'n']
  else if c = '\r' then ['\\', 'r']
  else if c = '\t' then ['\\', 't']
  else if c.isPrintable then [c]
  else if c.val < 0x100 then '\\' :: 'x' :: hex 2 c.val
  else if c.val < 0x10000 then '\\' :: 'u' :: hex 4 c.val
  else '\\' :: 'U' :: hex 8 c.val

def quoted (s : Text) : Text :=
  let mark := quoteMark s
  mark :: s.flatMap (escapeQuoted mark) ++ [mark]

end Tollgate.Text

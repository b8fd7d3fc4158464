import FourReg.Text.Hidden

/-!
Text in quotation marks, on one line and readable whatever it holds.

Six characters have an escape of two characters. Of the others, those of a given set are written
by their code point in hexadecimal, as `\u` and braces, and the rest stand for themselves. The
set used in messages is `isHidden`.
-/

namespace FourReg.Text

def escape (hidden : Char → Bool) (c : Char) : List Char :=
  if c = '\x00' then ['\\', '0']
  else if c = '\t' then ['\\', 't']
  else if c = '\r' then ['\\', 'r']
  else if c = '\n' then ['\\', 'n']
  else if c = '\x22' then ['\\', '\x22']
  else if c = '\\' then ['\\', '\\']
  else if hidden c then ['\\', 'u', '\x7b'] ++ Nat.toDigits 16 c.toNat ++ ['\x7d']
  else [c]

def quoteChars (hidden : Char → Bool) (cs : List Char) : List Char :=
  '\x22' :: (cs.flatMap (escape hidden) ++ ['\x22'])

/-- A text in quotation marks, with the characters of `hidden` escaped. -/
def quoteWith (hidden : Char → Bool) (s : String) : String :=
  String.ofList (quoteChars hidden s.toList)

def quote : String → String :=
  quoteWith isHidden

end FourReg.Text

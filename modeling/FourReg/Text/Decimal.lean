/-!
Decimal numerals: the shortest text of an integer, and a reader for bounded ranges.

A numeral is an optional sign and at least one digit `0` to `9`; leading zeros are allowed. Reading
goes from left to right and stops at the first character that is no digit or that carries the
value out of range, so a text with both faults is reported by the one that comes first.
-/

namespace FourReg.Decimal

def ofNat (n : Nat) : String :=
  String.ofList (Nat.toDigits 10 n)

def ofInt : Int → String
  | .ofNat n => ofNat n
  | .negSucc n => "-" ++ ofNat (n + 1)

def ofInt64 (x : Int64) : String :=
  ofInt x.toInt

def ofUInt64 (x : UInt64) : String :=
  ofNat x.toNat

/-- Why a text is not a numeral of the wanted range. -/
inductive Fault where
  | empty
  | invalidDigit
  | tooLarge
  | tooSmall
  deriving DecidableEq

/-- Appends digits to the value `acc`, which may grow up to `limit`. -/
def readDigits (limit : Nat) (beyond : Fault) : Nat → List Char → Except Fault Nat
  | acc, [] => .ok acc
  | acc, c :: cs =>
    if c.isDigit then
      let value := 10 * acc + (c.toNat - '0'.toNat)
      if value ≤ limit then readDigits limit beyond value cs else .error beyond
    else .error .invalidDigit

/-- Reads what follows a sign. A sign alone is a character that is no digit. -/
def readMagnitude (limit : Nat) (beyond : Fault) : List Char → Except Fault Nat
  | [] => .error .invalidDigit
  | c :: cs => readDigits limit beyond 0 (c :: cs)

/-- Reads a natural number up to `limit`; its sign can only be `+`. -/
def readNat (limit : Nat) : List Char → Except Fault Nat
  | [] => .error .empty
  | '+' :: cs => readMagnitude limit .tooLarge cs
  | c :: cs => readDigits limit .tooLarge 0 (c :: cs)

/-- Reads an integer from `-low` up to `high`. -/
def readInt (low high : Nat) : List Char → Except Fault Int
  | [] => .error .empty
  | '+' :: cs => (readMagnitude high .tooLarge cs).map Int.ofNat
  | '-' :: cs => (readMagnitude low .tooSmall cs).map fun n => -(n : Int)
  | c :: cs => (readDigits high .tooLarge 0 (c :: cs)).map Int.ofNat

def readInt64 (s : String) : Except Fault Int64 :=
  (readInt 0x8000000000000000 0x7fffffffffffffff s.toList).map Int64.ofInt

def readUInt64 (s : String) : Except Fault UInt64 :=
  (readNat 0xffffffffffffffff s.toList).map UInt64.ofNat

end FourReg.Decimal

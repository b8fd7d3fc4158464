import FourReg.Text.Decimal

/-!
Errors of the operating system that opening a file or writing to a stream can meet.
-/

namespace FourReg

/-- The error's number, if it has one, the name of its class, and its text. -/
structure SystemError where
  code : Option Nat
  kind : String
  text : String
  deriving DecidableEq

namespace SystemError

def message (e : SystemError) : String :=
  match e.code with
  | some n => e.text ++ " (os error " ++ Decimal.ofNat n ++ ")"
  | none => e.text

def noSuchFile : SystemError := ⟨some 2, "NotFound", "No such file or directory"⟩

def noSuchDevice : SystemError := ⟨some 19, "Uncategorized", "No such device"⟩

def notDirectory : SystemError := ⟨some 20, "NotADirectory", "Not a directory"⟩

def noSpace : SystemError := ⟨some 28, "StorageFull", "No space left on device"⟩

def nameTooLong : SystemError := ⟨some 36, "InvalidFilename", "File name too long"⟩

def nulInName : SystemError :=
  ⟨none, "InvalidInput", "file name contained an unexpected NUL byte"⟩

end SystemError

end FourReg

import FourReg.Assembly
import FourReg.SystemError

/-!
What one line of a source file holds.
-/

namespace FourReg.Source

/-- Why a source file, or a line of it, gives no instruction. -/
inductive Error where
  | openFailed (cause : SystemError)
  | mapFailed (cause : SystemError)
  | invalidUtf8 (line : Nat)
  | assembly (error : Assembly.Error)
  deriving DecidableEq

def Error.message : Error → String
  | openFailed cause => "failed to open file, details: " ++ cause.message
  | mapFailed cause => "failed to memory map file, details: " ++ cause.message
  | invalidUtf8 line => "line " ++ Decimal.ofNat line ++ " is not valid utf-8"
  | assembly error => error.message

abbrev Item := Except Error Instruction

/-- The item on the line with number `n`, if the line is not blank. -/
def lineItem (n : Nat) (line : ByteArray) : Option Item :=
  match String.fromUTF8? line with
  | none => some (.error (.invalidUtf8 n))
  | some text =>
    if Text.isBlankText text then none
    else some ((assembleAt n text).mapError .assembly)

end FourReg.Source

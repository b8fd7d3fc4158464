/-!
What the command is asked to do, or asked instead.
-/

namespace FourReg.Cli

/-- What the command is asked to do. -/
structure Arguments where
  file : String
  /-- Initial values of registers, as given. -/
  assignments : List String := []
  maxSteps : Option String := none
  ir : Bool := false
  debug : Bool := false
  quiet : Bool := false
  deriving DecidableEq

/-- Answers that need no program. -/
inductive Exit where
  | help
  | version
  | usage
  deriving DecidableEq

end FourReg.Cli

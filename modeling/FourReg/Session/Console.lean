import FourReg.SystemError

/-!
The two streams a session writes to.

Standard output may refuse a write. Which writes it refuses is given from outside, so that what is
said about sessions holds for every pattern of failures; a refused write leaves nothing behind.
-/

namespace FourReg

structure Console where
  /-- The error that the write with this number meets, counted from zero; `none` if it succeeds. -/
  refusal : Nat → Option SystemError
  /-- The number of writes to standard output so far. -/
  writes : Nat := 0
  out : String := ""
  err : String := ""

namespace Console

def working : Console where
  refusal := fun _ => none

/-- Standard output on a device that has no space left. -/
def full : Console where
  refusal := fun _ => some .noSpace

def write (c : Console) (text : String) : Except SystemError Unit × Console :=
  match c.refusal c.writes with
  | some e => (.error e, { c with writes := c.writes + 1 })
  | none => (.ok (), { c with writes := c.writes + 1, out := c.out ++ text })

/-- Writes to standard error, which never refuses. -/
def report (c : Console) (text : String) : Console :=
  { c with err := c.err ++ text }

end Console

end FourReg

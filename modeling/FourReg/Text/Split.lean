/-!
Text cut at a character.
-/

namespace FourReg.Text

/-- What stands before and behind the first `sep`. -/
def splitOnce (sep : Char) (s : String) : Option (String × String) :=
  match s.toList.dropWhile (· != sep) with
  | [] => none
  | _ :: behind => some (String.ofList (s.toList.takeWhile (· != sep)), String.ofList behind)

end FourReg.Text

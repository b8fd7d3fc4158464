import FourReg.Session

/-!
Loading a session from a source file, with a listing on the way.
-/

namespace FourReg.Session

def column (n : Nat) : String :=
  let digits := Decimal.ofNat n
  String.ofList (List.replicate (4 - digits.length) ' ') ++ digits

def listingLine (n : Nat) (i : Instruction) : String :=
  column n ++ ": " ++ i.text ++ "\n"

/-- Appends items to a program up to the first error, and to a listing that grows with it. -/
def collect (listed : Bool) : String → Program → List Source.Item → String × Except Error Program
  | listing, program, [] => (listing, .ok program)
  | listing, _, .error e :: _ => (listing, .error (.load e))
  | listing, program, .ok i :: items =>
    let listing := if listed then listing ++ listingLine program.size i else listing
    collect listed listing (program.push i) items

/-- Loads what a file holds, or fails as opening it did. The text is what loading writes to standard
output. -/
def load (config : Config) (file : Except Source.Error ByteArray) :
    String × Except Error Session :=
  match file with
  | .error e => ("", .error (.load e))
  | .ok bytes =>
    let (listing, program) := collect config.listing "" #[] (Source.Reader.items { bytes })
    (listing, program.map (start config))

end FourReg.Session

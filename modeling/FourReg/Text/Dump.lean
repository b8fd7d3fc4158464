/-!
Values written out by their structure: constructors with arguments, records with fields, lists.

The inline form stands on one line. The indented form gives every part a line of its own, four
columns further in than what it is a part of, with a comma behind it.
-/

namespace FourReg.Dump

def call (name : String) (args : List String) : String :=
  name ++ "(" ++ ", ".intercalate args ++ ")"

def record (name : String) (fields : List (String × String)) : String :=
  name ++ " \x7b " ++ ", ".intercalate (fields.map fun (field, value) => field ++ ": " ++ value)
    ++ " \x7d"

def indent : List String → List String
  | [] => []
  | [line] => ["    " ++ line ++ ","]
  | line :: lines => ("    " ++ line) :: indent lines

/-- The lines of a whole with its parts between two brackets. -/
def block (opening : String) (parts : List (List String)) (closing : String) : List String :=
  opening :: (parts.flatMap indent ++ [closing])

end FourReg.Dump

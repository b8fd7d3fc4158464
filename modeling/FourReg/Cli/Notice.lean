import FourReg.Machine

/-!
What the command itself writes to standard output.
-/

namespace FourReg.Cli.Notice

def version : String := "tetrad 0.1.0\n"

def usage : String := "USAGE:\n    tetrad [OPTIONS] --file <file>\n"

/-- An option and what it does, in two columns. -/
def optionLine (names purpose : String) : String :=
  "    " ++ names ++ String.ofList (List.replicate (31 - names.length) ' ') ++ purpose ++ "\n"

def help : String :=
  version
    ++ "a tiny four register machine interpreter\n\n"
    ++ usage
    ++ "\nOPTIONS:\n"
    ++ optionLine "-d, --debug" "prints the machine state before each executed instruction"
    ++ optionLine "-f, --file <file>" "assembly source file to interpret"
    ++ optionLine "-h, --help" "Print help information"
    ++ optionLine "-i, --ir" "prints intermediate representation of instructions"
    ++ optionLine "-l, --max-steps <max-steps>"
      "aborts the program after this many executed instructions"
    ++ optionLine "-q, --quiet"
      "suppresses all output other than what the program is producing"
    ++ optionLine "-r, --register <register>"
      "initial value of a register, given as name=value (e.g. c=1)"
    ++ optionLine "-V, --version" "Print version information"

/-- A span of time in milliseconds and nanoseconds. -/
def elapsed (nanoseconds : Nat) : String :=
  Decimal.ofNat (nanoseconds / 1000000) ++ " ms (" ++ Decimal.ofNat nanoseconds ++ " ns)"

def loading : String :=
  "loading and compiling the provided source, creating the virtual machine...\n"

def compiled (size : Nat) (elapsed : String) : String :=
  "compiled " ++ Decimal.ofNat size ++ " instructions in " ++ elapsed ++ "\n"

def starting : String :=
  "starting to execute program...\n\n"

def registers (v : Registers) : String :=
  String.join (Register.all.map fun r => r.name ++ " = " ++ Decimal.ofInt64 (v.get r) ++ "\n")

def halted (state : Machine.State) (steps : UInt64) (elapsed : String) : String :=
  "\nhalted at pc " ++ Decimal.ofInt64 state.pc ++ " after " ++ Decimal.ofUInt64 steps
    ++ " steps, took " ++ elapsed ++ "\n" ++ registers state.registers

end FourReg.Cli.Notice

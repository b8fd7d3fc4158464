import FourReg.Cli.Arguments
import FourReg.Text.Split

/-!
Reading the arguments of the command.

Arguments are read from left to right. Options have a long name behind two hyphens and a short one
behind a single hyphen; short ones may share a hyphen. A value follows its option in the same
argument, with or without an equals sign, or is the next argument if that does not begin with a
hyphen. Asking for help or for the version answers at once, as does an argument that is no option;
what is missing or repeated is found only at the end.
-/

namespace FourReg.Cli

inductive Flag where
  | ir
  | debug
  | quiet
  deriving DecidableEq

inductive Setting where
  | file
  | register
  | maxSteps
  deriving DecidableEq

inductive Switch where
  | flag (f : Flag)
  | setting (s : Setting)
  | help
  | version
  deriving DecidableEq

namespace Switch

def all : List Switch :=
  [.flag .debug, .setting .file, .help, .flag .ir, .setting .maxSteps, .flag .quiet,
   .setting .register, .version]

def short : Switch → Char
  | flag .ir => 'i'
  | flag .debug => 'd'
  | flag .quiet => 'q'
  | setting .file => 'f'
  | setting .register => 'r'
  | setting .maxSteps => 'l'
  | help => 'h'
  | version => 'V'

def long : Switch → String
  | flag .ir => "ir"
  | flag .debug => "debug"
  | flag .quiet => "quiet"
  | setting .file => "file"
  | setting .register => "register"
  | setting .maxSteps => "max-steps"
  | help => "help"
  | version => "version"

def ofShort? (c : Char) : Option Switch :=
  all.find? fun switch => switch.short = c

def ofLong? (name : String) : Option Switch :=
  all.find? fun switch => switch.long = name

end Switch

/-- What has been read of the arguments. -/
structure Scan where
  flags : List Flag := []
  /-- The settings met so far, each with its value if it got one. -/
  settings : List (Setting × Option String) := []
  /-- A setting whose value may be the next argument. -/
  pending : Option Setting := none
  /-- Two hyphens alone have been read; no argument may follow. -/
  closed : Bool := false

namespace Scan

def addFlag (scan : Scan) (f : Flag) : Scan :=
  { scan with flags := scan.flags ++ [f] }

def addSetting (scan : Scan) (s : Setting) (value : Option String) : Scan :=
  { scan with settings := scan.settings ++ [(s, value)] }

def settle (scan : Scan) : Scan :=
  match scan.pending with
  | none => scan
  | some s => { scan.addSetting s none with pending := none }

/-- Reads an option by its long name, with a value behind an equals sign if there is one. -/
def long (scan : Scan) (text : String) : Except Exit Scan :=
  let (name, value) :=
    match Text.splitOnce '=' text with
    | none => (text, none)
    | some (name, value) => (name, some value)
  match Switch.ofLong? name, value with
  | some (.setting s), some value => .ok (scan.addSetting s (some value))
  | some (.setting s), none => .ok { scan with pending := some s }
  | some (.flag f), none => .ok (scan.addFlag f)
  | some .help, none => .error .help
  | some .version, none => .error .version
  | _, _ => .error .usage

/-- Reads options by their short names. The rest of the text behind a setting is its value. -/
def shorts (scan : Scan) : List Char → Except Exit Scan
  | [] => .ok scan
  | c :: cs =>
    match Switch.ofShort? c with
    | some (.flag f) => shorts (scan.addFlag f) cs
    | some (.setting s) =>
      match cs with
      | [] => .ok { scan with pending := some s }
      | '=' :: value => .ok (scan.addSetting s (some (String.ofList value)))
      | value => .ok (scan.addSetting s (some (String.ofList value)))
    | some .help => .error .help
    | some .version => .error .version
    | none => .error .usage

def take (scan : Scan) (arg : String) : Except Exit Scan :=
  if scan.closed then .error .usage
  else
    match arg.toList with
    | ['-', '-'] => .ok { scan with closed := true }
    | '-' :: '-' :: name => scan.settle.long (String.ofList name)
    | '-' :: c :: cs => scan.settle.shorts (c :: cs)
    | _ =>
      match scan.pending with
      | some s => .ok { scan.addSetting s (some arg) with pending := none }
      | none => .error .usage

def occurrences (scan : Scan) (s : Setting) : List (Option String) :=
  (scan.settings.filter fun entry => entry.1 = s).map Prod.snd

end Scan

/-- The value of a setting that may occur once. -/
def single : List (Option String) → Except Exit (Option String)
  | [] => .ok none
  | [some value] => .ok (some value)
  | _ => .error .usage

/-- The values of a setting that may occur any number of times. If it occurs, then at least once
with a value. -/
def several (occurrences : List (Option String)) : Except Exit (List String) :=
  match occurrences, occurrences.filterMap id with
  | _ :: _, [] => .error .usage
  | _, values => .ok values

/-- What the arguments amount to once all have been read. -/
def Scan.finish (scan : Scan) : Except Exit Arguments :=
  let scan := scan.settle
  if ¬ scan.flags.Nodup then .error .usage
  else do
    let some file ← single (scan.occurrences .file) | .error .usage
    let maxSteps ← single (scan.occurrences .maxSteps)
    let assignments ← several (scan.occurrences .register)
    return {
      file, assignments, maxSteps
      ir := scan.flags.contains .ir
      debug := scan.flags.contains .debug
      quiet := scan.flags.contains .quiet }

def Arguments.parse (args : List String) : Except Exit Arguments :=
  (args.foldlM Scan.take {}).bind Scan.finish

end FourReg.Cli

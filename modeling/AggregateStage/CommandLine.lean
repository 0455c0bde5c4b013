import AggregateStage.CommandLine.Arguments
import AggregateStage.CommandLine.Flag
import AggregateStage.Decimal.Numeral

/-! The command line. Words are read one after the other; the value of a flag is checked
when the next flag begins or the words end, so a word that is no flag at all is refused
before a bad value in front of it. -/
namespace AggregateStage.CommandLine

/-- A flag that takes a value, and the value once it has one. -/
structure Pending where
  flag : Flag
  value : Option String
  deriving DecidableEq, Repr

/-- A command line in the middle of being read. -/
structure Reading where
  arguments : Arguments
  /-- The flags that have been applied. -/
  given : List Flag
  pending : Option Pending
  /-- Whether flags are over. -/
  escaped : Bool
  deriving DecidableEq, Repr

def Reading.start : Reading := ⟨.none, [], none, false⟩

/-- The arguments with a flag's value, which is checked for its form. -/
def assign (a : Arguments) (flag : Flag) (value : String) : Except Stop Arguments :=
  match flag with
  | .config => if value.isEmpty then .error .missingValue else .ok { a with config := some value }
  | .directives => .ok { a with directives := some value }
  | .host => .ok { a with host := some value }
  | .broker => .ok { a with broker := some value }
  | .role => .ok { a with role := some value }
  | .port =>
    match Decimal.signed? 0 (Nat.pow 2 16) value.toList with
    | some n => .ok { a with port := some (UInt16.ofNat n.toNat) }
    | none => .error .badValue
  | .timeout =>
    match Decimal.unsigned? (Nat.pow 2 64) value.toList with
    | some n => .ok { a with timeout := some (UInt64.ofNat n) }
    | none => .error .badValue
  | _ => .error .unexpectedValue

/-- The arguments with a flag that takes no value. Help and version are asked for in the
place where they stand. -/
def raise (a : Arguments) : Flag → Except Stop Arguments
  | .quiet => .ok { a with quiet := true }
  | .verbosity => .ok { a with verbosity := min (a.verbosity + 1) 255 }
  | .json => .ok { a with json := true }
  | .noReflection => .ok { a with noReflection := true }
  | .noBroker => .ok { a with noBroker := true }
  | .help => .error .help
  | .version => .error .version
  | _ => .error .missingValue

namespace Reading

/-- Notes that a flag is given. Only the verbosity may be given again. -/
def note (r : Reading) (flag : Flag) : Except Stop Reading :=
  if flag ≠ .verbosity ∧ flag ∈ r.given then .error .repeated
  else .ok { r with given := flag :: r.given }

/-- Applies the flag that is pending. -/
def settle (r : Reading) : Except Stop Reading :=
  match r.pending with
  | none => .ok r
  | some ⟨_, none⟩ => .error .missingValue
  | some ⟨flag, some value⟩ => do
    let r ← r.note flag
    return { r with arguments := ← assign r.arguments flag value, pending := none }

/-- Applies a flag without a value. -/
def apply (r : Reading) (flag : Flag) : Except Stop Reading := do
  let r ← r.settle
  let r ← r.note flag
  return { r with arguments := ← raise r.arguments flag }

def letter (r : Reading) (c : Char) : Except Stop Reading :=
  match Flag.ofLetter? c with
  | some flag => r.apply flag
  | none => .error .unknownArgument

def long (r : Reading) (name : List Char) (value : Option (List Char)) : Except Stop Reading :=
  match Flag.ofName? name, value with
  | none, _ => .error .unknownArgument
  | some flag, none =>
    if flag.takesValue then do return { ← r.settle with pending := some ⟨flag, none⟩ }
    else r.apply flag
  | some flag, some value =>
    if flag.takesValue then do
      let r ← r.settle
      settle { r with pending := some ⟨flag, some (String.ofList value)⟩ }
    else .error .unexpectedValue

/-- A word that is no flag is the value of the flag before it, or out of place. -/
def plain (r : Reading) (text : String) : Except Stop Reading :=
  match r.pending with
  | some ⟨flag, none⟩ => .ok { r with pending := some ⟨flag, some text⟩ }
  | _ => .error .unknownArgument

def word (r : Reading) (text : String) : Except Stop Reading :=
  if r.escaped then .error .unknownArgument
  else
    match Word.ofText text with
    | .escape => .ok { r with escaped := true }
    | .long name value => r.long name value
    | .letters letters => letters.foldlM letter r
    | .plain text => r.plain text

end Reading

/-- The variable that gives the configuration file when the command line does not. -/
def configVariable : String := "SLUICE_CONFIG"

/-- Reads a command line; the name of the program is not part of it. -/
def read (words : List String) (environment : List (String × String)) : Except Stop Arguments := do
  let r ← words.foldlM Reading.word .start
  let a := (← r.settle).arguments
  match a.config, environment.lookup configVariable with
  | none, some path => assign a .config path
  | _, _ => return a

/-- One line for each flag. -/
def usage : String :=
  let line (entry : Flag × String) : String :=
    "  --" ++ entry.2 ++ if entry.1.takesValue then " <VALUE>" else ""
  "Usage: sluice [OPTIONS]\n\nOptions:\n" ++ "\n".intercalate (Flag.names.map line)

end AggregateStage.CommandLine

import AggregateStage.Decimal.Digits
import AggregateStage.Log
import AggregateStage.Text.Class
import AggregateStage.Text.Size

/-! Filters of log lines: directives that give a level to the targets they name, the more
specific ones first. -/
namespace AggregateStage

namespace LogFilter

/-- A level up to which lines are shown. -/
inductive Threshold where
  | off
  | error
  | warn
  | info
  | debug
  | trace
  deriving DecidableEq, Repr

namespace Threshold

def names : List (Threshold × String) := [(.off, "off"), (.error, "error"), (.warn, "warn"),
  (.info, "info"), (.debug, "debug"), (.trace, "trace")]

def name (t : Threshold) : String :=
  ((names.find? fun pair => pair.1 == t).map Prod.snd).getD ""

def rank : Threshold → Nat
  | .off => 0
  | .error => 1
  | .warn => 2
  | .info => 3
  | .debug => 4
  | .trace => 5

/-- A level by its name in any case or by its number. -/
def ofText? (text : List Char) : Option Threshold :=
  let lower := String.ofList (text.map Char.toLower)
  let number := Decimal.unsigned? 6 text
  (names.find? fun (t, name) => name == lower || number == some t.rank).map Prod.fst

end Threshold

structure Directive where
  /-- The target it is about; all targets when there is none. -/
  target : Option (List Char)
  level : Threshold
  deriving DecidableEq, Repr

def startsDirective (c : Char) : Bool :=
  c == '-' || c == ':' || c == '_' || Text.isAlphanumeric c

/-- Cuts text before the first character that begins at or beyond a number of bytes. -/
def cutAt : Nat → List Char → List Char × List Char
  | _, [] => ([], [])
  | count, c :: rest =>
    if count = 0 then ([], c :: rest)
    else
      let (before, behind) := cutAt (count - c.utf8Size) rest
      (c :: before, behind)

/-- Reads a directive. Its parts are found in the text without the blanks around it, and
cut at the same places from the text as it is. -/
def Directive.parse? (text : List Char) : Option Directive :=
  match Text.trim text with
  | [] => none
  | first :: more =>
    if !startsDirective first then none
    else
      let (target, level) := (first :: more).span (· != '=')
      match level with
      | [] =>
        match Threshold.ofText? text with
        | some level => some ⟨none, level⟩
        | none => some ⟨some text, .trace⟩
      | _ :: _ =>
        let (target, level) := cutAt (Text.byteCount target) text
        match level.drop 1 with
        | [] => some ⟨some target, .trace⟩
        | level => (Threshold.ofText? level).map fun level => ⟨some target, level⟩

/-- Whether one target comes before another: longer ones first, then in descending order,
the absent one last. -/
def precedes : Option (List Char) → Option (List Char) → Bool
  | some _, none => true
  | none, _ => false
  | some a, some b =>
    decide (Text.byteCount b < Text.byteCount a) ||
      Text.byteCount a == Text.byteCount b && decide (String.ofList b < String.ofList a)

/-- Adds a directive in its place; it replaces one for the same target. -/
def insert (directive : Directive) : List Directive → List Directive
  | [] => [directive]
  | d :: rest =>
    if d.target = directive.target then directive :: rest
    else if precedes directive.target d.target then directive :: d :: rest
    else d :: insert directive rest

def pieces (text : String) : List (List Char) := text.toList.splitOn ','

/-- The directives of a text; one that is bad spoils all, empty pieces aside. -/
def parse? (text : String) : Option (List Directive) :=
  (((pieces text).filter fun piece => !piece.isEmpty).mapM Directive.parse?).map
    fun directives => directives.foldl (fun filter d => insert d filter) []

/-- Adds the directives of a text, passing over bad ones. -/
def extend (filter : List Directive) (text : String) : List Directive :=
  ((pieces text).filterMap Directive.parse?).foldl (fun filter d => insert d filter) filter

def ofLevel (level : Threshold) : List Directive := [⟨none, level⟩]

/-- The variable that holds the directives of the environment. -/
def environmentName : String := "RUST_LOG"

/-- What the user asks for. -/
structure Options where
  quiet : Bool
  verbosity : Nat
  /-- Directives given on the command line. -/
  directives : Option String
  /-- Directives given in the environment. -/
  environment : Option String
  deriving DecidableEq, Repr

def baseLevel (verbosity : Nat) : Threshold :=
  match verbosity with
  | 0 => .info
  | 1 => .debug
  | _ => .trace

/-- Quiet shows errors alone. Otherwise the environment decides, or the verbosity where
that is absent or bad, and the command line adds to it. -/
def build (options : Options) : List Directive :=
  if options.quiet then ofLevel .error
  else
    let base := (options.environment.bind parse?).getD (ofLevel (baseLevel options.verbosity))
    match options.directives with
    | some text => extend base text
    | none => base

def Directive.toText (d : Directive) : String :=
  match d.target with
  | some target => String.ofList target ++ "=" ++ d.level.name
  | none => d.level.name

def toText (filter : List Directive) : String := ",".intercalate (filter.map Directive.toText)

def levelRank : Log.Level → Nat
  | .error => 1
  | .warn => 2
  | .info => 3
  | .debug => 4
  | .trace => 5

/-- Whether a line of a target is shown: the first directive whose target begins it decides. -/
def shows (filter : List Directive) (target : String) (level : Log.Level) : Bool :=
  match filter.find? fun d => (d.target.map fun t => t.isPrefixOf target.toList).getD true with
  | some d => decide (levelRank level ≤ d.level.rank)
  | none => false

end LogFilter

end AggregateStage

import AggregateStage.Environment
import AggregateStage.Log.Layout
import AggregateStage.Program.Run

/-! The program itself. It has no sockets: listeners are taken to be there, brokers not to be
reached, and the end of the input stands for an interrupt. -/
namespace AggregateStage.Main

def readText (path : String) : IO (Option String) := do
  try
    return String.fromUTF8? (← IO.FS.readBinFile path)
  catch _ => return none

def world : Program.World := ⟨⟨Net.Address.isCommon, 49152, []⟩, none⟩

def printLines (layout : Log.Line → String) (lines : List Log.Line) : IO Unit := do
  for line in lines do IO.println (layout line)
  (← IO.getStdout).flush

/-- Reads the input to its end. -/
partial def awaitEnd (input : IO.FS.Stream) : IO Unit := do
  if (← input.read 4096).isEmpty then return else awaitEnd input

def report (p : Program) : IO UInt32 := do
  match p.phase with
  | .exited (some failure) => IO.eprintln ("Error: " ++ failure.message)
  | _ => pure ()
  return p.exitCode?.getD 1

def serve (write : List Log.Line → IO Unit) (p : Program) : IO UInt32 := do
  let opened := p.opened world
  write opened.log
  if opened.isOver then report opened
  else
    awaitEnd (← IO.getStdin)
    let closed := opened.closed world
    write (closed.log.drop opened.log.length)
    report closed

def run (arguments : Arguments) (environment : List (String × String)) : IO UInt32 := do
  let file ← match arguments.config with
    | some path => readText path
    | none => pure none
  let filter := Program.filter arguments environment
  let layout := if arguments.json then Log.Line.json else Log.Line.plain
  let write (lines : List Log.Line) := printLines layout (Program.shown filter lines)
  match Program.start arguments environment file with
  | (lines, .error failure) =>
    write lines
    IO.eprintln ("Error: " ++ failure.message)
    return 1
  | (_, .ok p) => serve write p

def answer (words : List String) (environment : List (String × String)) : IO UInt32 := do
  match CommandLine.read words environment with
  | .ok arguments => run arguments environment
  | .error .version =>
    IO.println Program.versionText
    return CommandLine.Stop.exitCode .version
  | .error .help =>
    IO.println CommandLine.usage
    return CommandLine.Stop.exitCode .help
  | .error stop =>
    IO.eprintln ("error: " ++ stop.message)
    return stop.exitCode

end AggregateStage.Main

def main (words : List String) : IO UInt32 := do
  let listing ← AggregateStage.Main.readText "/proc/self/environ"
  AggregateStage.Main.answer words (AggregateStage.Environment.parse (listing.getD ""))

import AggregateStage.LogFilter
import AggregateStage.Program.Step
import AggregateStage.Server.Run

/-! Runs of the program in which everything happens as soon as it can. -/
namespace AggregateStage.Program

/-- Checks the settings and launches the program; the lines logged so far come with it. -/
def start (arguments : Arguments) (environment : List (String × String)) (file : Option String) :
    List Log.Line × Except Failure Program :=
  match Settings.load environment file with
  | .error fault => ([], .error (.settings fault))
  | .ok settings =>
    let settings := settings.withArguments arguments
    match settings.endpoint with
    | .error fault => ([greeting], .error (.host fault))
    | .ok endpoint =>
      let p := launch settings endpoint
      (p.log, .ok p)

/-- What a run meets outside. -/
structure World where
  host : Net.Host
  /-- What the broker says to a request, if it can be reached. -/
  broker : Option Broker.Reply

def World.ending (w : World) : Ending := .answered (w.broker.getD .silence)

/-- The main line ends if serving has ended. -/
def ending (w : World) : List Action :=
  [.join, .withdraw w.broker.isSome, .handle 0, .endWithdrawal w.ending, .exit]

/-- Serves and announces the service. -/
def opening (w : World) (p : Program) : List Action :=
  [.wait, .serve (.describe none), .serve (p.server.binding w.host)] ++
    List.replicate 3 (.serve .advance) ++
    [.look, .announce w.broker.isSome, .handle 0, .endAnnouncement w.ending]

/-- An interrupt stops the server. -/
def closing : List Action :=
  [.interrupt, .heed, .stop] ++ List.replicate 4 (.serve .advance)

/-- Opens, and goes on as long as it can without an interrupt. -/
def opened (w : World) (p : Program) : Program := p.execute (p.opening w ++ ending w)

/-- Ends with an interrupt, if it has not ended. -/
def closed (w : World) (p : Program) : Program := p.execute (closing ++ ending w)

/-- The exit code of a program that has ended by itself. -/
def exitCode? (p : Program) : Option UInt32 :=
  match p.phase with
  | .exited none => some 0
  | .exited (some _) => some 1
  | _ => none

/-- The filter that the program shows its log lines by. -/
def filter (a : Arguments) (environment : List (String × String)) : List LogFilter.Directive :=
  LogFilter.build ⟨a.quiet, a.verbosity, a.directives, environment.lookup LogFilter.environmentName⟩

def shown (filter : List LogFilter.Directive) (lines : List Log.Line) : List Log.Line :=
  lines.filter fun line => LogFilter.shows filter line.origin.target line.level

/-- What the program writes when it is asked for its version. -/
def versionText : String := name ++ " " ++ version

end AggregateStage.Program

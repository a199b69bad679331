import ConformanceReport.Run.Basic

/-!
# The command

What the program does with a command line: it answers an inquiry, complains about arguments, or
makes a run and logs what happens in it.
-/

namespace ConformanceReport

/-- All that a command leaves behind: what its standard output took, the log, what it complains
about besides the log, and the exit code. -/
structure Finished where
  sink : Sink
  log : List Event
  complaint : String
  exitCode : UInt32

namespace Finished

/-- What a run with given arguments leaves behind. -/
def ofRun (arguments : Arguments) (ended : Ended) : Finished :=
  let logged (events : List Event) : List Event :=
    events.filter fun event => arguments.logLevel.holds event.level
  match ended.result with
  | .ok code => ⟨ended.sink, logged ended.events, "", code⟩
  | .error failure =>
    ⟨ended.sink, logged (ended.events ++ [.failed failure]),
      "\n❌ Error: " ++ failure.message ++ "\n", 1⟩

end Finished

/-- Follows arguments, if they are consistent. -/
def follow (arguments : Arguments) (files : FileView) (sink : Sink) : Finished :=
  if arguments.areConsistent then .ofRun arguments (run arguments files sink)
  else ⟨sink, [], "Error: " ++ Arguments.inconsistency ++ "\n", 1⟩

/-- Executes a command line. An answer that the output does not take is lost. -/
def execute (line : List Bytes) (files : FileView) (sink : Sink) : Finished :=
  match Arguments.read line with
  | .ok arguments => follow arguments files sink
  | .error stop =>
    if stop.isAnswer then ⟨(sink.write (utf8 stop.written)).1, [], "", stop.exitCode⟩
    else ⟨sink, [], stop.written ++ "\n", stop.exitCode⟩

end ConformanceReport

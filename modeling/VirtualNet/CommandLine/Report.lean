import VirtualNet.CommandLine.Arguments
import VirtualNet.Log

/-!
# What a command reports

A command writes to its output and to its log as it goes and ends with an exit code. The texts that
explain how a command is used are no part of a report.
-/

namespace VirtualNet.CommandLine

/-- One thing that a command writes. -/
inductive Emission where
  | output (text : String)
  | log (entry : LogEntry)
  /-- A last word beside the log. -/
  | notice (text : String)
  deriving DecidableEq, Repr

namespace Emission

/-- A line of output. -/
def line (text : String) : Emission := .output (text ++ "\n")

/-- What an emission adds to the output. -/
def outputText : Emission → String
  | .output text => text
  | .log _ => ""
  | .notice _ => ""

/-- What an emission adds to the log. -/
def logged? : Emission → Option LogEntry
  | .output _ => none
  | .log entry => some entry
  | .notice _ => none

end Emission

/-- What a command wrote, in order, and how it ended. -/
structure Report where
  exitCode : UInt8
  emissions : List Emission
  deriving DecidableEq, Repr

namespace Report

/-- A command that was not run. -/
def stopped : Stop → Report
  | .misuse => ⟨2, []⟩
  | .help => ⟨0, []⟩

/-- A command that failed after writing something. -/
def failure (emissions : List Emission) (text : String) : Report :=
  ⟨1, emissions ++ [.log ⟨.error, text⟩]⟩

/-- A command that broke off after writing something. -/
def brokenOff (emissions : List Emission) (text : String) : Report :=
  ⟨101, emissions ++ [.notice text]⟩

/-- The output of a command. -/
def output (report : Report) : String :=
  String.join (report.emissions.map Emission.outputText)

/-- The log of a command. -/
def log (report : Report) : List LogEntry :=
  report.emissions.filterMap Emission.logged?

end Report

end VirtualNet.CommandLine

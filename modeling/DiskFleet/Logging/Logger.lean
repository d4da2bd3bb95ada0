import DiskFleet.Json.Basic
import DiskFleet.Logging.Filter
import DiskFleet.Logging.Format

/-!
# The log of a process

A process has one log, which is set up once: the first set-up that succeeds fixes the form of its
lines and the filter, and every later one is refused. The filter is the one that the environment
gives, if that is a filter, and else the one of the set-up.

An operation that is timed leaves one event when it ends: that it has finished, or that it was
abandoned. Only events that pass the filter of a log that has been set up are written.
-/

namespace DiskFleet

/-- An event about a timed operation. -/
structure LogEvent where
  level : LogLevel
  message : String
  operation : String
deriving DecidableEq, Repr

namespace LogEvent

/-- The target of the events about timed operations. -/
def target : String := "vdisk_common::logging"

def finished (operation : String) : LogEvent := ⟨.debug, "Operation finished", operation⟩

def abandoned (operation : String) : LogEvent :=
  ⟨.warn, "Operation abandoned before completion", operation⟩

/-- The event as the object of its log line. -/
def toJson (event : LogEvent) : Json :=
  .obj [("level", .str event.level.label), ("message", .str event.message),
    ("operation", .str event.operation), ("target", .str target)]

end LogEvent

/-- Where the events of a process go. -/
inductive LogSink
  /-- Nowhere: no log has been set up. -/
  | absent
  /-- To a log that something else has set up. -/
  | foreign
  | own (format : LogFormat) (filter : LogFilter)
deriving DecidableEq, Repr

/-- Why a log cannot be set up. -/
inductive LogProblem
  | unknownFormat (word : String)
  | alreadySetUp
deriving DecidableEq, Repr

def LogProblem.message : LogProblem → String
  | unknownFormat word => LogFormat.unknownMessage word
  | alreadySetUp => "Failed to install log subscriber"

/-- The log of a process and the events in it, oldest first. -/
structure Logger where
  sink : LogSink
  written : List LogEvent
deriving DecidableEq, Repr

namespace Logger

/-- A process without a log. -/
def fresh : Logger := ⟨.absent, []⟩

/-- A process in which something else has set up the log. -/
def occupied : Logger := ⟨.foreign, []⟩

/-- The filter of a set-up. `environment` is what the environment says, if anything. -/
def filterOf (environment : Option String) (level : String) : LogFilter :=
  (environment.bind LogFilter.ofText?).getD (LogFilter.ofTextLossy level)

/-- Sets the log up. -/
def setUp (logger : Logger) (environment : Option String) (format : LogFormat) (level : String) :
    Except LogProblem Logger :=
  match logger.sink with
  | .absent => .ok { logger with sink := .own format (filterOf environment level) }
  | _ => .error .alreadySetUp

/-- Sets the log up with a format that is given by its word. -/
def setUpNamed (logger : Logger) (environment : Option String) (format level : String) :
    Except LogProblem Logger :=
  match LogFormat.ofWord format with
  | .ok format => logger.setUp environment format level
  | .error word => .error (.unknownFormat word)

/-- The most verbose level that is written. -/
def mostVerbose (logger : Logger) : LogLevel :=
  match logger.sink with
  | .own _ filter => filter.mostVerbose
  | _ => .off

/-- Writes an event, if it passes. -/
def log (logger : Logger) (event : LogEvent) : Logger :=
  match logger.sink with
  | .own _ filter =>
    if filter.passes event.level LogEvent.target then
      { logger with written := logger.written ++ [event] }
    else logger
  | _ => logger

/-- The events that are written in a form. -/
def writtenAs (logger : Logger) (format : LogFormat) : List LogEvent :=
  match logger.sink with
  | .own used _ => if used = format then logger.written else []
  | _ => []

end Logger

end DiskFleet

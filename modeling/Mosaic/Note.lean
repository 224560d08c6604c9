import Mosaic.Gpu.Command
import Mosaic.Window.Request

/-!
# Notes

What a run leaves behind for an observer, in order: lines of the log, commands to a graphics
processor, requests to a platform, and remarks of the scene that is shown.
-/

namespace Mosaic

/-- How much a line of the log matters. -/
inductive LogLevel where
  | trace
  | debug
  | info
  | warn
  | error
  deriving DecidableEq, Repr

def LogLevel.name : LogLevel → String
  | .trace => "TRACE"
  | .debug => "DEBUG"
  | .info => "INFO"
  | .warn => "WARN"
  | .error => "ERROR"

/-- What an observer of a run sees. -/
inductive Note where
  /-- A line of the log. -/
  | log (level : LogLevel) (text : String)
  /-- A command to a graphics processor. -/
  | gpu (command : GpuCommand)
  /-- A request to a platform. -/
  | window (request : WindowRequest)
  /-- A remark of a scene. -/
  | remark (text : String)
  deriving DecidableEq, Repr

/-- The line of the log that a note is, its level first. -/
def Note.logLine? : Note → Option String
  | .log level text => some (level.name ++ " " ++ text)
  | _ => none

/-- The graphics command that a note is. -/
def Note.gpuCommand? : Note → Option GpuCommand
  | .gpu command => some command
  | _ => none

end Mosaic

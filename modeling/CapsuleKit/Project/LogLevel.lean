import CapsuleKit.Text.Display
import CapsuleKit.Text.Upper

/-!
# Log levels

A log level is given by name in any case; an unknown name means warnings. Two names are taken by
settings of the log that are no levels. Verbose output is always on the level of debugging.
-/

namespace CapsuleKit

/-- Why a name gives no level: its setting is a text that names none, or no text at all. -/
inductive LevelFault where
  | unknown (name : String)
  | noName
  deriving DecidableEq

def LevelFault.message : LevelFault → String
  | .unknown name => "Unknown level: " ++ Text.display name
  | .noName => "Level not an integer or a valid string"

/-- The known names with their levels. -/
def logLevels : List (String × Nat) :=
  [("NOTSET", 0), ("DEBUG", 10), ("INFO", 20), ("WARN", 30), ("WARNING", 30), ("ERROR", 40),
   ("FATAL", 50), ("CRITICAL", 50)]

/-- The names of settings that are no levels. -/
def logSettings : List (String × LevelFault) :=
  [("BASIC_FORMAT", .unknown "%(levelname)s:%(name)s:%(message)s"), ("_STYLES", .noName)]

def logLevel (name : String) (verbose : Bool) : Except LevelFault Nat :=
  let upper := Text.toUpper name
  if verbose then .ok 10
  else
    match logSettings.lookup upper with
    | some fault => .error fault
    | none => .ok ((logLevels.lookup upper).getD 30)

end CapsuleKit

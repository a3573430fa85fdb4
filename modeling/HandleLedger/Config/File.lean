import HandleLedger.Config
import HandleLedger.Log

/-!
# Configuration files

Where the configuration file is, and what becomes of one that is missing or cannot be read. A file
that is not a text counts as one that could not be read; a text that spells no configuration is
logged. In both cases the defaults hold.
-/

set_option autoImplicit false

namespace HandleLedger

/-- Why a file gave no configuration. -/
inductive LoadError
  | missing
  | notText
  /-- The text spells no configuration. The decoder has said why. -/
  | malformed (complaint : String)
  deriving DecidableEq

/-- What is said about a file that gave no configuration. -/
def LoadError.message : LoadError → String
  | .missing => "IO error: No such file or directory (os error 2)"
  | .notText => "IO error: stream did not contain valid UTF-8"
  | .malformed complaint => s!"failed to parse configuration: {complaint}"

/-- A platform. -/
inductive Platform
  | windows
  | unix
  deriving DecidableEq

/-- What surrounds the layer when it is loaded. -/
structure Environment where
  platform : Platform
  /-- The bytes of an environment variable, if it is set. -/
  setting : String → Option ByteArray
  /-- Whether there is something at a path. -/
  fileExists : String → Bool
  /-- The bytes of the file at a path, if there is one. -/
  contents : String → Option ByteArray

namespace Environment

/-- The text of an environment variable. One that is not a text is as good as unset. -/
def setting? (env : Environment) (name : String) : Option String :=
  (env.setting name).bind String.fromUTF8?

/-- The path of the configuration file of the whole system. -/
def systemPath (env : Environment) : String :=
  match env.platform with
  | .windows => (env.setting? "PROGRAMDATA").getD "C:\\ProgramData" ++ "\\objtrack\\objtrack.toml"
  | .unix => "/etc/objtrack/objtrack.toml"

end Environment

namespace Config

/-- The environment variable that names the configuration file. -/
def environmentVariable : String := "OBJTRACK_CONFIG"

/-- The configuration file if there is no other. -/
def localPath : String := "objtrack.toml"

/-- The path of the configuration file: the one that is named, unless it is empty, else the one of
the system if it is there, else a local one. -/
def path (env : Environment) : String :=
  match (env.setting? environmentVariable).filter fun named => !named.isEmpty with
  | some named => named
  | none => if env.fileExists env.systemPath then env.systemPath else localPath

/-- The configuration in a file, from its bytes if it exists. -/
def load (toml : Toml.Decoder) (file : Option ByteArray) : Except LoadError Config :=
  match file with
  | none => .error .missing
  | some bytes =>
    match String.fromUTF8? bytes with
    | none => .error .notText
    | some text =>
      match parse? toml text with
      | none => .error (.malformed (toml.complaint text))
      | some config => .ok config

/-- The configuration in the file at a path or else the default, with what is logged on the way. -/
def loadOrDefault (toml : Toml.Decoder) (path : String) (file : Option ByteArray) :
    Config × List Log :=
  match load toml file with
  | .ok config => (config, [])
  | .error (.malformed complaint) =>
    (default, [.malformedConfig path (LoadError.malformed complaint).message])
  | .error _ => (default, [])

end Config

end HandleLedger

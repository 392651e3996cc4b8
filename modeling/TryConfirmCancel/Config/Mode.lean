/-
**How a deployment reaches its coordinator, and why a configuration is refused.**

* `CommMode`: by URLs, or by topics of a mesh;
* `CommMode.parse`: the mode that a text names, up to letter case and white space around it;
* `ConfigFault`: the causes for which a configuration is refused, and their wording.
-/

import TryConfirmCancel.Text.Ascii
import TryConfirmCancel.Text.Blank
import TryConfirmCancel.Text.Quoted

namespace TryConfirmCancel

/-- How a deployment reaches the coordinator and is reached back. -/
inductive CommMode
  | http
  /-- By topics of a mesh. -/
  | mesh
  deriving DecidableEq, Repr, Inhabited

def CommMode.name : CommMode → String
  | .http => "http"
  | .mesh => "mesh"

/-- Why a file cannot be read. -/
inductive FileFault
  | notFound
  | notUtf8
  /-- Any other reason, in the words of the system. -/
  | other (reason : String)
  deriving DecidableEq, Repr

def FileFault.message : FileFault → String
  | .notFound => "No such file or directory (os error 2)"
  | .notUtf8 => "stream did not contain valid UTF-8"
  | .other reason => reason

/-- The notations of configuration files. -/
inductive FileFormat
  | json
  | toml
  | yaml
  deriving DecidableEq, Repr

def FileFormat.name : FileFormat → String
  | .json => "JSON"
  | .toml => "TOML"
  | .yaml => "YAML"

/-- Why a configuration is refused. -/
inductive ConfigFault
  | unreadable (fault : FileFault)
  | malformed (format : FileFormat)
  | unknownFormat (extension : String)
  | unknownMode (text : String)
  | zeroRequestTimeout
  | missingMacroServiceUrl
  | relativeCallbackPath
  | equalCallbackPaths
  | emptySecondStageStart
  deriving DecidableEq, Repr

/-- The kinds of faults. -/
inductive ConfigFault.Kind
  | io
  | parse
  | invalid
  deriving DecidableEq, Repr

def ConfigFault.kind : ConfigFault → Kind
  | .unreadable _ => .io
  | .malformed _ => .parse
  | _ => .invalid

def ConfigFault.message : ConfigFault → String
  | .unreadable fault => s!"I/O error: {fault.message}"
  | .malformed format => s!"Parse error: {format.name} error: not a configuration"
  | .unknownFormat extension =>
    s!"Invalid configuration: unsupported config format: {Text.quoted extension}"
  | .unknownMode text => s!"Invalid configuration: unknown comm mode: {text}"
  | .zeroRequestTimeout => "Invalid configuration: request_timeout_ms must be > 0"
  | .missingMacroServiceUrl => "Invalid configuration: macro_service requires macro_service_base_url"
  | .relativeCallbackPath => "Invalid configuration: callback paths must start with '/'"
  | .equalCallbackPaths => "Invalid configuration: confirm_path and cancel_path must differ"
  | .emptySecondStageStart => "Invalid configuration: second_stage_header_prefix must not be empty"

/-- The mode that a text names. -/
def CommMode.parse (text : String) : Except ConfigFault CommMode :=
  let name := Text.lowered (Text.trim text)
  if name = "http" ∨ name = "direct" then .ok .http
  else if name = "mesh" then .ok .mesh
  else .error (.unknownMode name)

end TryConfirmCancel

import HandleLedger.Severity
import HandleLedger.Toml.Decoder

/-!
# Configuration

A configuration says which severities are logged and whether an error keeps a call from running.
It is the `report` part of a document: `flags` lists severities by name and `skip_on_error` is a
truth value. Each has a default of its own, and every other key is without meaning.

Two shorter spellings are read as well. An array in place of the part gives its members by
position, and a severity may be written as a table with its name as the only key. A moment in
place of the part has none of the keys that matter, so it stands for the defaults.
-/

set_option autoImplicit false

namespace HandleLedger

open Toml (Value Entries)

/-- Which diagnostics reach the log, and whether errors block calls. -/
structure Reporting where
  flags : List Severity
  skipOnError : Bool
  deriving DecidableEq, Repr

/-- A configuration. -/
structure Config where
  report : Reporting
  deriving DecidableEq, Repr

namespace Reporting

/-- Errors and warnings are logged unless the configuration says otherwise. -/
def defaultFlags : List Severity := [.error, .warning]

/-- The reporting without a configuration: errors block calls. -/
def default : Reporting := ⟨defaultFlags, true⟩

/-- Whether diagnostics of the severity reach the log. -/
def enabled (r : Reporting) (s : Severity) : Bool := r.flags.contains s

/-- A severity as it stands in `flags`. -/
def severity? : Value → Option Severity
  | .string name => Severity.ofName? name
  | .table [(name, .table [])] => Severity.ofName? name
  | .table [(name, .array [])] => Severity.ofName? name
  | _ => none

/-- The severities of `flags`. -/
def flags? : Value → Option (List Severity)
  | .array elements => elements.mapM severity?
  | _ => none

/-- The truth value of `skip_on_error`. -/
def skip? : Value → Option Bool
  | .boolean b => some b
  | _ => none

/-- A reporting from its two members, either of which may be missing. -/
def ofMembers? (flags skip : Option Value) : Option Reporting := do
  let flags ← match flags with
    | none => pure defaultFlags
    | some value => flags? value
  let skipOnError ← match skip with
    | none => pure true
    | some value => skip? value
  return ⟨flags, skipOnError⟩

/-- The reporting that a value describes. -/
def ofValue? : Value → Option Reporting
  | .table entries => ofMembers? (entries.lookup "flags") (entries.lookup "skip_on_error")
  | .array elements => ofMembers? elements[0]? elements[1]?
  | .moment _ => some default
  | _ => none

end Reporting

namespace Config

/-- The configuration of an empty document. -/
def default : Config := ⟨Reporting.default⟩

/-- The configuration that the entries of a document describe. -/
def ofEntries? (entries : Entries) : Option Config :=
  match entries.lookup "report" with
  | none => some default
  | some value => (Reporting.ofValue? value).map Config.mk

/-- The configuration that a text spells. -/
def parse? (toml : Toml.Decoder) (text : String) : Option Config := do
  let entries ← toml.entries? text
  ofEntries? entries

end Config

end HandleLedger

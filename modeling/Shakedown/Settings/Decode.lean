import Shakedown.Failure
import Shakedown.Settings.Basic
import Shakedown.Toml.Document
import Shakedown.Toml.Problem

/-!
# Settings from TOML

The three sections of a settings file and their six settings. A setting that is missing has its
default, and what is not known is ignored. A section may also be an array of its settings in order.
`Settings.ofDocument` decodes a document, and `Settings.parse` reads, decodes and validates a text.
-/

namespace Shakedown.Settings

open Toml (Key Value Problem Span)

/-- A text at a place. -/
def decodeText (place : Option Span) : Value → Except Problem String
  | .string _ s => .ok s
  | v => .error ⟨.wrongType v.found "a string", place⟩

/-- A number of 64 bits without a sign at a place. -/
def decodeNat (place : Option Span) : Value → Except Problem Nat
  | .integer _ n =>
    if 0 ≤ n then .ok n.toNat else .error ⟨.wrongValue (.int n) "u64", place⟩
  | v => .error ⟨.wrongType v.found "u64", place⟩

/-- A setting of a section: its key, and how its value changes the settings. -/
structure Entry where
  key : String
  decode : Option Span → Value → Settings → Except Problem Settings

/-- A setting that is a number. -/
def Entry.nat (key : String) (put : Nat → Settings → Settings) : Entry :=
  ⟨key, fun place v s => (decodeNat place v).map fun n => put n s⟩

/-- A section: the name that messages give it, and its settings in order. -/
structure Section where
  name : String
  entries : List Entry

/-- The section about the build tool. -/
def buildSection : Section :=
  ⟨"BuildSettings", [⟨"program", fun place v s => (decodeText place v).map fun t => { s with buildProgram := t }⟩]⟩

/-- The section about time limits. -/
def timeoutsSection : Section :=
  ⟨"Timeouts", [
    .nat "readiness_ceiling_secs" fun n s => { s with readinessCeilingSecs := n },
    .nat "invocation_secs" fun n s => { s with invocationSecs := n },
    .nat "shutdown_grace_ms" fun n s => { s with shutdownGraceMs := n }]⟩

/-- The section about probes. -/
def readinessSection : Section :=
  ⟨"ReadinessSettings", [
    .nat "initial_interval_ms" fun n s => { s with initialIntervalMs := n },
    .nat "max_interval_ms" fun n s => { s with maxIntervalMs := n }]⟩

/-- The settings with those that a table gives for a section. -/
def decodeTable (sec : Section) (entries : List (Key × Value)) (s : Settings) : Except Problem Settings :=
  entries.foldlM (fun s (key, v) =>
    match sec.entries.find? fun e => e.key == key.name with
    | some e => e.decode (v.span?.or (some key.span)) v s
    | none => .ok s) s

/-- The settings with those that an array gives for a section. -/
def decodeItems (sec : Section) (items : List Value) (s : Settings) : Except Problem Settings :=
  (sec.entries.zip items).foldlM (fun s (e, v) => e.decode v.span? v s) s

/-- The settings with those of a section's value at a place. A date is a table of no settings. -/
def decodeSection (sec : Section) (place : Option Span) (v : Value) (s : Settings) : Except Problem Settings :=
  match v with
  | .table _ _ entries => decodeTable sec entries s
  | .array _ items | .tables items => decodeItems sec items s
  | .dateTime _ => .ok s
  | _ => .error ⟨.wrongType v.found ("struct " ++ sec.name), place⟩

/-- The section of a key. -/
def section? : String → Option Section
  | "build" => some buildSection
  | "timeouts" => some timeoutsSection
  | "readiness" => some readinessSection
  | _ => none

/-- The settings that a document gives. -/
def ofDocument : Value → Except Problem Settings
  | .table _ _ entries =>
    entries.foldlM (fun s (key, v) =>
      match section? key.name with
      | some sec => decodeSection sec (v.span?.or (some key.span)) v s
      | none => .ok s) {}
  | v => .error ⟨.wrongType v.found "struct Config", none⟩

/-- Why a text gives no valid settings: it is not well-formed, a value has the wrong type, or a
condition is violated. -/
inductive ParseError where
  | malformed
  | misshapen (message : String)
  | invalid (fault : Fault)
deriving DecidableEq, Repr

/-- The valid settings that a text gives. -/
def parse (text : String) : Except ParseError Settings := do
  let some doc := Toml.parse? text | throw .malformed
  let s ← (ofDocument doc).mapError fun p => .misshapen (p.message text)
  s.validate.mapError .invalid
  return s

/-- Why a text gives no valid settings, as a failure of a run. -/
def ParseError.toFailure : ParseError → Failure
  | .malformed => .settings "not well-formed"
  | .misshapen message => .settings message
  | .invalid f => .settings f.message

end Shakedown.Settings

import Shakedown.Failure
import Shakedown.Plan.Validate
import Shakedown.Yaml.Decode

/-!
# Plans from YAML

The shape of a plan file. `Plan.ofDocument` decodes a document, `Plan.accept` validates what was
decoded, and `Plan.parse` starts from a text.
-/

namespace Shakedown.Plan

open Yaml (Decoder DecodeM Trail Node)
open Yaml.Decode

/-- A path. -/
def pathField : Decoder Path := fun trail n => Path.mk <$> textAs "path string" trail n

/-- A build profile. -/
def profileChoice : Decoder Profile := choice "Profile" [.unit "debug" .debug, .unit "release" .release]

/-- A target. -/
def targetChoice : Decoder Target :=
  choice "Target" [
    .content "example" fun trail n => .example <$> text trail n,
    .content "bin" fun trail n => .bin <$> text trail n,
    .content "program" fun trail n => .program <$> pathField trail n]

/-- A readiness probe. -/
def probeChoice : Decoder Probe :=
  choice "ProbeConfig" [
    .content "tcp" fun trail n => .tcp <$> text trail n,
    .content "command" fun trail n => .command <$> list text trail n]

/-- What a readiness timeout leads to. -/
def onTimeoutChoice : Decoder OnTimeout := choice "OnTimeout" [.unit "proceed" .proceed, .unit "fail" .fail]

/-- Environment variables. -/
def environment : Decoder Environment := textMapping [] Environment.insert

/-- The fields of a build section. -/
structure BuildFields where
  program : Option (Option String) := none
  args : Option (Option (List String)) := none
  profile : Option Profile := none
  features : Option (List String) := none
  skip : Option Bool := none

/-- The build section of the fields that were given. -/
def BuildFields.finish (f : BuildFields) : DecodeM BuildSection := return {
  program := f.program.getD none
  args := f.args.getD none
  profile := f.profile.getD .debug
  features := f.features.getD []
  skip := f.skip.getD false }

/-- A build section. -/
def buildSection : Decoder BuildSection :=
  record "BuildConfig" ({} : BuildFields)
    (fun f key trail n => do
      match key with
      | "program" => return { f with program := ← once key f.program (option text trail n) }
      | "args" => return { f with args := ← once key f.args (option (list text) trail n) }
      | "profile" => return { f with profile := ← once key f.profile (profileChoice trail n) }
      | "features" => return { f with features := ← once key f.features (list text trail n) }
      | "skip" => return { f with skip := ← once key f.skip (bool trail n) }
      | _ => return f)
    BuildFields.finish

/-- The fields of a readiness section. -/
structure ReadinessFields where
  probe : Option (Option Probe) := none
  ceilingSecs : Option (Option Nat) := none
  initialIntervalMs : Option (Option Nat) := none
  maxIntervalMs : Option (Option Nat) := none
  onTimeout : Option OnTimeout := none

/-- The readiness section of the fields that were given. -/
def ReadinessFields.finish (f : ReadinessFields) : DecodeM ReadinessSection := return {
  probe := f.probe.getD none
  ceilingSecs := f.ceilingSecs.getD none
  initialIntervalMs := f.initialIntervalMs.getD none
  maxIntervalMs := f.maxIntervalMs.getD none
  onTimeout := f.onTimeout.getD .proceed }

/-- A readiness section. -/
def readinessSection : Decoder ReadinessSection :=
  record "ReadinessConfig" ({} : ReadinessFields)
    (fun f key trail n => do
      match key with
      | "probe" => return { f with probe := ← once key f.probe (option probeChoice trail n) }
      | "ceiling_secs" => return { f with ceilingSecs := ← once key f.ceilingSecs (option nat64 trail n) }
      | "initial_interval_ms" =>
        return { f with initialIntervalMs := ← once key f.initialIntervalMs (option nat64 trail n) }
      | "max_interval_ms" => return { f with maxIntervalMs := ← once key f.maxIntervalMs (option nat64 trail n) }
      | "on_timeout" => return { f with onTimeout := ← once key f.onTimeout (onTimeoutChoice trail n) }
      | _ => return f)
    ReadinessFields.finish

/-- The fields of a server section. -/
structure ServerFields where
  target : Option Target := none
  args : Option (List String) := none
  env : Option Environment := none
  quiet : Option Bool := none
  readiness : Option ReadinessSection := none

/-- The server section of the fields that were given: a target must be. -/
def ServerFields.finish (f : ServerFields) : DecodeM ServerSection := return {
  target := ← required "target" f.target
  args := f.args.getD []
  env := f.env.getD []
  quiet := f.quiet.getD false
  readiness := f.readiness.getD {} }

/-- A server section. -/
def serverSection : Decoder ServerSection :=
  record "ServerConfig" ({} : ServerFields)
    (fun f key trail n => do
      match key with
      | "target" => return { f with target := ← once key f.target (targetChoice trail n) }
      | "args" => return { f with args := ← once key f.args (list text trail n) }
      | "env" => return { f with env := ← once key f.env (environment trail n) }
      | "quiet" => return { f with quiet := ← once key f.quiet (bool trail n) }
      | "readiness" => return { f with readiness := ← once key f.readiness (readinessSection trail n) }
      | _ => return f)
    ServerFields.finish

/-- The fields of a client section. -/
structure ClientFields where
  target : Option Target := none
  args : Option (List String) := none
  env : Option Environment := none
  timeoutSecs : Option (Option Nat) := none

/-- The client section of the fields that were given: a target must be. -/
def ClientFields.finish (f : ClientFields) : DecodeM ClientSection := return {
  target := ← required "target" f.target
  args := f.args.getD []
  env := f.env.getD []
  timeoutSecs := f.timeoutSecs.getD none }

/-- A client section. -/
def clientSection : Decoder ClientSection :=
  record "ClientConfig" ({} : ClientFields)
    (fun f key trail n => do
      match key with
      | "target" => return { f with target := ← once key f.target (targetChoice trail n) }
      | "args" => return { f with args := ← once key f.args (list text trail n) }
      | "env" => return { f with env := ← once key f.env (environment trail n) }
      | "timeout_secs" => return { f with timeoutSecs := ← once key f.timeoutSecs (option nat64 trail n) }
      | _ => return f)
    ClientFields.finish

/-- The fields of an expectation. -/
structure ExpectationFields where
  success : Option (Option Bool) := none
  outputContains : Option (Option String) := none

/-- The expectation of the fields that were given. -/
def ExpectationFields.finish (f : ExpectationFields) : DecodeM Expectation :=
  return { success := f.success.getD none, outputContains := f.outputContains.getD none }

/-- An expectation. -/
def expectation : Decoder Expectation :=
  record "QueryExpectation" ({} : ExpectationFields)
    (fun f key trail n => do
      match key with
      | "success" => return { f with success := ← once key f.success (option bool trail n) }
      | "output_contains" => return { f with outputContains := ← once key f.outputContains (option text trail n) }
      | _ => return f)
    ExpectationFields.finish

/-- The fields of a query. -/
structure QueryFields where
  name : Option (Option String) := none
  query : Option String := none
  args : Option (List String) := none
  timeoutSecs : Option (Option Nat) := none
  expect : Option (Option Expectation) := none

/-- The query of the fields that were given: what is asked must be. -/
def QueryFields.finish (f : QueryFields) : DecodeM QueryStep := return {
  name := f.name.getD none
  query := ← required "query" f.query
  args := f.args.getD []
  timeoutSecs := f.timeoutSecs.getD none
  expect := f.expect.getD none }

/-- A query. -/
def queryStep : Decoder QueryStep :=
  record "QueryStep" ({} : QueryFields)
    (fun f key trail n => do
      match key with
      | "name" => return { f with name := ← once key f.name (option text trail n) }
      | "query" => return { f with query := ← once key f.query (text trail n) }
      | "args" => return { f with args := ← once key f.args (list text trail n) }
      | "timeout_secs" => return { f with timeoutSecs := ← once key f.timeoutSecs (option nat64 trail n) }
      | "expect" => return { f with expect := ← once key f.expect (option expectation trail n) }
      | _ => return f)
    QueryFields.finish

/-- The fields of a plan. -/
structure PlanFields where
  name : Option String := none
  description : Option (Option String) := none
  root : Option (Option Path) := none
  build : Option BuildSection := none
  server : Option ServerSection := none
  client : Option ClientSection := none
  queries : Option (List QueryStep) := none

/-- The plan of the fields that were given: its name, its two executables and its queries must be. -/
def PlanFields.finish (f : PlanFields) : DecodeM Plan := do
  let name ← required "name" f.name
  let server ← required "server" f.server
  let client ← required "client" f.client
  let queries ← required "queries" f.queries
  return {
    name := name
    description := f.description.getD none
    root := f.root.getD none
    build := f.build.getD {}
    server := server
    client := client
    queries := queries }

/-- A plan. -/
def plan : Decoder Plan :=
  record "TestPlan" ({} : PlanFields)
    (fun f key trail n => do
      match key with
      | "name" => return { f with name := ← once key f.name (text trail n) }
      | "description" => return { f with description := ← once key f.description (option text trail n) }
      | "root" => return { f with root := ← once key f.root (option pathField trail n) }
      | "build" => return { f with build := ← once key f.build (buildSection trail n) }
      | "server" => return { f with server := ← once key f.server (serverSection trail n) }
      | "client" => return { f with client := ← once key f.client (clientSection trail n) }
      | "queries" => return { f with queries := ← once key f.queries (list queryStep trail n) }
      | _ => return f)
    PlanFields.finish

/-- Why a text is no valid plan: it is not well-formed, has the wrong shape, or violates a
condition. -/
inductive ParseError where
  | malformed (mark : Yaml.Mark)
  | misshapen (problem : Yaml.Problem)
  | invalid (fault : Fault)
deriving DecidableEq, Repr

/-- The plan that a document describes. -/
def ofDocument (d : Yaml.Document) : Except Yaml.Problem Plan := Yaml.decode plan d

/-- The valid plan that a document describes. -/
def accept (d : Yaml.Document) : Except ParseError Plan := do
  let p ← (ofDocument d).mapError .misshapen
  p.validate.mapError .invalid
  return p

/-- The valid plan that a text describes. -/
def parse (s : String) : Except ParseError Plan := do
  let d ← (Yaml.Document.ofString s).mapError .malformed
  accept d

/-- Why a text is no valid plan, as a failure of a run. -/
def ParseError.toFailure : ParseError → Failure
  | .malformed m => .plan s!"not well-formed at line {m.line + 1} column {m.column + 1}"
  | .misshapen p => .plan p.message
  | .invalid f => .configuration f.message

end Shakedown.Plan

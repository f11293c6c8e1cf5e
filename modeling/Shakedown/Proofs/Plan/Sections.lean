import Shakedown.Plan.Decode
import Shakedown.Proofs.Yaml.Record

/-!
# Sections of a plan and edits

For a plan file and each of its sections how it may be edited (`PlanEdit`, `BuildEdit` and so on), what becomes of it
(`Plan.arrange`, `BuildSection.arrange` and so on), and that reading it carries over. Each section is a record, and the
table of its fields is what the argument takes from its decoder: values are stable, arguments are reordered, and
sections within the section carry over as they do by themselves.
-/

namespace Shakedown

/-! ## What becomes of sections -/

/-- The build section with its arguments reordered, if it has any. -/
def BuildSection.arrange (args : Reordering) (b : BuildSection) : BuildSection :=
  { b with args := b.args.map args.apply }

/-- Arguments in the order that they have are the arguments themselves, given or not. -/
theorem BuildSection.arrange_same (b : BuildSection) : b.arrange .same = b := by
  rw [arrange, Reordering.apply_same, Option.map_id]
  rfl

/-- The server section with its arguments reordered. -/
def ServerSection.arrange (args : Reordering) (s : ServerSection) : ServerSection := { s with args := args.apply s.args }

theorem ServerSection.arrange_same (s : ServerSection) : s.arrange .same = s := by
  rw [arrange, Reordering.same_apply]

/-- The client section with its arguments reordered. -/
def ClientSection.arrange (args : Reordering) (c : ClientSection) : ClientSection := { c with args := args.apply c.args }

theorem ClientSection.arrange_same (c : ClientSection) : c.arrange .same = c := by
  rw [arrange, Reordering.same_apply]

/-- The query with its arguments reordered. -/
def QueryStep.arrange (args : Reordering) (q : QueryStep) : QueryStep := { q with args := args.apply q.args }

theorem QueryStep.arrange_same (q : QueryStep) : q.arrange .same = q := by
  rw [arrange, Reordering.same_apply]

/-- New orders for the sequences of a plan whose order counts. Those for the arguments of queries are by the position
that a query had. -/
structure Rearrangement where
  build : Reordering := .same
  server : Reordering := .same
  client : Reordering := .same
  queries : Reordering := .same
  queryArgs : Nat → Reordering := fun _ => .same

/-- Every sequence as it is. -/
def Rearrangement.same : Rearrangement := {}

/-- The plan with its queries and arguments in new orders. -/
def Plan.arrange (ω : Rearrangement) (p : Plan) : Plan :=
  { p with
    build := p.build.arrange ω.build
    server := p.server.arrange ω.server
    client := p.client.arrange ω.client
    queries := ω.queries.apply (p.queries.mapIdx fun i q => q.arrange (ω.queryArgs i)) }

/-- A rearrangement that leaves every sequence alone leaves the plan alone. -/
theorem Plan.arrange_same (p : Plan) : p.arrange .same = p := by
  have queries : Reordering.same.apply (p.queries.mapIdx fun _ q => q.arrange .same) = p.queries := by
    rw [Reordering.same_apply, funext QueryStep.arrange_same]
    exact Yaml.mapIdx_id p.queries
  rw [arrange, Rearrangement.same, p.build.arrange_same, p.server.arrange_same, p.client.arrange_same, queries]

namespace Plan

open Yaml (Node Document Trail Field RecordForm RecordEdit SequenceEdit Carries Stable Alike Edited Agrees)
open Yaml.Decode

/-! ## Edits -/

section Edits

variable (d d' : Document)

/-- The arguments of a section are reordered, and its other fields stay as they are. -/
def ArgsEdit (args : Reordering) : String → Node → Node → Prop
  | "args" => SequenceEdit d d' (fun _ => Alike d d') args
  | _ => Alike d d'

/-- Edits of a build section. Its program and its arguments may be null. -/
def BuildEdit (args : Reordering) : Node → Node → Prop :=
  RecordEdit d d' ["program", "args", "profile", "features", "skip"] ["program", "args"] (ArgsEdit d d' args)

/-- Edits of a readiness section. All but what a timeout leads to may be null. -/
def ReadinessEdit : Node → Node → Prop :=
  RecordEdit d d' ["probe", "ceiling_secs", "initial_interval_ms", "max_interval_ms", "on_timeout"]
    ["probe", "ceiling_secs", "initial_interval_ms", "max_interval_ms"] fun _ => Alike d d'

/-- Edits of a server section, whose readiness section is edited as one. -/
def ServerEdit (args : Reordering) : Node → Node → Prop :=
  RecordEdit d d' ["target", "args", "env", "quiet", "readiness"] [] fun
    | "args" => SequenceEdit d d' (fun _ => Alike d d') args
    | "readiness" => ReadinessEdit d d'
    | _ => Alike d d'

/-- Edits of a client section. Its timeout may be null. -/
def ClientEdit (args : Reordering) : Node → Node → Prop :=
  RecordEdit d d' ["target", "args", "env", "timeout_secs"] ["timeout_secs"] (ArgsEdit d d' args)

/-- Edits of an expectation. -/
def ExpectationEdit : Node → Node → Prop :=
  RecordEdit d d' ["success", "output_contains"] ["success", "output_contains"] fun _ => Alike d d'

/-- Edits of a query, whose expectation is edited as one. -/
def QueryEdit (args : Reordering) : Node → Node → Prop :=
  RecordEdit d d' ["name", "query", "args", "timeout_secs", "expect"] ["name", "timeout_secs", "expect"] fun
    | "args" => SequenceEdit d d' (fun _ => Alike d d') args
    | "expect" => ExpectationEdit d d'
    | _ => Alike d d'

/-- Edits of a plan: each section is edited by its own edits, the queries in the order that they had. -/
def PlanEdit (ω : Rearrangement) : Node → Node → Prop :=
  RecordEdit d d' ["name", "description", "root", "build", "server", "client", "queries"] ["description", "root"] fun
    | "build" => BuildEdit d d' ω.build
    | "server" => ServerEdit d d' ω.server
    | "client" => ClientEdit d d' ω.client
    | "queries" => SequenceEdit d d' (fun i => QueryEdit d d' (ω.queryArgs i)) ω.queries
    | _ => Alike d d'

end Edits

variable {d d' : Document} {n n' : Node} {args : Reordering} {ω : Rearrangement} {trail trail' : Trail}

/-! No edit makes a section smaller. -/

/-- Arguments in a new order take no less room, for each of them is spelt with no less. -/
theorem size_le_of_reordered (h : SequenceEdit d d' (fun _ => Alike d d') args n n') : n.size ≤ n'.size :=
  h.size_le fun _ _ _ h => h.size_le

/-- The field of the arguments is reordered, and any other is spelt anew. -/
theorem ArgsEdit.size_le {name : String} (h : ArgsEdit d d' args name n n') : n.size ≤ n'.size := by
  unfold ArgsEdit at h
  split at h
  · exact size_le_of_reordered h
  · exact h.size_le

/-- An edited build section is no smaller. -/
theorem BuildEdit.size_le (h : BuildEdit d d' args n n') : n.size ≤ n'.size :=
  RecordEdit.size_le (fun _ _ _ h => h.size_le) h

/-- An edited readiness section is no smaller. -/
theorem ReadinessEdit.size_le (h : ReadinessEdit d d' n n') : n.size ≤ n'.size :=
  RecordEdit.size_le (fun _ _ _ h => h.size_le) h

/-- An edited server section is no smaller: its arguments and its readiness section are not, and no other field is. -/
theorem ServerEdit.size_le (h : ServerEdit d d' args n n') : n.size ≤ n'.size := by
  refine RecordEdit.size_le (fun name v v' h => ?_) h
  split at h
  · exact size_le_of_reordered h
  · exact ReadinessEdit.size_le h
  · exact h.size_le

/-- An edited client section is no smaller. -/
theorem ClientEdit.size_le (h : ClientEdit d d' args n n') : n.size ≤ n'.size :=
  RecordEdit.size_le (fun _ _ _ h => h.size_le) h

/-- An edited expectation is no smaller. -/
theorem ExpectationEdit.size_le (h : ExpectationEdit d d' n n') : n.size ≤ n'.size :=
  RecordEdit.size_le (fun _ _ _ h => h.size_le) h

/-- An edited query is no smaller: its arguments and its expectation are not, and no other field is. -/
theorem QueryEdit.size_le (h : QueryEdit d d' args n n') : n.size ≤ n'.size := by
  refine RecordEdit.size_le (fun name v v' h => ?_) h
  split at h
  · exact size_le_of_reordered h
  · exact ExpectationEdit.size_le h
  · exact h.size_le

/-- An edited plan is no smaller, as none of its sections is. -/
theorem PlanEdit.size_le (h : PlanEdit d d' ω n n') : n.size ≤ n'.size := by
  refine RecordEdit.size_le (fun name v v' h => ?_) h
  split at h
  · exact BuildEdit.size_le h
  · exact ServerEdit.size_le h
  · exact ClientEdit.size_le h
  · exact SequenceEdit.size_le (fun _ _ _ h => QueryEdit.size_le h) h
  · exact h.size_le

/-! ## Values -/

/-- A text is read alike however it is spelt. -/
theorem stable_text : Stable text := Yaml.stable_textAs "a string"

/-- A path is read as a text is. -/
theorem stable_pathField : Stable pathField := (Yaml.stable_textAs "path string").map Path.mk

/-- The variables of an environment are read alike, with the names and the values spelt anew. -/
theorem stable_environment : Stable environment := Yaml.stable_textMapping _ _

/-- A profile is chosen by its name alone. -/
theorem stable_profileChoice : Stable profileChoice :=
  Yaml.stable_choice (by rintro v hv name dec rfl; simp at hv)

/-- What a timeout leads to is chosen by its name alone. -/
theorem stable_onTimeoutChoice : Stable onTimeoutChoice :=
  Yaml.stable_choice (by rintro v hv name dec rfl; simp at hv)

/-- A target is chosen by its name, and what it holds is a text or a path. -/
theorem stable_targetChoice : Stable targetChoice := by
  refine Yaml.stable_choice ?_
  rintro v hv name dec rfl
  simp only [List.mem_cons, Variant.content.injEq, List.not_mem_nil, or_false] at hv
  obtain ⟨-, rfl⟩ | ⟨-, rfl⟩ | ⟨-, rfl⟩ := hv
  · exact stable_text.map Target.example
  · exact stable_text.map Target.bin
  · exact stable_pathField.map Target.program

/-- A probe is chosen by its name, and what it holds is an address or the words of a command. -/
theorem stable_probeChoice : Stable probeChoice := by
  refine Yaml.stable_choice ?_
  rintro v hv name dec rfl
  simp only [List.mem_cons, Variant.content.injEq, List.not_mem_nil, or_false] at hv
  obtain ⟨-, rfl⟩ | ⟨-, rfl⟩ := hv
  · exact stable_text.map Probe.tcp
  · exact stable_text.list.map Probe.command

/-- A required field is missing on both sides or on neither. -/
theorem carries_required {α : Type} {f : α → α} {key : String} {given given' : Option α} (h : given' = given.map f) :
    Carries d d' f (required key given) (required key given') := by
  rw [h]
  cases given with
  | none => exact .fail
  | some a => exact .pure d d' f a

/-! ## The build section -/

/-- The build section as a record. -/
def buildForm (args : Reordering) : RecordForm BuildFields BuildSection where
  fields := [
    .nullable "program" text (·.program) fun a f => { f with program := a },
    .nullable "args" (list text) (·.args) (fun a f => { f with args := a }) (Option.map args.apply),
    { key := "profile", decoder := profileChoice, get := (·.profile), set := fun a f => { f with profile := a } },
    { key := "features", decoder := list text, get := (·.features), set := fun a f => { f with features := a } },
    { key := "skip", decoder := bool, get := (·.skip), set := fun a f => { f with skip := a } }]
  start := {}
  finish := BuildFields.finish
  map := BuildSection.arrange args
  finish_null := by simp +contextual [Field.nullable, BuildFields.finish]
  finish_map := by
    intro d d' s t h
    simp only [Agrees, Field.nullable, List.forall_mem_cons, Option.map_id, id_eq] at h
    obtain ⟨program, given, profile, features, skip, -⟩ := h
    -- Without arguments there is nothing to reorder.
    have arranged : t.args.getD none = (s.args.getD none).map args.apply := by
      rw [given]
      exact Option.getD_map (Option.map args.apply) none s.args
    simp only [BuildFields.finish, program, profile, features, skip, arranged]
    exact .pure d d' (BuildSection.arrange args) _

/-- The decoder of a build section is that of its record, whatever its arguments are to become. -/
theorem buildSection_eq (args : Reordering) : buildSection = (buildForm args).decoder "BuildConfig" := by
  refine congrArg (record "BuildConfig" _ · _) ?_
  funext f key trail n
  -- The key is that of one of the fields, or of none.
  split
  case h_6 =>
    exact (RecordForm.readInto_other (by simp_all [buildForm, RecordForm.keys, Field.nullable]) f trail n).symm
  all_goals rfl

/-- A build section that is edited reads as the section with its arguments reordered. -/
theorem BuildEdit.carries (h : BuildEdit d d' args n n') :
    Carries d d' (BuildSection.arrange args) (buildSection trail n) (buildSection trail' n') := by
  rw [buildSection_eq args]
  refine RecordForm.carries ?_ h
  simp only [buildForm, List.forall_mem_cons, Field.nullable]
  refine ⟨?_, ?_, ?_, ?_, ?_, by simp⟩
  · exact fun _ _ h => stable_text.option h
  · exact fun _ _ h _ _ => Edited.option h fun _ _ h => SequenceEdit.reordered h stable_text
  · exact fun _ _ h => stable_profileChoice h
  · exact fun _ _ h => stable_text.list h
  · exact fun _ _ h => Yaml.stable_bool h

/-! ## The readiness section -/

/-- The readiness section as a record. -/
def readinessForm : RecordForm ReadinessFields ReadinessSection where
  fields := [
    .nullable "probe" probeChoice (·.probe) fun a f => { f with probe := a },
    .nullable "ceiling_secs" nat64 (·.ceilingSecs) fun a f => { f with ceilingSecs := a },
    .nullable "initial_interval_ms" nat64 (·.initialIntervalMs) fun a f => { f with initialIntervalMs := a },
    .nullable "max_interval_ms" nat64 (·.maxIntervalMs) fun a f => { f with maxIntervalMs := a },
    { key := "on_timeout", decoder := onTimeoutChoice, get := (·.onTimeout), set := fun a f => { f with onTimeout := a } }]
  start := {}
  finish := ReadinessFields.finish
  map := id
  finish_null := by simp +contextual [Field.nullable, ReadinessFields.finish]
  finish_map := by
    intro d d' s t h
    simp only [Agrees, Field.nullable, List.forall_mem_cons, Option.map_id, id_eq] at h
    obtain ⟨probe, ceiling, initial, max, onTimeout, -⟩ := h
    simp only [ReadinessFields.finish, probe, ceiling, initial, max, onTimeout]
    exact .pure d d' id _

/-- The decoder of a readiness section is that of its record. -/
theorem readinessSection_eq : readinessSection = readinessForm.decoder "ReadinessConfig" := by
  refine congrArg (record "ReadinessConfig" _ · _) ?_
  funext f key trail n
  split
  case h_6 =>
    exact (RecordForm.readInto_other (by simp_all [readinessForm, RecordForm.keys, Field.nullable]) f trail n).symm
  all_goals rfl

/-- A readiness section that is edited reads as before. -/
theorem ReadinessEdit.carries (h : ReadinessEdit d d' n n') :
    Carries d d' id (readinessSection trail n) (readinessSection trail' n') := by
  rw [readinessSection_eq]
  refine RecordForm.carries ?_ h
  simp only [readinessForm, List.forall_mem_cons, Field.nullable]
  refine ⟨?_, ?_, ?_, ?_, ?_, by simp⟩
  · exact fun _ _ h => stable_probeChoice.option h
  · exact fun _ _ h => Yaml.stable_nat64.option h
  · exact fun _ _ h => Yaml.stable_nat64.option h
  · exact fun _ _ h => Yaml.stable_nat64.option h
  · exact fun _ _ h => stable_onTimeoutChoice h

/-! ## The server section -/

/-- The server section as a record. -/
def serverForm (args : Reordering) : RecordForm ServerFields ServerSection where
  fields := [
    { key := "target", decoder := targetChoice, get := (·.target), set := fun a f => { f with target := a } },
    { key := "args", decoder := list text, get := (·.args), set := fun a f => { f with args := a }, map := args.apply },
    { key := "env", decoder := environment, get := (·.env), set := fun a f => { f with env := a } },
    { key := "quiet", decoder := bool, get := (·.quiet), set := fun a f => { f with quiet := a } },
    { key := "readiness", decoder := readinessSection, get := (·.readiness), set := fun a f => { f with readiness := a } }]
  start := {}
  finish := ServerFields.finish
  map := ServerSection.arrange args
  finish_null := by simp
  finish_map := by
    intro d d' s t h
    simp only [Agrees, List.forall_mem_cons] at h
    obtain ⟨target, given, env, quiet, readiness, -⟩ := h
    refine (carries_required target).bind fun target => ?_
    simp only [given, env, quiet, readiness, args.getD_map_apply, Option.map_id, id_eq]
    exact .pure d d' (ServerSection.arrange args) _

/-- The decoder of a server section is that of its record. -/
theorem serverSection_eq (args : Reordering) : serverSection = (serverForm args).decoder "ServerConfig" := by
  refine congrArg (record "ServerConfig" _ · _) ?_
  funext f key trail n
  split
  case h_6 => exact (RecordForm.readInto_other (by simp_all [serverForm, RecordForm.keys]) f trail n).symm
  all_goals rfl

/-- A server section that is edited reads as the section with its arguments reordered. -/
theorem ServerEdit.carries (h : ServerEdit d d' args n n') :
    Carries d d' (ServerSection.arrange args) (serverSection trail n) (serverSection trail' n') := by
  rw [serverSection_eq args]
  refine RecordForm.carries ?_ h
  simp only [serverForm, List.forall_mem_cons]
  refine ⟨?_, ?_, ?_, ?_, ?_, by simp⟩
  · exact fun _ _ h => stable_targetChoice h
  · exact fun _ _ h _ _ => SequenceEdit.reordered h stable_text
  · exact fun _ _ h => stable_environment h
  · exact fun _ _ h => Yaml.stable_bool h
  · exact fun _ _ h _ _ => ReadinessEdit.carries h

/-! ## The client section -/

/-- The client section as a record. -/
def clientForm (args : Reordering) : RecordForm ClientFields ClientSection where
  fields := [
    { key := "target", decoder := targetChoice, get := (·.target), set := fun a f => { f with target := a } },
    { key := "args", decoder := list text, get := (·.args), set := fun a f => { f with args := a }, map := args.apply },
    { key := "env", decoder := environment, get := (·.env), set := fun a f => { f with env := a } },
    .nullable "timeout_secs" nat64 (·.timeoutSecs) fun a f => { f with timeoutSecs := a }]
  start := {}
  finish := ClientFields.finish
  map := ClientSection.arrange args
  finish_null := by simp +contextual [Field.nullable, ClientFields.finish]
  finish_map := by
    intro d d' s t h
    simp only [Agrees, Field.nullable, List.forall_mem_cons] at h
    obtain ⟨target, given, env, timeout, -⟩ := h
    refine (carries_required target).bind fun target => ?_
    simp only [given, env, timeout, args.getD_map_apply, Option.map_id, id_eq]
    exact .pure d d' (ClientSection.arrange args) _

/-- The decoder of a client section is that of its record. -/
theorem clientSection_eq (args : Reordering) : clientSection = (clientForm args).decoder "ClientConfig" := by
  refine congrArg (record "ClientConfig" _ · _) ?_
  funext f key trail n
  split
  case h_5 =>
    exact (RecordForm.readInto_other (by simp_all [clientForm, RecordForm.keys, Field.nullable]) f trail n).symm
  all_goals rfl

/-- A client section that is edited reads as the section with its arguments reordered. -/
theorem ClientEdit.carries (h : ClientEdit d d' args n n') :
    Carries d d' (ClientSection.arrange args) (clientSection trail n) (clientSection trail' n') := by
  rw [clientSection_eq args]
  refine RecordForm.carries ?_ h
  simp only [clientForm, List.forall_mem_cons, Field.nullable]
  refine ⟨?_, ?_, ?_, ?_, by simp⟩
  · exact fun _ _ h => stable_targetChoice h
  · exact fun _ _ h _ _ => SequenceEdit.reordered h stable_text
  · exact fun _ _ h => stable_environment h
  · exact fun _ _ h => Yaml.stable_nat64.option h

/-! ## Queries -/

/-- An expectation as a record. -/
def expectationForm : RecordForm ExpectationFields Expectation where
  fields := [
    .nullable "success" bool (·.success) fun a f => { f with success := a },
    .nullable "output_contains" text (·.outputContains) fun a f => { f with outputContains := a }]
  start := {}
  finish := ExpectationFields.finish
  map := id
  finish_null := by simp +contextual [Field.nullable, ExpectationFields.finish]
  finish_map := by
    intro d d' s t h
    simp only [Agrees, Field.nullable, List.forall_mem_cons, Option.map_id, id_eq] at h
    obtain ⟨success, outputContains, -⟩ := h
    simp only [ExpectationFields.finish, success, outputContains]
    exact .pure d d' id _

/-- The decoder of an expectation is that of its record. -/
theorem expectation_eq : expectation = expectationForm.decoder "QueryExpectation" := by
  refine congrArg (record "QueryExpectation" _ · _) ?_
  funext f key trail n
  split
  case h_3 =>
    exact (RecordForm.readInto_other (by simp_all [expectationForm, RecordForm.keys, Field.nullable]) f trail n).symm
  all_goals rfl

/-- An expectation that is edited reads as before. -/
theorem ExpectationEdit.carries (h : ExpectationEdit d d' n n') :
    Carries d d' id (expectation trail n) (expectation trail' n') := by
  rw [expectation_eq]
  refine RecordForm.carries ?_ h
  simp only [expectationForm, List.forall_mem_cons, Field.nullable]
  refine ⟨?_, ?_, by simp⟩
  · exact fun _ _ h => Yaml.stable_bool.option h
  · exact fun _ _ h => stable_text.option h

/-- A query as a record. -/
def queryForm (args : Reordering) : RecordForm QueryFields QueryStep where
  fields := [
    .nullable "name" text (·.name) fun a f => { f with name := a },
    { key := "query", decoder := text, get := (·.query), set := fun a f => { f with query := a } },
    { key := "args", decoder := list text, get := (·.args), set := fun a f => { f with args := a }, map := args.apply },
    .nullable "timeout_secs" nat64 (·.timeoutSecs) fun a f => { f with timeoutSecs := a },
    .nullable "expect" expectation (·.expect) fun a f => { f with expect := a }]
  start := {}
  finish := QueryFields.finish
  map := QueryStep.arrange args
  finish_null := by simp +contextual [Field.nullable, QueryFields.finish]
  finish_map := by
    intro d d' s t h
    simp only [Agrees, Field.nullable, List.forall_mem_cons] at h
    obtain ⟨name, query, given, timeout, expect, -⟩ := h
    refine (carries_required query).bind fun query => ?_
    simp only [name, given, timeout, expect, args.getD_map_apply, Option.map_id, id_eq]
    exact .pure d d' (QueryStep.arrange args) _

/-- The decoder of a query is that of its record. -/
theorem queryStep_eq (args : Reordering) : queryStep = (queryForm args).decoder "QueryStep" := by
  refine congrArg (record "QueryStep" _ · _) ?_
  funext f key trail n
  split
  case h_6 =>
    exact (RecordForm.readInto_other (by simp_all [queryForm, RecordForm.keys, Field.nullable]) f trail n).symm
  all_goals rfl

/-- A query that is edited reads as the query with its arguments reordered. -/
theorem QueryEdit.carries (h : QueryEdit d d' args n n') :
    Carries d d' (QueryStep.arrange args) (queryStep trail n) (queryStep trail' n') := by
  rw [queryStep_eq args]
  refine RecordForm.carries ?_ h
  simp only [queryForm, List.forall_mem_cons, Field.nullable]
  have expected : ∀ v v', ExpectationEdit d d' v v' → ∀ trail trail',
      Carries d d' id (option expectation trail v) (option expectation trail' v') := by
    intro v v' h trail trail'
    rw [← Option.map_id]
    exact Edited.option h fun _ _ h => ExpectationEdit.carries h
  refine ⟨?_, ?_, ?_, ?_, ?_, by simp⟩
  · exact fun _ _ h => stable_text.option h
  · exact fun _ _ h => stable_text h
  · exact fun _ _ h _ _ => SequenceEdit.reordered h stable_text
  · exact fun _ _ h => Yaml.stable_nat64.option h
  · exact expected

/-! ## The plan -/

/-- The plan as a record. -/
def planForm (ω : Rearrangement) : RecordForm PlanFields Plan where
  fields := [
    { key := "name", decoder := text, get := (·.name), set := fun a f => { f with name := a } },
    .nullable "description" text (·.description) fun a f => { f with description := a },
    .nullable "root" pathField (·.root) fun a f => { f with root := a },
    { key := "build", decoder := buildSection, get := (·.build), set := fun a f => { f with build := a },
      map := BuildSection.arrange ω.build },
    { key := "server", decoder := serverSection, get := (·.server), set := fun a f => { f with server := a },
      map := ServerSection.arrange ω.server },
    { key := "client", decoder := clientSection, get := (·.client), set := fun a f => { f with client := a },
      map := ClientSection.arrange ω.client },
    { key := "queries", decoder := list queryStep, get := (·.queries), set := fun a f => { f with queries := a },
      map := fun qs => ω.queries.apply (qs.mapIdx fun i q => q.arrange (ω.queryArgs i)) }]
  start := {}
  finish := PlanFields.finish
  map := Plan.arrange ω
  finish_null := by simp +contextual [Field.nullable, PlanFields.finish]
  finish_map := by
    intro d d' s t h
    simp only [Agrees, Field.nullable, List.forall_mem_cons] at h
    obtain ⟨name, description, root, build, server, client, queries, -⟩ := h
    -- The build section that stands for none has no arguments, and so is as it was.
    have arranged : t.build.getD {} = (s.build.getD {}).arrange ω.build := by
      rw [build]
      exact Option.getD_map (BuildSection.arrange ω.build) {} s.build
    refine (carries_required name).bind fun name => ?_
    refine (carries_required server).bind fun server => ?_
    refine (carries_required client).bind fun client => ?_
    refine (carries_required queries).bind fun queries => ?_
    simp only [description, root, arranged, Option.map_id, id_eq]
    exact .pure d d' (Plan.arrange ω) _

/-- The decoder of a plan is that of its record, whatever order its sequences are to have. -/
theorem plan_eq (ω : Rearrangement) : plan = (planForm ω).decoder "TestPlan" := by
  refine congrArg (record "TestPlan" _ · _) ?_
  funext f key trail n
  split
  case h_8 =>
    exact (RecordForm.readInto_other (by simp_all [planForm, RecordForm.keys, Field.nullable]) f trail n).symm
  all_goals rfl

/-- A plan that is edited reads as the plan rearranged: each section carries over by its own edits. -/
theorem PlanEdit.carries (h : PlanEdit d d' ω n n') : Carries d d' (Plan.arrange ω) (plan trail n) (plan trail' n') := by
  rw [plan_eq ω]
  refine RecordForm.carries ?_ h
  simp only [planForm, List.forall_mem_cons, Field.nullable]
  refine ⟨?_, ?_, ?_, ?_, ?_, ?_, ?_, by simp⟩
  · exact fun _ _ h => stable_text h
  · exact fun _ _ h => stable_text.option h
  · exact fun _ _ h => stable_pathField.option h
  · exact fun _ _ h _ _ => BuildEdit.carries h
  · exact fun _ _ h _ _ => ServerEdit.carries h
  · exact fun _ _ h _ _ => ClientEdit.carries h
  · exact fun _ _ h _ _ => SequenceEdit.list h fun _ _ _ h _ _ => QueryEdit.carries h

end Plan
end Shakedown

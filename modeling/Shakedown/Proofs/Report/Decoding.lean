import Mathlib.Data.List.Forall2
import Shakedown.Report.Json
import Shakedown.Proofs.Json.Writing
import Shakedown.Proofs.Json.Reading

/-!
# Reading reports back

The text of a report is a document, and it tells all of the report (`report_text_decodes`): what is read from it
decodes to the report (`RunReport.ofJson?`), so different reports have different texts. A field that is left out
decodes to no value, and to none only if it is left out.
-/

namespace Shakedown

/-! ## Decoding -/

namespace Json

/-- The text of a string. -/
def string? : Json → Option String
  | .string s => some s
  | _ => none

/-- A truth value. -/
def bool? : Json → Option Bool
  | .bool b => some b
  | _ => none

/-- A whole number. -/
def int? : Json → Option Int
  | .number (.int n) => some n
  | _ => none

/-- A whole number that is not negative. -/
def nat? (j : Json) : Option Nat := j.int?.bind Int.toNat?

/-- The items of an array, each decoded. -/
def list? {α : Type} (decode : Json → Option α) : Json → Option (List α)
  | .array js => js.mapM decode
  | _ => none

variable {α : Type}

/-- A field that has to be there, decoded. -/
def required (key : String) (decode : Json → Option α) (j : Json) : Option α := (j.field? key).bind decode

/-- A field that may be left out, decoded. -/
def optional (key : String) (decode : Json → Option α) (j : Json) : Option (Option α) :=
  match j.field? key with
  | none => some none
  | some value => (decode value).map some

end Json

/-- The one of some values that has a text. -/
def ofText? {α : Type} (text : α → String) (values : List α) (s : String) : Option α :=
  values.find? fun a => text a == s

/-- The kind of step that a word stands for. -/
def StepKind.ofText? : String → Option StepKind := Shakedown.ofText? StepKind.text [.build, .launch, .await, .query]

/-- The status that a word stands for. -/
def StepStatus.ofText? : String → Option StepStatus := Shakedown.ofText? StepStatus.text [.passed, .failed, .skipped]

/-- The kind of failure that a word stands for. -/
def FailureKind.ofText? : String → Option FailureKind :=
  Shakedown.ofText? FailureKind.text [.build, .launch, .readinessTimeout, .invocation, .invocationTimeout, .assertion,
    .interrupt, .configuration, .inputOutput, .internal]

/-- The phase that an object stands for: by its name, and a query by its position too. -/
def Phase.ofJson? (j : Json) : Option Phase := do
  let word ← j.required "phase" Json.string?
  if word = "querying" then (j.required "query" Json.nat?).map .querying
  else if word = "not_started" then some .notStarted
  else if word = "building" then some .building
  else if word = "server_starting" then some .serverStarting
  else if word = "ready" then some .ready
  else if word = "done" then some .done
  else none

/-- The step that an object stands for. -/
def StepRecord.ofJson? (j : Json) : Option StepRecord := do
  let kind ← j.required "kind" fun v => v.string?.bind StepKind.ofText?
  let name ← j.required "name" Json.string?
  let status ← j.required "status" fun v => v.string?.bind StepStatus.ofText?
  let startedMs ← j.required "started_ms" Json.nat?
  let finishedMs ← j.required "finished_ms" Json.nat?
  let exitCode ← j.optional "exit_code" Json.int?
  let detail ← j.optional "detail" Json.string?
  some ⟨kind, name, status, startedMs, finishedMs, exitCode, detail⟩

/-- The failure that an object stands for. -/
def FailureRecord.ofJson? (j : Json) : Option FailureRecord := do
  let kind ← j.required "kind" fun v => v.string?.bind FailureKind.ofText?
  let message ← j.required "message" Json.string?
  some ⟨kind, message⟩

/-- The report that an object stands for. -/
def RunReport.ofJson? (j : Json) : Option RunReport := do
  let name ← j.required "name" Json.string?
  let passed ← j.required "passed" Json.bool?
  let phase ← j.required "phase" Phase.ofJson?
  let steps ← j.required "steps" (Json.list? StepRecord.ofJson?)
  let serverTerminated ← j.required "server_terminated" Json.bool?
  let failure ← j.optional "failure" FailureRecord.ofJson?
  let exitCode ← j.required "exit_code" Json.int?
  let durationMs ← j.required "duration_ms" Json.nat?
  some ⟨name, passed, phase, steps, serverTerminated, failure, exitCode, durationMs⟩

/-! ## Words -/

@[simp] theorem StepKind.ofText?_text (k : StepKind) : StepKind.ofText? k.text = some k := by
  cases k <;> decide

@[simp] theorem StepStatus.ofText?_text (s : StepStatus) : StepStatus.ofText? s.text = some s := by
  cases s <;> decide

@[simp] theorem FailureKind.ofText?_text (k : FailureKind) : FailureKind.ofText? k.text = some k := by
  cases k <;> decide

/-! ## Fields of written objects -/

namespace Json

theorem field?_object (key : String) (fs : List (String × Json)) : (Json.object fs).field? key = lookup key fs := rfl

/-- A key is looked up in the first fields and then in the others. -/
theorem lookup_append (key : String) (fs gs : List (String × Json)) :
    lookup key (fs ++ gs) = (lookup key fs).or (lookup key gs) := by
  rw [lookup, lookup, lookup, List.find?_append, Option.map_or]

/-- An optional field is found under its own key, if it has a value. -/
theorem lookup_optionalField (key key' : String) (value : Option Json) :
    lookup key (optionalField key' value) = if key' = key then value else none := by
  cases value with
  | none => simp [optionalField]
  | some v => exact lookup_cons key (key', v) []

@[simp] theorem string?_sorted (s : String) : (Json.string s).sorted.string? = some s := rfl

@[simp] theorem bool?_sorted (b : Bool) : (Json.bool b).sorted.bool? = some b := rfl

@[simp] theorem int?_sorted (n : Int) : (Json.int n).sorted.int? = some n := rfl

@[simp] theorem nat?_sorted (n : Nat) : (Json.nat n).sorted.nat? = some n := rfl

/-- A list is read back if each of its items is. -/
theorem list?_sorted {α : Type} {decode : Json → Option α} {encode : α → Json}
    (h : ∀ a, decode (encode a).sorted = some a) (as : List α) :
    list? decode (Json.array (as.map encode)).sorted = some as := by
  have hmap : (as.map encode).map sorted = as.map fun a => (encode a).sorted := List.map_map ..
  have hread : (as.map fun a => (encode a).sorted).mapM decode = some as := by
    induction as with
    | nil => rfl
    | cons a as ih => simp [h, ih (List.map_map ..)]
  rw [sorted, sortedItems_eq_map, hmap]
  exact hread

end Json

/-! ## Written objects are decoded -/

open Json (field?_sorted field?_object lookup_append lookup_optionalField lookup_cons)

/-- Sorting the fields of a record does not move a value to another key, as no key stands twice. -/
theorem StepRecord.field?_sorted_toJson (s : StepRecord) (key : String) :
    s.toJson.sorted.field? key = (s.toJson.field? key).map Json.sorted := by
  refine field?_sorted ?_ key
  cases s.exitCode <;> cases s.detail <;> simp [Json.optionalField]

/-- A record is read back from its fields in any order. -/
theorem StepRecord.ofJson?_sorted (s : StepRecord) : StepRecord.ofJson? s.toJson.sorted = some s := by
  simp only [StepRecord.ofJson?, Json.required, Json.optional, s.field?_sorted_toJson]
  simp only [StepRecord.toJson, field?_object, lookup_append, lookup_optionalField, lookup_cons]
  obtain ⟨kind, name, status, startedMs, finishedMs, exitCode, detail⟩ := s
  -- Each option is set, and then its field is found, or not, and then no field has its key.
  cases exitCode <;> cases detail <;> simp

/-- A failure is read back from its fields in any order. -/
theorem FailureRecord.ofJson?_sorted (f : FailureRecord) : FailureRecord.ofJson? f.toJson.sorted = some f := by
  have field : ∀ key, f.toJson.sorted.field? key = (f.toJson.field? key).map Json.sorted := field?_sorted (by simp)
  simp only [FailureRecord.ofJson?, Json.required, field]
  simp [FailureRecord.toJson, field?_object, lookup_cons]

/-- Sorting the fields of a phase does not move a value to another key. -/
theorem Phase.field?_sorted_toJson (p : Phase) (key : String) :
    p.toJson.sorted.field? key = (p.toJson.field? key).map Json.sorted := by
  cases p <;> exact field?_sorted (by simp) key

/-- A phase is read back by its tag, and by its number if it has one. -/
theorem Phase.ofJson?_sorted (p : Phase) : Phase.ofJson? p.toJson.sorted = some p := by
  simp only [Phase.ofJson?, Json.required, p.field?_sorted_toJson]
  cases p <;> simp [Phase.toJson, field?_object, lookup_cons]

/-- Sorting the fields of a report does not move a value to another key. -/
theorem RunReport.field?_sorted_toJson (r : RunReport) (key : String) :
    r.toJson.sorted.field? key = (r.toJson.field? key).map Json.sorted := by
  refine field?_sorted ?_ key
  cases r.failure <;> simp [Json.optionalField]

/-- What is read of a report is the report. -/
theorem RunReport.ofJson?_sorted (r : RunReport) : RunReport.ofJson? r.toJson.sorted = some r := by
  have steps := Json.list?_sorted StepRecord.ofJson?_sorted r.steps
  simp only [RunReport.ofJson?, Json.required, Json.optional, r.field?_sorted_toJson]
  simp only [RunReport.toJson, field?_object, lookup_append, lookup_optionalField, lookup_cons]
  obtain ⟨name, passed, phase, steps', serverTerminated, failure, exitCode, durationMs⟩ := r
  cases failure <;> simp [steps, Phase.ofJson?_sorted, FailureRecord.ofJson?_sorted]

/-! ## Texts of reports -/

open Json (Fits)

/-- The times of a step fit 64 bits, and its exit code fits 32. -/
structure StepRecord.Sized (s : StepRecord) : Prop where
  started : s.startedMs < 2 ^ 64
  finished : s.finishedMs < 2 ^ 64
  exitCode : ∀ code ∈ s.exitCode, -2 ^ 31 ≤ code ∧ code < 2 ^ 31

/-- The numbers of a report fit what holds them: 64 bits for a time or the position of a query, and 32 for an
exit code. -/
structure RunReport.Sized (r : RunReport) : Prop where
  steps : ∀ s ∈ r.steps, s.Sized
  query : ∀ n, r.phase = .querying n → n < 2 ^ 64
  exitCode : -2 ^ 31 ≤ r.exitCode ∧ r.exitCode < 2 ^ 31
  duration : r.durationMs < 2 ^ 64

variable {depth : Nat}

/-- A number below 2^64 fits a document. -/
theorem Json.Fits.nat {n : Nat} (h : n < 2 ^ 64) : Fits depth (.nat n) := .int (by omega) (by omega)

/-- An exit code fits a document, negative or not. -/
theorem Json.Fits.exitCode {code : Int} (h : -2 ^ 31 ≤ code ∧ code < 2 ^ 31) : Fits depth (.int code) :=
  .int (by omega) (by omega)

/-- An optional field fits if its value does, when there is one. -/
theorem Json.fits_optionalField {α : Type} {key : String} {encode : α → Json} {value : Option α}
    (h : ∀ a ∈ value, Fits depth (encode a)) : ∀ f ∈ optionalField key (value.map encode), Fits depth f.2 := by
  intro f hf
  cases value with
  | none => cases hf
  | some a =>
    obtain rfl := List.mem_singleton.mp hf
    exact h a rfl

/-- A record of a step fits one level below its own. -/
theorem StepRecord.Sized.fits {s : StepRecord} (h : s.Sized) : Fits (depth + 1) s.toJson := by
  refine .object (List.forall_mem_append.mpr ⟨List.forall_mem_append.mpr ⟨?_, ?_⟩, ?_⟩)
  · simp [Fits.string, Fits.nat h.started, Fits.nat h.finished]
  · exact Json.fits_optionalField fun code hcode => .exitCode (h.exitCode code hcode)
  · exact Json.fits_optionalField fun detail _ => .string detail

/-- The record of a failure holds texts only. -/
theorem FailureRecord.fits (f : FailureRecord) : Fits (depth + 1) f.toJson :=
  .object (by simp [Fits.string])

/-- The phase fits, as the number of a query does. -/
theorem RunReport.Sized.fits_phase {r : RunReport} (h : r.Sized) : Fits (depth + 1) r.phase.toJson := by
  cases hphase : r.phase with
  | querying n => exact .object (by simp [Fits.string, Fits.nat (h.query n hphase)])
  | _ => exact .object (by simp [Fits.string])

/-- A report stands three levels deep: its steps are objects in an array. -/
theorem RunReport.Sized.fits {r : RunReport} (h : r.Sized) : Fits (depth + 3) r.toJson := by
  have steps : Fits (depth + 2) (.array (r.steps.map StepRecord.toJson)) := by
    refine .array ?_
    intro j hj
    obtain ⟨s, hs, rfl⟩ := List.mem_map.mp hj
    exact (h.steps s hs).fits
  refine .object (List.forall_mem_append.mpr ⟨List.forall_mem_append.mpr ⟨?_, ?_⟩, ?_⟩)
  · simp [Fits.string, Fits.bool, h.fits_phase, steps]
  · exact Json.fits_optionalField fun failure _ => failure.fits
  · simp [Fits.exitCode h.exitCode, Fits.nat h.duration]

/-- The text of a report is read as the report's fields in order. -/
theorem RunReport.Sized.parse?_text {r : RunReport} (h : r.Sized) : Json.parse? r.text = some r.toJson.sorted := by
  have hfits : Fits 127 r.toJson := h.fits
  have hspells := hfits.spells_prettyAt 0
  exact Json.parse?_of_spells Json.spaces_nil hspells Json.spaces_nil (by simp [text, Json.pretty]) hfits

/-- The optional fields of a record are there exactly if it has their values. -/
theorem StepRecord.isSome_optional (s : StepRecord) :
    (s.toJson.sorted.field? "exit_code").isSome = s.exitCode.isSome ∧
      (s.toJson.sorted.field? "detail").isSome = s.detail.isSome := by
  simp only [s.field?_sorted_toJson]
  simp [StepRecord.toJson, field?_object, lookup_append, lookup_optionalField, lookup_cons]

/-- For every report whose numbers fit what holds them, with any texts and any steps: its text is a document, and
what is read from it decodes to the report, with the fields of options there exactly if these are set. Hence a
report with the same text is the same report. -/
theorem report_text_decodes (r : RunReport) (hr : r.Sized) :
    Json.IsDocument r.text ∧
      (∃ j, Json.parse? r.text = some j ∧ RunReport.ofJson? j = some r ∧
        (j.field? "failure").isSome = r.failure.isSome ∧
        ∃ items, j.field? "steps" = some (.array items) ∧
          List.Forall₂ (fun item (s : StepRecord) => (item.field? "exit_code").isSome = s.exitCode.isSome ∧
            (item.field? "detail").isSome = s.detail.isSome) items r.steps) ∧
      ∀ r' : RunReport, r'.Sized → r'.text = r.text → r' = r := by
  have hread := hr.parse?_text
  -- A hundred and twenty-seven levels are what the reader takes; a report needs three.
  have hfits : Fits 127 r.toJson := hr.fits
  refine ⟨hfits.isDocument_pretty, ⟨_, hread, r.ofJson?_sorted, ?_, ?_⟩, ?_⟩
  · rw [r.field?_sorted_toJson]
    simp [RunReport.toJson, field?_object, lookup_append, lookup_optionalField, lookup_cons]
  · refine ⟨r.steps.map fun s => s.toJson.sorted, ?_, ?_⟩
    · rw [r.field?_sorted_toJson]
      simp [RunReport.toJson, field?_object, lookup_cons, Json.sorted, Json.sortedItems_eq_map]
    · rw [List.forall₂_map_left_iff]
      exact List.forall₂_same.mpr fun s _ => s.isSome_optional
  · intro r' hr' htext
    have hread' := hr'.parse?_text
    rw [htext, hread] at hread'
    have hdecoded := r'.ofJson?_sorted
    rw [← Option.some.inj hread', r.ofJson?_sorted] at hdecoded
    exact (Option.some.inj hdecoded).symm

/-- The report of a run whose second query was killed, after output with quotes and control characters. -/
theorem report_text_decodes_failed_query :
    let skipped : StepRecord := ⟨.build, "Build \"web\"", .skipped, 0, 0, none, none⟩
    let failed : StepRecord := ⟨.query, "Query 2", .failed, 15, 2 ^ 64 - 1, some (-1), some "\x07 \\ \n \u00e9 \x7f"⟩
    let r : RunReport :=
      ⟨"two\tqueries", false, .querying 2, [skipped, failed], true, some ⟨.invocation, "killed"⟩, -2 ^ 31, 2 ^ 64 - 1⟩
    r.Sized ∧ Json.IsDocument r.text ∧ (Json.parse? r.text).bind RunReport.ofJson? = some r := by
  intro skipped failed r
  have hskipped : skipped.Sized := ⟨by decide, by decide, by simp [skipped]⟩
  have hfailed : failed.Sized := ⟨by decide, by decide, by simp [failed]⟩
  have hr : r.Sized := by
    refine ⟨?_, ?_, by decide, by decide⟩
    · simp [r, hskipped, hfailed]
    · rintro n ⟨⟩
      decide
  obtain ⟨hdocument, ⟨j, hread, hdecoded, -⟩, -⟩ := report_text_decodes r hr
  refine ⟨hr, hdocument, ?_⟩
  rw [hread]
  exact hdecoded

end Shakedown

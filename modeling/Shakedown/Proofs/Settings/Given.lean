import Shakedown.Proofs.Plan.Faults
import Shakedown.Proofs.Toml.Keys

/-!
# The settings that a document gives

A settings file may give any of the six settings and leave the others out, with the whole table of a section or without
it. What is read of it is stated without the order in which its entries are gone through: a setting has the value that
stands under its table and key, and its default if none stands there (`ofDocument_given`). Reading a section and reading
a document are one and the same fold, over entries of which no two have one name (`foldlM_assigns`). Five of the
settings may be refused for their value, in a fixed order, and a text gives settings exactly if none of those that it
gives is (`parse_settles_given`).
-/

namespace Shakedown

namespace Toml.Value

/-- Whether a value is a table. -/
def isTable : Value → Bool
  | .table _ _ _ => true
  | _ => false

theorem exists_of_isTable {v : Value} (h : v.isTable) : ∃ origin span entries, v = .table origin span entries := by
  cases v with
  | table origin span entries => exact ⟨origin, span, entries, rfl⟩
  | _ => cases h

/-- What stands under a name in a value; only a table has anything under a name. -/
def entry? (name : String) : Value → Option Value
  | .table _ _ entries => find? name entries
  | _ => none

end Toml.Value

namespace Settings

open Toml (Key Value Problem)

/-- What a setting may be set to. -/
inductive Datum where
  | text (s : String)
  | number (n : Nat)
deriving DecidableEq

/-- What a value of a document sets a setting to. -/
def Datum.ofValue? : Value → Option Datum
  | .string _ s => some (.text s)
  | .integer _ n => some (.number n.toNat)
  | _ => none

/-- The six settings. -/
inductive Setting where
  | buildProgram
  | readinessCeiling
  | invocation
  | shutdownGrace
  | initialInterval
  | maxInterval
deriving DecidableEq

namespace Setting

/-- The table of a document that a setting belongs to. -/
def table : Setting → String
  | .buildProgram => "build"
  | .readinessCeiling | .invocation | .shutdownGrace => "timeouts"
  | .initialInterval | .maxInterval => "readiness"

/-- The name of a setting in its table. -/
def key : Setting → String
  | .buildProgram => "program"
  | .readinessCeiling => "readiness_ceiling_secs"
  | .invocation => "invocation_secs"
  | .shutdownGrace => "shutdown_grace_ms"
  | .initialInterval => "initial_interval_ms"
  | .maxInterval => "max_interval_ms"

/-- What a setting is set to in settings. -/
def of (s : Settings) : Setting → Datum
  | .buildProgram => .text s.buildProgram
  | .readinessCeiling => .number s.readinessCeilingSecs
  | .invocation => .number s.invocationSecs
  | .shutdownGrace => .number s.shutdownGraceMs
  | .initialInterval => .number s.initialIntervalMs
  | .maxInterval => .number s.maxIntervalMs

/-- What a setting is set to where nothing else is said. -/
def standard : Setting → Datum
  | .buildProgram => .text "cargo"
  | .readinessCeiling => .number 3
  | .invocation => .number 60
  | .shutdownGrace => .number 2000
  | .initialInterval => .number 50
  | .maxInterval => .number 500

/-- Whether a value is of the right type for a setting. -/
def admits : Setting → Value → Bool
  | .buildProgram, .string _ _ => true
  | .buildProgram, _ => false
  | _, .integer _ n => decide (0 ≤ n)
  | _, _ => false

/-- A setting that is not a text takes the integers that are not negative. -/
theorem exists_of_admits {x : Setting} {v : Value} (numeric : x ≠ .buildProgram) (h : x.admits v) :
    ∃ span n, v = .integer span n ∧ 0 ≤ n := by
  cases v with
  | integer span n =>
    refine ⟨span, n, rfl, ?_⟩
    cases x with
    | buildProgram => exact absurd rfl numeric
    | _ => exact of_decide_eq_true h
  | _ =>
    cases x with
    | buildProgram => exact absurd rfl numeric
    | _ => cases h

/-- All settings. -/
def all : List Setting :=
  [.buildProgram, .readinessCeiling, .invocation, .shutdownGrace, .initialInterval, .maxInterval]

theorem mem_all (x : Setting) : x ∈ all := by
  cases x <;> decide

/-- The settings that must not be zero, in the order in which they are looked at. The time to shut down may be zero. -/
def limits : List Setting := [.readinessCeiling, .invocation, .initialInterval, .maxInterval]

/-- The settings that may be refused, in the order in which they are looked at. -/
def checked : List Setting := limits ++ [.buildProgram]

/-- What a setting must not be set to. -/
inductive Refuses : Setting → Datum → Prop
  | zero {x : Setting} (limit : x ∈ limits) : Refuses x (.number 0)
  | blank {s : String} (blank : ∀ c ∈ s.toList, Text.isBlank c = true) : Refuses .buildProgram (.text s)

/-- What is said of a setting that is refused. -/
def complaint (x : Setting) : String :=
  x.table ++ "." ++ x.key ++ (if x = .buildProgram then " must not be empty" else " must be positive")

theorem of_standard (x : Setting) : x.of {} = x.standard := by
  cases x <;> rfl

/-- No two settings have one name. -/
theorem eq_of_key {x y : Setting} (h : x.key = y.key) : x = y := by
  cases x <;> cases y <;> first | rfl | exact absurd h (by decide)

/-- What a setting has by default is not refused. -/
theorem not_refuses_standard (x : Setting) : ¬ x.Refuses x.standard := by
  cases x with
  | buildProgram =>
    intro h
    cases h with
    | blank blank => exact absurd (blank 'c' (by decide)) (by decide)
  | _ =>
    intro h
    cases h

end Setting

/-- What a document sets a setting to, if it does. -/
def given (doc : Value) (x : Setting) : Option Datum :=
  ((doc.entry? x.table).bind fun table => table.entry? x.key).bind Datum.ofValue?

/-- A document is a table that may have tables for the sections, and in these values of the right types for any of the
settings. It may have other entries of any kind, and so may the tables of the sections. -/
structure WellTyped (doc : Value) : Prop where
  root : doc.isTable
  sections : ∀ x : Setting, ∀ v ∈ doc.entry? x.table, v.isTable
  values : ∀ x : Setting, ∀ v ∈ (doc.entry? x.table).bind fun table => table.entry? x.key, x.admits v

instance (doc : Value) : Decidable (WellTyped doc) :=
  decidable_of_iff
    (doc.isTable ∧ (∀ x ∈ Setting.all, ∀ v ∈ doc.entry? x.table, v.isTable) ∧
      ∀ x ∈ Setting.all, ∀ v ∈ (doc.entry? x.table).bind fun table => table.entry? x.key, x.admits v)
    ⟨fun ⟨root, sections, values⟩ => ⟨root, fun x => sections x x.mem_all, fun x => values x x.mem_all⟩,
      fun ⟨root, sections, values⟩ => ⟨root, fun x _ => sections x, fun x _ => values x⟩⟩

/-! ## Settings with new values -/

/-- A result is settings in which some have new values and the others those of before. -/
def Assigns (new : Setting → Option Datum) (s : Settings) (result : Except Problem Settings) : Prop :=
  ∃ t, result = .ok t ∧ ∀ x : Setting, x.of t = (new x).getD (x.of s)

variable {new : Setting → Option Datum} {s : Settings} {v : Value}

theorem assigns_nothing (none : ∀ x, new x = none) : Assigns new s (.ok s) :=
  ⟨s, rfl, fun x => by rw [none x, Option.getD_none]⟩

theorem Assigns.congr {new' : Setting → Option Datum} {result : Except Problem Settings} (h : Assigns new s result)
    (same : ∀ x, new' x = new x) : Assigns new' s result := by
  obtain rfl : new' = new := funext same
  exact h

/-- Going through entries of which no two have one name, each of which sets the settings of its name, sets every setting
by the entry that has its name. -/
theorem foldlM_assigns {label : Setting → String} {datum : Setting → Value → Option Datum}
    {step : Settings → Key × Value → Except Problem Settings} {entries : List (Key × Value)}
    (distinct : (entries.map (·.1.name)).Nodup)
    (sets : ∀ e ∈ entries, ∀ s, Assigns (fun x => if label x = e.1.name then datum x e.2 else none) s (step s e)) :
    Assigns (fun x => (Toml.find? (label x) entries).bind (datum x)) s (entries.foldlM step s) := by
  -- The induction is on the entries that are left, from any settings: what the first one sets, the others let be.
  induction entries generalizing s with
  | nil => exact assigns_nothing fun x => rfl
  | cons e entries ih =>
    obtain ⟨fresh, distinct⟩ := List.nodup_cons.mp distinct
    obtain ⟨t, ht, first⟩ := sets e (List.mem_cons_self ..) s
    obtain ⟨r, hr, rest⟩ := ih distinct (s := t) fun d hd => sets d (List.mem_cons_of_mem _ hd)
    refine ⟨r, ?_, ?_⟩
    · rw [List.foldlM_cons, ht]
      exact hr
    · intro x
      rw [rest, first]
      dsimp only
      by_cases named : label x = e.1.name
      · -- No entry after this one has its name.
        have absent : Toml.find? (label x) entries = none := by
          rw [Toml.find?_eq_none_iff, named]
          exact fresh
        have here : Toml.find? (label x) (e :: entries) = some e.2 := by
          simp [Toml.find?, named]
        rw [absent, here, if_pos named]
        rfl
      · have further : Toml.find? (label x) (e :: entries) = Toml.find? (label x) entries := by
          simp [Toml.find?, Ne.symm named]
        rw [further, if_neg named]
        rfl

/-! ## Sections -/

/-- An entry of a section reads a setting: from a value of its type it takes what the setting is set to, and nothing
else changes. -/
def Entry.Reads (e : Entry) (x : Setting) : Prop :=
  ∀ place v s, x.admits v → Assigns (fun y => if y = x then Datum.ofValue? v else none) s (e.decode place v s)

/-- What a section has for a name: the entry that reads the setting of the name, or none. -/
inductive Has (table name : String) : Option Entry → Prop
  | setting {e : Entry} (x : Setting) (table_eq : x.table = table) (key_eq : x.key = name) (reads : e.Reads x) :
      Has table name (some e)
  | unknown (other : ∀ x : Setting, x.table = table → x.key ≠ name) : Has table name none

theorem reads_program {e : Entry} (he : e ∈ buildSection.entries) : e.Reads .buildProgram := by
  obtain rfl := List.mem_singleton.mp he
  intro place v s admits
  cases v with
  | string span text =>
    refine ⟨{ s with buildProgram := text }, rfl, ?_⟩
    intro y
    cases y <;> rfl
  | _ => cases admits

/-- An entry that puts a number into the settings reads the setting that it puts it into. -/
theorem reads_number {x : Setting} {key : String} {put : Nat → Settings → Settings} (numeric : x ≠ .buildProgram)
    (puts : ∀ n s (y : Setting), y.of (put n s) = if y = x then .number n else y.of s) : (Entry.nat key put).Reads x := by
  intro place v s admits
  obtain ⟨span, n, rfl, nonneg⟩ := Setting.exists_of_admits numeric admits
  refine ⟨put n.toNat s, ?_, ?_⟩
  · simp [Entry.nat, decodeNat, nonneg, Except.map]
  · intro y
    rw [puts]
    by_cases hy : y = x
    · simp [hy, Datum.ofValue?]
    · simp [hy]

/-- The settings of a table, each with the entry of its section that reads it. -/
theorem section_has {table name : String} {sec : Section}
    (known : ∀ e ∈ sec.entries, ∃ x : Setting, x.table = table ∧ x.key = e.key ∧ e.Reads x)
    (complete : ∀ x : Setting, x.table = table → ∃ e ∈ sec.entries, e.key = x.key) :
    Has table name (sec.entries.find? fun e => e.key == name) := by
  cases hf : sec.entries.find? fun e => e.key == name with
  | some e =>
    obtain ⟨x, ht, hk, reads⟩ := known e (List.mem_of_find?_eq_some hf)
    have named : e.key = name := by simpa using List.find?_some hf
    exact .setting x ht (hk.trans named) reads
  | none =>
    apply Has.unknown
    intro x ht hx
    obtain ⟨e, he, hk⟩ := complete x ht
    have other := List.find?_eq_none.mp hf e he
    exact other (by simp [hk, hx])

/-- The sections of a document have the settings of their tables. -/
theorem section?_has {table : String} {sec : Section} (h : section? table = some sec) (name : String) :
    Has table name (sec.entries.find? fun e => e.key == name) := by
  unfold section? at h
  -- In each of the three tables an entry sets a setting of that table, and each of its settings has an entry.
  split at h
  · cases h
    apply section_has
    · intro e he
      exact ⟨.buildProgram, rfl, by rw [List.mem_singleton.mp he]; rfl, reads_program he⟩
    · intro x hx
      cases x with
      | buildProgram => exact ⟨_, .head _, rfl⟩
      | _ => exact absurd hx (by decide)
  · cases h
    apply section_has
    · intro e he
      simp only [timeoutsSection, List.mem_cons, List.not_mem_nil, or_false] at he
      rcases he with rfl | rfl | rfl
      · exact ⟨.readinessCeiling, rfl, rfl, reads_number (by decide) fun n s y => by cases y <;> rfl⟩
      · exact ⟨.invocation, rfl, rfl, reads_number (by decide) fun n s y => by cases y <;> rfl⟩
      · exact ⟨.shutdownGrace, rfl, rfl, reads_number (by decide) fun n s y => by cases y <;> rfl⟩
    · intro x hx
      cases x with
      | readinessCeiling => exact ⟨_, .head _, rfl⟩
      | invocation => exact ⟨_, .tail _ (.head _), rfl⟩
      | shutdownGrace => exact ⟨_, .tail _ (.tail _ (.head _)), rfl⟩
      | _ => exact absurd hx (by decide)
  · cases h
    apply section_has
    · intro e he
      simp only [readinessSection, List.mem_cons, List.not_mem_nil, or_false] at he
      rcases he with rfl | rfl
      · exact ⟨.initialInterval, rfl, rfl, reads_number (by decide) fun n s y => by cases y <;> rfl⟩
      · exact ⟨.maxInterval, rfl, rfl, reads_number (by decide) fun n s y => by cases y <;> rfl⟩
    · intro x hx
      cases x with
      | initialInterval => exact ⟨_, .head _, rfl⟩
      | maxInterval => exact ⟨_, .tail _ (.head _), rfl⟩
      | _ => exact absurd hx (by decide)
  · cases h

theorem isSome_section? (x : Setting) : (section? x.table).isSome := by
  cases x <;> rfl

/-- Every section has a setting. -/
theorem exists_of_section? {table : String} {sec : Section} (h : section? table = some sec) :
    ∃ x : Setting, x.table = table := by
  unfold section? at h
  split at h
  · exact ⟨.buildProgram, rfl⟩
  · exact ⟨.invocation, rfl⟩
  · exact ⟨.maxInterval, rfl⟩
  · cases h

/-- A section's table sets the settings that belong to it. -/
theorem decodeTable_assigns {table : String} {sec : Section} (h : section? table = some sec)
    {entries : List (Key × Value)} (distinct : (entries.map (·.1.name)).Nodup)
    (typed : ∀ x : Setting, x.table = table → ∀ v, Toml.find? x.key entries = some v → x.admits v) :
    Assigns (fun x => (Toml.find? x.key entries).bind fun v => if x.table = table then Datum.ofValue? v else none) s
      (decodeTable sec entries s) := by
  apply foldlM_assigns distinct
  intro (key, v) he s
  have found := section?_has h key.name
  dsimp only
  generalize sec.entries.find? (fun e => e.key == key.name) = entry at found ⊢
  cases found with
  | setting x table_eq key_eq reads =>
    -- The entry is the one of its name, as no other has it, so its value is of the right type.
    have here : Toml.find? x.key entries = some v := by
      rw [key_eq]
      exact Toml.find?_of_mem distinct he
    refine (reads _ v s (typed x table_eq v here)).congr ?_
    intro y
    by_cases hy : y = x
    · rw [hy, if_pos rfl, if_pos key_eq, if_pos table_eq]
    · rw [if_neg hy, if_neg]
      intro named
      exact hy (Setting.eq_of_key (named.trans key_eq.symm))
  | unknown other =>
    apply assigns_nothing
    intro x
    split
    · rename_i named
      rw [if_neg]
      intro table_eq
      exact other x table_eq named
    · rfl

/-! ## Documents -/

variable {doc : Value}

/-- What a document of the right types gives are settings: each setting as the document sets it, and else as it is by
default. -/
theorem ofDocument_given (keyed : doc.IsKeyed) (typed : WellTyped doc) :
    ∃ s, ofDocument doc = .ok s ∧ ∀ x : Setting, x.of s = (given doc x).getD x.standard := by
  obtain ⟨origin, span, entries, rfl⟩ := Toml.Value.exists_of_isTable typed.root
  have folded : Assigns (fun x => (Toml.find? x.table entries).bind fun v => (v.entry? x.key).bind Datum.ofValue?) {}
      (ofDocument (.table origin span entries)) := by
    apply foldlM_assigns keyed.names
    intro (key, v) he s
    have here : Toml.find? key.name entries = some v := Toml.find?_of_mem keyed.names he
    dsimp only
    cases hsec : section? key.name with
    | none =>
      apply assigns_nothing
      intro x
      rw [if_neg]
      intro named
      have := isSome_section? x
      rw [named, hsec] at this
      cases this
    | some sec =>
      -- The entry of a section is a table of settings, and of no others than the section's.
      obtain ⟨y, hy⟩ := exists_of_section? hsec
      obtain ⟨o, place, inner, rfl⟩ := Toml.Value.exists_of_isTable (typed.sections y v (by rw [hy]; exact here))
      have table := keyed.entry he
      refine (decodeTable_assigns hsec table.names ?_).congr ?_
      · intro x table_eq w hw
        apply typed.values x w
        rw [Option.mem_def, Option.bind_eq_some_iff]
        exact ⟨.table o place inner, by rw [table_eq]; exact here, hw⟩
      · intro x
        split
        · rfl
        · cases Toml.find? x.key inner <;> rfl
  obtain ⟨s, hs, set⟩ := folded
  refine ⟨s, hs, ?_⟩
  intro x
  rw [set, Setting.of_standard, given, Option.bind_assoc]
  rfl

/-! ## Refused settings -/

/-- The setting that must not be zero. -/
def Positive.setting : Positive → Setting
  | .readinessCeiling => .readinessCeiling
  | .invocation => .invocation
  | .initialInterval => .initialInterval
  | .maxInterval => .maxInterval

/-- The setting that a fault is about. -/
def Fault.setting : Fault → Setting
  | .zero p => p.setting
  | .blankBuildProgram => .buildProgram

theorem Fault.message_eq (f : Fault) : f.message = f.setting.complaint := by
  rcases f with ⟨⟨⟩⟩ | _ <;> rfl

theorem Setting.refuses_number_iff {x : Setting} {n : Nat} (limit : x ∈ limits) : x.Refuses (.number n) ↔ n = 0 := by
  constructor
  · intro h
    cases h with
    | zero => rfl
  · rintro rfl
    exact .zero limit

theorem Positive.refuses_iff {p : Positive} : p.setting.Refuses (p.setting.of s) ↔ p.value s = 0 := by
  have value : p.setting.of s = .number (p.value s) := by
    cases p <;> rfl
  have limit : p.setting ∈ Setting.limits := by
    cases p <;> decide
  rw [value]
  exact Setting.refuses_number_iff limit

theorem exists_positive {x : Setting} (h : x ∈ Setting.limits) : ∃ p : Positive, p.setting = x := by
  simp only [Setting.limits, List.mem_cons, List.not_mem_nil, or_false] at h
  rcases h with rfl | rfl | rfl | rfl
  · exact ⟨.readinessCeiling, rfl⟩
  · exact ⟨.invocation, rfl⟩
  · exact ⟨.initialInterval, rfl⟩
  · exact ⟨.maxInterval, rfl⟩

theorem Setting.Refuses.mem_checked {x : Setting} {d : Datum} (h : x.Refuses d) : x ∈ limits ∨ x = .buildProgram := by
  cases h with
  | zero limit => exact Or.inl limit
  | blank => exact Or.inr rfl

theorem refuses_program_iff :
    Setting.buildProgram.Refuses (Setting.buildProgram.of s) ↔ Text.allBlank s.buildProgram = true := by
  rw [Text.allBlank_iff]
  constructor
  · intro h
    cases h with
    | blank blank => exact blank
  · exact .blank

/-- Settings are valid if none of them is refused. -/
theorem validate_ok_iff_refuses : s.validate = .ok () ↔ ∀ x : Setting, ¬ x.Refuses (x.of s) := by
  rw [validate_ok_iff]
  constructor
  · rintro ⟨pos, named⟩ x h
    rcases h.mem_checked with limit | rfl
    · obtain ⟨p, rfl⟩ := exists_positive limit
      exact Nat.ne_of_gt (pos p) (Positive.refuses_iff.mp h)
    · exact Bool.false_ne_true (named.symm.trans (refuses_program_iff.mp h))
  · intro fine
    constructor
    · intro p
      exact Nat.pos_of_ne_zero fun zero => fine p.setting (Positive.refuses_iff.mpr zero)
    · rw [← Bool.not_eq_true]
      exact fun blank => fine .buildProgram (refuses_program_iff.mpr blank)

/-- The fault of settings is about the first one that is refused. -/
theorem validate_error {f : Fault} (h : s.validate = .error f) :
    ∃ before after, Setting.checked = before ++ f.setting :: after ∧ f.setting.Refuses (f.setting.of s) ∧
      ∀ y ∈ before, ¬ y.Refuses (y.of s) := by
  unfold validate at h
  split at h
  · rename_i p found
    cases h
    obtain ⟨zero, before, after, row, earlier⟩ := List.find?_eq_some_iff_append.mp found
    -- The search goes through the limits only, so the program comes after all that was not looked at.
    refine ⟨before.map Positive.setting, after.map Positive.setting ++ [.buildProgram], ?_, ?_, ?_⟩
    · have all := congrArg (List.map Positive.setting) row
      rw [List.map_append, List.map_cons] at all
      rw [Setting.checked, ← List.cons_append, ← List.append_assoc]
      exact congrArg (· ++ [Setting.buildProgram]) all
    · exact Positive.refuses_iff.mpr (by simpa using zero)
    · intro y hy
      obtain ⟨q, hq, rfl⟩ := List.mem_map.mp hy
      rw [Positive.refuses_iff]
      simpa using earlier q hq
  · rename_i clear
    split at h
    · rename_i blank
      cases h
      refine ⟨Setting.limits, [], rfl, refuses_program_iff.mpr blank, ?_⟩
      intro y hy
      obtain ⟨q, rfl⟩ := exists_positive hy
      rw [Positive.refuses_iff]
      have looked : q ∈ [Positive.readinessCeiling, .invocation, .initialInterval, .maxInterval] := by
        cases q <;> decide
      simpa using List.find?_eq_none.mp clear q looked
    · cases h

/-- A document gives a setting that is refused. -/
def Offends (doc : Value) (x : Setting) : Prop := ∃ d, given doc x = some d ∧ x.Refuses d

theorem offends_iff {x : Setting} (set : x.of s = (given doc x).getD x.standard) :
    Offends doc x ↔ x.Refuses (x.of s) := by
  rw [set]
  constructor
  · rintro ⟨d, hd, refuses⟩
    rw [hd]
    exact refuses
  · intro refuses
    cases hd : given doc x with
    | none =>
      rw [hd] at refuses
      exact absurd refuses x.not_refuses_standard
    | some d =>
      rw [hd] at refuses
      exact ⟨d, hd, refuses⟩

theorem parse_eq {text : String} (read : Toml.parse? text = some doc) (decoded : ofDocument doc = .ok s) :
    parse text = (s.validate.mapError .invalid).map fun _ => s := by
  rw [parse, read]
  simp only [decoded]
  change (s.validate.mapError ParseError.invalid >>= fun _ => pure s) = _
  cases s.validate <;> rfl

/-- The settings that a document of the right types gives are valid exactly if it gives none that is refused, and else
their fault is about the first one that it gives. -/
theorem ofDocument_decides (keyed : doc.IsKeyed) (typed : WellTyped doc) :
    ∃ s, ofDocument doc = .ok s ∧ (∀ x : Setting, x.of s = (given doc x).getD x.standard) ∧
      (s.validate = .ok () ↔ ∀ x, ¬ Offends doc x) ∧
      ∀ f, s.validate = .error f → ∃ before after, Setting.checked = before ++ f.setting :: after ∧
        Offends doc f.setting ∧ ∀ y ∈ before, ¬ Offends doc y := by
  obtain ⟨s, decoded, set⟩ := ofDocument_given keyed typed
  refine ⟨s, decoded, set, ?_, ?_⟩
  · rw [validate_ok_iff_refuses]
    exact forall_congr' fun x => not_congr (offends_iff (set x)).symm
  · intro f hf
    obtain ⟨before, after, row, refused, earlier⟩ := validate_error hf
    refine ⟨before, after, row, (offends_iff (set _)).mpr refused, fun y hy => ?_⟩
    rw [offends_iff (set y)]
    exact earlier y hy

/-- A document of the right types, whose tables have no name twice, gives settings, each as the document sets it and else
as it is by default. They are valid exactly if the document gives none that is refused, and so a text with such a
document gives settings exactly then. If any is refused, what is said of the document and of its text is about the first
one in the order in which they are looked at, and the exit status is that of an error in what a user has written. -/
theorem parse_settles_given (typed : WellTyped doc) :
    (doc.IsKeyed → ∃ s, ofDocument doc = .ok s ∧ (∀ x : Setting, x.of s = (given doc x).getD x.standard) ∧
      (s.validate = .ok () ↔ ∀ x, ¬ Offends doc x) ∧
      ∀ f, s.validate = .error f → ∃ before x after, Setting.checked = before ++ x :: after ∧ Offends doc x ∧
        (∀ y ∈ before, ¬ Offends doc y) ∧ f.message = x.complaint) ∧
    ∀ text, Toml.parse? text = some doc →
      ((∃ s, parse text = .ok s) ↔ ∀ x, ¬ Offends doc x) ∧
      (∀ s, parse text = .ok s → ∀ x : Setting, x.of s = (given doc x).getD x.standard) ∧
      (∀ e, parse text = .error e → ∃ before x after, Setting.checked = before ++ x :: after ∧ Offends doc x ∧
        (∀ y ∈ before, ¬ Offends doc y) ∧ e.toFailure = .settings x.complaint ∧ e.toFailure.exitCode = 2) := by
  constructor
  · intro keyed
    obtain ⟨s, decoded, set, valid, faulty⟩ := ofDocument_decides keyed typed
    refine ⟨s, decoded, set, valid, fun f hf => ?_⟩
    obtain ⟨before, after, row, offends, earlier⟩ := faulty f hf
    exact ⟨before, _, after, row, offends, earlier, f.message_eq⟩
  · intro text read
    -- The document of a text is keyed, so the text has what its document has.
    obtain ⟨s, decoded, set, valid, faulty⟩ := ofDocument_decides (Toml.parse?_isKeyed read) typed
    rw [parse_eq read decoded, ← valid]
    cases hv : s.validate with
    | ok =>
      refine ⟨iff_of_true ⟨s, rfl⟩ rfl, ?_, ?_⟩
      · rintro s ⟨⟩
        exact set
      · rintro e ⟨⟩
    | error f =>
      refine ⟨iff_of_false ?_ ?_, ?_, ?_⟩
      · rintro ⟨s, ⟨⟩⟩
      · rintro ⟨⟩
      · rintro s ⟨⟩
      · rintro e ⟨⟩
        obtain ⟨before, after, row, offends, earlier⟩ := faulty f hv
        refine ⟨before, f.setting, after, row, offends, earlier, ?_, rfl⟩
        rw [← f.message_eq]
        rfl

/-- A document with some of the settings and another one, and a table that is not known. -/
def partialDocument : String :=
  "[build]\njobs = 4\n[timeouts]\nshutdown_grace_ms = 0\n[readiness]\nmax_interval_ms = 250\n[log]\nlevel = 'info'"

theorem partialDocument_settles_given :
    ∃ doc, Toml.parse? partialDocument = some doc ∧ WellTyped doc ∧
      ((∃ s, parse partialDocument = .ok s) ↔ ∀ x, ¬ Offends doc x) ∧
      (∀ s, parse partialDocument = .ok s → ∀ x : Setting, x.of s = (given doc x).getD x.standard) ∧
      (∀ e, parse partialDocument = .error e → ∃ before x after, Setting.checked = before ++ x :: after ∧ Offends doc x ∧
        (∀ y ∈ before, ¬ Offends doc y) ∧ e.toFailure = .settings x.complaint ∧ e.toFailure.exitCode = 2) ∧
      (parse partialDocument).toOption = some { shutdownGraceMs := 0, maxIntervalMs := 250 } := by
  have typed : ∃ doc ∈ Toml.parse? partialDocument, WellTyped doc := by decide +kernel
  obtain ⟨doc, read, typed⟩ := typed
  obtain ⟨settles, set, refused⟩ := (parse_settles_given typed).2 partialDocument read
  exact ⟨doc, read, typed, settles, set, refused, by decide +kernel⟩

end Settings
end Shakedown

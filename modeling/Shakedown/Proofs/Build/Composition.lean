import Mathlib.Data.List.Forall2
import Mathlib.Data.List.Nodup
import Shakedown.Build.Artifact
import Shakedown.Build.Command

/-!
# Build commands against look-ups

What the build step compiles is what the later steps look for. The arguments of a composed build command say
which profile, which features and which targets it is for, and can be read back without knowing the plan
(`BuildCommand.Selection.ofArgs?_composedArgs`): every flag stands at a place of its own, and the word after it is
taken as it is, even if it is spelled like a flag. The directories that a look-up goes to are those that the
flags stand for (`composed_build_reads_back`).
-/

namespace Shakedown

/-! ## The targets that a plan compiles -/

namespace Plan

variable {p : Plan} {t : Target}

/-- The server's target goes first, and the client's is left out if it is the same. -/
theorem builtTargets_eq (p : Plan) :
    p.builtTargets = [p.server.target].filter Target.isBuilt ++
      [p.client.target].filter fun t => t.isBuilt && t != p.server.target := by
  cases hs : p.server.target.isBuilt with
  | false =>
    -- A client's target that is the same as the server's is not compiled either.
    have distinct : p.client.target.isBuilt = true → p.client.target ≠ p.server.target := by
      rintro hc he
      rw [he, hs] at hc
      cases hc
    cases hc : p.client.target.isBuilt with
    | false => simp [builtTargets, hs, hc]
    | true => simp [builtTargets, hs, hc, distinct hc]
  | true =>
    cases hc : p.client.target.isBuilt with
    | false => simp [builtTargets, hs, hc]
    | true => by_cases he : p.client.target = p.server.target <;> simp [builtTargets, hs, hc, he]

theorem mem_builtTargets :
    t ∈ p.builtTargets ↔ t.isBuilt = true ∧ (t = p.server.target ∨ t = p.client.target) := by
  rw [builtTargets_eq, List.mem_append, List.mem_filter, List.mem_filter, List.mem_singleton, List.mem_singleton]
  by_cases he : t = p.server.target
  · simp [he]
  · simp [he, and_comm]

theorem nodup_builtTargets (p : Plan) : p.builtTargets.Nodup := by
  rw [builtTargets_eq, List.nodup_append]
  refine ⟨(List.nodup_singleton _).filter _, (List.nodup_singleton _).filter _, ?_⟩
  rintro t hs _ hc rfl
  have server := List.mem_singleton.mp (List.mem_filter.mp hs).1
  simp [server] at hc

theorem head?_builtTargets (h : p.server.target.isBuilt = true) : p.builtTargets.head? = some p.server.target := by
  simp [builtTargets_eq, h]

theorem builtTargets_eq_nil_iff :
    p.builtTargets = [] ↔ p.server.target.isBuilt = false ∧ p.client.target.isBuilt = false := by
  rw [List.eq_nil_iff_forall_not_mem]
  simp only [mem_builtTargets, not_and, not_or]
  constructor
  · intro h
    refine ⟨Bool.eq_false_iff.mpr fun hs => ?_, Bool.eq_false_iff.mpr fun hc => ?_⟩
    · exact (h _ hs).1 rfl
    · exact (h _ hc).2 rfl
  · rintro ⟨hs, hc⟩ t ht
    refine ⟨?_, ?_⟩
    · rintro rfl
      rw [hs] at ht
      cases ht
    · rintro rfl
      rw [hc] at ht
      cases ht

end Plan

/-! ## Where a target is looked up -/

/-- The directory at the end of a chain of directories below another one. -/
def Path.below (base : Path) (dirs : List String) : Path := dirs.foldl (fun dir name => dir.join ⟨name⟩) base

/-- Whatever files there are, a target is looked up by its name in the directory at the end of a chain of
directories below the target directory. The name is joined onto that directory like any other path. -/
def Target.IsLookedUpIn (t : Target) (profile : Profile) (dirs : List String) : Prop :=
  ∀ (v : FileView) (root : Path),
    v.locate root profile t = v.builtFile (((targetDirectory root v.targetDir).below dirs).join ⟨t.name⟩)

theorem Target.example_isLookedUpIn (name : String) (profile : Profile) :
    (Target.example name).IsLookedUpIn profile [profile.dirName, "examples"] :=
  fun _ _ => rfl

theorem Target.bin_isLookedUpIn (name : String) (profile : Profile) :
    (Target.bin name).IsLookedUpIn profile [profile.dirName] :=
  fun _ _ => rfl

/-! ## Reading arguments back -/

namespace BuildCommand

/-- The features of a build in one word, if it has any. -/
def joinedFeatures (features : List String) : Option String :=
  if features.isEmpty then none else some (",".intercalate features)

/-- What a build command is for. -/
structure Selection where
  profile : Profile
  features : Option String
  targets : List Target
deriving DecidableEq, Repr

namespace Selection

/-- The profile that arguments begin with, and the arguments after it. -/
def splitProfile : List String → Profile × List String
  | "--release" :: rest => (.release, rest)
  | args => (.debug, args)

/-- The features that arguments begin with, and the arguments after them. -/
def splitFeatures : List String → Option String × List String
  | "--features" :: joined :: rest => (some joined, rest)
  | args => (none, args)

/-- The targets that arguments name, pair by pair. -/
def targetsOf? : List String → Option (List Target)
  | [] => some []
  | "--example" :: name :: rest => (targetsOf? rest).map (.example name :: ·)
  | "--bin" :: name :: rest => (targetsOf? rest).map (.bin name :: ·)
  | _ => none

/-- What the arguments of a build command say that it is for. -/
def ofArgs? : List String → Option Selection
  | "build" :: args =>
    let (profile, args) := splitProfile args
    let (features, args) := splitFeatures args
    (targetsOf? args).map fun targets => ⟨profile, features, targets⟩
  | _ => none

theorem targetsOf?_flatMap {targets : List Target} (built : ∀ t ∈ targets, t.isBuilt = true) :
    targetsOf? (targets.flatMap targetArgs) = some targets := by
  induction targets with
  | nil => rfl
  | cons t rest ih =>
    have hrest := ih fun t ht => built t (List.mem_cons_of_mem _ ht)
    match t, built with
    | .example name, _ => simp [targetArgs, targetsOf?, hrest]
    | .bin name, _ => simp [targetArgs, targetsOf?, hrest]
    | .program path, built => cases built (.program path) (List.mem_cons_self ..)

/-- The arguments for targets are none, or begin with the flag of a target. -/
theorem targetArgs_start (targets : List Target) :
    targets.flatMap targetArgs = [] ∨
      ∃ flag name rest, (flag = "--example" ∨ flag = "--bin") ∧ targets.flatMap targetArgs = flag :: name :: rest := by
  induction targets with
  | nil => exact Or.inl rfl
  | cons t rest ih =>
    match t with
    | .example name => exact Or.inr ⟨_, _, _, Or.inl rfl, rfl⟩
    | .bin name => exact Or.inr ⟨_, _, _, Or.inr rfl, rfl⟩
    | .program path => simpa [targetArgs] using ih

/-- The features are read off before the targets, whose flags are other ones. -/
theorem splitFeatures_composed (features : List String) (targets : List Target) :
    splitFeatures ((if features.isEmpty then [] else ["--features", ",".intercalate features]) ++
      targets.flatMap targetArgs) = (joinedFeatures features, targets.flatMap targetArgs) := by
  cases hf : features.isEmpty with
  | false => simp [joinedFeatures, hf, splitFeatures]
  | true =>
    simp only [joinedFeatures, hf, if_true, List.nil_append]
    rcases targetArgs_start targets with h | ⟨flag, name, rest, rfl | rfl, h⟩
    all_goals
      rw [h]
      rfl

/-- The profile is read off before the features and the targets, whose flags are other ones. -/
theorem splitProfile_composed (profile : Profile) (features : List String) (targets : List Target) :
    let rest := (if features.isEmpty then [] else ["--features", ",".intercalate features]) ++ targets.flatMap targetArgs
    splitProfile ((if profile = .release then ["--release"] else []) ++ rest) = (profile, rest) := by
  intro rest
  cases profile with
  | release => rfl
  | debug =>
    show splitProfile rest = (.debug, rest)
    cases hf : features.isEmpty with
    | false =>
      simp only [rest, hf]
      rfl
    | true =>
      simp only [rest, hf, if_true, List.nil_append]
      rcases targetArgs_start targets with h | ⟨flag, name, others, rfl | rfl, h⟩
      all_goals
        rw [h]
        rfl

/-- What a composed command is for can be read off its arguments, whatever the names in them are. -/
theorem ofArgs?_composedArgs (b : BuildSection) {targets : List Target} (built : ∀ t ∈ targets, t.isBuilt = true) :
    ofArgs? (composedArgs b targets) = some ⟨b.profile, joinedFeatures b.features, targets⟩ := by
  simp only [composedArgs, List.append_assoc, List.cons_append, List.nil_append, ofArgs?, splitProfile_composed,
    splitFeatures_composed, targetsOf?_flatMap built, Option.map_some]

example : ofArgs? ["build", "--features", "--release", "--bin", "--example"] =
    some ⟨.debug, some "--release", [.bin "--example"]⟩ := by decide

end Selection

/-! ## Commands of plans -/

theorem ofPlan?_eq_none_iff {p : Plan} {program : String} :
    ofPlan? p program = none ↔
      p.build.skip = true ∨ p.build.args = none ∧ p.server.target.isBuilt = false ∧ p.client.target.isBuilt = false := by
  cases hs : p.build.skip with
  | true => simp [ofPlan?, hs]
  | false =>
    cases ha : p.build.args with
    | some args => simp [ofPlan?, hs, ha]
    | none => simp [ofPlan?, hs, ha, ← Plan.builtTargets_eq_nil_iff]

/-- A command that is not given by the plan is composed for the targets that the plan compiles. -/
theorem args_of_ofPlan? {p : Plan} {program : String} {c : BuildCommand} (h : ofPlan? p program = some c)
    (composed : p.build.args = none) : c.args = composedArgs p.build p.builtTargets := by
  simp only [ofPlan?, composed, Option.ite_none_left_eq_some, Option.some.injEq] at h
  obtain ⟨-, -, rfl⟩ := h
  rfl

/-- A flag and a name for a target that is looked up below the directory of a profile: an example among the
examples, and a binary in the directory itself. -/
inductive Selects (profile : Profile) (directory : String) : String × String → Target → Prop
  | ofExample {name : String} (there : (Target.example name).IsLookedUpIn profile [directory, "examples"]) :
      Selects profile directory ("--example", name) (.example name)
  | ofBin {name : String} (there : (Target.bin name).IsLookedUpIn profile [directory]) :
      Selects profile directory ("--bin", name) (.bin name)

/-- Every target has a flag and its name side by side. -/
theorem targetArgs_pairs (profile : Profile) {targets : List Target} (built : ∀ t ∈ targets, t.isBuilt = true) :
    ∃ pairs : List (String × String), targets.flatMap targetArgs = pairs.flatMap (fun pair => [pair.1, pair.2]) ∧
      List.Forall₂ (Selects profile profile.dirName) pairs targets := by
  induction targets with
  | nil => exact ⟨[], rfl, .nil⟩
  | cons t rest ih =>
    obtain ⟨pairs, hargs, selected⟩ := ih fun t ht => built t (List.mem_cons_of_mem _ ht)
    match t, built with
    | .example name, _ =>
      refine ⟨("--example", name) :: pairs, ?_, .cons (.ofExample (Target.example_isLookedUpIn name profile)) selected⟩
      simp [targetArgs, hargs]
    | .bin name, _ =>
      refine ⟨("--bin", name) :: pairs, ?_, .cons (.ofBin (Target.bin_isLookedUpIn name profile)) selected⟩
      simp [targetArgs, hargs]
    | .program path, built => cases built (.program path) (List.mem_cons_self ..)

end BuildCommand

open BuildCommand in
/-- The build step and the look-ups of a plan agree. There is no command exactly if the plan skips the build, or gives
no arguments and has nothing to compile. Composed arguments are `build`; `--release` exactly if targets are looked
up below the directory `release`; the features in one word, if there are any; and a flag and a name side by
side for every target that the plan compiles, each once and the server's first, with the flag of an example
exactly for those that are looked up among the examples. All of that can be read off the arguments alone, so
plans with the same arguments have the same profile, features and targets, whatever the names are. -/
theorem composed_build_reads_back (p : Plan) (program : String) :
    (ofPlan? p program = none ↔
      p.build.skip = true ∨ p.build.args = none ∧ p.server.target.isBuilt = false ∧ p.client.target.isBuilt = false) ∧
    (∀ c, ofPlan? p program = some c → p.build.args = none →
      (∃ profile features pairs directory,
        c.args = ["build"] ++ profile ++ features ++ pairs.flatMap (fun pair => [pair.1, pair.2]) ∧
          (profile = ["--release"] ∧ directory = "release" ∨ profile = [] ∧ directory = "debug") ∧
          (features = [] ∧ p.build.features = [] ∨
            features = ["--features", ",".intercalate p.build.features] ∧ p.build.features ≠ []) ∧
          List.Forall₂ (Selects p.build.profile directory) pairs p.builtTargets) ∧
      p.builtTargets.Nodup ∧
      (∀ t, t ∈ p.builtTargets ↔ t.isBuilt = true ∧ (t = p.server.target ∨ t = p.client.target)) ∧
      (p.server.target.isBuilt = true → p.builtTargets.head? = some p.server.target) ∧
      Selection.ofArgs? c.args = some ⟨p.build.profile, joinedFeatures p.build.features, p.builtTargets⟩) ∧
    ∀ q otherProgram c d, ofPlan? p program = some c → ofPlan? q otherProgram = some d → p.build.args = none →
      q.build.args = none → c.args = d.args →
      p.build.profile = q.build.profile ∧ joinedFeatures p.build.features = joinedFeatures q.build.features ∧
        p.builtTargets = q.builtTargets := by
  have built : ∀ {p : Plan}, ∀ t ∈ p.builtTargets, t.isBuilt = true := fun _ ht => (Plan.mem_builtTargets.mp ht).1
  -- The arguments alone tell what was selected, so that equal arguments select alike.
  have reads : ∀ {p : Plan} {program : String} {c : BuildCommand}, ofPlan? p program = some c → p.build.args = none →
      Selection.ofArgs? c.args = some ⟨p.build.profile, joinedFeatures p.build.features, p.builtTargets⟩ := by
    intro p program c hc composed
    rw [args_of_ofPlan? hc composed]
    exact Selection.ofArgs?_composedArgs p.build built
  refine ⟨ofPlan?_eq_none_iff, ?_, ?_⟩
  · intro c hc composed
    refine ⟨?_, p.nodup_builtTargets, fun _ => Plan.mem_builtTargets, Plan.head?_builtTargets, reads hc composed⟩
    obtain ⟨pairs, hargs, selected⟩ := targetArgs_pairs p.build.profile (built (p := p))
    refine ⟨if p.build.profile = .release then ["--release"] else [],
      if p.build.features.isEmpty then [] else ["--features", ",".intercalate p.build.features], pairs,
      p.build.profile.dirName, ?_, ?_, ?_, selected⟩
    · rw [args_of_ofPlan? hc composed, composedArgs, hargs]
    · cases p.build.profile with
      | debug => exact Or.inr ⟨rfl, rfl⟩
      | release => exact Or.inl ⟨rfl, rfl⟩
    · cases p.build.features with
      | nil => exact Or.inl ⟨rfl, rfl⟩
      | cons feature features => exact Or.inr ⟨rfl, List.cons_ne_nil _ _⟩
  · intro q otherProgram c d hc hd composed composed' same
    have both := reads hd composed'
    rw [← same, reads hc composed, Option.some.injEq, Selection.mk.injEq] at both
    exact both

end Shakedown

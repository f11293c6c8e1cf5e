import Shakedown.Plan.Validate
import Shakedown.Proofs.Build.Composition
import Shakedown.Proofs.Path.Places

/-!
# Where compiled targets are found

An example is found among the examples of a profile and a binary in the directory of the profile itself, but the name of
a target is joined onto that directory like any path. So whether the file lies where it should is decided by the name
alone: an absolute name leads away from the directory altogether, and one with `..` in it may lead out of it
(`Target.IsConfined`). Names without separators are all right (`Target.isConfined_of_plain`). Validation does not ask for
any of this, and a plan that it accepts can have a program anywhere as a compiled target (`artifact_astray`).
-/

namespace Shakedown

open Shakedown.Path (IsBelow IsPlainName descent)

/-- The target directory of a project root and a configured directory, which may be relative to the root. An empty one
counts as none. -/
inductive IsTargetDirectory (root : Path) : Option String → Path → Prop
  | standard : IsTargetDirectory root none (root.join ⟨"target"⟩)
  | blank : IsTargetDirectory root (some "") (root.join ⟨"target"⟩)
  | absolute {dir : String} (rooted : (Path.mk dir).isAbsolute = true) : IsTargetDirectory root (some dir) ⟨dir⟩
  | relative {dir : String} (given : dir ≠ "") (loose : (Path.mk dir).isAbsolute = false) :
      IsTargetDirectory root (some dir) (root.join ⟨dir⟩)

theorem isTargetDirectory_iff {root dir : Path} {configured : Option String} :
    IsTargetDirectory root configured dir ↔ dir = targetDirectory root configured := by
  constructor
  · intro h
    cases h with
    | standard => rfl
    | blank => rfl
    | absolute rooted =>
      have given : ∀ dir : String, (Path.mk dir).isAbsolute = true → dir.isEmpty = false := by
        intro dir h
        rw [← Bool.not_eq_true, String.isEmpty_iff]
        rintro rfl
        exact absurd h (by decide)
      simp [targetDirectory, Path.resolveAgainst, rooted, given _ rooted]
    | relative given loose => simp [targetDirectory, Path.resolveAgainst, loose, given]
  · rintro rfl
    cases configured with
    | none => exact .standard
    | some dir =>
      by_cases given : dir = ""
      · subst given
        exact .blank
      cases h : (Path.mk dir).isAbsolute with
      | true =>
        simp only [targetDirectory, Path.resolveAgainst, h, if_true, String.isEmpty_iff, given, if_false]
        exact .absolute h
      | false =>
        simp only [targetDirectory, Path.resolveAgainst, h, String.isEmpty_iff, given, if_false]
        exact .relative given h

/-! ## The name of a target decides -/

namespace Target

variable {t : Target} {dir path root : Path} {profile : Profile} {here : List String} {name : String}

/-- The directories below that of a profile in which a compiled target is looked for. -/
def subdirectories : Target → List String
  | .example _ => ["examples"]
  | _ => []

/-- A compiled target is found where it should be, for the directory of a profile: an example below the examples, and a
binary in the directory but not below the examples. -/
inductive IsAt (dir : Path) (here : List String) : Target → Path → Prop
  | example {name : String} {path : Path} (text : path.text = dir.text ++ "/examples/" ++ name)
      (inside : IsBelow (dir.leadsTo here ++ ["examples"]) (path.leadsTo here)) : IsAt dir here (.example name) path
  | bin {name : String} {path : Path} (text : path.text = dir.text ++ "/" ++ name)
      (inside : IsBelow (dir.leadsTo here) (path.leadsTo here))
      (apart : ¬ IsBelow (dir.leadsTo here ++ ["examples"]) (path.leadsTo here)) : IsAt dir here (.bin name) path

/-- The name of a compiled target is a relative path that never leaves the directory of a profile and ends below the
directory in which the target is looked for. That of a binary does not end below the examples. -/
inductive IsConfined : Target → Prop
  | example {name first : String} {rest : List String} (loose : (Path.mk name).isAbsolute = false)
      (stays : descent ["examples"] (Path.mk name).names = some ("examples" :: first :: rest)) :
      IsConfined (.example name)
  | bin {name first : String} {rest : List String} (loose : (Path.mk name).isAbsolute = false)
      (stays : descent [] (Path.mk name).names = some (first :: rest)) (apart : first = "examples" → rest = []) :
      IsConfined (.bin name)

theorem isConfined_of_plain (built : t.isBuilt = true) (h : IsPlainName t.name) : t.IsConfined := by
  cases t with
  | «example» name =>
    have hname : (Path.mk name).names = [name] := h.names
    have hup : name ≠ ".." := h.own.2.2
    have stays : descent ["examples"] (Path.mk name).names = some ["examples", name] := by
      rw [hname, descent, if_neg hup]
      rfl
    exact .example h.relative stays
  | bin name =>
    have hname : (Path.mk name).names = [name] := h.names
    have hup : name ≠ ".." := h.own.2.2
    have stays : descent [] (Path.mk name).names = some [name] := by
      rw [hname, descent, if_neg hup]
      rfl
    exact .bin h.relative stays fun _ => rfl
  | program path => cases built

/-- The file that a compiled target is looked up at, below the directory of a profile. -/
def artifact (t : Target) (dir : Path) : Path := (dir.below t.subdirectories).join ⟨t.name⟩

theorem locate_ok_iff {v : FileView} (built : t.isBuilt = true) :
    v.locate root profile t = .ok path ↔
      path = t.artifact ((targetDirectory root v.targetDir).join ⟨profile.dirName⟩) ∧ v.isFile path = true := by
  have looked : v.locate root profile t =
      v.builtFile (t.artifact ((targetDirectory root v.targetDir).join ⟨profile.dirName⟩)) := by
    cases t with
    | «example» name => rfl
    | bin name => rfl
    | program path => cases built
  rw [looked, FileView.builtFile]
  split
  · rename_i there
    constructor
    · rintro ⟨⟩
      exact ⟨rfl, there⟩
    · rintro ⟨rfl, -⟩
      rfl
  · rename_i missing
    apply iff_of_false
    · intro h
      cases h
    · rintro ⟨rfl, there⟩
      exact missing there

theorem examples_plain : IsPlainName "examples" := ⟨by decide, by decide⟩

theorem leadsTo_artifact (loose : (Path.mk t.name).isAbsolute = false) :
    (t.artifact dir).leadsTo here = Path.walk (dir.leadsTo here ++ t.subdirectories) (Path.mk t.name).names := by
  have below : (dir.below t.subdirectories).leadsTo here = dir.leadsTo here ++ t.subdirectories := by
    cases t with
    | «example» name => exact Path.leadsTo_join.trans examples_plain.leadsTo
    | bin name => exact (List.append_nil _).symm
    | program path => exact (List.append_nil _).symm
  rw [artifact, Path.leadsTo_join, below, Path.leadsTo, loose]
  rfl

theorem dirName_plain (profile : Profile) : IsPlainName profile.dirName := by
  cases profile with
  | debug => exact ⟨by decide, by decide⟩
  | release => exact ⟨by decide, by decide⟩

/-- The text of an artifact is its name after those of the directories, exactly if the name is relative. -/
theorem text_artifact_iff (t : Target) (base : Path) (profile : Profile) :
    let dir := base.join ⟨profile.dirName⟩
    (t.artifact dir).text = (dir.below t.subdirectories).text ++ "/" ++ t.name ↔ (Path.mk t.name).isAbsolute = false := by
  intro dir
  have closed : (dir.below t.subdirectories).chars ≠ [] ∧ (dir.below t.subdirectories).chars.getLast? ≠ some '/' := by
    cases t with
    | «example» name => exact Path.getLast?_join_of_plain examples_plain
    | bin name => exact Path.getLast?_join_of_plain (dirName_plain profile)
    | program path => exact Path.getLast?_join_of_plain (dirName_plain profile)
  exact Path.text_join_iff closed.1 closed.2

theorem text_examples {base : Path} :
    ((base.join ⟨profile.dirName⟩).join ⟨"examples"⟩).text ++ "/" ++ name =
      (base.join ⟨profile.dirName⟩).text ++ "/examples/" ++ name := by
  obtain ⟨hne, hl⟩ := @Path.getLast?_join_of_plain base _ (dirName_plain profile)
  rw [(Path.text_join_iff hne hl).mpr examples_plain.relative]
  simp only [String.append_assoc]
  rfl

/-- A confined name keeps its target where it should be, wherever the directory of the profile is. -/
theorem IsConfined.isAt {base : Path} (h : t.IsConfined) :
    t.IsAt (base.join ⟨profile.dirName⟩) here (t.artifact (base.join ⟨profile.dirName⟩)) := by
  cases h with
  | @«example» name first rest loose stays =>
    have text := (text_artifact_iff (.example name) base profile).mpr loose
    refine .example (text.trans text_examples) ⟨first, rest, ?_⟩
    rw [leadsTo_artifact (t := .example name) loose]
    exact (Path.walk_of_descent stays).trans (List.append_cons ..)
  | @bin name first rest loose stays apart =>
    have text := (text_artifact_iff (.bin name) base profile).mpr loose
    have place : ((Target.bin name).artifact (base.join ⟨profile.dirName⟩)).leadsTo here =
        (base.join ⟨profile.dirName⟩).leadsTo here ++ first :: rest := by
      rw [leadsTo_artifact (t := .bin name) loose]
      exact Path.walk_of_descent stays
    refine .bin text ⟨first, rest, place⟩ ?_
    rintro ⟨other, others, below⟩
    rw [place, List.append_assoc, List.singleton_append] at below
    obtain ⟨rfl, hrest⟩ := List.cons.inj (List.append_cancel_left below)
    rw [apart rfl] at hrest
    cases hrest

theorem IsAt.loose {base : Path}
    (h : t.IsAt (base.join ⟨profile.dirName⟩) here (t.artifact (base.join ⟨profile.dirName⟩))) :
    (Path.mk t.name).isAbsolute = false := by
  refine (text_artifact_iff t base profile).mp ?_
  cases t with
  | «example» name =>
    obtain ⟨text, -⟩ := h
    exact text.trans text_examples.symm
  | bin name =>
    obtain ⟨⟩ | ⟨text, -, -⟩ := h
    exact text
  | program path => cases h

theorem IsAt.inside (h : t.IsAt dir here path) : IsBelow (dir.leadsTo here ++ t.subdirectories) (path.leadsTo here) := by
  cases h with
  | «example» text inside => exact inside
  | bin text inside apart => simpa [subdirectories] using inside

/-- A target that is found where it should be for both profiles has a confined name: one that climbs above the directory
of a profile would lead to the same place from both of them. -/
theorem isConfined_of_isAt {base : Path}
    (found : ∀ profile : Profile,
      t.IsAt (base.join ⟨profile.dirName⟩) here (t.artifact (base.join ⟨profile.dirName⟩))) :
    t.IsConfined := by
  have loose := (found .debug).loose
  have dir : ∀ profile : Profile,
      (base.join ⟨profile.dirName⟩).leadsTo here = base.leadsTo here ++ [profile.dirName] :=
    fun profile => Path.leadsTo_join.trans (dirName_plain profile).leadsTo
  have inside : ∀ profile : Profile, IsBelow (base.leadsTo here ++ [profile.dirName] ++ t.subdirectories)
      (Path.walk (base.leadsTo here ++ [profile.dirName] ++ t.subdirectories) (Path.mk t.name).names) := by
    intro profile
    have below := (found profile).inside
    rwa [leadsTo_artifact loose, dir] at below
  cases hd : descent t.subdirectories (Path.mk t.name).names with
  | none =>
    -- The file would be the same one for both profiles, and lie in the directories of both.
    obtain ⟨rest, leaves⟩ := Path.walk_of_climbing hd
    have debug := inside .debug
    have release := inside .release
    rw [leaves, List.append_assoc, List.singleton_append] at debug release
    exact absurd release (Path.not_isBelow_both (by decide) debug)
  | some place =>
    obtain ⟨first, rest, below⟩ := inside .debug
    rw [Path.walk_of_descent hd, List.append_assoc _ t.subdirectories] at below
    have stays := List.append_cancel_left below
    rw [stays] at hd
    cases t with
    | «example» name => exact .example loose hd
    | bin name =>
      refine .bin loose hd ?_
      -- With a name after the examples the binary would lie below them.
      rintro rfl
      by_contra hrest
      obtain ⟨⟩ | ⟨-, -, apart⟩ := found .debug
      apply apart
      rw [leadsTo_artifact loose, dir, Path.walk_of_descent hd]
      obtain ⟨name, others, rfl⟩ := List.exists_cons_of_ne_nil hrest
      exact ⟨name, others, List.append_cons ..⟩
    | program path => cases found .debug

end Target

/-! ## Look-ups of compiled targets -/

/-- A view of files in which every path is a file that can be executed. -/
def FileView.full : FileView where
  isFile _ := true
  isExecutable _ := true
  targetDir := none
  searchPath := none
  home := none

/-- A compiled target has a confined name exactly if it is found where it should be, whenever it is found: as its name
below the directory of the profile, or below the examples there if it is an example, in the target directory of any
project root and any configured directory. Plain names are confined. An absolute name is taken for the file itself. -/
theorem artifact_confined_iff (t : Target) (built : t.isBuilt = true) :
    (t.IsConfined ↔
      ∀ (v : FileView) (root dir : Path) (profile : Profile) (here : List String) (path : Path),
        IsTargetDirectory root v.targetDir dir → v.locate root profile t = .ok path →
          t.IsAt (dir.join ⟨profile.dirName⟩) here path) ∧
    (IsPlainName t.name → t.IsConfined) ∧
    ((Path.mk t.name).isAbsolute = true →
      ∀ (v : FileView) (root : Path) (profile : Profile) (path : Path),
        v.locate root profile t = .ok path → path = ⟨t.name⟩) := by
  refine ⟨⟨?_, ?_⟩, Target.isConfined_of_plain built, ?_⟩
  · intro confined v root dir profile here path hdir found
    obtain ⟨rfl, -⟩ := (Target.locate_ok_iff built).mp found
    rw [isTargetDirectory_iff.mp hdir]
    exact confined.isAt
  · intro always
    -- It is enough to look in a view in which every file is there.
    have found : ∀ profile : Profile,
        t.IsAt ((targetDirectory ⟨"/"⟩ none).join ⟨profile.dirName⟩) []
          (t.artifact ((targetDirectory ⟨"/"⟩ none).join ⟨profile.dirName⟩)) := by
      intro profile
      exact always .full ⟨"/"⟩ _ profile [] _ .standard ((Target.locate_ok_iff built).mpr ⟨rfl, rfl⟩)
    exact Target.isConfined_of_isAt found
  · intro rooted v root profile path found
    obtain ⟨rfl, -⟩ := (Target.locate_ok_iff built).mp found
    exact Path.join_of_isAbsolute rooted

/-- A plain binary of a profile, in a target directory that is configured relative to the project root. -/
theorem artifact_confined_plain :
    (Target.bin "server").IsAt (Path.join ⟨"/work/out"⟩ ⟨"release"⟩) [] ⟨"/work/out/release/server"⟩ := by
  obtain ⟨confined, plain, -⟩ := artifact_confined_iff (.bin "server") rfl
  have name : IsPlainName "server" := ⟨by decide, by decide⟩
  refine confined.mp (plain name) { FileView.full with targetDir := some "out" } ⟨"/work"⟩ ⟨"/work/out"⟩ .release [] _ ?_ ?_
  · exact isTargetDirectory_iff.mpr (by decide +kernel)
  · decide +kernel

/-- A plan whose server is a binary with an absolute name, and whose client is a binary that is named like an example. -/
def strayPlan : Plan :=
  { name := "stray", server := { target := .bin "/bin/sh" }, client := { target := .bin "examples/client" },
    queries := [{ query := "x" }] }

/-- An accepted plan has compiled targets that are found outside of the directory of the profile, and among the
examples without being one. -/
theorem artifact_astray :
    strayPlan.validate = .ok () ∧
      FileView.full.locate ⟨"/work"⟩ .debug strayPlan.server.target = .ok ⟨"/bin/sh"⟩ ∧
      ¬ IsBelow (Path.leadsTo [] ⟨"/work/target/debug"⟩) (Path.leadsTo [] ⟨"/bin/sh"⟩) ∧
      FileView.full.locate ⟨"/work"⟩ .debug strayPlan.client.target = .ok ⟨"/work/target/debug/examples/client"⟩ ∧
      IsBelow (Path.leadsTo [] ⟨"/work/target/debug/examples"⟩)
        (Path.leadsTo [] ⟨"/work/target/debug/examples/client"⟩) := by
  have profileDir : Path.leadsTo [] ⟨"/work/target/debug"⟩ = ["work", "target", "debug"] := by decide +kernel
  have shell : Path.leadsTo [] ⟨"/bin/sh"⟩ = ["bin", "sh"] := by decide +kernel
  have examples : Path.leadsTo [] ⟨"/work/target/debug/examples"⟩ = ["work", "target", "debug", "examples"] := by
    decide +kernel
  have client : Path.leadsTo [] ⟨"/work/target/debug/examples/client"⟩ =
      ["work", "target", "debug", "examples", "client"] := by decide +kernel
  refine ⟨by decide, by decide +kernel, ?_, by decide +kernel, ?_⟩
  · rw [profileDir, shell]
    rintro ⟨name, rest, h⟩
    simp at h
  · rw [examples, client]
    exact ⟨"client", [], rfl⟩

end Shakedown

import Shakedown.Plan.Root
import Shakedown.Proofs.Path.Components

/-!
# Which directory the project root is

Every process of a run is started in the project root. It comes from one of four places, the first that there is: it is
given explicitly, or by the plan, or it is the nearest directory with a manifest from the current one upwards, or it is
the current one (`Plan.IsRoot`). It is absolute whenever the current directory is, and only the search upwards looks at
files (`Plan.resolveRoot_settles`).
-/

namespace Shakedown.Plan

open Shakedown.Path (IsNearest climb walk)

variable {isFile : Path → Bool} {cwd : Path} {explicit planRoot planPath : Option Path}

/-- Whether a directory holds a manifest. -/
def isProject (isFile : Path → Bool) (dir : Path) : Bool := isFile (dir.join Path.manifest)

/-- What the project root is for a current directory, an explicit root, the root of a plan and the path of its file. -/
inductive IsRoot (isFile : Path → Bool) (cwd : Path) : Option Path → Option Path → Option Path → Path → Prop
  | explicit {root : Path} {planRoot planPath : Option Path}
      (place : (cwd.resolveAgainst root).leadsTo [] = root.leadsTo (cwd.leadsTo [])) :
      IsRoot isFile cwd (some root) planRoot planPath (cwd.resolveAgainst root)
  | besidePlan {root file dir : Path} (parent : file.parent = some dir) (names : dir.names = file.names.dropLast)
      (place : ((cwd.resolveAgainst dir).resolveAgainst root).leadsTo [] =
        root.leadsTo (walk (if file.isAbsolute then [] else cwd.leadsTo []) file.names.dropLast)) :
      IsRoot isFile cwd none (some root) (some file) ((cwd.resolveAgainst dir).resolveAgainst root)
  | notBeside {root : Path} {planPath : Option Path} (nowhere : ∀ file ∈ planPath, file.parent = none ∧ file.names = [])
      (place : (cwd.resolveAgainst root).leadsTo [] = root.leadsTo (cwd.leadsTo [])) :
      IsRoot isFile cwd none (some root) planPath (cwd.resolveAgainst root)
  | above {planPath : Option Path} {n : Nat} {dir : Path} (nearest : IsNearest (isProject isFile) cwd n dir)
      (names : dir.names = cwd.names.take (cwd.names.length - n)) : IsRoot isFile cwd none none planPath dir
  | lastResort {planPath : Option Path} (nowhere : ∀ n dir, climb n cwd = some dir → isProject isFile dir = false) :
      IsRoot isFile cwd none none planPath cwd

theorem isAbsolute_baseDir (absolute : cwd.isAbsolute = true) : (baseDir cwd planPath).isAbsolute = true := by
  unfold baseDir
  split
  · exact Path.isAbsolute_resolveAgainst absolute
  · exact absolute

/-- The root that a plan gives. -/
theorem isRoot_of_plan (root : Path) :
    IsRoot isFile cwd none (some root) planPath ((baseDir cwd planPath).resolveAgainst root) := by
  unfold baseDir
  split
  · rename_i dir found
    obtain ⟨file, rfl, parent⟩ := Option.bind_eq_some_iff.mp found
    have names := Path.names_parent parent
    have way : dir.leadsTo (cwd.leadsTo []) =
        walk (if file.isAbsolute then [] else cwd.leadsTo []) file.names.dropLast := by
      rw [Path.leadsTo, names, Path.isAbsolute_parent parent]
    refine .besidePlan parent names ?_
    rw [Path.leadsTo_resolveAgainst, Path.leadsTo_resolveAgainst, way]
  · -- There is no plan file, or its path has no directory.
    rename_i none
    refine .notBeside ?_ Path.leadsTo_resolveAgainst
    rintro file ⟨⟩
    exact ⟨none, (Path.parent_eq_none_iff.mp none).1⟩

/-- The root that is found without being given. -/
theorem isRoot_of_search : IsRoot isFile cwd none none planPath ((Path.findProjectRoot isFile cwd).getD cwd) := by
  unfold Path.findProjectRoot
  cases h : cwd.ancestors.find? fun dir => isFile (dir.join Path.manifest) with
  | some dir =>
    obtain ⟨n, nearest⟩ := Path.find?_ancestors h
    exact .above nearest (Path.names_climb nearest.reached)
  | none => exact .lastResort fun n dir reached => Path.find?_ancestors_eq_none h reached

theorem isAbsolute_findProjectRoot (absolute : cwd.isAbsolute = true) :
    ((Path.findProjectRoot isFile cwd).getD cwd).isAbsolute = true := by
  unfold Path.findProjectRoot
  cases h : cwd.ancestors.find? fun dir => isFile (dir.join Path.manifest) with
  | some dir =>
    obtain ⟨n, nearest⟩ := Path.find?_ancestors h
    rw [Option.getD_some, Path.isAbsolute_climb nearest.reached, absolute]
  | none => exact absolute

/-- From an absolute current directory the root is absolute, and it is what the first source of it says. Which files
there are matters only if neither the caller nor the plan gives a root, and an absolute one of the plan is the root
wherever the plan and the runner are. -/
theorem resolveRoot_settles (absolute : cwd.isAbsolute = true) (isFile : Path → Bool)
    (explicit planRoot planPath : Option Path) :
    (resolveRoot isFile cwd explicit planRoot planPath).isAbsolute = true ∧
    IsRoot isFile cwd explicit planRoot planPath (resolveRoot isFile cwd explicit planRoot planPath) ∧
    (explicit.isSome ∨ planRoot.isSome → ∀ other : Path → Bool,
      resolveRoot other cwd explicit planRoot planPath = resolveRoot isFile cwd explicit planRoot planPath) ∧
    (explicit = none → ∀ root, planRoot = some root → root.isAbsolute = true → ∀ (there : Path) (path : Option Path),
      resolveRoot isFile there explicit planRoot path = root) := by
  cases explicit with
  | some root =>
    refine ⟨Path.isAbsolute_resolveAgainst absolute, .explicit Path.leadsTo_resolveAgainst, ?_, ?_⟩
    · intro _ other
      rfl
    · rintro ⟨⟩
  | none =>
    cases planRoot with
    | some root =>
      refine ⟨Path.isAbsolute_resolveAgainst (isAbsolute_baseDir absolute), isRoot_of_plan root, ?_, ?_⟩
      · intro _ other
        rfl
      · rintro _ root ⟨⟩ rooted there path
        exact if_pos rooted
    | none =>
      refine ⟨isAbsolute_findProjectRoot absolute, isRoot_of_search, ?_, ?_⟩
      · rintro (h | h)
        · cases h
        · cases h
      · rintro _ root ⟨⟩

/-- A manifest two directories above the current one, and a plan with and without a root of its own. -/
theorem resolveRoot_settles_below_manifest :
    (Path.mk "/work/app/src").isAbsolute = true ∧
    IsRoot (fun p => p = ⟨"/work/Cargo.toml"⟩) ⟨"/work/app/src"⟩ none none (some ⟨"plans/smoke.yaml"⟩) ⟨"/work"⟩ ∧
    IsRoot (fun p => p = ⟨"/work/Cargo.toml"⟩) ⟨"/work/app/src"⟩ none (some ⟨"../fixture"⟩) (some ⟨"plans/smoke.yaml"⟩)
      ⟨"/work/app/src/plans/../fixture"⟩ := by
  have absolute : (Path.mk "/work/app/src").isAbsolute = true := by decide
  have settles := resolveRoot_settles absolute fun p => p = ⟨"/work/Cargo.toml"⟩
  have found := (settles none none (some ⟨"plans/smoke.yaml"⟩)).2.1
  have given := (settles none (some ⟨"../fixture"⟩) (some ⟨"plans/smoke.yaml"⟩)).2.1
  have to_manifest : resolveRoot (fun p => p = ⟨"/work/Cargo.toml"⟩) ⟨"/work/app/src"⟩ none none
      (some ⟨"plans/smoke.yaml"⟩) = ⟨"/work"⟩ := by decide +kernel
  have beside_plan : resolveRoot (fun p => p = ⟨"/work/Cargo.toml"⟩) ⟨"/work/app/src"⟩ none (some ⟨"../fixture"⟩)
      (some ⟨"plans/smoke.yaml"⟩) = ⟨"/work/app/src/plans/../fixture"⟩ := by decide +kernel
  rw [to_manifest] at found
  rw [beside_plan] at given
  exact ⟨absolute, found, given⟩

end Shakedown.Plan

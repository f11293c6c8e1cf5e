import Shakedown.Build.Artifact
import Shakedown.Proofs.Path.Components
import Shakedown.Proofs.Text.Splitting

/-!
# Where a program comes from

A program is told by a path or by a name, and which of the two it is is decided by counting components. A separator
alone need not make two of them: `x/` and `./` are one component each, and so they are looked up like names. Nothing is
ever found for them, for wherever they are looked up they ask for a directory
(`FileView.resolveProgram_of_separator`). A text without separators is always looked up, and what is found is the first
hit on the search path (`FileView.resolveProgram_of_name`). The current directory matters to neither if the root and the
search path are absolute (`resolveProgram_there`).
-/

namespace Shakedown

namespace FileView

variable {v w : FileView} {root program r : Path}

/-- No path that ends in a separator or in a `.` after one is a regular file. -/
def DirectoriesOnly (v : FileView) : Prop := ∀ p : Path, p.EndsIdle → v.isFile p = false

/-- Whether a path is a regular file that may be executed. -/
def isProgram (v : FileView) (p : Path) : Bool := v.isFile p && v.isExecutable p

/-- The directories of the search path, if there is one. -/
def programDirs (v : FileView) : List Path := (v.searchPath.map (searchDirs v.home)).getD []

/-- The first place on the search path that has a program of a name. -/
structure IsFirstHit (v : FileView) (name r : Path) (before : List Path) (dir : Path) (after : List Path) : Prop where
  searched : v.programDirs = before ++ dir :: after
  place : r = dir.join name
  here : v.isProgram r = true
  earlier : ∀ d ∈ before, v.isProgram (d.join name) = false

/-- Two views have the same search path, and see the same programs of a name on it. -/
structure AgreeOnSearch (v w : FileView) (name : Path) : Prop where
  searchPath : w.searchPath = v.searchPath
  home : w.home = v.home
  programs : ∀ dir ∈ v.programDirs, w.isProgram (dir.join name) = v.isProgram (dir.join name)

/-! ## Names -/

theorem lookUp_eq_ok_iff_find? :
    v.lookUp program.text = .ok r ↔
      ∃ dir, v.programDirs.find? (fun d => v.isProgram (d.join program)) = some dir ∧ dir.join program = r := by
  unfold lookUp programDirs
  cases v.searchPath with
  | none => simp
  | some searchPath =>
    have test : ((fun p => v.isFile p && v.isExecutable p) ∘ fun dir => dir.join ⟨program.text⟩) =
        fun d : Path => v.isProgram (d.join program) := rfl
    simp only [List.find?_map, test, Option.map_some, Option.getD_some]
    cases (searchDirs v.home searchPath).find? fun d => v.isProgram (d.join program) with
    | none => simp
    | some dir => simp

/-- What a look-up finds is the first hit. -/
theorem lookUp_eq_ok_iff :
    v.lookUp program.text = .ok r ↔ ∃ before dir after, v.IsFirstHit program r before dir after := by
  rw [lookUp_eq_ok_iff_find?]
  constructor
  · rintro ⟨dir, h, rfl⟩
    obtain ⟨here, before, after, row, earlier⟩ := List.find?_eq_some_iff_append.mp h
    exact ⟨before, dir, after, row, rfl, here, fun d hd => by simpa using earlier d hd⟩
  · rintro ⟨before, dir, after, hit⟩
    refine ⟨dir, List.find?_eq_some_iff_append.mpr ⟨?_, before, after, hit.searched, ?_⟩, hit.place.symm⟩
    · rw [← hit.place]
      exact hit.here
    · intro d hd
      simp [hit.earlier d hd]

/-- A look-up is decided by what is on the search path. -/
theorem lookUp_congr (agree : v.AgreeOnSearch w program) : w.lookUp program.text = v.lookUp program.text := by
  have programs := agree.programs
  unfold lookUp
  rw [agree.searchPath, agree.home]
  unfold programDirs at programs
  cases hs : v.searchPath with
  | none => rfl
  | some searchPath =>
    rw [hs, Option.map_some, Option.getD_some] at programs
    -- Only the candidates are looked at, so agreement on them is enough.
    have same : (((searchDirs v.home searchPath).map fun dir => dir.join ⟨program.text⟩).find? fun p =>
          w.isFile p && w.isExecutable p) =
        ((searchDirs v.home searchPath).map fun dir => dir.join ⟨program.text⟩).find? fun p =>
          v.isFile p && v.isExecutable p := by
      rw [← List.head?_filter, ← List.head?_filter]
      congr 1
      apply List.filter_congr
      intro p hp
      obtain ⟨dir, hd, rfl⟩ := List.mem_map.mp hp
      exact programs dir hd
    dsimp only
    rw [same]

/-- A text without separators is looked up. -/
theorem resolveProgram_of_name (whole : '/' ∉ program.chars) : v.resolveProgram root program = v.lookUp program.text := by
  obtain ⟨few, loose⟩ := Path.componentCount_of_whole whole
  rw [resolveProgram, if_neg]
  simp [loose, Nat.not_lt.mpr few]

/-! ## Paths -/

/-- What is looked up for a text with separators of one component is never found. -/
theorem lookUp_ne_ok_of_endsIdle (lawful : v.DirectoriesOnly) (idle : program.EndsIdle) :
    v.lookUp program.text ≠ .ok r := by
  intro h
  obtain ⟨before, dir, after, hit⟩ := lookUp_eq_ok_iff.mp h
  have here := hit.here
  rw [hit.place, isProgram, lawful _ idle.join] at here
  cases here

/-- One component and a separator: the text asks for a directory wherever it is looked up. -/
theorem endsIdle_of_searched (sep : '/' ∈ program.chars)
    (searched : ¬ (1 < program.componentCount || program.isAbsolute) = true) : program.EndsIdle := by
  rw [Bool.not_eq_true, Bool.or_eq_false_iff, decide_eq_false_iff_not, Nat.not_lt] at searched
  exact Path.endsIdle_of_componentCount sep searched.2 searched.1

/-- A text with a separator is found only as a path against the root, and not by a look-up. -/
theorem resolveProgram_of_separator (lawful : v.DirectoriesOnly) (sep : '/' ∈ program.chars)
    (h : v.resolveProgram root program = .ok r) :
    (1 < program.componentCount || program.isAbsolute) = true ∧ r = root.resolveAgainst program ∧ v.isFile r = true := by
  unfold resolveProgram at h
  split at h
  · rename_i direct
    dsimp only at h
    split at h
    · rename_i here
      cases h
      exact ⟨direct, rfl, here⟩
    · cases h
  · rename_i searched
    exact absurd h (lookUp_ne_ok_of_endsIdle lawful (endsIdle_of_searched sep searched))

/-- What is a regular file against the root is not a text that is looked up. -/
theorem direct_of_isFile (lawful : v.DirectoriesOnly) (sep : '/' ∈ program.chars)
    (here : v.isFile (root.resolveAgainst program) = true) :
    (1 < program.componentCount || program.isAbsolute) = true := by
  apply Decidable.byContradiction
  intro searched
  have idle := endsIdle_of_searched sep searched
  rw [Path.resolveAgainst_eq_join, lawful _ idle.join] at here
  cases here

theorem resolveProgram_of_isFile (direct : (1 < program.componentCount || program.isAbsolute) = true)
    (here : w.isFile (root.resolveAgainst program) = true) :
    w.resolveProgram root program = .ok (root.resolveAgainst program) := by
  rw [resolveProgram, if_pos direct]
  simp [here]

end FileView

/-! ## Current directories -/

/-- What is seen from each directory that may be the current one. A path that asks for a directory is no regular file;
an absolute path is the same from everywhere, and so are the search path and the home directory. -/
structure IsFileSystem {δ : Type} (seen : δ → FileView) : Prop where
  directories : ∀ here, (seen here).DirectoriesOnly
  isFile : ∀ here there (p : Path), p.isAbsolute = true → (seen there).isFile p = (seen here).isFile p
  isExecutable : ∀ here there (p : Path), p.isAbsolute = true → (seen there).isExecutable p = (seen here).isExecutable p
  searchPath : ∀ here there, (seen there).searchPath = (seen here).searchPath
  home : ∀ here there, (seen there).home = (seen here).home

/-- All entries of the search path are absolute. -/
def FileView.SearchesAbsolute (v : FileView) : Prop :=
  ∀ searchPath ∈ v.searchPath, ∀ entry ∈ searchPath.splitOn ":", (Path.mk entry).isAbsolute = true

variable {δ : Type} {seen : δ → FileView} {here there : δ} {root program : Path}

theorem expandHome_of_isAbsolute {home : Option String} {dir : Path} (h : dir.isAbsolute = true) :
    expandHome home dir = dir := by
  have rooted : dir.split.1 = .root := by simpa [Path.isAbsolute_eq] using h
  unfold expandHome
  split
  · rename_i name _
    rw [rooted] at name
    cases name
  · rfl

theorem FileView.SearchesAbsolute.isAbsolute {v : FileView} (h : v.SearchesAbsolute) {dir : Path}
    (hd : dir ∈ v.programDirs) : dir.isAbsolute = true := by
  unfold programDirs at hd
  cases hs : v.searchPath with
  | none =>
    rw [hs] at hd
    cases hd
  | some searchPath =>
    rw [hs] at hd
    obtain ⟨entry, he, rfl⟩ := List.mem_map.mp hd
    have absolute := h searchPath hs entry he
    rw [expandHome_of_isAbsolute absolute]
    exact absolute

/-- With an absolute search path a name is looked up alike from everywhere. -/
theorem lookUp_there (fs : IsFileSystem seen) (searches : (seen here).SearchesAbsolute) :
    (seen there).lookUp program.text = (seen here).lookUp program.text := by
  -- Below an absolute directory every place is absolute, so that both see the same there.
  have agree : (seen here).AgreeOnSearch (seen there) program := by
    refine ⟨fs.searchPath here there, fs.home here there, ?_⟩
    intro dir hd
    have absolute := @Path.isAbsolute_join_of_base dir program (searches.isAbsolute hd)
    rw [FileView.isProgram, FileView.isProgram, fs.isFile here there _ absolute, fs.isExecutable here there _ absolute]
  exact FileView.lookUp_congr agree

/-- With an absolute root and an absolute search path, a program is found alike from everywhere. -/
theorem resolveProgram_there (fs : IsFileSystem seen) (rooted : root.isAbsolute = true)
    (searches : (seen here).SearchesAbsolute) :
    (seen there).resolveProgram root program = (seen here).resolveProgram root program := by
  have absolute := @Path.isAbsolute_resolveAgainst root program rooted
  unfold FileView.resolveProgram
  dsimp only
  rw [fs.isFile here there _ absolute, lookUp_there fs searches]

/-- A program that is given by a text with a separator is found exactly if that path against the root is a regular file,
and it is that file, whatever the search path has. A program without one is found exactly if there is a first hit on the
search path, and it is that hit, for every root and whatever else there is. The current directory decides neither if the
root and the search path are absolute. -/
theorem resolveProgram_settles (fs : IsFileSystem seen) (here : δ) (root program : Path) :
    ('/' ∈ program.chars → ∀ r,
      ((seen here).resolveProgram root program = .ok r ↔ r = root.resolveAgainst program ∧ (seen here).isFile r = true) ∧
      ((seen here).resolveProgram root program = .ok r →
        ∀ w : FileView, w.isFile r = true → w.resolveProgram root program = .ok r)) ∧
    ('/' ∉ program.chars →
      (∀ r, (seen here).resolveProgram root program = .ok r ↔
        ∃ before dir after, (seen here).IsFirstHit program r before dir after) ∧
      ∀ (w : FileView) (other : Path), (seen here).AgreeOnSearch w program →
        w.resolveProgram other program = (seen here).resolveProgram root program) ∧
    (root.isAbsolute = true → (seen here).SearchesAbsolute → ∀ there,
      (seen there).resolveProgram root program = (seen here).resolveProgram root program) := by
  refine ⟨?_, ?_, ?_⟩
  · intro sep r
    refine ⟨⟨?_, ?_⟩, ?_⟩
    · intro h
      -- Such a program is tried against the root only, and found there as a regular file.
      exact (FileView.resolveProgram_of_separator (fs.directories here) sep h).2
    · rintro ⟨rfl, isFile⟩
      exact FileView.resolveProgram_of_isFile (FileView.direct_of_isFile (fs.directories here) sep isFile) isFile
    · intro h w hw
      obtain ⟨direct, rfl, -⟩ := FileView.resolveProgram_of_separator (fs.directories here) sep h
      exact FileView.resolveProgram_of_isFile direct hw
  · intro whole
    constructor
    · intro r
      rw [FileView.resolveProgram_of_name whole]
      exact FileView.lookUp_eq_ok_iff
    · intro w other agree
      rw [FileView.resolveProgram_of_name whole, FileView.resolveProgram_of_name whole, FileView.lookUp_congr agree]
  · intro rooted searches there
    exact resolveProgram_there fs rooted searches

/-- Two programs, one of them on the search path, seen from a directory. -/
def twoPrograms (here : Path) : FileView where
  isFile p := here.resolveAgainst p ∈ [⟨"/srv/tools/probe"⟩, ⟨"/usr/bin/env"⟩]
  isExecutable p := here.resolveAgainst p ∈ [⟨"/srv/tools/probe"⟩, ⟨"/usr/bin/env"⟩]
  targetDir := none
  searchPath := some "/bin:/usr/bin"
  home := none

theorem isFileSystem_twoPrograms : IsFileSystem twoPrograms where
  directories here p idle := by
    apply decide_eq_false
    intro h
    have idle : (here.resolveAgainst p).EndsIdle := by
      rw [Path.resolveAgainst_eq_join]
      exact idle.join
    rcases List.mem_cons.mp h with h | h
    · rw [h] at idle
      exact absurd idle (by unfold Path.EndsIdle; decide)
    · rw [List.mem_singleton.mp h] at idle
      exact absurd idle (by unfold Path.EndsIdle; decide)
  isFile here there p rooted := by
    simp [twoPrograms, Path.resolveAgainst, rooted]
  isExecutable here there p rooted := by
    simp [twoPrograms, Path.resolveAgainst, rooted]
  searchPath here there := rfl
  home here there := rfl

theorem splitOn_search : "/bin:/usr/bin".splitOn ":" = ["/bin", "/usr/bin"] :=
  (Text.splitOn_singleton ':' "/bin:/usr/bin").trans (by decide)

theorem twoPrograms_settle :
    IsFileSystem twoPrograms ∧
    (∀ w : FileView, w.isFile ⟨"/srv/tools/probe"⟩ = true →
      w.resolveProgram ⟨"/srv"⟩ ⟨"tools/probe"⟩ = .ok ⟨"/srv/tools/probe"⟩) ∧
    (∃ before dir after, (twoPrograms ⟨"/home"⟩).IsFirstHit ⟨"env"⟩ ⟨"/usr/bin/env"⟩ before dir after) ∧
    ∀ there, (twoPrograms there).resolveProgram ⟨"/srv"⟩ ⟨"env"⟩ = .ok ⟨"/usr/bin/env"⟩ := by
  have probe := (resolveProgram_settles isFileSystem_twoPrograms ⟨"/home"⟩ ⟨"/srv"⟩ ⟨"tools/probe"⟩).1
  have env := (resolveProgram_settles isFileSystem_twoPrograms ⟨"/home"⟩ ⟨"/srv"⟩ ⟨"env"⟩).2
  have dirs : (twoPrograms ⟨"/home"⟩).programDirs = [⟨"/bin"⟩, ⟨"/usr/bin"⟩] := by
    change ("/bin:/usr/bin".splitOn ":").map _ = _
    rw [splitOn_search]
    decide
  have found : (twoPrograms ⟨"/home"⟩).resolveProgram ⟨"/srv"⟩ ⟨"env"⟩ = .ok ⟨"/usr/bin/env"⟩ := by
    rw [FileView.resolveProgram_of_name (by decide), FileView.lookUp_eq_ok_iff_find?, dirs]
    exact ⟨⟨"/usr/bin"⟩, by decide, by decide⟩
  refine ⟨isFileSystem_twoPrograms, ?_, ?_, ?_⟩
  · exact (probe (by decide) ⟨"/srv/tools/probe"⟩).2 (by rfl)
  · exact ((env.1 (by decide)).1 _).mp found
  · intro there
    rw [← found]
    refine env.2 (by decide) ?_ there
    rintro searchPath ⟨⟩
    rw [splitOn_search]
    decide

end Shakedown

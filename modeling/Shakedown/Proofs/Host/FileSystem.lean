import Shakedown.Host.Outside
import Shakedown.Proofs.Build.Programs
import Shakedown.Proofs.Plan.Validity

/-!
# The files of a host as a file system

What programs are found by relies on a few laws of file systems, and the files of a host have them wherever the runner
is (`World.isFileSystem`). A walk that ends in a separator or a `.` ends in a directory, for that last step is one
(`Files.isDirectory_of_walk`), and a walk of an absolute path starts at the root.
-/

namespace Shakedown.Host

namespace Files

variable {f : Files} {here place : Place} {way rest : List String} {path last : String}

/-- To walk on is to walk from where one has come to. -/
theorem walk_append : f.walk here (way ++ rest) = f.walk here way >>= fun place => f.walk place rest := by
  induction way generalizing here with
  | nil => rfl
  | cons segment way ih =>
    -- An empty segment only asks for the directory, a named one also for its entry.
    by_cases h : segment = ""
    · subst h
      rw [List.cons_append, walk, walk]
      cases f.entries (here.headD 0) with
      | error e => rfl
      | ok es => exact ih
    · rw [List.cons_append, walk, walk]
      cases f.searchable (here.headD 0) with
      | error e => rfl
      | ok es =>
        simp only [bind, Except.bind]
        split
        · exact ih
        split
        · exact ih
        split
        · rfl
        split
        · exact ih
        · rfl
      all_goals exact h

theorem isFile_of_entries {i : Nat} {es : List (String × Nat)} (h : f.entries i = .ok es) {n : Node}
    (hn : f.node? i = some n) : n.isFile = false := by
  unfold entries at h
  rw [hn] at h
  rcases n with ⟨content, mode⟩
  cases content with
  | directory es => rfl
  | _ => cases h

theorem entries_of_searchable {i : Nat} {es : List (String × Nat)} (h : f.searchable i = .ok es) :
    f.entries i = .ok es := by
  unfold searchable at h
  unfold entries
  split at h
  · rename_i es mode found
    split at h
    · exact h
    · cases h
  · cases h

/-- A walk whose last step is idle comes to no regular file. -/
theorem isFile_of_walk (idle : last = "" ∨ last = ".") (h : f.walk here (way ++ [last]) = .ok place) {n : Node}
    (hn : f.node? (place.headD 0) = some n) : n.isFile = false := by
  rw [walk_append, Except.bind_ok_iff] at h
  obtain ⟨before, -, h⟩ := h
  rcases idle with rfl | rfl
  · rw [walk, Except.bind_ok_iff] at h
    obtain ⟨es, he, ⟨⟩⟩ := h
    exact isFile_of_entries he hn
  · rw [walk, Except.bind_ok_iff] at h
    · obtain ⟨es, he, ⟨⟩⟩ := h
      exact isFile_of_entries (entries_of_searchable he) hn
    · simp

/-- A path that asks for a directory is walked with an idle step at the end. -/
theorem steps_of_endsIdle {p : Path} (h : p.EndsIdle) :
    ∃ way last, steps p.text = way ++ [last] ∧ (last = "" ∨ last = ".") := by
  unfold steps
  dsimp only
  split
  · exact ⟨_, "", rfl, Or.inl rfl⟩
  · rename_i loose
    rcases h with h | ⟨front, h⟩
    · -- A separator at the end was asked for before.
      have closed : p.text.endsWith "/" = true := by
        rw [← String.endsWith_toSlice, String.Slice.endsWith_string_iff, String.copy_toSlice]
        exact h
      exact absurd closed loose
    · have segments : segments p.text = Path.segmentsFrom [] front ++ ["."] := by
        rw [Files.segments, Text.splitOn_separator]
        change Path.segmentsFrom [] p.chars = _
        rw [← h]
        exact Path.segmentsFrom_append
      refine ⟨(Path.segmentsFrom [] front).filter (· != ""), ".", ?_, Or.inr rfl⟩
      rw [segments, List.filter_append]
      rfl

theorem isFile_of_endsIdle {p : Path} (h : p.EndsIdle) : f.isFile here p.text = false := by
  obtain ⟨way, last, steps, idle⟩ := steps_of_endsIdle h
  unfold isFile
  split
  · rename_i n found
    unfold lookUp at found
    obtain ⟨place, reached, found⟩ := Except.bind_ok_iff.mp found
    obtain ⟨_, -, walked⟩ := Except.bind_ok_iff.mp reached
    rw [steps] at walked
    split at found
    · rename_i m hm
      cases found
      exact isFile_of_walk idle walked hm
    · cases found
  · rfl

/-- An absolute path leads to the same place from everywhere. -/
theorem lookUp_of_isAbsolute {there : Place} {p : Path} (h : p.isAbsolute = true) :
    f.lookUp there p.text = f.lookUp here p.text := by
  have rooted : p.text.startsWith "/" = true := by
    rw [String.startsWith_string_iff]
    obtain ⟨rest, hr⟩ := List.head?_eq_some_iff.mp (Path.isAbsolute_iff.mp h)
    exact ⟨rest, hr.symm⟩
  -- The current directory is asked for only where a relative path starts.
  unfold lookUp find anchor
  rw [if_pos rooted, if_pos rooted]

end Files

/-- Wherever the runner is on a host, it sees the files as those of a file system. -/
theorem World.isFileSystem [RunnerProgram] (w : World) :
    IsFileSystem fun here : Place => ({ w with here := here } : World).view where
  directories here p idle := Files.isFile_of_endsIdle idle
  isFile here there p rooted := by
    unfold World.view Files.isFile
    dsimp only
    rw [@Files.lookUp_of_isAbsolute _ here there p rooted]
  isExecutable here there p rooted := by
    unfold World.view Files.isExecutable
    dsimp only
    rw [@Files.lookUp_of_isAbsolute _ here there p rooted]
  searchPath here there := rfl
  home here there := rfl

end Shakedown.Host

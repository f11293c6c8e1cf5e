import Shakedown.Proofs.Host.FileSystem
import Shakedown.Proofs.Path.Ancestors
import Shakedown.Proofs.Plan.Root

/-!
# The project root on a host

To look up the path of a directory with a name joined onto it is to look for that entry of the directory
(`Files.lookUp_join`): the separators at the end of the directory's path make no difference, and the empty path is the
current directory. So the project root is the nearest ancestor whose directory has a regular file as its entry
`Cargo.toml`, while a directory of that name is passed by (`Files.project_root_is_nearest`).
-/

namespace Shakedown.Host

open Shakedown.Path (IsPlainName IsNearest climb)

theorem Node.isFile_of_isDirectory {n : Node} (h : n.isDirectory = true) : n.isFile = false := by
  rcases n with ⟨content, mode⟩
  cases content with
  | directory entries => rfl
  | _ => cases h

namespace Files

variable {f : Files} {here place : Place} {dir : Path} {name : String} {node : Node}

/-! ## Entries of a directory -/

/-- The directory of a path has an entry of a name, and the path with that name is one that a system call takes. -/
structure HasEntry (f : Files) (here : Place) (dir : Path) (name : String) (node : Node) : Prop where
  taken : checkPath (dir.join ⟨name⟩).text = .ok ()
  listed : ∃ place entries i, f.walk (anchor here dir.text) (steps dir.text) = .ok place ∧
    f.searchable (place.headD 0) = .ok entries ∧ entries.lookup name = some i ∧ f.node? i = some node

theorem startsWith_separator (p : Path) : p.text.startsWith "/" = p.isAbsolute := by
  rw [Bool.eq_iff_iff, String.startsWith_string_iff, Path.isAbsolute_iff, List.head?_eq_some_iff]
  constructor
  · rintro ⟨rest, h⟩
    exact ⟨rest, h.symm⟩
  · rintro ⟨rest, h⟩
    exact ⟨rest, h.symm⟩

theorem endsWith_separator (p : Path) : p.text.endsWith "/" = true ↔ p.chars.getLast? = some '/' := by
  rw [← String.endsWith_toSlice, String.Slice.endsWith_string_iff, String.copy_toSlice, List.getLast?_eq_some_iff]
  constructor
  · rintro ⟨front, h⟩
    exact ⟨front, h.symm⟩
  · rintro ⟨front, h⟩
    exact ⟨front, h.symm⟩

theorem anchor_join (h : IsPlainName name) : anchor here (dir.join ⟨name⟩).text = anchor here dir.text := by
  rw [anchor, anchor, startsWith_separator, startsWith_separator, Path.isAbsolute_join h.relative]

/-- The segments that are walked, before the question for a directory that a separator at the end is. -/
theorem segments_filter (p : Path) :
    (segments p.text).filter (· != "") = (Path.segmentsFrom [] p.chars).filter (· != "") := by
  rw [segments, Text.splitOn_separator]
  rfl

theorem steps_of_closed (h : dir.chars.getLast? = some '/') :
    steps dir.text = (Path.segmentsFrom [] dir.chars).filter (· != "") ++ [""] := by
  rw [steps, segments_filter, if_pos ((endsWith_separator dir).mpr h)]

theorem steps_of_open (h : dir.chars.getLast? ≠ some '/') :
    steps dir.text = (Path.segmentsFrom [] dir.chars).filter (· != "") := by
  rw [steps, segments_filter, if_neg (mt (endsWith_separator dir).mp h)]

theorem segments_of_plain (h : IsPlainName name) :
    (Path.segmentsFrom [] name.toList).filter (· != "") = [name] := by
  rw [Path.segmentsFrom_whole h.whole]
  simp [h.own.1]

/-- A plain name is the last step of a path that it is joined onto. -/
theorem steps_join (h : IsPlainName name) :
    steps (dir.join ⟨name⟩).text = (Path.segmentsFrom [] dir.chars).filter (· != "") ++ [name] := by
  rw [steps_of_open (Path.getLast?_join_of_plain h).2, Path.chars_join_of_relative h.relative]
  by_cases empty : dir.chars = []
  · rw [if_pos (Or.inl empty), empty]
    exact segments_of_plain h
  by_cases closed : dir.chars.getLast? = some '/'
  · -- What is between the two separators names nothing.
    obtain ⟨cs, hcs⟩ := List.getLast?_eq_some_iff.mp closed
    rw [if_pos (Or.inr closed), hcs, List.append_assoc, List.singleton_append, Path.segmentsFrom_append,
      Path.segmentsFrom_append, List.filter_append, List.filter_append]
    have idle : (Path.segmentsFrom [] []).filter (· != "") = [] := rfl
    rw [idle, List.append_nil]
    exact congrArg _ (segments_of_plain h)
  · rw [if_neg (by simp [empty, closed]), Path.segmentsFrom_append, List.filter_append]
    exact congrArg _ (segments_of_plain h)

/-- To walk to a plain name is to find it among the entries of a directory. -/
theorem walk_name_iff {reached : Place} (h : IsPlainName name) (short : name.utf8ByteSize ≤ longestName) :
    f.walk place [name] = .ok reached ↔
      ∃ entries i, f.searchable (place.headD 0) = .ok entries ∧ entries.lookup name = some i ∧
        reached = i :: place := by
  rw [walk, Except.bind_ok_iff]
  · constructor
    · rintro ⟨entries, searched, walked⟩
      simp only [h.own.2.1, h.own.2.2, beq_iff_eq, if_false, Nat.not_lt.mpr short] at walked
      split at walked
      · rename_i i found
        exact ⟨entries, i, searched, found, (Except.ok.inj walked).symm⟩
      · cases walked
    · rintro ⟨entries, i, searched, found, rfl⟩
      refine ⟨entries, searched, ?_⟩
      simp only [h.own.2.1, h.own.2.2, beq_iff_eq, if_false, Nat.not_lt.mpr short, found]
      rfl
  · exact h.own.1

/-- The question for a directory leads nowhere else. -/
theorem walk_idle_iff {reached : Place} :
    f.walk place [""] = .ok reached ↔ (∃ entries, f.entries (place.headD 0) = .ok entries) ∧ reached = place := by
  rw [walk, Except.bind_ok_iff]
  constructor
  · rintro ⟨entries, listed, walked⟩
    exact ⟨⟨entries, listed⟩, (Except.ok.inj walked).symm⟩
  · rintro ⟨⟨entries, listed⟩, rfl⟩
    exact ⟨entries, listed, rfl⟩

/-- To walk to a name in a directory is to walk to the directory and on to the name. -/
theorem walk_join_iff {reached : Place} (h : IsPlainName name) (short : name.utf8ByteSize ≤ longestName) :
    f.walk here (steps (dir.join ⟨name⟩).text) = .ok reached ↔
      ∃ place, f.walk here (steps dir.text) = .ok place ∧ f.walk place [name] = .ok reached := by
  rw [steps_join h, walk_append, Except.bind_ok_iff]
  by_cases closed : dir.chars.getLast? = some '/'
  · -- Names are looked for in directories only, so that it need not be asked for one before.
    rw [steps_of_closed closed, walk_append]
    constructor
    · rintro ⟨place, walked, onward⟩
      obtain ⟨entries, _, searched, -⟩ := (walk_name_iff h short).mp onward
      have stays := walk_idle_iff.mpr ⟨⟨entries, entries_of_searchable searched⟩, rfl⟩
      exact ⟨place, Except.bind_ok_iff.mpr ⟨place, walked, stays⟩, onward⟩
    · rintro ⟨_, walked, onward⟩
      obtain ⟨place, walked, stays⟩ := Except.bind_ok_iff.mp walked
      obtain ⟨-, rfl⟩ := walk_idle_iff.mp stays
      exact ⟨_, walked, onward⟩
  · rw [steps_of_open closed]

theorem lookUp_iff {path : String} :
    f.lookUp here path = .ok node ↔
      ∃ reached, f.find here path = .ok reached ∧ f.node? (reached.headD 0) = some node := by
  rw [lookUp, Except.bind_ok_iff]
  constructor
  · rintro ⟨reached, found, there⟩
    split at there
    · rename_i n hn
      cases there
      exact ⟨reached, found, hn⟩
    · cases there
  · rintro ⟨reached, found, there⟩
    refine ⟨reached, found, ?_⟩
    rw [there]
    rfl

/-- To look up a name joined onto the path of a directory is to look for that entry of the directory. -/
theorem lookUp_join (h : IsPlainName name) (short : name.utf8ByteSize ≤ longestName) :
    f.lookUp here (dir.join ⟨name⟩).text = .ok node ↔ f.HasEntry here dir name node := by
  rw [lookUp_iff]
  constructor
  · rintro ⟨reached, found, there⟩
    obtain ⟨⟨⟩, taken, walked⟩ := Except.bind_ok_iff.mp found
    rw [anchor_join h, walk_join_iff h short] at walked
    obtain ⟨place, walked, onward⟩ := walked
    obtain ⟨entries, i, searched, named, rfl⟩ := (walk_name_iff h short).mp onward
    exact ⟨taken, place, entries, i, walked, searched, named, there⟩
  · rintro ⟨taken, place, entries, i, walked, searched, named, there⟩
    have onward := (walk_name_iff h short).mpr ⟨entries, i, searched, named, rfl⟩
    have found := (walk_join_iff h short).mpr ⟨place, walked, onward⟩
    rw [← anchor_join h] at found
    exact ⟨i :: place, Except.bind_ok_iff.mpr ⟨(), taken, found⟩, there⟩

/-! ## The manifest -/

theorem isPlainName_manifest : IsPlainName "Cargo.toml" where
  whole := by decide
  own := by decide

theorem lookUp_manifest :
    f.lookUp here (dir.join Path.manifest).text = .ok node ↔ f.HasEntry here dir "Cargo.toml" node :=
  lookUp_join isPlainName_manifest (by decide)

/-- A directory is that of a project if its entry for the manifest is a regular file. -/
theorem isProject_iff : Plan.isProject (fun p => f.isFile here p.text) dir = true ↔
    ∃ node, f.HasEntry here dir "Cargo.toml" node ∧ node.isFile = true := by
  simp only [← lookUp_manifest, Plan.isProject, isFile]
  cases f.lookUp here (dir.join Path.manifest).text with
  | error e => simp
  | ok node => simp

/-- A manifest that is a directory does not make a project. -/
theorem isProject_of_isDirectory (entry : f.HasEntry here dir "Cargo.toml" node) (directory : node.isDirectory = true) :
    Plan.isProject (fun p => f.isFile here p.text) dir = false := by
  simp only [Plan.isProject, isFile, lookUp_manifest.mpr entry]
  exact node.isFile_of_isDirectory directory

/-- Whatever files there are, the project root above a path is the nearest ancestor with a manifest, and there is one if
any ancestor has one. The ancestors are what the path starts with, one for each number of names that are kept and an
empty one after a `.` at most. On a host a directory has a manifest if its entry `Cargo.toml` is a regular file, and not
if that is a directory. -/
theorem project_root_is_nearest (start : Path) :
    (∀ isFile dir, Path.findProjectRoot isFile start = some dir ↔ ∃ n, IsNearest (Plan.isProject isFile) start n dir) ∧
    (∀ isFile, (Path.findProjectRoot isFile start).isSome ↔
      ∃ n dir, climb n start = some dir ∧ Plan.isProject isFile dir = true) ∧
    (∀ n ≤ start.names.length, ∃ dir, climb n start = some dir) ∧
    (∀ n dir, climb n start = some dir → dir.names = start.names.take (start.names.length - n) ∧
      dir.isAbsolute = start.isAbsolute ∧ dir.chars <+: start.chars ∧ (start.names.length < n → dir = Path.empty)) ∧
    ∀ (f : Files) (here : Place) (dir : Path),
      (Plan.isProject (fun p => f.isFile here p.text) dir = true ↔
        ∃ node, f.HasEntry here dir "Cargo.toml" node ∧ node.isFile = true) ∧
      ∀ node, f.HasEntry here dir "Cargo.toml" node → node.isDirectory = true →
        Plan.isProject (fun p => f.isFile here p.text) dir = false := by
  refine ⟨fun _ _ => Path.find?_ancestors_iff, fun _ => Path.isSome_find?_ancestors, ?_, ?_, ?_⟩
  · intro n hn
    exact Path.exists_climb hn
  · intro n dir reached
    exact ⟨Path.names_climb reached, Path.isAbsolute_climb reached, Path.chars_climb reached,
      Path.eq_empty_of_climb reached⟩
  · intro f here dir
    exact ⟨isProject_iff, fun node => isProject_of_isDirectory⟩

/-- Separators more than one, and one at the end, are left out on the way up. -/
example : Path.findProjectRoot (fun p => p = ⟨"./work/Cargo.toml"⟩) ⟨"./work//app/"⟩ = some ⟨"./work"⟩ := by
  decide +kernel

end Files
end Shakedown.Host

import Shakedown.Proofs.Process.Transcript
import Shakedown.Text.Lines

/-!
# The last lines of a text

How a text falls into lines is said by a relation (`InLines`): a line feed ends a line and takes one carriage return
before it along, and only what stands after the last line feed may be a line without one. Every text falls into lines in
exactly one way (`inLines_iff`), so its last lines are decided as well (`isTail_iff`). What is put together from them
falls into them again (`splitOn_tailLines`).
-/

namespace Shakedown.Text

variable {cs line rest rev : List Char} {ls : List (List Char)}

/-- A text falls into lines. -/
inductive InLines : List Char → List (List Char) → Prop
  | nothing : InLines [] []
  | unended {line : List Char} (some : line ≠ []) (within : '\n' ∉ line) : InLines line [line]
  | ended {line rest : List Char} {ls : List (List Char)} (within : '\n' ∉ line) (tail : InLines rest ls) :
      InLines (line ++ '\n' :: rest) (lineOf line :: ls)

/-- A text is the last lines of another one, joined by line feeds: as many as are asked for, or all lines if there are
not so many. -/
inductive IsTail (max : Nat) (text : String) : String → Prop
  | keep {before kept : List (List Char)} (lines : InLines text.toList (before ++ kept))
      (enough : kept.length = min max (before ++ kept).length) :
      IsTail max text ("\n".intercalate (kept.map String.ofList))

/-! ## Lines -/

theorem closeLine_eq (rev : List Char) : closeLine rev = lineOf rev.reverse := by
  unfold closeLine
  split
  case h_1 rev => simp [lineOf]
  case h_2 other =>
    rw [lineOf, if_neg]
    intro hlast
    rw [List.getLast?_reverse] at hlast
    obtain ⟨front, rfl⟩ := List.head?_eq_some_iff.mp hlast
    exact other front rfl

theorem linesFrom_unended (rev : List Char) (h : '\n' ∉ line) (hsome : rev.reverse ++ line ≠ []) :
    linesFrom rev line = [rev.reverse ++ line] := by
  induction line generalizing rev with
  | nil => simpa [linesFrom] using hsome
  | cons c line ih =>
    have hc : c ≠ '\n' := fun hc => h (hc ▸ List.mem_cons_self ..)
    rw [linesFrom, if_neg hc, ih (c :: rev) (fun hm => h (List.mem_cons_of_mem _ hm)) (by simp)]
    simp

theorem linesFrom_ended (h : '\n' ∉ line) :
    linesFrom rev (line ++ '\n' :: rest) = lineOf (rev.reverse ++ line) :: linesFrom [] rest := by
  induction line generalizing rev with
  | nil => simp [linesFrom, closeLine_eq]
  | cons c line ih =>
    have hc : c ≠ '\n' := fun hc => h (hc ▸ List.mem_cons_self ..)
    rw [List.cons_append, linesFrom, if_neg hc, ih fun hm => h (List.mem_cons_of_mem _ hm)]
    simp

/-- The characters of an unfinished line and the rest of the text fall into the lines that are found. -/
theorem inLines_linesFrom (rev : List Char) (h : '\n' ∉ rev) : InLines (rev.reverse ++ cs) (linesFrom rev cs) := by
  -- The induction is on the characters that are left. Only a line feed among them ends the line that is begun.
  induction cs generalizing rev with
  | nil =>
    rw [List.append_nil, linesFrom]
    split
    case isTrue hnil =>
      obtain rfl := List.isEmpty_iff.mp hnil
      exact .nothing
    case isFalse hsome =>
      refine .unended ?_ (by simpa using h)
      simpa using hsome
  | cons c cs ih =>
    rw [linesFrom]
    split
    case isTrue hc =>
      subst hc
      rw [closeLine_eq]
      exact .ended (by simpa using h) (ih [] List.not_mem_nil)
    case isFalse hc =>
      have hrev : '\n' ∉ c :: rev := by
        rintro (_ | ⟨_, hm⟩)
        · exact hc rfl
        · exact h hm
      simpa using ih (c :: rev) hrev

/-- A text falls into exactly the lines that are found. -/
theorem inLines_iff : InLines cs ls ↔ linesFrom [] cs = ls := by
  constructor
  · intro h
    induction h with
    | nothing => rfl
    | unended some within =>
      exact linesFrom_unended [] within some
    | ended within _ ih =>
      rw [linesFrom_ended within, ih]
      simp
  · rintro rfl
    exact inLines_linesFrom [] List.not_mem_nil

/-! ## Tails -/

/-- A text has exactly one tail, the one that is cut off. -/
theorem isTail_iff {max : Nat} {text tail : String} : IsTail max text tail ↔ tailLines text max = tail := by
  have hdrop (all : List (List Char)) :
      (all.map String.ofList).drop (all.length - max) = (all.drop (all.length - max)).map String.ofList :=
    List.map_drop.symm
  constructor
  · rintro @⟨before, kept, lines, enough⟩
    have hall := inLines_iff.mp lines
    have hcut : (before ++ kept).length - max = before.length := by
      rw [List.length_append] at enough ⊢
      omega
    rw [tailLines, Text.lines, hall, List.length_map, hdrop, hcut, List.drop_left]
  · rintro rfl
    have hall : InLines text.toList (linesFrom [] text.toList) := inLines_iff.mpr rfl
    rw [tailLines, Text.lines, List.length_map, hdrop]
    generalize linesFrom [] text.toList = all at hall ⊢
    rw [← List.take_append_drop (all.length - max) all] at hall
    refine .keep hall ?_
    rw [List.take_append_drop, List.length_drop]
    omega

/-- The carriage return goes with the line feed after it, and nothing after the last line feed is a line. -/
example : tailLines "a\nb\r\nc\n" 2 = "b\nc" := by decide +kernel

/-! ## The lines of a tail -/

theorem lineOf_starts (cs : List Char) : lineOf cs <+: cs := by
  unfold lineOf
  split
  · exact List.dropLast_prefix cs
  · exact List.prefix_rfl

/-- No line feed is left within a line. -/
theorem InLines.whole (h : InLines cs ls) : ∀ line ∈ ls, '\n' ∉ line := by
  induction h with
  | nothing =>
    intro line hm
    cases hm
  | unended _ within =>
    intro line hm
    rwa [List.mem_singleton.mp hm]
  | ended within _ ih =>
    intro line hm
    rcases List.mem_cons.mp hm with rfl | hm
    · exact fun hlf => within ((lineOf_starts _).mem hlf)
    · exact ih line hm

/-- Splitting at a character gives one piece more than there are occurrences of it. -/
theorem length_splitOn (c : Char) (cs : List Char) : (cs.splitOn c).length = cs.count c + 1 := by
  induction cs with
  | nil => rfl
  | cons d cs ih =>
    rw [List.splitOn_cons_eq_if_modifyHead]
    by_cases hd : d = c
    · rw [if_pos (by simpa using hd), List.length_cons, ih, hd, List.count_cons_self]
    · rw [if_neg (by simpa using hd), List.length_modifyHead, ih, List.count_cons_of_ne hd]

theorem toList_intercalate_lf (ls : List (List Char)) :
    ("\n".intercalate (ls.map String.ofList)).toList = ['\n'].intercalate ls := by
  rw [String.toList_intercalate, List.map_map]
  simp [Function.comp_def]

variable {text : String} {max : Nat}

theorem toList_tailLines (h : InLines text.toList ls) :
    (tailLines text max).toList = ['\n'].intercalate (ls.drop (ls.length - min max ls.length)) := by
  have cut : ls.length - max = ls.length - min max ls.length := by omega
  rw [tailLines, Text.lines, inLines_iff.mp h, List.length_map, ← List.map_drop, toList_intercalate_lf, cut]

theorem tailLines_eq_empty (h : InLines text.toList ls) (none : min max ls.length = 0) : tailLines text max = "" := by
  rw [← String.toList_inj, toList_tailLines h, none, Nat.sub_zero, List.drop_length]
  rfl

/-- What was put together from the last lines falls into them again. -/
theorem splitOn_tailLines (h : InLines text.toList ls) (some : min max ls.length ≠ 0) :
    (tailLines text max).toList.splitOn '\n' = ls.drop (ls.length - min max ls.length) := by
  rw [toList_tailLines h]
  apply List.splitOn_intercalate
  · intro line hm
    exact h.whole line (List.mem_of_mem_drop hm)
  · intro hnil
    have := List.drop_eq_nil_iff.mp hnil
    omega

/-- A tail has a line feed between its lines and no more. -/
theorem count_lf_tailLines (h : InLines text.toList ls) :
    (tailLines text max).toList.count '\n' = min max ls.length - 1 := by
  by_cases hkept : min max ls.length = 0
  · rw [tailLines_eq_empty h hkept, hkept]
    rfl
  · -- Splitting the tail gives its lines, so they are one more than its line feeds.
    have pieces := length_splitOn '\n' (tailLines text max).toList
    rw [splitOn_tailLines h hkept, List.length_drop] at pieces
    omega

/-- Every text falls into lines in one way. Its tail is empty if no lines are asked for or there are none. Otherwise
splitting the tail at each line feed gives the last lines of the text in order, the empty ones among them, as many as are
asked for or all that there are. So a tail has fewer line feeds than there are lines asked for. -/
theorem tailLines_keeps_last_lines (text : String) (max : Nat) :
    ∃ ls, (∀ others, InLines text.toList others ↔ others = ls) ∧
      (if min max ls.length = 0 then tailLines text max = ""
        else (tailLines text max).toList.splitOn '\n' = ls.drop (ls.length - min max ls.length)) ∧
      (max = 0 ∨ (tailLines text max).toList.count '\n' < max) := by
  have lines : InLines text.toList (linesFrom [] text.toList) := inLines_iff.mpr rfl
  refine ⟨linesFrom [] text.toList, ?_, ?_, ?_⟩
  · intro others
    rw [inLines_iff, eq_comm]
  · split
    · rename_i none
      exact tailLines_eq_empty lines none
    · rename_i some
      exact splitOn_tailLines lines some
  · have feeds : (tailLines text max).toList.count '\n' = min max (linesFrom [] text.toList).length - 1 :=
      count_lf_tailLines lines
    omega

/-- Empty lines are lines, so a tail may end in a line feed. -/
example : tailLines "a\n\n" 2 = "a\n" := by decide +kernel

end Shakedown.Text

import Mathlib.Data.List.TakeWhile
import Mathlib.Data.Set.Card
import Shakedown.Text.Blank

/-!
# Words as maximal runs

The words of a text are collected letter by letter. They are its maximal runs of visible characters, one word for each
(`Text.countP_words`): collecting them with what stands before and after them (`Text.runsFrom`) comes past all runs,
from left to right and so past none of them twice.
-/

namespace Shakedown.Text

/-- A piece of a text, with what stands before it and after it. -/
structure Piece where
  before : List Char
  word : List Char
  after : List Char
deriving DecidableEq

/-- A piece of a text is a maximal run of visible characters: it can be made longer at neither end. -/
structure IsRun (cs : List Char) (r : Piece) : Prop where
  whole : cs = r.before ++ r.word ++ r.after
  filled : r.word ≠ []
  visible : ∀ c ∈ r.word, isBlank c = false
  left : ∀ c, r.before.getLast? = some c → isBlank c = true
  right : ∀ c, r.after.head? = some c → isBlank c = true

/-- The runs of a text that start after `before`, where the reversed letters `word` of an unfinished one were read. -/
def runsFrom (before word : List Char) : List Char → List Piece
  | [] => if word.isEmpty then [] else [⟨before, word.reverse, []⟩]
  | c :: rest =>
    if isBlank c then
      if word.isEmpty then runsFrom (before ++ [c]) [] rest
      else ⟨before, word.reverse, c :: rest⟩ :: runsFrom (before ++ word.reverse ++ [c]) [] rest
    else runsFrom before (c :: word) rest

variable {cs before word rest : List Char} {r s : Piece}

theorem map_runsFrom : (runsFrom before word rest).map Piece.word = wordsFrom word rest := by
  induction rest generalizing before word with
  | nil =>
    rw [runsFrom, wordsFrom]
    split
    · rfl
    · rfl
  | cons c rest ih =>
    rw [runsFrom, wordsFrom]
    split
    · split
      · exact ih
      · rw [List.map_cons, ih]
    · exact ih

/-! ## Runs do not overlap -/

theorem IsRun.word_eq (h : IsRun cs r) : (r.word ++ r.after).takeWhile (fun c => !isBlank c) = r.word := by
  have stops : r.after.takeWhile (fun c => !isBlank c) = [] := by
    cases ha : r.after with
    | nil => rfl
    | cons c after =>
      have blank := h.right c (by rw [ha]; rfl)
      rw [List.takeWhile_cons_of_neg (by simp [blank])]
  rw [List.takeWhile_append_of_pos fun c hc => by simp [h.visible c hc], stops, List.append_nil]

/-- Of two runs of a text, one does not start within the other or right behind it. -/
theorem IsRun.eq_of_touching (hr : IsRun cs r) (hs : IsRun cs s) (later : r.before.length ≤ s.before.length)
    (touching : s.before.length ≤ r.before.length + r.word.length) : s = r := by
  -- What is before the later one goes on after the start of the earlier one by letters of it.
  have same : r.before ++ (r.word ++ r.after) = s.before ++ (s.word ++ s.after) := by
    rw [← List.append_assoc, ← List.append_assoc, ← hr.whole, ← hs.whole]
  obtain ⟨between, hbefore, hword⟩ : ∃ between, s.before = r.before ++ between ∧
      r.word ++ r.after = between ++ (s.word ++ s.after) := by
    rcases List.append_eq_append_iff.mp same with ⟨between, h, h'⟩ | ⟨between, h, h'⟩
    · exact ⟨between, h, h'⟩
    · obtain rfl : between = [] := by
        rw [h, List.length_append] at later
        exact List.length_eq_zero_iff.mp (by omega)
      exact ⟨[], by simpa using h.symm, by simpa using h'.symm⟩
  have within : between <+: r.word := by
    refine List.prefix_of_prefix_length_le ⟨_, hword.symm⟩ (List.prefix_append ..) ?_
    rw [hbefore, List.length_append] at touching
    omega
  obtain rfl : between = [] := by
    rcases List.eq_nil_or_concat' between with none | ⟨front, last, rfl⟩
    · exact none
    · have blank := hs.left last (by rw [hbefore]; simp)
      rw [hr.visible last (within.mem (by simp))] at blank
      cases blank
  rw [List.append_nil] at hbefore
  rw [List.nil_append] at hword
  have words : r.word = s.word := by rw [← hr.word_eq, hword, hs.word_eq]
  rw [words] at hword
  have afters := List.append_cancel_left hword
  rcases r with ⟨b, w, a⟩
  rcases s with ⟨b', w', a'⟩
  simp_all

/-! ## All runs are come past -/

/-- A word that was read to its end is a run. -/
theorem isRun_word (filled : word ≠ []) (visible : ∀ c ∈ word, isBlank c = false)
    (left : ∀ c, before.getLast? = some c → isBlank c = true) (right : ∀ c, rest.head? = some c → isBlank c = true) :
    IsRun (before ++ word.reverse ++ rest) ⟨before, word.reverse, rest⟩ where
  whole := rfl
  filled := by simpa using filled
  visible c hc := visible c (List.mem_reverse.mp hc)
  left := left
  right := right

/-- No run starts with a blank. -/
theorem IsRun.not_blank {c : Char} (h : IsRun (before ++ c :: rest) r) (start : r.before.length = before.length) :
    isBlank c = false := by
  have whole := h.whole
  rw [List.append_assoc] at whole
  obtain ⟨-, here⟩ := List.append_inj whole start.symm
  cases hw : r.word with
  | nil => exact absurd hw h.filled
  | cons d word =>
    rw [hw] at here
    cases here
    exact h.visible c (by rw [hw]; exact List.mem_cons_self ..)

/-- A run ends within the text. -/
theorem IsRun.length_lt (h : IsRun cs r) : r.before.length < cs.length := by
  have filled := List.length_pos_iff.mpr h.filled
  rw [h.whole, List.length_append, List.length_append]
  omega

/-- The runs that are come past are those that start no earlier than the unfinished word. -/
theorem mem_runsFrom (visible : ∀ c ∈ word, isBlank c = false)
    (left : ∀ c, before.getLast? = some c → isBlank c = true) :
    r ∈ runsFrom before word rest ↔ IsRun (before ++ word.reverse ++ rest) r ∧ before.length ≤ r.before.length := by
  -- The induction is on what is left to read. A word that is finished is a run, so all others start behind it.
  induction rest generalizing before word with
  | nil =>
    have within : IsRun (before ++ word.reverse ++ []) r → r.before.length < before.length + word.length := by
      intro run
      simpa using run.length_lt
    rw [runsFrom]
    split
    · rename_i none
      obtain rfl := List.isEmpty_iff.mp none
      refine iff_of_false List.not_mem_nil ?_
      rintro ⟨run, later⟩
      exact absurd (within run) (Nat.not_lt_of_le later)
    · rename_i filled
      have run : IsRun (before ++ word.reverse ++ []) ⟨before, word.reverse, []⟩ :=
        isRun_word (by simpa using filled) visible left (by simp)
      rw [List.mem_singleton]
      constructor
      · rintro rfl
        exact ⟨run, Nat.le_refl _⟩
      · rintro ⟨other, later⟩
        exact run.eq_of_touching other later (by simpa using Nat.le_of_lt (within other))
  | cons c rest ih =>
    rw [runsFrom]
    split
    · rename_i blank
      have further : before ++ word.reverse ++ [c] ++ [].reverse ++ rest = before ++ word.reverse ++ c :: rest := by
        simp
      have beyond : (before ++ word.reverse ++ [c]).length = before.length + word.length + 1 := by
        simp [Nat.add_assoc]
      have tail := @ih (before ++ word.reverse ++ [c]) [] (by simp) (by simpa using blank)
      rw [further, beyond] at tail
      split
      · rename_i none
        obtain rfl := List.isEmpty_iff.mp none
        rw [List.reverse_nil, List.append_nil] at tail ⊢
        rw [tail]
        refine and_congr_right fun run => ⟨Nat.le_of_succ_le, fun later => Nat.lt_of_le_of_ne later fun start => ?_⟩
        rw [run.not_blank start.symm] at blank
        cases blank
      · rename_i filled
        have run : IsRun (before ++ word.reverse ++ c :: rest) ⟨before, word.reverse, c :: rest⟩ :=
          isRun_word (by simpa using filled) visible left (by simpa using blank)
        rw [List.mem_cons, tail]
        constructor
        · rintro (rfl | ⟨other, later⟩)
          · exact ⟨run, Nat.le_refl _⟩
          · exact ⟨other, by omega⟩
        · rintro ⟨other, later⟩
          rcases Nat.lt_or_ge (before.length + word.length) r.before.length with behind | touching
          · exact Or.inr ⟨other, behind⟩
          · exact Or.inl (run.eq_of_touching other later (by simpa using touching))
    · rename_i shown
      have longer : before ++ (c :: word).reverse ++ rest = before ++ word.reverse ++ c :: rest := by simp
      rw [ih (by simpa [shown] using visible) left, longer]

/-- No run is come past twice, as those after it start behind it. -/
theorem nodup_runsFrom (visible : ∀ c ∈ word, isBlank c = false)
    (left : ∀ c, before.getLast? = some c → isBlank c = true) : (runsFrom before word rest).Nodup := by
  induction rest generalizing before word with
  | nil =>
    rw [runsFrom]
    split
    · exact List.nodup_nil
    · exact List.nodup_singleton _
  | cons c rest ih =>
    rw [runsFrom]
    split
    · rename_i blank
      have next : ∀ d, (before ++ word.reverse ++ [c]).getLast? = some d → isBlank d = true := by simpa using blank
      split
      · rename_i none
        obtain rfl := List.isEmpty_iff.mp none
        exact ih (by simp) (by simpa using next)
      -- A run found later has more in front of it, so it is another one.
      · refine List.nodup_cons.mpr ⟨fun again => ?_, ih (by simp) next⟩
        exact absurd ((mem_runsFrom (by simp) next).mp again).2 (by simp)
    · rename_i shown
      exact ih (by simpa [shown] using visible) left

/-- The words of a kind are counted: they are as many as the maximal runs of that kind. -/
theorem countP_words (p : List Char → Bool) (s : String) :
    (words s).countP p = {r : Piece | IsRun s.toList r ∧ p r.word = true}.ncard := by
  have nodup : (runsFrom [] [] s.toList).Nodup := nodup_runsFrom (by simp) (by simp)
  have runs : {r : Piece | IsRun s.toList r ∧ p r.word = true} =
      ↑((runsFrom [] [] s.toList).filter fun r => p r.word).toFinset := by
    ext r
    have member : r ∈ runsFrom [] [] s.toList ↔ IsRun s.toList r ∧ 0 ≤ r.before.length :=
      mem_runsFrom (by simp) (by simp)
    simp [member]
  rw [runs, Set.ncard_coe_finset, List.toFinset_card_of_nodup (nodup.filter _), ← List.countP_eq_length_filter, words,
    ← @map_runsFrom [] [], List.countP_map]
  rfl

end Shakedown.Text

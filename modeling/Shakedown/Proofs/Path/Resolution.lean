import Shakedown.Proofs.Path.Components

/-!
# Paths taken against one another

A relative path that is taken against another one is written after it, with a separator between them where one is
missing (`Path.chars_join_between`). Which separator is missing is decided by the last part that is not empty
(`Path.between_append`), so a chain of paths comes to the same text in whatever order it is taken together
(`Path.join_assoc`).
-/

namespace Shakedown.Path

variable {base p q : Path} {cs ds : List Char}

/-- What is written between a path and a relative one after it: a separator, unless there is one already or nothing
before it. -/
def between (cs : List Char) : List Char := if cs = [] ∨ cs.getLast? = some '/' then [] else ['/']

theorem between_eq_nil_iff : between cs = [] ↔ cs = [] ∨ cs.getLast? = some '/' := by
  unfold between
  split
  · rename_i h
    exact iff_of_true rfl h
  · rename_i h
    exact iff_of_false (by simp) h

/-- What is missing at the end of a text is missing at the end of its last part. -/
theorem between_append (h : ds ≠ []) : between (cs ++ ds) = between ds := by
  have last : (cs ++ ds).getLast? = ds.getLast? := by
    rw [List.getLast?_append, List.getLast?_eq_some_getLast h, Option.some_or]
  rw [between, between, last]
  simp [h]

/-- Nothing is missing where it was put. -/
theorem between_filled : between (cs ++ between cs) = [] := by
  rw [between_eq_nil_iff]
  by_cases h : cs = [] ∨ cs.getLast? = some '/'
  · rw [between, if_pos h, List.append_nil]
    exact h
  · rw [between, if_neg h]
    exact Or.inr List.getLast?_concat

/-! ## Joining in a chain -/

theorem chars_inj : p.chars = q.chars ↔ p = q := by
  rw [chars, chars, String.toList_inj]
  exact ⟨fun h => congrArg Path.mk h, fun h => congrArg text h⟩

theorem chars_join_between (h : p.isAbsolute = false) :
    (base.join p).chars = base.chars ++ between base.chars ++ p.chars := by
  rw [chars_join_of_relative h, between]
  split
  · rw [List.append_nil]
  · rw [List.append_assoc, List.singleton_append]

/-- What is missing after a joined path is missing after its last part, also if that part is empty. -/
theorem between_chars_join (h : p.isAbsolute = false) : between (base.join p).chars = between p.chars := by
  rw [chars_join_between h]
  by_cases hp : p.chars = []
  · -- Then the joined path ends in what was put before `p`, and nothing is missing after either of them.
    rw [hp, List.append_nil, between_filled]
    rfl
  · exact between_append hp

theorem isAbsolute_join_iff : (base.join p).isAbsolute = true ↔ base.isAbsolute = true ∨ p.isAbsolute = true := by
  cases hp : p.isAbsolute with
  | true => simp [join_of_isAbsolute hp, hp]
  | false => simp [isAbsolute_join hp]

theorem join_assoc (base p q : Path) : (base.join p).join q = base.join (p.join q) := by
  cases hq : q.isAbsolute with
  | true =>
    -- An absolute end replaces everything before it.
    rw [join_of_isAbsolute hq, join_of_isAbsolute hq, join_of_isAbsolute hq]
  | false =>
    cases hp : p.isAbsolute with
    | true =>
      -- So does an absolute path in the middle, and the end does not take that away.
      have rooted : (p.join q).isAbsolute = true := isAbsolute_join_of_base hp
      rw [join_of_isAbsolute hp, join_of_isAbsolute rooted]
    | false =>
      have loose : (p.join q).isAbsolute = false := by rw [isAbsolute_join hq, hp]
      apply chars_inj.mp
      calc ((base.join p).join q).chars
          = (base.join p).chars ++ between (base.join p).chars ++ q.chars := chars_join_between hq
        _ = base.chars ++ between base.chars ++ p.chars ++ between p.chars ++ q.chars := by
            rw [between_chars_join hp, chars_join_between hp]
        _ = base.chars ++ between base.chars ++ (p.chars ++ between p.chars ++ q.chars) := by
            simp only [List.append_assoc]
        _ = (base.join (p.join q)).chars := by rw [chars_join_between loose, chars_join_between hq]

/-- Joining leaves the right path as it is exactly if that is absolute or the left one is empty. -/
theorem join_eq_right_iff : base.join p = p ↔ p.isAbsolute = true ∨ base = empty := by
  cases hp : p.isAbsolute with
  | true => simp [join_of_isAbsolute hp]
  | false =>
    rw [← chars_inj, chars_join_between hp, ← chars_inj]
    constructor
    · intro same
      -- What is written before a relative path is the base at least.
      have nothing : base.chars ++ between base.chars = [] := List.append_left_eq_self.mp same
      exact Or.inr (List.append_eq_nil_iff.mp nothing).1
    · rintro (⟨⟨⟩⟩ | nothing)
      rw [nothing]
      rfl

/-- A chain of paths comes to the same path in whatever order it is taken together, as it is written, whatever separators
its parts end in. A path against another one is left as it is exactly if it is absolute or the other one is empty, and
what comes out is absolute exactly if one of the two is. It leads to where the two lead one after the other. -/
theorem resolveAgainst_chains (base p q : Path) :
    (base.resolveAgainst p).resolveAgainst q = base.resolveAgainst (p.resolveAgainst q) ∧
    (base.resolveAgainst p = p ↔ p.isAbsolute = true ∨ base = empty) ∧
    ((base.resolveAgainst p).isAbsolute = true ↔ base.isAbsolute = true ∨ p.isAbsolute = true) ∧
    ∀ place, (base.resolveAgainst p).leadsTo place = p.leadsTo (base.leadsTo place) := by
  refine ⟨?_, ?_, ?_, fun place => leadsTo_resolveAgainst⟩
  · simp only [resolveAgainst_eq_join]
    exact join_assoc base p q
  · rw [resolveAgainst_eq_join]
    exact join_eq_right_iff
  · rw [resolveAgainst_eq_join]
    exact isAbsolute_join_iff

/-- The empty path leaves what comes after it as it is, and not what comes before it. -/
example : (Path.mk "a").resolveAgainst empty = ⟨"a/"⟩ ∧ empty.resolveAgainst ⟨"a"⟩ = ⟨"a"⟩ := by decide

end Shakedown.Path

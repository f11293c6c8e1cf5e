import Shakedown.Path.Basic

/-!
# Where paths lead

In a tree of directories without links a place is given by the names on the way down to it, and a path leads from a
place to another one: it starts over at the top if it is absolute, goes down by its names and up by each `..`
(`Path.leadsTo`). Joining paths is to follow one after the other (`Path.leadsTo_join`), whatever separators stand
between and after them.

Some names never climb above the place that they are followed from (`Path.descent`). They lead to the same place below
it wherever that is (`Path.walk_of_descent`), and all others leave it to a place that does not depend on its own name
(`Path.walk_of_climbing`).
-/

namespace Shakedown

namespace Path

/-- Segments that name something. -/
def named (segments : List String) : List String := segments.filter fun s => !isIdle s

/-- The place that names lead to from a place. `..` leads up, and stays at the top. -/
def walk : List String → List String → List String
  | place, [] => place
  | place, name :: rest => walk (if name = ".." then place.dropLast else place ++ [name]) rest

/-- The place that a path leads to from a place. -/
def leadsTo (here : List String) (p : Path) : List String := walk (if p.isAbsolute then [] else here) p.names

/-- A place lies below another one. -/
def IsBelow (dir place : List String) : Prop := ∃ name rest, place = dir ++ name :: rest

/-- Where names lead to from below a place, without ever climbing above that place; none if they do. -/
def descent : List String → List String → Option (List String)
  | below, [] => some below
  | below, name :: rest =>
    if name = ".." then if below = [] then none else descent below.dropLast rest else descent (below ++ [name]) rest

variable {base p : Path} {seg cs ds : List Char} {place below dir way rest : List String}

/-! ## The names of a joined path -/

theorem segmentsFrom_append : segmentsFrom seg (cs ++ '/' :: ds) = segmentsFrom seg cs ++ segmentsFrom [] ds := by
  induction cs generalizing seg with
  | nil => simp [segmentsFrom]
  | cons c cs ih =>
    by_cases hc : c = '/'
    · simp [segmentsFrom, hc, ih]
    · simp [segmentsFrom, hc, ih]

/-- The names of a path are those of all its segments: what it starts with is none. -/
theorem names_eq (p : Path) : p.names = named (segmentsFrom [] p.chars) := by
  unfold names split
  split
  · rename_i h
    simp [h, named, segmentsFrom, isIdle]
  · rename_i rest h
    simp [h, named, segmentsFrom, isIdle]
  · rename_i h
    simp [h, named, segmentsFrom, isIdle]
  · rename_i rest h
    simp [h, named, segmentsFrom, isIdle]
  · rfl

theorem chars_join : (base.join p).chars = joinChars base.chars p.chars := by
  simp [join, chars]

theorem isAbsolute_iff : p.isAbsolute = true ↔ p.chars.head? = some '/' := by
  simp [isAbsolute]

theorem join_of_isAbsolute (h : p.isAbsolute = true) : base.join p = p := by
  rw [join, joinChars, if_pos (isAbsolute_iff.mp h), chars, String.ofList_toList]

/-- A relative path follows a separator, unless there is nothing before it or a separator already. -/
theorem chars_join_of_relative (h : p.isAbsolute = false) :
    (base.join p).chars =
      if base.chars = [] ∨ base.chars.getLast? = some '/' then base.chars ++ p.chars
      else base.chars ++ '/' :: p.chars := by
  have hp : ¬ p.chars.head? = some '/' := by
    rw [← isAbsolute_iff, h]
    exact Bool.false_ne_true
  rw [chars_join, joinChars, if_neg hp]

theorem isAbsolute_join (h : p.isAbsolute = false) : (base.join p).isAbsolute = base.isAbsolute := by
  rw [Bool.eq_iff_iff, isAbsolute_iff, isAbsolute_iff, chars_join_of_relative h]
  have hp : ¬ p.chars.head? = some '/' := by
    rw [← isAbsolute_iff, h]
    exact Bool.false_ne_true
  cases hb : base.chars with
  | nil => simp [hp]
  | cons c cs =>
    split
    · rfl
    · rfl

theorem named_append {segments others : List String} : named (segments ++ others) = named segments ++ named others :=
  List.filter_append ..

/-- The names of a relative path come after those of the path that it is joined onto. -/
theorem names_join (h : p.isAbsolute = false) : (base.join p).names = base.names ++ p.names := by
  rw [names_eq, names_eq base, names_eq p, chars_join_of_relative h]
  by_cases hb : base.chars = []
  · rw [if_pos (Or.inl hb), hb]
    rfl
  by_cases hl : base.chars.getLast? = some '/'
  · -- The separator is there already, and what is after it in the base names nothing.
    obtain ⟨cs, hcs⟩ : ∃ cs, base.chars = cs ++ ['/'] := List.getLast?_eq_some_iff.mp hl
    rw [if_pos (Or.inr hl), hcs, List.append_assoc, List.singleton_append, segmentsFrom_append, segmentsFrom_append,
      named_append, named_append]
    have idle : named (segmentsFrom [] []) = [] := rfl
    rw [idle, List.append_nil]
  · rw [if_neg (by simp [hb, hl]), segmentsFrom_append, named_append]

/-- A name without separators, other than the two that name directories by where they are. -/
structure IsPlainName (name : String) : Prop where
  whole : '/' ∉ name.toList
  own : name ≠ "" ∧ name ≠ "." ∧ name ≠ ".."

theorem segmentsFrom_whole (h : '/' ∉ cs) : segmentsFrom seg cs = [String.ofList (seg.reverse ++ cs)] := by
  induction cs generalizing seg with
  | nil => simp [segmentsFrom]
  | cons c cs ih =>
    have hc : c ≠ '/' := by
      rintro rfl
      exact h (List.mem_cons_self ..)
    rw [segmentsFrom, if_neg hc, ih fun hm => h (List.mem_cons_of_mem _ hm)]
    simp

theorem IsPlainName.names {name : String} (h : IsPlainName name) : (Path.mk name).names = [name] := by
  rw [names_eq, chars, segmentsFrom_whole h.whole]
  simp [named, isIdle, h.own.1, h.own.2.1]

theorem IsPlainName.relative {name : String} (h : IsPlainName name) : (Path.mk name).isAbsolute = false := by
  rw [← Bool.not_eq_true, isAbsolute_iff]
  intro hhead
  exact h.whole (List.mem_of_head? hhead)

theorem getLast?_join_of_plain {name : String} (h : IsPlainName name) :
    (base.join ⟨name⟩).chars ≠ [] ∧ (base.join ⟨name⟩).chars.getLast? ≠ some '/' := by
  have hne : name.toList ≠ [] := by simpa using h.own.1
  have hlast : ∀ cs : List Char, (cs ++ name.toList).getLast? ≠ some '/' := by
    intro cs hl
    rw [List.getLast?_append, List.getLast?_eq_some_getLast hne, Option.some_or] at hl
    exact h.whole (Option.some.inj hl ▸ List.getLast_mem hne)
  rw [chars_join_of_relative h.relative]
  split
  · exact ⟨by simp [chars, hne], hlast _⟩
  · refine ⟨by simp, ?_⟩
    rw [List.append_cons]
    exact hlast _

/-- A path joined onto a directory is written after it, with a separator between them, exactly if it is relative. -/
theorem text_join_iff {name : String} (hne : base.chars ≠ []) (hl : base.chars.getLast? ≠ some '/') :
    (base.join ⟨name⟩).text = base.text ++ "/" ++ name ↔ (Path.mk name).isAbsolute = false := by
  constructor
  · intro h
    rw [← Bool.not_eq_true]
    intro rooted
    -- An absolute path is the whole result, which is too short.
    rw [join_of_isAbsolute rooted] at h
    have := congrArg String.length h
    simp at this
  · intro loose
    have h := @chars_join_of_relative base ⟨name⟩ loose
    rw [if_neg (by simp [hne, hl])] at h
    apply String.toList_inj.mp
    simpa [chars] using h

/-! ## Following paths -/

theorem walk_append : walk place (way ++ rest) = walk (walk place way) rest := by
  induction way generalizing place with
  | nil => rfl
  | cons name way ih => exact ih

/-- To follow a joined path is to follow its parts one after the other. -/
theorem leadsTo_join : (base.join p).leadsTo place = p.leadsTo (base.leadsTo place) := by
  unfold leadsTo
  cases h : p.isAbsolute with
  | true => simp [join_of_isAbsolute h, h]
  | false =>
    rw [isAbsolute_join h, names_join h, walk_append]
    rfl

theorem IsPlainName.leadsTo {name : String} (h : IsPlainName name) : (Path.mk name).leadsTo place = place ++ [name] := by
  rw [Path.leadsTo, h.relative, h.names]
  simp [walk, h.own.2.2]

/-- Names that never climb above a place lead to the same place below it, wherever it is. -/
theorem walk_of_descent (h : descent below way = some rest) : walk (place ++ below) way = place ++ rest := by
  -- The invariant of the walk is that it is at a place below the given one, so that `..` only takes a name from there.
  induction way generalizing below with
  | nil =>
    cases h
    rfl
  | cons name way ih =>
    rw [walk]
    rw [descent] at h
    split at h
    · rename_i up
      split at h
      · cases h
      · rename_i inside
        rw [if_pos up, List.dropLast_append_of_ne_nil inside]
        exact ih h
    · rename_i down
      rw [if_neg down, List.append_assoc]
      exact ih h

/-- Names that climb above a place lead on from the one above it, and so do not depend on the name of the place that
they have left. -/
theorem walk_of_climbing (h : descent below way = none) :
    ∃ rest, ∀ place top, walk (place ++ [top] ++ below) way = walk place rest := by
  induction way generalizing below with
  | nil => cases h
  | cons name way ih =>
    rw [descent] at h
    split at h
    · rename_i up
      split at h
      · -- Here the walk leaves the place, with the rest of the way before it.
        rename_i bottom
        subst bottom
        refine ⟨way, fun place top => ?_⟩
        rw [walk, if_pos up, List.append_nil, List.dropLast_concat]
      · rename_i inside
        obtain ⟨rest, leaves⟩ := ih h
        refine ⟨rest, fun place top => ?_⟩
        rw [walk, if_pos up, List.dropLast_append_of_ne_nil inside]
        exact leaves place top
    · rename_i down
      obtain ⟨rest, leaves⟩ := ih h
      refine ⟨rest, fun place top => ?_⟩
      rw [walk, if_neg down, List.append_assoc (place ++ [top])]
      exact leaves place top

/-- No place lies below two places that stand side by side. -/
theorem not_isBelow_both {top other : String} (hne : top ≠ other) (h : IsBelow (dir ++ top :: below) place) :
    ¬ IsBelow (dir ++ other :: below) place := by
  rintro ⟨name, rest, h'⟩
  obtain ⟨name', rest', rfl⟩ := h
  simp only [List.append_assoc, List.cons_append] at h'
  have := List.append_cancel_left h'
  exact hne (List.cons.inj this).1

end Path
end Shakedown

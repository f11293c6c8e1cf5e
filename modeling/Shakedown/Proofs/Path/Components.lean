import Shakedown.Path.Project
import Shakedown.Proofs.Path.Places

/-!
# The components of a path

A path has an anchor and the segments between its separators (`Path.isSplit_split`), and what it names is decided by
the segments that are not idle. A relative path with a separator has two components at least, unless it ends in an idle
segment and so asks for a directory (`Path.endsIdle_of_componentCount`). Without its last component a path has all its
names but the last one (`Path.names_parent`), and going on so from a path are its ancestors, as many as it has names and
one more at most (`Path.getElem?_ancestors`).
-/

namespace Shakedown.Path

variable {base p q : Path} {a : Anchor} {segments others : List String} {cs ds seg : List Char}

/-! ## Joined paths -/

theorem resolveAgainst_eq_join : base.resolveAgainst p = base.join p := by
  unfold resolveAgainst
  split
  · rename_i h
    exact (join_of_isAbsolute h).symm
  · rfl

theorem isAbsolute_join_of_base (h : base.isAbsolute = true) : (base.join p).isAbsolute = true := by
  cases hp : p.isAbsolute with
  | true => rw [join_of_isAbsolute hp, hp]
  | false => rw [isAbsolute_join hp, h]

theorem isAbsolute_resolveAgainst (h : base.isAbsolute = true) : (base.resolveAgainst p).isAbsolute = true := by
  rw [resolveAgainst_eq_join]
  exact isAbsolute_join_of_base h

theorem leadsTo_resolveAgainst {place : List String} :
    (base.resolveAgainst p).leadsTo place = p.leadsTo (base.leadsTo place) := by
  rw [resolveAgainst_eq_join]
  exact leadsTo_join

/-! ## Segments -/

/-- What an anchor and segments must be for a path to split into them: no segment has a separator, and the first one
tells the anchor. -/
structure IsSplit (a : Anchor) (segments : List String) : Prop where
  whole : ∀ s ∈ segments, '/' ∉ s.toList
  here : a = .here → ∀ s, segments.head? = some s → s = ""
  name : a = .name → ∀ s, segments.head? = some s → s ≠ ""

theorem whole_segmentsFrom (h : '/' ∉ seg) : ∀ s ∈ segmentsFrom seg cs, '/' ∉ s.toList := by
  induction cs generalizing seg with
  | nil =>
    intro s hs
    rw [segmentsFrom, List.mem_singleton] at hs
    simpa [hs] using h
  | cons c cs ih =>
    intro s hs
    rw [segmentsFrom] at hs
    split at hs
    · rcases List.mem_cons.mp hs with rfl | hs
      · simpa using h
      · exact ih (by simp) s hs
    · rename_i hc
      refine ih ?_ s hs
      simp [h, Ne.symm hc]

theorem head?_segmentsFrom_ne (h : seg ≠ [] ∨ ∃ c, cs.head? = some c ∧ c ≠ '/') :
    ∀ s, (segmentsFrom seg cs).head? = some s → s ≠ "" := by
  induction cs generalizing seg with
  | nil =>
    rintro s ⟨⟩
    rcases h with h | ⟨c, hc, -⟩
    · simpa using h
    · cases hc
  | cons c cs ih =>
    intro s hs
    rw [segmentsFrom] at hs
    split at hs
    · rename_i hc
      cases hs
      rcases h with h | ⟨d, hd, other⟩
      · simpa using h
      · cases hd
        exact absurd hc other
    · exact ih (Or.inl (by simp)) s hs

theorem isSplit_split (p : Path) : IsSplit p.split.1 p.split.2 := by
  unfold split
  split
  · exact ⟨by simp, by simp, by simp⟩
  · exact ⟨whole_segmentsFrom (by simp), by simp, by simp⟩
  · exact ⟨by simp, by simp, by simp⟩
  · refine ⟨?_, by simp, by simp⟩
    intro s hs
    rcases List.mem_cons.mp hs with rfl | hs
    · simp
    · exact whole_segmentsFrom (by simp) s hs
  · -- A name comes first only if the text is not empty and starts with no separator.
    rename_i empty rooted own dotted
    refine ⟨whole_segmentsFrom (by simp), by simp, ?_⟩
    intro _
    apply head?_segmentsFrom_ne
    cases hp : p.chars with
    | nil => exact absurd hp empty
    | cons c cs =>
      refine Or.inr ⟨c, rfl, ?_⟩
      rintro rfl
      exact rooted cs hp

theorem IsSplit.front (h : IsSplit a segments) (part : others <+: segments) : IsSplit a others := by
  have head : ∀ s, others.head? = some s → segments.head? = some s := by
    intro s hs
    obtain ⟨rest, rfl⟩ := part
    rw [List.head?_append, hs, Option.some_or]
  refine ⟨?_, ?_, ?_⟩
  · intro s hs
    exact h.whole s (part.mem hs)
  · intro ha s hs
    exact h.here ha s (head s hs)
  · intro ha s hs
    exact h.name ha s (head s hs)

theorem chars_ofSegments : (ofSegments a segments).chars = a.text.toList ++ ("/".intercalate segments).toList := by
  simp [ofSegments, chars]

/-- Segments with separators between them have the names that they had without. -/
theorem named_segmentsFrom_intercalate (whole : ∀ s ∈ segments, '/' ∉ s.toList) :
    named (segmentsFrom [] ("/".intercalate segments).toList) = named segments := by
  induction segments with
  | nil => simp [segmentsFrom, named, isIdle]
  | cons s rest ih =>
    have single : segmentsFrom [] s.toList = [s] := by
      rw [segmentsFrom_whole (whole s (List.mem_cons_self ..))]
      simp
    cases rest with
    | nil => rw [String.intercalate_singleton, single]
    | cons t rest =>
      have inner := ih fun u hu => whole u (List.mem_cons_of_mem _ hu)
      have text : ("/".intercalate (s :: t :: rest)).toList =
          s.toList ++ '/' :: ("/".intercalate (t :: rest)).toList := by
        rw [String.intercalate_cons_cons]
        simp
      rw [text, segmentsFrom_append, named_append, inner, single, ← named_append]
      rfl

/-- What an anchor and segments name is what the segments name. -/
theorem IsSplit.names (h : IsSplit a segments) : (ofSegments a segments).names = named segments := by
  rw [names_eq, chars_ofSegments]
  cases a with
  | root =>
    have text : Anchor.root.text.toList ++ ("/".intercalate segments).toList =
        [] ++ '/' :: ("/".intercalate segments).toList := rfl
    rw [text, segmentsFrom_append, named_append, named_segmentsFrom_intercalate h.whole]
    rfl
  | name =>
    exact named_segmentsFrom_intercalate h.whole
  | here =>
    cases segments with
    | nil => rfl
    | cons s rest =>
      obtain rfl : s = "" := h.here rfl s rfl
      -- The separator after the `.` is that of the first segment, which is empty.
      cases rest with
      | nil => rfl
      | cons t rest =>
        have text : Anchor.here.text.toList ++ ("/".intercalate ("" :: t :: rest)).toList =
            ['.'] ++ '/' :: ("/".intercalate (t :: rest)).toList := by
          rw [String.intercalate_cons_cons]
          simp [Anchor.text]
        have whole : ∀ u ∈ t :: rest, '/' ∉ u.toList := fun u hu => h.whole u (List.mem_cons_of_mem _ hu)
        rw [text, segmentsFrom_append, named_append, named_segmentsFrom_intercalate whole]
        rfl

theorem IsSplit.isAbsolute (h : IsSplit a segments) : (ofSegments a segments).isAbsolute = decide (a = .root) := by
  rw [Bool.eq_iff_iff, isAbsolute_iff, chars_ofSegments, decide_eq_true_iff]
  cases a with
  | root => simp [Anchor.text]
  | here => simp [Anchor.text]
  | name =>
    apply iff_of_false
    · cases segments with
      | nil => simp [Anchor.text]
      | cons s rest =>
        have hs : s.toList ≠ [] := by simpa using h.name rfl s rfl
        have first : ("/".intercalate (s :: rest)).toList.head? = s.toList.head? := by
          cases rest with
          | nil => rw [String.intercalate_singleton]
          | cons t rest => simp [List.head?_append, List.head?_eq_some_head hs]
        intro rooted
        apply h.whole s (List.mem_cons_self ..)
        apply List.mem_of_head?
        rw [← first]
        exact rooted
    · simp

theorem isAbsolute_eq (p : Path) : p.isAbsolute = decide (p.split.1 = .root) := by
  rw [Bool.eq_iff_iff, isAbsolute_iff, decide_eq_true_iff]
  unfold split
  split
  · rename_i h
    simp [h]
  · rename_i rest h
    simp [h]
  · rename_i h
    simp [h]
  · rename_i rest h
    simp [h]
  · rename_i empty rooted own dotted
    apply iff_of_false
    · intro hhead
      obtain ⟨rest, h⟩ := List.head?_eq_some_iff.mp hhead
      exact rooted rest h
    · simp

/-! ## The last component -/

/-- Segments are those up to the last one that names something, and idle ones after it. -/
theorem dropIdle_append (segments : List String) :
    ∃ idle, segments = dropIdle segments ++ idle ∧ ∀ s ∈ idle, isIdle s = true := by
  refine ⟨(segments.reverse.takeWhile isIdle).reverse, ?_, ?_⟩
  · rw [dropIdle, ← List.reverse_append, List.takeWhile_append_dropWhile, List.reverse_reverse]
  · intro s hs
    exact List.all_eq_true.mp List.all_takeWhile s (List.mem_reverse.mp hs)

theorem named_dropIdle : named (dropIdle segments) = named segments := by
  obtain ⟨idle, h, all⟩ := dropIdle_append segments
  have none : named idle = [] := by
    rw [named, List.filter_eq_nil_iff]
    intro s hs
    simp [all s hs]
  calc named (dropIdle segments) = named (dropIdle segments) ++ named idle := by rw [none, List.append_nil]
    _ = named (dropIdle segments ++ idle) := named_append.symm
    _ = named segments := by rw [← h]

theorem dropIdle_starts : dropIdle segments <+: segments := by
  obtain ⟨idle, h, -⟩ := dropIdle_append segments
  exact ⟨idle, h.symm⟩

/-- The last of the segments that are kept names something. -/
theorem isIdle_of_getLast? {last : String} (h : (dropIdle segments).getLast? = some last) : isIdle last = false := by
  rw [dropIdle, List.getLast?_reverse] at h
  have := List.head?_dropWhile_not isIdle segments.reverse
  rw [h] at this
  simpa using this

theorem named_dropLast_dropIdle : named (dropIdle segments).dropLast = (named segments).dropLast := by
  rw [← @named_dropIdle segments]
  cases hl : (dropIdle segments).getLast? with
  | none =>
    rw [List.getLast?_eq_none_iff.mp hl]
    rfl
  | some last =>
    -- The last segment that is kept is the last name, so both are dropped together.
    obtain ⟨before, h⟩ := List.getLast?_eq_some_iff.mp hl
    have kept : named [last] = [last] := by simp [named, isIdle_of_getLast? hl]
    rw [h, named_append, kept, List.dropLast_concat, List.dropLast_concat]

theorem dropIdle_eq_nil_iff : dropIdle segments = [] ↔ named segments = [] := by
  constructor
  · intro h
    rw [← named_dropIdle, h]
    rfl
  · intro h
    rw [← @named_dropIdle segments] at h
    cases hl : (dropIdle segments).getLast? with
    | none => exact List.getLast?_eq_none_iff.mp hl
    | some last =>
      -- The last of them would be left.
      have left : last ∈ named (dropIdle segments) :=
        List.mem_filter.mpr ⟨List.mem_of_getLast? hl, by rw [isIdle_of_getLast? hl]; rfl⟩
      rw [h] at left
      cases left

/-- What is left of a path that names something. -/
theorem parent_of_names (h : p.names ≠ []) :
    p.parent = some (ofSegments p.split.1 (dropIdle (dropIdle p.split.2).dropLast)) := by
  have kept : dropIdle p.split.2 ≠ [] := fun none => h (dropIdle_eq_nil_iff.mp none)
  unfold parent
  dsimp only
  split
  · contradiction
  · rfl

/-- A path that names nothing is left with nothing if it is a `.`, and has no parent else. -/
theorem parent_of_no_names (h : p.names = []) : p.parent = if p.split.1 = .here then some empty else none := by
  unfold parent
  dsimp only
  rw [dropIdle_eq_nil_iff.mpr h]

theorem isSplit_parent (p : Path) : IsSplit p.split.1 (dropIdle (dropIdle p.split.2).dropLast) :=
  (isSplit_split p).front (dropIdle_starts.trans ((List.dropLast_prefix _).trans dropIdle_starts))

/-- Without its last component a path has all its names but the last one. -/
theorem names_parent (h : p.parent = some q) : q.names = p.names.dropLast := by
  by_cases hn : p.names = []
  · rw [parent_of_no_names hn] at h
    split at h
    · cases h
      rw [hn]
      rfl
    · cases h
  · rw [parent_of_names hn] at h
    cases h
    rw [(isSplit_parent p).names, named_dropIdle, named_dropLast_dropIdle]
    rfl

theorem isAbsolute_parent (h : p.parent = some q) : q.isAbsolute = p.isAbsolute := by
  rw [isAbsolute_eq p]
  by_cases hn : p.names = []
  · rw [parent_of_no_names hn] at h
    split at h
    · rename_i here
      cases h
      rw [here]
      rfl
    · cases h
  · rw [parent_of_names hn] at h
    cases h
    exact (isSplit_parent p).isAbsolute

/-- Only what names nothing and is no `.` has no parent: the root, and the empty path. -/
theorem parent_eq_none_iff : p.parent = none ↔ p.names = [] ∧ p.split.1 ≠ .here := by
  by_cases hn : p.names = []
  · rw [parent_of_no_names hn]
    split <;> simp_all
  · rw [parent_of_names hn]
    simp [hn]

/-! ## Counting components -/

/-- A path that ends in a separator, or in a `.` after one, and so asks for a directory. -/
def EndsIdle (p : Path) : Prop := ['/'] <:+ p.chars ∨ ['/', '.'] <:+ p.chars

theorem chars_suffix_join : p.chars <:+ (base.join p).chars := by
  cases h : p.isAbsolute with
  | true => exact ⟨[], by simp [join_of_isAbsolute h]⟩
  | false =>
    rw [chars_join_of_relative h]
    split
    · exact List.suffix_append ..
    · exact (List.suffix_cons ..).trans (List.suffix_append ..)

/-- A path ends after a base as it ends alone. -/
theorem EndsIdle.join (h : p.EndsIdle) : (base.join p).EndsIdle := by
  rcases h with h | h
  · exact Or.inl (h.trans chars_suffix_join)
  · exact Or.inr (h.trans chars_suffix_join)

theorem isIdle_ofList_iff : isIdle (String.ofList cs) = true ↔ cs = [] ∨ cs = ['.'] := by
  simp [isIdle, ← String.toList_inj]

/-- After a separator a name comes, or no more than idle segments. -/
theorem named_or_idle_end (cs : List Char) :
    named (segmentsFrom [] cs) ≠ [] ∨ ['/'] <:+ '/' :: cs ∨ ['/', '.'] <:+ '/' :: cs := by
  -- The last segment decides, so the split is at the last separator, which may be the one in front.
  have sep : '/' ∈ ('/' :: cs).reverse := by simp
  obtain ⟨after, before, h, whole⟩ := List.eq_append_cons_of_mem sep
  have h : '/' :: cs = before.reverse ++ '/' :: after.reverse := by
    rw [← List.reverse_reverse ('/' :: cs), h]
    simp
  have names : named (segmentsFrom [] cs) =
      named (segmentsFrom [] before.reverse) ++ named [String.ofList after.reverse] := by
    have last : segmentsFrom [] after.reverse = [String.ofList after.reverse] := by
      rw [segmentsFrom_whole (by simpa using whole)]
      simp
    have front : named (segmentsFrom [] ('/' :: cs)) = named (segmentsFrom [] cs) := by
      simp [segmentsFrom, named, isIdle]
    rw [← front, h, segmentsFrom_append, named_append, last]
  by_cases idle : isIdle (String.ofList after.reverse) = true
  · rcases isIdle_ofList_iff.mp idle with empty | dot
    · refine Or.inr (Or.inl ?_)
      rw [h, empty]
      exact List.suffix_append ..
    · refine Or.inr (Or.inr ?_)
      rw [h, dot]
      exact List.suffix_append ..
  · refine Or.inl ?_
    rw [names]
    simp [named, idle]

/-- A relative path with a separator has one component only if it ends in an idle segment. -/
theorem endsIdle_of_componentCount (sep : '/' ∈ p.chars) (loose : p.isAbsolute = false) (few : p.componentCount ≤ 1) :
    p.EndsIdle := by
  -- The text is cut at its first separator. If a name comes after it there is a second component before it.
  obtain ⟨first, rest, h, whole⟩ := List.eq_append_cons_of_mem sep
  rcases named_or_idle_end rest with some_name | idle
  · exfalso
    have single : segmentsFrom [] first = [String.ofList first] := by
      rw [segmentsFrom_whole whole]
      simp
    have names : p.names = named [String.ofList first] ++ named (segmentsFrom [] rest) := by
      rw [names_eq, h, segmentsFrom_append, named_append, single]
    have later := List.length_pos_iff.mpr some_name
    have count : (if p.split.1 = .name then 0 else 1) + p.names.length ≤ 1 := few
    rw [names, List.length_append] at count
    -- What is before the first separator is a component too, by its name or as the anchor.
    by_cases hidle : isIdle (String.ofList first) = true
    · rcases isIdle_ofList_iff.mp hidle with rfl | rfl
      · rw [← Bool.not_eq_true, isAbsolute_iff, h] at loose
        exact loose rfl
      · have here : p.split.1 = .here := by
          simp [split, h]
        rw [here, if_neg (by decide)] at count
        omega
    · have one : named [String.ofList first] = [String.ofList first] := by simp [named, hidle]
      rw [one, List.length_singleton] at count
      omega
  · have part : '/' :: rest <:+ p.chars := by
      rw [h]
      exact List.suffix_append ..
    rcases idle with idle | idle
    · exact Or.inl (idle.trans part)
    · exact Or.inr (idle.trans part)

/-- A text without separators is a single component or none. -/
theorem componentCount_of_whole (whole : '/' ∉ p.chars) : p.componentCount ≤ 1 ∧ p.isAbsolute = false := by
  constructor
  · have single : segmentsFrom [] p.chars = [String.ofList p.chars] := by
      rw [segmentsFrom_whole whole]
      simp
    rw [componentCount, names_eq, single]
    by_cases hidle : isIdle (String.ofList p.chars) = true
    · -- A `.` alone is what the path starts with.
      simp only [named, List.filter_cons, hidle]
      split <;> simp
    · have name : p.split.1 = .name := by
        unfold split
        split
        · rfl
        · rename_i rest h
          exact absurd (h ▸ List.mem_cons_self ..) whole
        · rename_i h
          exact absurd (isIdle_ofList_iff.mpr (Or.inr h)) hidle
        · rename_i rest h
          exact absurd (h ▸ List.mem_cons_of_mem _ (List.mem_cons_self ..)) whole
        · rfl
      rw [name]
      simp [named, hidle]
  · rw [← Bool.not_eq_true, isAbsolute_iff]
    intro rooted
    exact whole (List.mem_of_mem_head? rooted)

/-! ## Ancestors -/

/-- The path to which a number of parents lead. -/
def climb : Nat → Path → Option Path
  | 0, p => some p
  | n + 1, p => p.parent.bind (climb n)

variable {n : Nat}

/-- Each parent takes one name away. -/
theorem names_climb (h : climb n p = some q) : q.names = p.names.take (p.names.length - n) := by
  -- The first parent is taken from the path, so the induction is on the number of parents from any path.
  induction n generalizing p with
  | zero =>
    cases h
    simp
  | succ n ih =>
    obtain ⟨r, hr, h⟩ := Option.bind_eq_some_iff.mp h
    rw [ih h, names_parent hr, List.length_dropLast, List.dropLast_eq_take, List.take_take]
    congr 1
    omega

theorem isAbsolute_climb (h : climb n p = some q) : q.isAbsolute = p.isAbsolute := by
  induction n generalizing p with
  | zero =>
    cases h
    rfl
  | succ n ih =>
    obtain ⟨r, hr, h⟩ := Option.bind_eq_some_iff.mp h
    rw [ih h, isAbsolute_parent hr]

/-- A path has no more parents than names, and one more if it starts with a `.`. -/
theorem climb_eq_none (h : p.names.length + 1 < n) : climb n p = none := by
  induction n generalizing p with
  | zero => cases h
  | succ n ih =>
    cases hp : p.parent with
    | none => rw [climb, hp, Option.bind_none]
    | some q =>
      rw [climb, hp, Option.bind_some]
      by_cases hn : p.names = []
      · rw [parent_of_no_names hn] at hp
        split at hp
        · -- From the empty path there is no way up.
          cases hp
          rw [hn] at h
          cases n with
          | zero => simp at h
          | succ n => rfl
        · cases hp
      · apply ih
        have := List.length_pos_iff.mpr hn
        rw [names_parent hp, List.length_dropLast]
        omega

theorem getElem?_ancestorsFrom {fuel : Nat} :
    (ancestorsFrom fuel p)[n]? = if n ≤ fuel then climb n p else none := by
  induction fuel generalizing p n with
  | zero =>
    cases n with
    | zero => rfl
    | succ n => rfl
  | succ fuel ih =>
    rw [ancestorsFrom]
    cases hp : p.parent with
    | none =>
      cases n with
      | zero => rfl
      | succ n => simp [climb, hp]
    | some q =>
      cases n with
      | zero => rfl
      | succ n => simp [climb, hp, ih]

/-- The ancestors of a path are what its parents lead to, as far as they go. -/
theorem getElem?_ancestors : p.ancestors[n]? = climb n p := by
  rw [ancestors, getElem?_ancestorsFrom]
  split
  · rfl
  · rename_i far
    exact (climb_eq_none (by omega)).symm

/-- The first ancestor of a kind, and how far up it is: all nearer ones are of another kind. -/
structure IsNearest (kind : Path → Bool) (start : Path) (n : Nat) (dir : Path) : Prop where
  reached : climb n start = some dir
  here : kind dir = true
  nearer : ∀ m < n, ∀ near, climb m start = some near → kind near = false

theorem find?_ancestors {kind : Path → Bool} {start dir : Path} (h : start.ancestors.find? kind = some dir) :
    ∃ n, IsNearest kind start n dir := by
  obtain ⟨here, n, hn, at_n, nearer⟩ := List.find?_eq_some_iff_getElem.mp h
  refine ⟨n, ?_, here, ?_⟩
  · rw [← getElem?_ancestors, List.getElem?_eq_getElem hn, at_n]
  · intro m hm near hnear
    rw [← getElem?_ancestors] at hnear
    obtain ⟨_, rfl⟩ := List.getElem?_eq_some_iff.mp hnear
    simpa using nearer m hm

theorem find?_ancestors_eq_none {kind : Path → Bool} {start dir : Path} (h : start.ancestors.find? kind = none)
    (reached : climb n start = some dir) : kind dir = false := by
  rw [← getElem?_ancestors] at reached
  simpa using List.find?_eq_none.mp h dir (List.mem_of_getElem? reached)

end Shakedown.Path

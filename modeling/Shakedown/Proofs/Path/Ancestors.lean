import Shakedown.Proofs.Path.Components

/-!
# The ancestors of a path

Parents only take away from the end of a path: as written, every ancestor is what the path starts with
(`Path.chars_climb`), and it names all but the last names, so that there is one for each number of names that are kept
(`Path.exists_climb`). A search among the ancestors comes to the nearest one of a kind (`Path.find?_ancestors_iff`).
-/

namespace Shakedown.Path

variable {p q : Path} {a : Anchor} {segments others : List String} {cs seg : List Char} {n : Nat}

/-! ## What a path starts with -/

theorem segmentsFrom_ne_nil : segmentsFrom seg cs ≠ [] := by
  induction cs generalizing seg with
  | nil => simp [segmentsFrom]
  | cons c cs ih =>
    rw [segmentsFrom]
    split
    · simp
    · exact ih

theorem toList_intercalate_cons (h : segments ≠ []) (s : String) :
    ("/".intercalate (s :: segments)).toList = s.toList ++ '/' :: ("/".intercalate segments).toList := by
  obtain ⟨t, rest, rfl⟩ := List.exists_cons_of_ne_nil h
  rw [String.intercalate_cons_cons, String.toList_append, String.toList_append, List.append_assoc]
  rfl

/-- With the separators between them again, segments are the text that they were split from. -/
theorem toList_intercalate_segmentsFrom :
    ("/".intercalate (segmentsFrom seg cs)).toList = seg.reverse ++ cs := by
  induction cs generalizing seg with
  | nil => rw [segmentsFrom, String.intercalate_singleton, String.toList_ofList, List.append_nil]
  | cons c cs ih =>
    rw [segmentsFrom]
    split
    · rename_i hc
      rw [toList_intercalate_cons segmentsFrom_ne_nil, ih, String.toList_ofList, hc]
      rfl
    · rw [ih, List.reverse_cons, List.append_assoc]
      rfl

/-- A path is its anchor and the segments between its separators. -/
theorem chars_ofSegments_split (p : Path) : (ofSegments p.split.1 p.split.2).chars = p.chars := by
  rw [chars_ofSegments]
  unfold split
  split
  · rename_i h
    rw [h]
    rfl
  · rename_i rest h
    rw [h, toList_intercalate_segmentsFrom]
    simp [Anchor.text]
  · rename_i h
    rw [h]
    rfl
  · rename_i rest h
    rw [h, toList_intercalate_cons segmentsFrom_ne_nil, toList_intercalate_segmentsFrom]
    simp [Anchor.text]
  · rw [toList_intercalate_segmentsFrom]
    rfl

theorem intercalate_starts (h : others <+: segments) :
    ("/".intercalate others).toList <+: ("/".intercalate segments).toList := by
  induction others generalizing segments with
  | nil => exact List.nil_prefix
  | cons s others ih =>
    obtain ⟨rest, rfl⟩ := h
    rw [List.cons_append]
    cases others with
    | nil =>
      cases rest with
      | nil => exact List.prefix_rfl
      | cons t rest =>
        rw [String.intercalate_singleton, List.nil_append, toList_intercalate_cons (by simp)]
        exact List.prefix_append ..
    | cons t others =>
      have tail := ih (List.prefix_append (t :: others) rest)
      have here : t :: others ≠ [] := List.cons_ne_nil t others
      rw [toList_intercalate_cons here, toList_intercalate_cons (List.append_ne_nil_of_left_ne_nil here rest)]
      exact (List.prefix_append_right_inj _).mpr ((List.prefix_cons_inj _).mpr tail)

theorem chars_parent (h : p.parent = some q) : q.chars <+: p.chars := by
  by_cases hn : p.names = []
  · rw [parent_of_no_names hn] at h
    split at h
    · cases h
      exact List.nil_prefix
    · cases h
  · rw [parent_of_names hn] at h
    cases h
    have kept : dropIdle (dropIdle p.split.2).dropLast <+: p.split.2 :=
      dropIdle_starts.trans ((List.dropLast_prefix _).trans dropIdle_starts)
    rw [← chars_ofSegments_split p, chars_ofSegments, chars_ofSegments]
    exact (List.prefix_append_right_inj _).mpr (intercalate_starts kept)

/-! ## The way up -/

/-- As it is written, an ancestor is what the path starts with. -/
theorem chars_climb (h : climb n p = some q) : q.chars <+: p.chars := by
  induction n generalizing p with
  | zero =>
    cases h
    exact List.prefix_rfl
  | succ n ih =>
    obtain ⟨r, hr, h⟩ := Option.bind_eq_some_iff.mp h
    exact (ih h).trans (chars_parent hr)

/-- There is a way up for each name. -/
theorem exists_climb (h : n ≤ p.names.length) : ∃ q, climb n p = some q := by
  induction n generalizing p with
  | zero => exact ⟨p, rfl⟩
  | succ n ih =>
    have some_name : p.names ≠ [] := List.ne_nil_of_length_pos (by omega)
    have up := parent_of_names some_name
    have fewer := names_parent up
    obtain ⟨q, hq⟩ := @ih (ofSegments p.split.1 (dropIdle (dropIdle p.split.2).dropLast)) (by
      rw [fewer, List.length_dropLast]
      omega)
    exact ⟨q, by rw [climb, up, Option.bind_some, hq]⟩

/-- Beyond the ancestors for its names a path has no more than the empty one. -/
theorem eq_empty_of_climb (h : climb n p = some q) (far : p.names.length < n) : q = empty := by
  induction n generalizing p with
  | zero => cases far
  | succ n ih =>
    obtain ⟨r, hr, h⟩ := Option.bind_eq_some_iff.mp h
    by_cases hn : p.names = []
    · rw [parent_of_no_names hn] at hr
      split at hr
      · cases hr
        cases n with
        | zero => exact (Option.some.inj h).symm
        | succ n => cases h
      · cases hr
    · have := List.length_pos_iff.mpr hn
      apply ih h
      rw [names_parent hr, List.length_dropLast]
      omega

/-! ## The nearest of a kind -/

variable {kind : Path → Bool} {start dir : Path}

/-- A search among the ancestors comes to the nearest one of the kind. -/
theorem find?_ancestors_iff : start.ancestors.find? kind = some dir ↔ ∃ n, IsNearest kind start n dir := by
  constructor
  · exact find?_ancestors
  · rintro ⟨n, nearest⟩
    rw [List.find?_eq_some_iff_getElem]
    have reached := nearest.reached
    rw [← getElem?_ancestors] at reached
    obtain ⟨hn, at_n⟩ := List.getElem?_eq_some_iff.mp reached
    refine ⟨nearest.here, n, hn, at_n, ?_⟩
    intro m hm
    have nearer := nearest.nearer m hm start.ancestors[m] (by rw [← getElem?_ancestors, List.getElem?_eq_getElem])
    rw [nearer]
    rfl

/-- There is one to come to if any ancestor is of the kind. -/
theorem isSome_find?_ancestors :
    (start.ancestors.find? kind).isSome ↔ ∃ n dir, climb n start = some dir ∧ kind dir = true := by
  constructor
  · intro found
    obtain ⟨dir, h⟩ := Option.isSome_iff_exists.mp found
    obtain ⟨n, nearest⟩ := find?_ancestors h
    exact ⟨n, dir, nearest.reached, nearest.here⟩
  · rintro ⟨n, dir, reached, here⟩
    cases h : start.ancestors.find? kind with
    | some _ => rfl
    | none =>
      rw [find?_ancestors_eq_none h reached] at here
      cases here

end Shakedown.Path

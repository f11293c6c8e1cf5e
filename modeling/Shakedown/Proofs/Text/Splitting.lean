import Mathlib.Data.String.Basic
import Shakedown.Path.Basic

/-!
# Splitting at a character

A text is split by going through it at byte offsets. For a separator of one character this gives what lies between its
occurrences (`Text.splitOn_singleton`); of a path, its segments (`Text.splitOn_separator`).
-/

namespace Shakedown.Text

open String (utf8Len ofList)

/-- The state of splitting `l ++ m ++ r`, where `l` was dealt with and `m` was read since the last separator. -/
theorem splitOnAux_of_valid (c : Char) (l m r : List Char) (pieces : List String) :
    String.splitOnAux (ofList (l ++ m ++ r)) (String.singleton c) ⟨utf8Len l⟩ ⟨utf8Len l + utf8Len m⟩ 0 pieces =
      pieces.reverse ++ (r.splitOnPPrepend (· == c) m.reverse).map ofList := by
  unfold String.splitOnAux
  simp only [List.append_assoc, String.atEnd_iff, String.rawEndPos_ofList, String.utf8Len_append,
    String.Pos.Raw.mk_le_mk, Nat.add_le_add_iff_left, (by omega : utf8Len m + utf8Len r ≤ utf8Len m ↔ utf8Len r = 0),
    String.utf8Len_eq_zero, List.reverse_cons]
  split
  · subst r
    simpa using String.extract_of_valid l m []
  · obtain ⟨d, r, rfl⟩ := r.exists_cons_of_ne_nil ‹_›
    have here : String.Pos.Raw.get (ofList (l ++ (m ++ d :: r))) ⟨utf8Len l + utf8Len m⟩ = d := by
      simpa [-String.ofList_append] using String.get_of_valid (l ++ m) (d :: r)
    have next : String.Pos.Raw.next (ofList (l ++ (m ++ d :: r))) ⟨utf8Len l + utf8Len m⟩ =
        ⟨utf8Len l + utf8Len m + d.utf8Size⟩ := by
      simpa [-String.ofList_append] using String.next_of_valid (l ++ m) d r
    have piece : String.Pos.Raw.extract (ofList (l ++ (m ++ d :: r))) ⟨utf8Len l⟩ ⟨utf8Len l + utf8Len m⟩ = ofList m := by
      simpa [-String.ofList_append] using String.extract_of_valid l m (d :: r)
    have separator : String.Pos.Raw.get (String.singleton c) 0 = c := by
      simpa using String.get_of_valid [] [c]
    have beyond : String.Pos.Raw.next (String.singleton c) 0 = ⟨c.utf8Size⟩ := by
      simpa using String.next_of_valid [] c []
    rw [here, next, separator, beyond]
    by_cases h : d = c
    · -- The separator is complete at once, so a piece ends before it.
      subst h
      have back : (⟨utf8Len l + utf8Len m + d.utf8Size⟩ : String.Pos.Raw).unoffsetBy ⟨d.utf8Size⟩ =
          ⟨utf8Len l + utf8Len m⟩ := by
        simp [String.Pos.Raw.unoffsetBy]
      have complete : (String.singleton d).rawEndPos ≤ ⟨d.utf8Size⟩ := by simp [String.Pos.Raw.le_iff]
      rw [if_pos (by simp), back, piece, if_pos complete]
      have rest := splitOnAux_of_valid d (l ++ m ++ [d]) [] r (ofList m :: pieces)
      simpa [-String.ofList_append, Nat.add_assoc, List.splitOnPPrepend_cons_eq_if] using rest
    · have back : (⟨utf8Len l + utf8Len m⟩ : String.Pos.Raw).unoffsetBy 0 = ⟨utf8Len l + utf8Len m⟩ := by
        simp [String.Pos.Raw.unoffsetBy]
      rw [if_neg (by simpa using h), back, next]
      -- The character joins the piece that is being read.
      have rest := splitOnAux_of_valid c l (m ++ [d]) r pieces
      simpa [-String.ofList_append, Nat.add_assoc, List.splitOnPPrepend_cons_eq_if, h] using rest
termination_by r.length

theorem splitOn_singleton (c : Char) (s : String) :
    s.splitOn (String.singleton c) = (s.toList.splitOnP (· == c)).map ofList := by
  have start := splitOnAux_of_valid c [] [] s.toList []
  have filled : (String.singleton c == "") = false := by simp [← String.toList_inj]
  rw [String.splitOn, filled]
  simpa using start

theorem segmentsFrom_eq_splitOnP (seg cs : List Char) :
    Path.segmentsFrom seg cs = (cs.splitOnPPrepend (· == '/') seg).map ofList := by
  induction cs generalizing seg with
  | nil => simp [Path.segmentsFrom]
  | cons c cs ih =>
    rw [Path.segmentsFrom, List.splitOnPPrepend_cons_eq_if, ih, ih]
    by_cases hc : c = '/' <;> simp [hc]

/-- Splitting a path at its separators gives its segments. -/
theorem splitOn_separator (s : String) : s.splitOn "/" = Path.segmentsFrom [] s.toList := by
  rw [segmentsFrom_eq_splitOnP]
  exact splitOn_singleton '/' s

end Shakedown.Text

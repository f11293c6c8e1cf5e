import Mathlib.Data.List.TakeWhile
import Shakedown.Proofs.Text.Encoding
import Shakedown.Text.Blank
import Shakedown.Text.FirstLine

/-!
# The first line of a text

The first line of an encoded text is the encoding of what stands before its first line feed, with that line feed
(`firstLineText?_encode`). A line feed at the end of a text is blank, and trimming takes it away (`trim_append_lf`).
A text has no more words than characters.
-/

namespace Shakedown.Text

open Utf8 (bytesOf encode)

/-- What stands before the first line feed of a text. -/
def beforeLineFeed (s : String) : String := String.ofList (s.toList.takeWhile (· ≠ '\n'))

/-! ## First lines -/

/-- The first line goes up to the first line feed and includes it. -/
theorem firstLine_append {front : List UInt8} (h : 10 ∉ front) (rest : List UInt8) :
    firstLine (front ++ 10 :: rest) = front ++ [10] := by
  induction front with
  | nil => rfl
  | cons b front ih =>
    have hb : b ≠ 10 := fun hb => h (hb ▸ List.mem_cons_self ..)
    rw [List.cons_append, firstLine, if_neg hb, ih fun hm => h (List.mem_cons_of_mem _ hm), List.cons_append]

theorem encode_append_lf (s : String) : encode (s ++ "\n") = encode s ++ [10] := by
  rw [Utf8.encode_eq_bytesOf, String.toList_append, Utf8.bytesOf_append, ← Utf8.encode_eq_bytesOf]
  rfl

/-- A text without a line feed has no byte that is one. -/
theorem lf_not_mem_encode {s : String} (h : '\n' ∉ s.toList) : 10 ∉ encode s := by
  rw [Utf8.encode_eq_bytesOf]
  exact Utf8.lf_not_mem_bytesOf h

theorem lf_not_mem_beforeLineFeed (s : String) : '\n' ∉ (beforeLineFeed s).toList := by
  intro hm
  rw [beforeLineFeed, String.toList_ofList] at hm
  simpa using List.mem_takeWhile_imp hm

/-- The bytes of a text that is sent with a line feed after it. -/
theorem encode_split (s : String) : ∃ rest, encode (s ++ "\n") = encode (beforeLineFeed s) ++ 10 :: rest := by
  have hsplit : s.toList = (beforeLineFeed s).toList ++ s.toList.dropWhile (· ≠ '\n') := by
    rw [beforeLineFeed, String.toList_ofList, List.takeWhile_append_dropWhile]
  -- Either the text has no line feed and the one that is added ends it, or its own does.
  cases hd : s.toList.dropWhile (· ≠ '\n') with
  | nil =>
    rw [hd, List.append_nil] at hsplit
    have hwhole : s = beforeLineFeed s := String.toList_inj.mp hsplit
    exact ⟨[], by rw [← hwhole, encode_append_lf]⟩
  | cons c cs =>
    have hc : c = '\n' := by
      have hhead := List.head?_dropWhile_not (fun c : Char => decide (c ≠ '\n')) s.toList
      rw [hd] at hhead
      simpa using hhead
    subst hc
    refine ⟨bytesOf (cs ++ ['\n']), ?_⟩
    rw [Utf8.encode_eq_bytesOf, String.toList_append, hsplit, hd, Utf8.encode_eq_bytesOf, List.append_assoc,
      Utf8.bytesOf_append]
    rfl

/-- Of a line that comes with a line feed and more after it, the line is read. -/
theorem firstLineText?_encode {line : String} (h : '\n' ∉ line.toList) (rest : List UInt8) :
    firstLineText? (encode line ++ 10 :: rest) = some (line ++ "\n") := by
  rw [firstLineText?, firstLine_append (lf_not_mem_encode h), ← encode_append_lf, Utf8.decode_eq_iff.mpr rfl]
  rfl

/-! ## Blanks -/

/-- A blank at the end is cut off. -/
theorem trimEnd_append_blank (cs : List Char) {c : Char} (hc : isBlank c = true) : trimEnd (cs ++ [c]) = trimEnd cs := by
  simp [trimEnd, hc]

/-- Nothing is cut off behind a visible character. -/
theorem trimEnd_append_visible (cs : List Char) {c : Char} (hc : isBlank c = false) :
    trimEnd (cs ++ [c]) = cs ++ [c] := by
  simp [trimEnd, hc]

/-- A line feed at the end is cut off with the blanks around the text. -/
theorem trim_append_lf (s : String) : trim (s ++ "\n") = trim s := by
  have hblank : isBlank '\n' = true := by decide
  have hstart : trimEnd (trimStart (s.toList ++ ['\n'])) = trimEnd (trimStart s.toList) := by
    rw [trimStart, List.dropWhile_append]
    split
    case isTrue hall =>
      rw [trimStart, List.isEmpty_iff.mp hall]
      simp [hblank]
    case isFalse => exact trimEnd_append_blank _ hblank
  rw [trim, String.toList_append, show "\n".toList = ['\n'] from rfl, hstart, ← trim]

theorem length_trim_le (s : String) : (trim s).length ≤ s.length := by
  have hstart : (trimStart s.toList).length ≤ s.toList.length := List.length_dropWhile_le ..
  have hend : (trimEnd (trimStart s.toList)).length ≤ (trimStart s.toList).length := by
    rw [trimEnd, List.length_reverse]
    exact Nat.le_trans (List.length_dropWhile_le ..) (Nat.le_of_eq (List.length_reverse ..))
  rw [trim, String.length_ofList, ← String.length_toList]
  exact Nat.le_trans hend hstart

/-- Words take no more than the characters that they are made of, as each has at least one. -/
theorem length_wordsFrom_le (word cs : List Char) : (wordsFrom word cs).length ≤ word.length + cs.length := by
  induction cs generalizing word with
  | nil =>
    rw [wordsFrom]
    cases word with
    | nil => simp
    | cons c word => simp
  | cons c cs ih =>
    have hfresh := ih []
    have hlonger := ih (c :: word)
    -- A blank ends the word that is there, if there is one, and any other character makes it longer.
    rw [wordsFrom]
    cases word with
    | nil => grind
    | cons d word => grind

theorem length_words_le (s : String) : (words s).length ≤ s.length := by
  have h := length_wordsFrom_le [] s.toList
  rwa [List.length_nil, Nat.zero_add, String.length_toList] at h

end Shakedown.Text

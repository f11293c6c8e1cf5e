import Shakedown.Proofs.Json.Reading
import Shakedown.Proofs.Json.Writing

/-!
# A value on one line

The text of a value without spaces spells it (`Fits.spells_compact`), and no control character stands in that text,
whatever the strings of the value hold (`Fits.printed_compact`). So it is one line, and the line is read back as the
value (`Fits.parse?_line`). The inductions are on the value, as for the layout over several lines.
-/

namespace Shakedown.Json

/-- No ASCII control character is among the characters. -/
def Printed (cs : List Char) : Prop := ∀ c ∈ cs, 32 ≤ c.toNat

variable {cs ds : List Char} {depth : Nat} {j : Json}

theorem Printed.cons {c : Char} (hc : 32 ≤ c.toNat) (h : Printed cs) : Printed (c :: cs) := by
  intro d hd
  rcases List.mem_cons.mp hd with rfl | hd
  · exact hc
  · exact h d hd

theorem printed_singleton {c : Char} (hc : 32 ≤ c.toNat) : Printed [c] := by simpa [Printed] using hc

theorem Printed.append (h : Printed cs) (h' : Printed ds) : Printed (cs ++ ds) := by
  intro c hc
  rcases List.mem_append.mp hc with hc | hc
  · exact h c hc
  · exact h' c hc

/-- Pieces without control characters, joined by such a text. -/
theorem Printed.intercalate {sep : List Char} (hsep : Printed sep) {pieces : List (List Char)}
    (h : ∀ piece ∈ pieces, Printed piece) : Printed (sep.intercalate pieces) := by
  induction pieces with
  | nil => simp [Printed]
  | cons piece pieces ih =>
    have hfirst := h piece List.mem_cons_self
    cases pieces with
    | nil => simpa using hfirst
    | cons other pieces =>
      rw [List.intercalate_cons_cons]
      exact (hfirst.append hsep).append (ih fun p hp => h p (List.mem_cons_of_mem _ hp))

/-! ## Tokens -/

/-- The digits of an escape are printed characters. -/
theorem printed_hexDigit : ∀ v < 16, 32 ≤ (hexDigit v).toNat := by decide

/-- A character is written with printed characters only: a control character is escaped. -/
theorem printed_escapeChar (c : Char) : Printed (escapeChar c) := by
  unfold escapeChar
  -- The named escapes are two characters each, the others name a control character by its digits.
  split_ifs with hquote hslash hline hreturn htab hback hfeed hcontrol
  iterate 7 exact .cons (by decide) (printed_singleton (by decide))
  · have hhigh := printed_hexDigit (c.toNat / 16) (by omega)
    have hlow := printed_hexDigit (c.toNat % 16) (by omega)
    simp [Printed, hhigh, hlow]
  · simpa [Printed] using hcontrol

/-- A quoted text holds no control character, whatever the text is. -/
theorem printed_quote (s : String) : Printed (quote s).toList := by
  rw [quote_toList]
  refine Printed.append (.cons (by decide) ?_) (printed_singleton (by decide))
  intro c hc
  obtain ⟨d, -, hc⟩ := List.mem_flatMap.mp hc
  exact printed_escapeChar d c hc

theorem Digits.printed {n : Nat} (h : Digits n ds) : Printed ds := by
  intro c hc
  have hdigit := h.digit c hc
  simp [Char.isDigit, UInt32.le_iff_toNat_le] at hdigit
  exact Nat.le_trans (by decide) hdigit.1

/-- The numeral of an integer holds no control character. -/
theorem printed_int (n : Int) : Printed (toString n).toList := by
  have h := spells_int n
  generalize (toString n).toList = cs at h
  cases h with
  | nat digits => exact digits.printed
  | negative nonzero digits => exact .cons (by decide) digits.printed

/-! ## Values -/

/-- The items are written each by itself. -/
theorem compactItems_eq_map (js : List Json) : compactItems js = js.map compact := by
  induction js with
  | nil => rfl
  | cons j js ih => rw [compactItems, ih, List.map_cons]

/-- The fields are written each by itself, the key before the value. -/
theorem compactFields_eq_map (fs : List (String × Json)) :
    compactFields fs = fs.map fun f => quote f.1 ++ ":" ++ compact f.2 := by
  induction fs with
  | nil => rfl
  | cons f fs ih => rw [compactFields, ih, List.map_cons]

theorem compact_array_toList (js : List Json) :
    (compact (.array js)).toList = '[' :: [','].intercalate (js.map fun j => (compact j).toList) ++ [']'] := by
  rw [compact, compactItems_eq_map]
  simp [String.toList_intercalate, Function.comp_def]

theorem compact_object_toList (fs : List (String × Json)) :
    (compact (.object fs)).toList =
      '\x7b' :: [','].intercalate (fs.map fun f => (quote f.1).toList ++ ':' :: (compact f.2).toList) ++ ['\x7d'] := by
  rw [compact, compactFields_eq_map]
  simp [String.toList_intercalate, Function.comp_def]

/-- A compact text spells its value. -/
theorem Fits.spells_compact (h : Fits depth j) : Spells (.value j) (compact j).toList := by
  -- As over several lines, with nothing where the spaces are.
  induction h with
  | null => simpa [compact] using Spells.null
  | bool b =>
    cases b with
    | true => simpa [compact] using Spells.boolTrue
    | false => simpa [compact] using Spells.boolFalse
  | @int depth n low high => exact spells_int n
  | string s =>
    rw [compact, quote_toList]
    exact .string (letters_flatMap s.toList)
  | @array depth js items ih =>
    rw [compact_array_toList]
    cases js with
    | nil => exact .emptyArray spaces_nil
    | cons j js =>
      refine .array ?_
      simpa using spells_items spaces_nil spaces_nil (List.cons_ne_nil j js) ih
  | @object depth fs fields ih =>
    rw [compact_object_toList]
    cases fs with
    | nil => exact .emptyObject spaces_nil
    | cons f fs =>
      refine .object ?_
      have hwrite : ∀ g ∈ f :: fs, WritesField (fun f => (quote f.1).toList ++ ':' :: (compact f.2).toList) [] g :=
        fun g hg => ⟨_, _, letters_flatMap g.1.toList, ih g hg, by simp⟩
      simpa using spells_fields spaces_nil spaces_nil spaces_nil (List.cons_ne_nil f fs) hwrite

/-- A compact text holds no control character, and so no line feed. -/
theorem Fits.printed_compact (h : Fits depth j) : Printed (compact j).toList := by
  have hcomma : Printed [','] := printed_singleton (by decide)
  induction h with
  | null => simp [compact, Printed]
  | bool b =>
    cases b with
    | true => simp [compact, Printed]
    | false => simp [compact, Printed]
  | @int depth n low high => exact printed_int n
  | string s => exact printed_quote s
  | @array depth js items ih =>
    rw [compact_array_toList]
    refine Printed.append (.cons (by decide) (hcomma.intercalate ?_)) (printed_singleton (by decide))
    intro piece hpiece
    obtain ⟨j, hj, rfl⟩ := List.mem_map.mp hpiece
    exact ih j hj
  | @object depth fs fields ih =>
    rw [compact_object_toList]
    refine Printed.append (.cons (by decide) (hcomma.intercalate ?_)) (printed_singleton (by decide))
    intro piece hpiece
    obtain ⟨f, hf, rfl⟩ := List.mem_map.mp hpiece
    exact (printed_quote f.1).append (.cons (by decide) (ih f hf))

/-- The text of a value has no line feed in it. -/
theorem Fits.lf_not_mem_compact (h : Fits depth j) : '\n' ∉ (compact j).toList := by
  intro hm
  have hprinted : 32 ≤ '\n'.toNat := h.printed_compact '\n' hm
  exact absurd hprinted (by decide)

/-- A line that holds the text of a value is read as the value, with the fields of its objects in order. -/
theorem Fits.parse?_line (h : Fits 127 j) : parse? (compact j ++ "\n") = some j.sorted := by
  have hend : Spaces ['\n'] := by
    intro c hc
    obtain rfl := List.mem_singleton.mp hc
    decide
  exact parse?_of_spells spaces_nil h.spells_compact hend (by simp) h

end Shakedown.Json

import Mathlib.Tactic.SplitIfs
import Shakedown.Json.Printer
import Shakedown.Proofs.Json.Grammar

/-!
# What is written is a document

The layout of a value over several lines spells it (`Fits.spells_prettyAt`), so the whole text is a document
(`Fits.isDocument_pretty`). The induction is on the value: strings and numbers are tokens, and a block puts what
its entries spell together with spaces around each (`spells_items`, `spells_fields`).
-/

namespace Shakedown.Json

/-! ## Strings -/

/-- The digit that is written for a value is a digit of that value. -/
theorem hexDigit_hexDigit : ∀ v < 16, HexDigit (hexDigit v) v := by
  unfold HexDigit
  decide

/-- The escape of a control character by its number. -/
theorem hexFour_control {n : Nat} (h : n < 32) : HexFour ['0', '0', hexDigit (n / 16), hexDigit (n % 16)] n := by
  have hzero : HexDigit '0' 0 := Or.inl rfl
  have hfour := HexFour.of hzero hzero (hexDigit_hexDigit (n / 16) (by omega)) (hexDigit_hexDigit (n % 16) (by omega))
  rwa [Nat.zero_mul, Nat.zero_add, Nat.div_add_mod'] at hfour

/-- A character is written as an escape of itself, or as it is. -/
theorem Letters.cons_escapeChar {xs cs : List Char} (h : Letters xs cs) (c : Char) :
    Letters (c :: xs) (Json.escapeChar c ++ cs) := by
  have code : ∀ {n : Nat}, c.toNat = n → c = Char.ofNat n := by
    rintro n rfl
    exact c.ofNat_toNat.symm
  unfold Json.escapeChar
  -- The tests come in the order of the writer: the named escapes, the other control characters, all else.
  split_ifs with hquote hslash hline hreturn htab hback hfeed hcontrol
  · exact .escape (by rw [hquote]; decide) h
  · exact .escape (by rw [hslash]; decide) h
  · exact .escape (by rw [hline]; decide) h
  · exact .escape (by rw [hreturn]; decide) h
  · exact .escape (by rw [htab]; decide) h
  · exact .escape (by rw [code hback]; decide) h
  · exact .escape (by rw [code hfeed]; decide) h
  · have hex := Letters.unicode (hexFour_control hcontrol) (Or.inl (by omega)) h
    rw [← code rfl] at hex
    exact hex
  · exact .plain hquote hslash (Nat.le_of_not_lt hcontrol) h

/-- The characters of a text are written one by one. -/
theorem letters_flatMap (xs : List Char) : Letters xs (xs.flatMap escapeChar) := by
  induction xs with
  | nil => exact .nil
  | cons c xs ih => exact ih.cons_escapeChar c

@[simp] theorem quote_toList (s : String) : (quote s).toList = '"' :: s.toList.flatMap escapeChar ++ ['"'] :=
  String.toList_ofList

/-! ## Numbers -/

/-- A number that is not zero does not start with the digit zero. -/
theorem head?_toDigits_ne {n : Nat} (h : n ≠ 0) : (Nat.toDigits 10 n).head? ≠ some '0' := by
  induction n using Nat.strongRecOn with
  | ind n ih =>
    rcases Nat.lt_or_ge n 10 with hlt | hge
    · have hdigit : ∀ m < 10, m ≠ 0 → [Nat.digitChar m].head? ≠ some '0' := by decide
      rw [Nat.toDigits_of_lt_base hlt]
      exact hdigit n hlt h
    · have hless : n / 10 < n := by omega
      have hquotient : n / 10 ≠ 0 := by omega
      have hsome : (Nat.toDigits 10 (n / 10)).head?.isSome := by
        rw [List.isSome_head?]
        exact Nat.toDigits_ne_nil
      rw [Nat.toDigits_of_base_le (by decide) hge, List.head?_append, Option.or_of_isSome hsome]
      exact ih _ hless hquotient

/-- The digits of a number in base ten are a numeral for it. -/
theorem digits_toDigits (n : Nat) : Digits n (Nat.toDigits 10 n) where
  nonempty := Nat.toDigits_ne_nil
  digit := fun _ hc => Nat.isDigit_of_mem_toDigits (by decide) (by decide) hc
  leading := by
    intro hzero
    have hn : n = 0 := Decidable.byContradiction fun hne => head?_toDigits_ne hne hzero
    rw [hn]
    rfl
  value := Nat.ofDigitChars_ten_toDigits

/-- The numeral of an integer spells it. -/
theorem spells_int (n : Int) : Spells (.value (.int n)) (toString n).toList := by
  cases n with
  | ofNat n =>
    have htext : (toString (Int.ofNat n)).toList = Nat.toDigits 10 n := by
      rw [Int.toString_eq_repr, Int.repr, Nat.repr_eq_ofList_toDigits, String.toList_ofList]
    rw [htext]
    exact .nat (digits_toDigits n)
  | negSucc n =>
    have htext : (toString (Int.negSucc n)).toList = '-' :: Nat.toDigits 10 (n + 1) := by
      rw [Int.toString_eq_repr, Int.repr, Nat.repr_eq_ofList_toDigits, String.toList_append, String.toList_ofList]
      simp
    rw [htext]
    exact .negative (Nat.succ_ne_zero n) (digits_toDigits (n + 1))

/-! ## Blocks -/

theorem spaces_nil : Spaces [] := fun _ hc => absurd hc List.not_mem_nil

/-- Items that are written one after the other, with a comma and spaces between them. -/
theorem spells_items {write : Json → List Char} {ws after : List Char} (hws : Spaces ws) (hafter : Spaces after)
    {js : List Json} (hne : js ≠ []) (h : ∀ j ∈ js, Spells (.value j) (write j)) :
    Spells (.items js) (ws ++ (',' :: ws).intercalate (js.map write) ++ after) := by
  induction js with
  | nil => exact absurd rfl hne
  | cons j js ih =>
    have hfirst := h j List.mem_cons_self
    cases js with
    | nil =>
      -- The last item has the closing spaces, all others have a comma.
      rw [List.map_singleton, List.intercalate_singleton]
      exact .item hws hfirst hafter
    | cons k js =>
      have hrest := ih (List.cons_ne_nil k js) fun i hi => h i (List.mem_cons_of_mem j hi)
      have hall := Spells.items hws hfirst spaces_nil hrest
      simpa [List.intercalate_cons_cons] using hall

/-- A field is written as its name in quotes, a colon, spaces and its value. -/
def WritesField (write : String × Json → List Char) (gap : List Char) (f : String × Json) : Prop :=
  ∃ letters cs, Letters f.1.toList letters ∧ Spells (.value f.2) cs ∧
    write f = '"' :: letters ++ '"' :: ':' :: gap ++ cs

/-- Fields that are written one after the other, with a comma and spaces between them. -/
theorem spells_fields {write : String × Json → List Char} {ws gap after : List Char} (hws : Spaces ws)
    (hgap : Spaces gap) (hafter : Spaces after) {fs : List (String × Json)} (hne : fs ≠ [])
    (h : ∀ f ∈ fs, WritesField write gap f) :
    Spells (.fields fs) (ws ++ (',' :: ws).intercalate (fs.map write) ++ after) := by
  induction fs with
  | nil => exact absurd rfl hne
  | cons f fs ih =>
    obtain ⟨letters, cs, hname, hvalue, hwrite⟩ := h f List.mem_cons_self
    cases fs with
    | nil =>
      have hall := Spells.field hws hname spaces_nil hgap hvalue hafter
      simpa [hwrite] using hall
    | cons g fs =>
      have hrest := ih (List.cons_ne_nil g fs) fun i hi => h i (List.mem_cons_of_mem f hi)
      have hall := Spells.fields hws hname spaces_nil hgap hvalue spaces_nil hrest
      simpa [hwrite, List.intercalate_cons_cons] using hall

/-- A line break and its indent are spaces. -/
theorem spaces_breakLine (level : Nat) : Spaces (breakLine level).toList := by
  intro c hc
  rw [breakLine, String.toList_append, String.toList_ofList, List.mem_append] at hc
  rcases hc with hc | hc
  · obtain rfl : c = '\n' := by simpa using hc
    decide
  · rw [String.toList_ofList] at hc
    obtain rfl := List.eq_of_mem_replicate hc
    decide

/-- A block of nothing is its brackets. -/
theorem block_toList_nil (level : Nat) (opening closing : String) :
    (block level opening closing []).toList = opening.toList ++ closing.toList :=
  String.toList_append

/-- Between its brackets a block has its entries, each on a line of its own. -/
theorem block_toList {level : Nat} {opening closing : String} {entries : List String} (h : entries ≠ []) :
    (block level opening closing entries).toList = opening.toList ++ ((breakLine (level + 1)).toList ++
      (',' :: (breakLine (level + 1)).toList).intercalate (entries.map String.toList) ++ (breakLine level).toList) ++
      closing.toList := by
  have hsome : entries.isEmpty = false := List.isEmpty_eq_false_iff.mpr h
  rw [block, if_neg (by simp [hsome])]
  simp [String.toList_intercalate]

/-- The items are written each by itself. -/
theorem prettyItems_eq_map (level : Nat) (js : List Json) : prettyItems level js = js.map (prettyAt level) := by
  induction js with
  | nil => rfl
  | cons j js ih => rw [prettyItems, ih, List.map_cons]

/-- The fields are written each by itself, the key before the value. -/
theorem prettyFields_eq_map (level : Nat) (fs : List (String × Json)) :
    prettyFields level fs = fs.map fun f => quote f.1 ++ ": " ++ prettyAt level f.2 := by
  induction fs with
  | nil => rfl
  | cons f fs ih => rw [prettyFields, ih, List.map_cons]

/-! ## Values -/

/-- A pretty text spells its value at any indent. -/
theorem Fits.spells_prettyAt {depth : Nat} {j : Json} (h : Fits depth j) (level : Nat) :
    Spells (.value j) (prettyAt level j).toList := by
  -- The induction is on the value as one that fits, for every level: what stands inside a block is one level deeper.
  induction h generalizing level with
  | null => simpa [prettyAt] using Spells.null
  | bool b =>
    cases b with
    | true => simpa [prettyAt] using Spells.boolTrue
    | false => simpa [prettyAt] using Spells.boolFalse
  | @int depth n low high => exact spells_int n
  | string s =>
    rw [prettyAt, quote_toList]
    exact .string (letters_flatMap s.toList)
  | @array depth js items ih =>
    rw [prettyAt, prettyItems_eq_map]
    cases js with
    | nil =>
      rw [List.map_nil, block_toList_nil]
      simpa using Spells.emptyArray spaces_nil
    | cons j js =>
      rw [block_toList (by simp), List.map_map]
      exact .array (spells_items (spaces_breakLine _) (spaces_breakLine _) (List.cons_ne_nil j js)
        fun i hi => ih i hi (level + 1))
  | @object depth fs fields ih =>
    rw [prettyAt, prettyFields_eq_map]
    cases fs with
    | nil =>
      rw [List.map_nil, block_toList_nil]
      simpa using Spells.emptyObject spaces_nil
    | cons f fs =>
      rw [block_toList (by simp), List.map_map]
      have hgap : Spaces [' '] := by
        intro c hc
        obtain rfl := List.mem_singleton.mp hc
        decide
      refine .object (spells_fields (spaces_breakLine _) hgap (spaces_breakLine _) (List.cons_ne_nil f fs) ?_)
      intro g hg
      exact ⟨_, _, letters_flatMap g.1.toList, ih g hg (level + 1), by simp⟩

/-- The text of a value is a document. -/
theorem Fits.isDocument_pretty {depth : Nat} {j : Json} (h : Fits depth j) : IsDocument j.pretty :=
  ⟨j, [], j.pretty.toList, [], spaces_nil, h.spells_prettyAt 0, spaces_nil, by simp⟩

end Shakedown.Json

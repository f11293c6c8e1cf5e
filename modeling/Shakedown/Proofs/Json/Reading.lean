import Mathlib.Data.List.DropRight
import Shakedown.Json.Parser
import Shakedown.Proofs.Json.Grammar

/-!
# Documents are read as what they spell

Every spelling of a value is read back (`parse?_of_spells`): the reader gives the value with the fields of its
objects in the order of their keys (`sorted`), in which each field is found as before (`field?_sorted`). The
induction is on the spelling. It needs no more fuel than the text has characters, and the depth that is left is
that of the value.
-/

namespace Shakedown.Json

/-! ## The value as it is read -/

mutual
/-- The value with the fields of each object in the order of their keys, and of equal keys the last. -/
def sorted : Json → Json
  | .array js => .array (sortedItems js)
  | .object fs => .object (sortedFields fs [])
  | .null => .null
  | .bool b => .bool b
  | .number n => .number n
  | .string s => .string s

/-- The items of an array, each sorted. -/
def sortedItems : List Json → List Json
  | [] => []
  | j :: js => j.sorted :: sortedItems js

/-- The fields of an object, each sorted, put to those that are known. -/
def sortedFields : List (String × Json) → List (String × Json) → List (String × Json)
  | [], known => known
  | (key, j) :: fs, known => sortedFields fs (insertField key j.sorted known)
end

/-- The items of a sorted value are sorted each by itself. -/
theorem sortedItems_eq_map (js : List Json) : sortedItems js = js.map sorted := by
  induction js with
  | nil => rfl
  | cons j js ih => rw [sortedItems, ih, List.map_cons]

/-- The value of a field. -/
def lookup (key : String) (fs : List (String × Json)) : Option Json := (fs.find? fun f => f.1 == key).map (·.2)

@[simp] theorem lookup_nil (key : String) : lookup key [] = none := rfl

/-- A key is looked up from the first field on. -/
theorem lookup_cons (key : String) (f : String × Json) (fs : List (String × Json)) :
    lookup key (f :: fs) = if f.1 = key then some f.2 else lookup key fs := by
  by_cases h : f.1 = key
  · simp [lookup, h]
  · simp [lookup, h]

/-- A field that is put to others is found under its key, and they are found as before. -/
theorem lookup_insertField (key key' : String) (j : Json) (fs : List (String × Json)) :
    lookup key (insertField key' j fs) = if key' = key then some j else lookup key fs := by
  induction fs with
  | nil => exact lookup_cons key (key', j) []
  | cons f fs ih =>
    rw [insertField]
    -- The new field stands before the first greater key, in the place of an equal one, or further on.
    by_cases hless : key' < f.1
    · rw [if_pos hless, lookup_cons]
    · rw [if_neg hless]
      by_cases hsame : key' = f.1
      · rw [if_pos hsame, lookup_cons, lookup_cons, hsame]
        by_cases hkey : f.1 = key
        · rw [if_pos hkey, if_pos hkey]
        · rw [if_neg hkey, if_neg hkey, if_neg hkey]
      · rw [if_neg hsame, lookup_cons, ih, lookup_cons]
        by_cases hkey : key' = key
        · have hother : f.1 ≠ key := fun he => hsame (hkey.trans he.symm)
          rw [if_neg hother, if_pos hkey, if_pos hkey]
        · rw [if_neg hkey, if_neg hkey]

/-- Sorting fields with distinct keys moves no value to another key. -/
theorem lookup_sortedFields {fs : List (String × Json)} (h : (fs.map Prod.fst).Nodup) (key : String)
    (known : List (String × Json)) :
    lookup key (sortedFields fs known) = ((lookup key fs).map sorted).or (lookup key known) := by
  induction fs generalizing known with
  | nil => rfl
  | cons f fs ih =>
    obtain ⟨hfresh, hrest⟩ := List.nodup_cons.mp h
    rw [sortedFields, ih hrest, lookup_insertField, lookup_cons]
    by_cases hkey : f.1 = key
    · -- The key does not come again, so it is the one that was put to those known.
      have habsent : lookup key fs = none := by
        refine Option.map_eq_none_iff.mpr (List.find?_eq_none.mpr ?_)
        intro g hg hgk
        exact hfresh (List.mem_map.mpr ⟨g, hg, (eq_of_beq hgk).trans hkey.symm⟩)
      rw [if_pos hkey, if_pos hkey, habsent]
      rfl
    · rw [if_neg hkey, if_neg hkey]

/-- In an object whose keys differ, a field is found as before, with its value sorted. -/
theorem field?_sorted {fs : List (String × Json)} (h : (fs.map Prod.fst).Nodup) (key : String) :
    (Json.object fs).sorted.field? key = ((Json.object fs).field? key).map sorted := by
  have hlookup := lookup_sortedFields h key []
  rw [lookup_nil, Option.or_none] at hlookup
  exact hlookup

/-! ## Tokens -/

theorem isSpace_iff (c : Char) : isSpace c = true ↔ c ∈ spaceChars := by
  simp [isSpace, spaceChars, or_assoc]

/-- Spaces in front are skipped. -/
theorem skipSpaces_append {ws : List Char} (h : Spaces ws) (cs : List Char) :
    skipSpaces (ws ++ cs) = skipSpaces cs :=
  List.dropWhile_append_of_pos fun c hc => (isSpace_iff c).mpr (h c hc)

/-- A digit is none of some characters that are no digits. -/
theorem ne_of_isDigit {c : Char} (hc : c.isDigit = true) {others : List Char}
    (h : others.all (fun d => !d.isDigit) = true) : ∀ d ∈ others, c ≠ d := by
  rintro d hd rfl
  have hother := List.all_eq_true.mp h c hd
  rw [hc] at hother
  cases hother

/-- A digit is no space. -/
theorem isSpace_digit {c : Char} (hc : c.isDigit = true) : isSpace c = false := by
  have hne : ∀ d ∈ spaceChars, c ≠ d := ne_of_isDigit hc (by decide)
  have hc : c ∉ spaceChars := fun hmem => hne c hmem rfl
  exact Bool.eq_false_iff.mpr fun hspace => hc ((isSpace_iff c).mp hspace)

/-- Spaces are skipped up to the next token. -/
theorem skipSpaces_token {ws : List Char} (h : Spaces ws) {c : Char} (hc : isSpace c = false) (cs : List Char) :
    skipSpaces (ws ++ c :: cs) = c :: cs := by
  rw [skipSpaces_append h, skipSpaces, List.dropWhile_cons_of_neg (by simp [hc])]

/-- The text does not go on with a number that stands before it. -/
structure Breaks (rest : List Char) : Prop where
  digit : startsWithDigit rest = false
  point : continuesNumber rest = false

theorem Breaks.nil : Breaks [] := ⟨rfl, rfl⟩

/-- A character that belongs to no number ends one. -/
theorem Breaks.cons {c : Char} (hdigit : c.isDigit = false) (hpoint : (c == '.' || c == 'e' || c == 'E') = false)
    (cs : List Char) : Breaks (c :: cs) := by
  constructor
  · simpa [startsWithDigit] using hdigit
  · simpa [continuesNumber] using hpoint

/-- Spaces end a number, and so does what may stand behind them. -/
theorem Breaks.spaces {ws : List Char} (h : Spaces ws) {rest : List Char} (hrest : Breaks rest) :
    Breaks (ws ++ rest) := by
  cases ws with
  | nil => exact hrest
  | cons c ws =>
    have hall : spaceChars.all (fun c => !c.isDigit && !(c == '.' || c == 'e' || c == 'E')) = true := by decide
    have hc := List.all_eq_true.mp hall c (h c List.mem_cons_self)
    simp only [Bool.and_eq_true, Bool.not_eq_true'] at hc
    exact .cons hc.1 hc.2 _

/-! ## Numbers -/

/-- More digits make no smaller number. -/
theorem le_ofDigitChars (ds : List Char) (n : Nat) : n ≤ Nat.ofDigitChars 10 ds n := by
  induction ds generalizing n with
  | nil => exact Nat.le_refl n
  | cons c ds ih =>
    rw [Nat.ofDigitChars_cons]
    exact Nat.le_trans (by omega) (ih _)

/-- Digits are gathered up to the first character that is none, as long as the number stays below 2^64. -/
theorem appendDigits_append {ds rest : List Char} (hds : ∀ c ∈ ds, c.isDigit = true)
    (hrest : startsWithDigit rest = false) {n : Nat} (hfits : Nat.ofDigitChars 10 ds n < 2 ^ 64) :
    appendDigits n (ds ++ rest) = (Nat.ofDigitChars 10 ds n, ds.length, rest) := by
  induction ds generalizing n with
  | nil =>
    cases rest with
    | nil => rfl
    | cons c rest =>
      have hc : c.isDigit = false := by simpa [startsWithDigit] using hrest
      simp [appendDigits, hc]
  | cons c ds ih =>
    have hc := hds c List.mem_cons_self
    rw [Nat.ofDigitChars_cons] at hfits ⊢
    have hstep : 10 * n + (c.toNat - '0'.toNat) = n * 10 + (c.toNat - 48) := by
      rw [Nat.mul_comm]
      rfl
    rw [hstep] at hfits ⊢
    -- What has been read so far is at most the whole number.
    have hless : n * 10 + (c.toNat - 48) < 2 ^ 64 := Nat.lt_of_le_of_lt (le_ofDigitChars ds _) hfits
    rw [List.cons_append, appendDigits, if_pos (by simpa [hc] using hless),
      ih (fun d hd => hds d (List.mem_cons_of_mem c hd)) hfits]
    rfl

/-- The digits of a number that fits 64 bits are read as it, up to where the text does not go on with them. -/
theorem Digits.number?_append {n : Nat} {ds rest : List Char} (h : Digits n ds) (hrest : Breaks rest)
    (hfits : n < 2 ^ 64) (negative : Bool) : number? negative (ds ++ rest) =
      if negative then
        if n = 0 || Nat.pow 2 63 < n then (real? true n 0).map fun x => (x, rest) else some (.int (-(n : Int)), rest)
      else some (.int n, rest) := by
  have hread := appendDigits_append h.digit hrest.digit (n := 0) (by rw [h.value]; exact hfits)
  rw [h.value] at hread
  have hlength : ds.length ≠ 0 := by simpa using h.nonempty
  have hleading : ((ds ++ rest).head? == some '0' && ds.length != 1) = false := by
    rw [List.head?_append, Option.or_of_isSome (by simpa using h.nonempty)]
    rcases Decidable.em (ds.head? = some '0') with hzero | hzero
    · rw [h.leading hzero]
      rfl
    · simp [hzero]
  simp only [Json.number?, hread, hleading, hrest.digit, hrest.point]
  simp [hlength]

/-! ## Strings -/

/-- A hexadecimal digit has its value, in either case. -/
theorem HexDigit.hexValue? {c : Char} {v : Nat} (h : HexDigit c v) : hexValue? c = some v := by
  have hsmall : ∀ i : Fin smallHex.length, Json.hexValue? smallHex[i] = some i.val := by decide
  have hcapital : ∀ i : Fin capitalHex.length, Json.hexValue? capitalHex[i] = some i.val := by decide
  rcases h with h | h
  · obtain ⟨hlt, rfl⟩ := List.getElem?_eq_some_iff.mp h
    exact hsmall ⟨v, hlt⟩
  · obtain ⟨hlt, rfl⟩ := List.getElem?_eq_some_iff.mp h
    exact hcapital ⟨v, hlt⟩

/-- Four digits are read off a text that starts with them. -/
theorem HexFour.append {ds : List Char} {n : Nat} (h : HexFour ds n) (rest : List Char) :
    hexFour? (ds ++ rest) = some (n, rest) := by
  cases h with
  | of first second third fourth =>
    simp [hexFour?, first.hexValue?, second.hexValue?, third.hexValue?, fourth.hexValue?]

/-- A letter of the table escapes its character. -/
theorem simpleEscape?_of_mem {e c : Char} (h : (e, c) ∈ escapes) : simpleEscape? e = some c ∧ e ≠ 'u' := by
  have hall : ∀ p ∈ escapes, simpleEscape? p.1 = some p.2 ∧ p.1 ≠ 'u' := by decide
  exact hall _ h

section Letters

variable {fuel : Nat} {rev : List Char} {rest : List Char}

/-- A printed character that is neither a quote nor a backslash stands for itself. -/
theorem stringFrom?_plain {c : Char} (quote : c ≠ '"') (backslash : c ≠ '\\') (printed : 32 ≤ c.toNat) :
    stringFrom? (fuel + 1) rev (c :: rest) = stringFrom? fuel (c :: rev) rest := by
  simp [stringFrom?, quote, backslash, Nat.not_lt_of_le printed]

/-- An escape of one letter stands for its character. -/
theorem stringFrom?_escape {e c : Char} (known : (e, c) ∈ escapes) :
    stringFrom? (fuel + 1) rev ('\\' :: e :: rest) = stringFrom? fuel (c :: rev) rest := by
  obtain ⟨hread, hother⟩ := simpleEscape?_of_mem known
  simp [stringFrom?, hread]

/-- An escape by number stands for the character that its digits make. -/
theorem stringFrom?_unicode {c : Char} {cs : List Char} (h : unicodeEscape? cs = some (c, rest)) :
    stringFrom? (fuel + 1) rev ('\\' :: 'u' :: cs) = stringFrom? fuel (c :: rev) rest := by
  simp [stringFrom?, h]

/-- Four digits make a character, unless they are half of one. -/
theorem unicodeEscape?_single {ds : List Char} {n : Nat} (digits : HexFour ds n) (single : n < 0xD800 ∨ 0xDFFF < n) :
    unicodeEscape? (ds ++ rest) = some (Char.ofNat n, rest) := by
  simp [unicodeEscape?, digits.append, single]

/-- A high and a low half make a character together. -/
theorem unicodeEscape?_pair {hs ls : List Char} {high low : Nat} (highDigits : HexFour hs high)
    (isHigh : 0xD800 ≤ high ∧ high < 0xDC00) (lowDigits : HexFour ls low) (isLow : 0xDC00 ≤ low ∧ low ≤ 0xDFFF) :
    unicodeEscape? (hs ++ '\\' :: 'u' :: (ls ++ rest)) =
      some (Char.ofNat (0x10000 + (high - 0xD800) * 1024 + (low - 0xDC00)), rest) := by
  have hpair : ¬ (high < 0xD800 ∨ 0xDFFF < high) := by omega
  have hhigh : ¬ 0xDC00 ≤ high := by omega
  simp [unicodeEscape?, highDigits.append, hpair, hhigh, lowDigits.append, isLow]

end Letters

/-- What is written inside quotes is read up to the closing one. -/
theorem stringFrom?_letters {xs cs : List Char} (h : Letters xs cs) {fuel : Nat} (hfuel : cs.length < fuel)
    (rev rest : List Char) :
    stringFrom? fuel rev (cs ++ '"' :: rest) = some (String.ofList (rev.reverse ++ xs), rest) := by
  -- The induction is on the letters; each is written in one character or more, which pays for its step.
  induction h generalizing fuel rev with
  | nil =>
    obtain ⟨fuel, rfl⟩ := Nat.exists_eq_succ_of_ne_zero (Nat.ne_zero_of_lt hfuel)
    simp [stringFrom?]
  | @plain c xs cs quote backslash printed letters ih =>
    obtain ⟨fuel, rfl⟩ := Nat.exists_eq_succ_of_ne_zero (Nat.ne_zero_of_lt hfuel)
    have hleft : cs.length < fuel := by simpa using hfuel
    rw [List.cons_append, stringFrom?_plain quote backslash printed, ih hleft]
    simp
  | @escape e c xs cs known letters ih =>
    obtain ⟨fuel, rfl⟩ := Nat.exists_eq_succ_of_ne_zero (Nat.ne_zero_of_lt hfuel)
    have hleft : cs.length < fuel := by
      simp only [List.length_cons] at hfuel
      omega
    rw [List.cons_append, List.cons_append, stringFrom?_escape known, ih hleft]
    simp
  | @unicode ds xs cs n digits single letters ih =>
    obtain ⟨fuel, rfl⟩ := Nat.exists_eq_succ_of_ne_zero (Nat.ne_zero_of_lt hfuel)
    have hleft : cs.length < fuel := by
      simp only [List.length_cons, List.length_append] at hfuel
      omega
    rw [List.cons_append, List.cons_append, List.append_assoc,
      stringFrom?_unicode (unicodeEscape?_single digits single), ih hleft]
    simp
  | @pair hs ls xs cs high low highDigits isHigh lowDigits isLow letters ih =>
    obtain ⟨fuel, rfl⟩ := Nat.exists_eq_succ_of_ne_zero (Nat.ne_zero_of_lt hfuel)
    have hleft : cs.length < fuel := by
      simp only [List.length_cons, List.length_append] at hfuel
      omega
    rw [List.cons_append, List.cons_append, List.append_assoc, List.cons_append, List.cons_append, List.append_assoc,
      stringFrom?_unicode (unicodeEscape?_pair highDigits isHigh lowDigits isLow), ih hleft]
    simp

/-! ## Steps of the reader -/

section Steps

-- The equations of the reader are made here once. Each of the steps below opens one of them.
attribute [local simp] value? items? fields?

variable {fuel depth : Nat} {ws cs after more rest : List Char} {j : Json}

/-- There is nothing to skip behind spaces that were skipped. -/
theorem skipSpaces_idem (cs : List Char) : skipSpaces (skipSpaces cs) = skipSpaces cs :=
  List.dropWhile_idempotent _ _

/-- A value is read from behind its spaces. -/
theorem value?_skipSpaces (fuel depth : Nat) (cs : List Char) :
    value? fuel depth (skipSpaces cs) = value? fuel depth cs := by
  cases fuel with
  | zero => rfl
  | succ fuel => rw [value?, value?, skipSpaces_idem]

theorem items?_skipSpaces (fuel depth : Nat) (cs : List Char) :
    items? fuel depth (skipSpaces cs) = items? fuel depth cs := by
  cases fuel with
  | zero => rfl
  | succ fuel => rw [items?, items?, value?_skipSpaces]

theorem fields?_skipSpaces (fuel depth : Nat) (known : List (String × Json)) (cs : List Char) :
    fields? fuel depth known (skipSpaces cs) = fields? fuel depth known cs := by
  cases fuel with
  | zero => rfl
  | succ fuel => rw [fields?, fields?, skipSpaces_idem]

/-- A digit starts a number. -/
theorem value?_digit (hws : Spaces ws) {c : Char} (hc : c.isDigit = true) :
    value? (fuel + 1) depth (ws ++ c :: cs) = number? false (c :: cs) := by
  have hne : ∀ d ∈ ['n', 't', 'f', '"', '-', '[', '\x7b'], c ≠ d := ne_of_isDigit hc (by decide)
  simp only [List.forall_mem_cons] at hne
  simp [value?, skipSpaces_token hws (isSpace_digit hc), hne]

/-- A minus sign starts a number too. -/
theorem value?_minus (hws : Spaces ws) : value? (fuel + 1) depth (ws ++ '-' :: cs) = number? true cs := by
  simp [value?, skipSpaces_token hws, isSpace]

/-- A string with what comes after it: the reader gives it fuel for all of that text. -/
theorem stringFrom?_text {s : String} (letters : Letters s.toList cs) (rest : List Char) :
    stringFrom? ((cs ++ '"' :: rest).length + 1) [] (cs ++ '"' :: rest) = some (s, rest) := by
  have hfuel : cs.length < (cs ++ '"' :: rest).length + 1 := by
    rw [List.length_append]
    omega
  rw [stringFrom?_letters letters hfuel]
  simp

/-- A quoted text is a string. -/
theorem value?_string (hws : Spaces ws) {s : String} (letters : Letters s.toList cs) :
    value? (fuel + 1) depth (ws ++ '"' :: (cs ++ '"' :: rest)) = some (.string s, rest) := by
  simp only [value?, skipSpaces_token hws (show isSpace '"' = false by decide), stringFrom?_text letters]
  rfl

/-- Brackets with nothing but spaces in between are an array without items. -/
theorem value?_emptyArray (hws : Spaces ws) {ws' : List Char} (hws' : Spaces ws') :
    value? (fuel + 1) (depth + 1) (ws ++ '[' :: (ws' ++ ']' :: rest)) = some (.array [], rest) := by
  simp [value?, skipSpaces_token hws, skipSpaces_token hws', isSpace]

/-- Braces with nothing but spaces in between are an object without fields. -/
theorem value?_emptyObject (hws : Spaces ws) {ws' : List Char} (hws' : Spaces ws') :
    value? (fuel + 1) (depth + 1) (ws ++ '\x7b' :: (ws' ++ '\x7d' :: rest)) = some (.object [], rest) := by
  simp [value?, skipSpaces_token hws, skipSpaces_token hws', isSpace]

/-- A bracket starts an array of the items behind it. -/
theorem value?_array (hws : Spaces ws) {js : List Json} (hitems : items? fuel depth cs = some (js, rest))
    (hsome : ∀ tail, skipSpaces cs ≠ ']' :: tail) :
    value? (fuel + 1) (depth + 1) (ws ++ '[' :: cs) = some (.array js, rest) := by
  simp only [value?, skipSpaces_token hws (show isSpace '[' = false by decide)]
  rw [items?_skipSpaces, hitems]
  rfl

/-- A brace starts an object of the fields behind it. -/
theorem value?_object (hws : Spaces ws) {fs : List (String × Json)}
    (hfields : fields? fuel depth [] cs = some (fs, rest)) (hsome : ∀ tail, skipSpaces cs ≠ '\x7d' :: tail) :
    value? (fuel + 1) (depth + 1) (ws ++ '\x7b' :: cs) = some (.object fs, rest) := by
  simp only [value?, skipSpaces_token hws (show isSpace '\x7b' = false by decide)]
  rw [fields?_skipSpaces, hfields]
  rfl

/-- A value before the closing bracket is the last item. -/
theorem items?_last (hvalue : value? fuel depth cs = some (j, after ++ ']' :: rest)) (hafter : Spaces after) :
    items? (fuel + 1) depth cs = some ([j], rest) := by
  simp [items?, hvalue, skipSpaces_token hafter, isSpace]

/-- A value before a comma is followed by more of them. -/
theorem items?_more (hvalue : value? fuel depth cs = some (j, after ++ ',' :: more)) (hafter : Spaces after)
    {js : List Json} (hmore : items? fuel depth more = some (js, rest)) :
    items? (fuel + 1) depth cs = some (j :: js, rest) := by
  simp [items?, hvalue, skipSpaces_token hafter, isSpace, hmore]

variable {key : String} {known : List (String × Json)} {start letters colon : List Char}

/-- A field before the closing brace is the last one. -/
theorem fields?_last (hstart : Spaces start) (name : Letters key.toList letters) (hcolon : Spaces colon)
    (hvalue : value? fuel depth cs = some (j, after ++ '\x7d' :: rest)) (hafter : Spaces after) :
    fields? (fuel + 1) depth known (start ++ '"' :: (letters ++ '"' :: (colon ++ ':' :: cs))) =
      some (insertField key j known, rest) := by
  simp only [fields?, skipSpaces_token hstart (show isSpace '"' = false by decide), stringFrom?_text name]
  simp [skipSpaces_token hcolon, isSpace, hvalue, skipSpaces_token hafter]

/-- A field before a comma is followed by more of them. -/
theorem fields?_more (hstart : Spaces start) (name : Letters key.toList letters) (hcolon : Spaces colon)
    (hvalue : value? fuel depth cs = some (j, after ++ ',' :: more)) (hafter : Spaces after)
    {fs : List (String × Json)} (hmore : fields? fuel depth (insertField key j known) more = some (fs, rest)) :
    fields? (fuel + 1) depth known (start ++ '"' :: (letters ++ '"' :: (colon ++ ':' :: cs))) = some (fs, rest) := by
  simp only [fields?, skipSpaces_token hstart (show isSpace '"' = false by decide), stringFrom?_text name]
  simp [skipSpaces_token hcolon, isSpace, hvalue, skipSpaces_token hafter, hmore]

end Steps

/-! ## Values -/

/-- How a piece is read from a text that goes on: with fuel for its characters and a little more, and with its
depth left. -/
def Reads : Piece → List Char → Prop
  | .value j, cs => ∀ (fuel depth : Nat) (ws rest : List Char), cs.length ≤ fuel → Fits depth j → Spaces ws →
      Breaks rest → value? (fuel + 1) depth (ws ++ (cs ++ rest)) = some (j.sorted, rest)
  | .items js, cs => ∀ (fuel depth : Nat) (rest : List Char), cs.length ≤ fuel → (∀ j ∈ js, Fits depth j) →
      items? (fuel + 2) depth (cs ++ ']' :: rest) = some (sortedItems js, rest)
  | .fields fs, cs => ∀ (fuel depth : Nat) (known : List (String × Json)) (rest : List Char), cs.length ≤ fuel →
      (∀ f ∈ fs, Fits depth f.2) →
      fields? (fuel + 2) depth known (cs ++ '\x7d' :: rest) = some (sortedFields fs known, rest)

/-- A value starts with a token that ends no array. -/
theorem Spells.value_start {j : Json} {cs : List Char} (h : Spells (.value j) cs) :
    ∃ c tail, cs = c :: tail ∧ isSpace c = false ∧ c ≠ ']' := by
  cases h with
  | @nat n ds digits =>
    obtain ⟨c, tail, rfl⟩ := List.exists_cons_of_ne_nil digits.nonempty
    have hc := digits.digit c List.mem_cons_self
    have hne : ∀ d ∈ [']'], c ≠ d := ne_of_isDigit hc (by decide)
    exact ⟨c, tail, rfl, isSpace_digit hc, hne ']' List.mem_cons_self⟩
  | _ => exact ⟨_, _, rfl, by decide, by decide⟩

/-- No spelling of items starts with the bracket that ends them. -/
theorem Spells.items_start {js : List Json} {cs : List Char} (h : Spells (.items js) cs) (rest tail : List Char) :
    skipSpaces (cs ++ rest) ≠ ']' :: tail := by
  cases h with
  | @item j before cs after spaces value spaces' =>
    obtain ⟨c, more, rfl, hspace, hc⟩ := value.value_start
    simp [skipSpaces_token spaces hspace, hc]
  | @items j js before cs after others spaces value spaces' _ =>
    obtain ⟨c, more, rfl, hspace, hc⟩ := value.value_start
    simp [skipSpaces_token spaces hspace, hc]

/-- No spelling of fields starts with the brace that ends them. -/
theorem Spells.fields_start {fs : List (String × Json)} {cs : List Char} (h : Spells (.fields fs) cs)
    (rest tail : List Char) : skipSpaces (cs ++ rest) ≠ '\x7d' :: tail := by
  cases h with
  | field spaces => simp [skipSpaces_token spaces, isSpace]
  | fields spaces => simp [skipSpaces_token spaces, isSpace]

/-- What spells a piece is read as that piece, whatever follows it. -/
theorem Spells.reads {piece : Piece} {cs : List Char} (h : Spells piece cs) : Reads piece cs := by
  -- The induction is on the spelling. Brackets and commas pay for the fuel that the reader of a part needs.
  induction h with
  | null =>
    intro fuel depth ws rest hfuel hfits hws hrest
    simp [value?, skipSpaces_token hws, isSpace, sorted]
  | boolTrue =>
    intro fuel depth ws rest hfuel hfits hws hrest
    simp [value?, skipSpaces_token hws, isSpace, sorted]
  | boolFalse =>
    intro fuel depth ws rest hfuel hfits hws hrest
    simp [value?, skipSpaces_token hws, isSpace, sorted]
  | @nat n ds digits =>
    intro fuel depth ws rest hfuel hfits hws hrest
    have hfit : n < 2 ^ 64 := by
      cases hfits with
      | int low high => omega
    obtain ⟨c, tail, rfl⟩ := List.exists_cons_of_ne_nil digits.nonempty
    have hread := digits.number?_append hrest hfit false
    rw [List.cons_append] at hread ⊢
    rw [value?_digit hws (digits.digit c List.mem_cons_self), hread]
    rfl
  | @negative n ds nonzero digits =>
    intro fuel depth ws rest hfuel hfits hws hrest
    -- The sign is read before the digits, so the bound is that of a negative number of 64 bits.
    have hfit : n ≤ 2 ^ 63 := by
      cases hfits with
      | int low high => omega
    have hread := digits.number?_append hrest (Nat.lt_of_le_of_lt hfit (by decide)) true
    have hbound : ¬ Nat.pow 2 63 < n := Nat.not_lt_of_le hfit
    rw [List.cons_append, value?_minus hws, hread]
    simp [nonzero, hbound, sorted, Json.int]
  | @string s cs letters =>
    intro fuel depth ws rest hfuel hfits hws hrest
    simpa [sorted] using value?_string hws letters
  | emptyArray spaces =>
    intro fuel depth ws rest hfuel hfits hws hrest
    cases hfits with
    | @array depth _ _ => simpa [sorted, sortedItems] using value?_emptyArray hws spaces
  | @array js cs items ih =>
    intro fuel depth ws rest hfuel hfits hws hrest
    cases hfits with
    | @array depth _ hjs =>
      have hinside : cs.length + 2 ≤ fuel := by simp at hfuel; omega
      obtain ⟨fuel, rfl⟩ := Nat.exists_eq_add_of_le' (Nat.le_of_add_left_le hinside)
      have hitems := ih fuel depth rest (Nat.le_of_add_le_add_right hinside) hjs
      simpa [sorted] using value?_array hws hitems (items.items_start _)
  | emptyObject spaces =>
    intro fuel depth ws rest hfuel hfits hws hrest
    cases hfits with
    | @object depth _ _ => simpa [sorted, sortedFields] using value?_emptyObject hws spaces
  | @object fs cs fields ih =>
    intro fuel depth ws rest hfuel hfits hws hrest
    cases hfits with
    | @object depth _ hfs =>
      have hinside : cs.length + 2 ≤ fuel := by simp at hfuel; omega
      obtain ⟨fuel, rfl⟩ := Nat.exists_eq_add_of_le' (Nat.le_of_add_left_le hinside)
      have hfields := ih fuel depth [] rest (Nat.le_of_add_le_add_right hinside) hfs
      simpa [sorted] using value?_object hws hfields (fields.fields_start _)
  | @item j before cs after hbefore value hafter ih =>
    intro fuel depth rest hfuel hfits
    have hvalue := ih fuel depth before (after ++ ']' :: rest) (by simp at hfuel; omega)
      (hfits j List.mem_cons_self) hbefore (.spaces hafter (.cons (by decide) (by decide) rest))
    simpa [sortedItems] using items?_last hvalue hafter
  | @items j js before cs after more hbefore value hafter others ih ihs =>
    intro fuel depth rest hfuel hfits
    have hvalue := ih fuel depth before (after ++ ',' :: (more ++ ']' :: rest)) (by simp at hfuel; omega)
      (hfits j List.mem_cons_self) hbefore (.spaces hafter (.cons (by decide) (by decide) _))
    have hothers : more.length + 1 ≤ fuel := by simp at hfuel; omega
    obtain ⟨fuel, rfl⟩ := Nat.exists_eq_add_of_le' (Nat.le_of_add_left_le hothers)
    have hmore := ihs fuel depth rest (Nat.le_of_add_le_add_right hothers)
      fun k hk => hfits k (List.mem_cons_of_mem j hk)
    simpa [sortedItems] using items?_more hvalue hafter hmore
  | @field key j start letters colon before cs after hstart name hcolon hbefore value hafter ih =>
    intro fuel depth known rest hfuel hfits
    have hvalue := ih fuel depth before (after ++ '\x7d' :: rest) (by simp at hfuel; omega)
      (hfits _ List.mem_cons_self) hbefore (.spaces hafter (.cons (by decide) (by decide) rest))
    simpa [sortedFields] using fields?_last hstart name hcolon hvalue hafter
  | @fields key j fs start letters colon before cs after more hstart name hcolon hbefore value hafter others ih ihs =>
    intro fuel depth known rest hfuel hfits
    have hvalue := ih fuel depth before (after ++ ',' :: (more ++ '\x7d' :: rest)) (by simp at hfuel; omega)
      (hfits _ List.mem_cons_self) hbefore (.spaces hafter (.cons (by decide) (by decide) _))
    have hothers : more.length + 1 ≤ fuel := by simp at hfuel; omega
    obtain ⟨fuel, rfl⟩ := Nat.exists_eq_add_of_le' (Nat.le_of_add_left_le hothers)
    -- The fields that come after are put to those known with this one.
    have hmore := ihs fuel depth (insertField key j.sorted known) rest (Nat.le_of_add_le_add_right hothers)
      fun f hf => hfits f (List.mem_cons_of_mem _ hf)
    simpa [sortedFields] using fields?_more hstart name hcolon hvalue hafter hmore

/-- A text that spells a value is read as it, with the fields of its objects in order. -/
theorem parse?_of_spells {s : String} {j : Json} {before cs after : List Char} (hbefore : Spaces before)
    (h : Spells (.value j) cs) (hafter : Spaces after) (hs : s.toList = before ++ cs ++ after) (hfits : Fits 127 j) :
    parse? s = some j.sorted := by
  have hread : value? (2 * s.toList.length + 2) 127 s.toList = some (j.sorted, after) := by
    have hfuel : cs.length ≤ 2 * s.toList.length + 1 := by
      rw [hs]
      simp
      omega
    have hbreaks : Breaks after := by
      simpa using Breaks.spaces hafter .nil
    have hvalue := h.reads _ _ before after hfuel hfits hbefore hbreaks
    rwa [← List.append_assoc, ← hs] at hvalue
  have hdone : skipSpaces after = [] := List.dropWhile_eq_nil_iff.mpr fun c hc => (isSpace_iff c).mpr (hafter c hc)
  simp only [parse?, hread]
  simp [hdone]

end Shakedown.Json

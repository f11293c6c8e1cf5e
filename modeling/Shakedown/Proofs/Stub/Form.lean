import Shakedown.Proofs.Text.Words
import Shakedown.Stub.Answer

/-!
# The form of a query

A query is answered with data exactly if it opens with a brace and its braces are well nested (`WellNested`): no part
of it from the start closes more braces than it opens, and the whole closes as many. The walk over a query keeps the
number of open braces in 32 bits, which is the true number as long as there are fewer than 2^31 braces
(`closes_iff`). The data give the number of the words that hold no brace, which are maximal runs of visible characters
(`answer_by_form`).
-/

namespace Shakedown.Stub

open Text (IsRun Piece)

/-- The braces of a text are well nested: each that is closed was opened before, and all that were opened are closed. -/
structure WellNested (cs : List Char) : Prop where
  opened : ∀ front, front <+: cs → front.count '\x7d' ≤ front.count '\x7b'
  closed : cs.count '\x7b' = cs.count '\x7d'

/-- The braces of a text are well nested inside a number of braces that were opened before it. -/
structure WellNestedIn (n : Nat) (cs : List Char) : Prop where
  opened : ∀ front, front <+: cs → front.count '\x7d' ≤ n + front.count '\x7b'
  closed : n + cs.count '\x7b' = cs.count '\x7d'

variable {c : Char} {cs : List Char} {depth : Int32} {n : Nat} {query : String}

/-! ## Nesting, one character at a time -/

/-- What holds of every part of a text from its start. -/
theorem forall_prefix_cons {P : List Char → Prop} :
    (∀ front, front <+: c :: cs → P front) ↔ P [] ∧ ∀ front, front <+: cs → P (c :: front) := by
  constructor
  · intro h
    exact ⟨h [] List.nil_prefix, fun front part => h (c :: front) (List.cons_prefix_cons.mpr ⟨rfl, part⟩)⟩
  · rintro ⟨none, longer⟩ front part
    rcases List.prefix_cons_iff.mp part with rfl | ⟨rest, rfl, inner⟩
    · exact none
    · exact longer rest inner

theorem wellNested_iff : WellNested cs ↔ WellNestedIn 0 cs := by
  constructor
  · intro h
    exact ⟨by simpa using h.opened, by simpa using h.closed⟩
  · intro h
    exact ⟨by simpa using h.opened, by simpa using h.closed⟩

theorem wellNestedIn_nil : WellNestedIn n [] ↔ n = 0 := by
  constructor
  · intro h
    simpa using h.closed
  · rintro rfl
    exact ⟨by simp, by simp⟩

theorem wellNestedIn_opening : WellNestedIn n ('\x7b' :: cs) ↔ WellNestedIn (n + 1) cs := by
  constructor
  · rintro ⟨opened, closed⟩
    rw [forall_prefix_cons] at opened
    constructor
    · simpa [Nat.add_assoc, Nat.add_comm 1] using opened.2
    · simpa [Nat.add_assoc, Nat.add_comm 1] using closed
  · rintro ⟨opened, closed⟩
    constructor
    · rw [forall_prefix_cons]
      simpa [Nat.add_assoc, Nat.add_comm 1] using opened
    · simpa [Nat.add_assoc, Nat.add_comm 1] using closed

/-- There is a brace to close. -/
theorem wellNestedIn_closing : WellNestedIn n ('\x7d' :: cs) ↔ ∃ m, n = m + 1 ∧ WellNestedIn m cs := by
  have closers : ∀ front : List Char, ('\x7d' :: front).count '\x7d' = front.count '\x7d' + 1 :=
    fun _ => List.count_cons_self
  have openers : ∀ front : List Char, ('\x7d' :: front).count '\x7b' = front.count '\x7b' :=
    fun _ => List.count_cons_of_ne (by decide)
  constructor
  · rintro ⟨opened, closed⟩
    simp only [forall_prefix_cons, closers, openers] at opened closed
    have first := opened.2 [] List.nil_prefix
    simp only [List.count_nil] at first
    refine ⟨n - 1, by omega, fun front part => ?_, by omega⟩
    have := opened.2 front part
    omega
  · rintro ⟨m, rfl, opened, closed⟩
    constructor
    · simp only [forall_prefix_cons, closers, openers]
      refine ⟨Nat.zero_le _, fun front part => ?_⟩
      have := opened front part
      omega
    · rw [closers, openers]
      omega

theorem wellNestedIn_other (no_opening : c ≠ '\x7b') (no_closing : c ≠ '\x7d') :
    WellNestedIn n (c :: cs) ↔ WellNestedIn n cs := by
  constructor
  · rintro ⟨opened, closed⟩
    rw [forall_prefix_cons] at opened
    constructor
    · simpa [no_opening, no_closing] using opened.2
    · simpa [no_opening, no_closing] using closed
  · rintro ⟨opened, closed⟩
    constructor
    · rw [forall_prefix_cons]
      simpa [no_opening, no_closing] using opened
    · simpa [no_opening, no_closing] using closed

/-! ## The walk over a text -/

theorem toInt_add_one (here : depth.toInt = n) (few : n + 1 < 2 ^ 31) : (depth + 1).toInt = (n + 1 : Nat) := by
  rw [Int32.toInt_add, here, Int32.toInt_one]
  exact Int.bmod_eq_of_le (by omega) (by omega)

theorem toInt_sub_one (here : depth.toInt = n) (few : n < 2 ^ 31) : (depth - 1).toInt = n - 1 := by
  rw [Int32.toInt_sub, here, Int32.toInt_one]
  exact Int.bmod_eq_of_le (by omega) (by omega)

/-- The walk over a text tells whether its braces are well nested inside those that are open. -/
theorem closes_iff (here : depth.toInt = n) (few : n + cs.count '\x7b' < 2 ^ 31) :
    closes depth cs = true ↔ WellNestedIn n cs := by
  -- The induction is on the text, from any number of open braces. It is kept within 32 bits: there are too few braces
  -- for more, and where it would be negative the walk ends.
  induction cs generalizing depth n with
  | nil =>
    rw [closes, wellNestedIn_nil, beq_iff_eq, ← Int32.toInt_inj, here, Int32.toInt_zero]
    exact Int.natCast_eq_zero
  | cons c cs ih =>
    rw [closes]
    split
    · rename_i opening
      subst opening
      rw [List.count_cons_self] at few
      rw [wellNestedIn_opening]
      exact ih (toInt_add_one here (by omega)) (by omega)
    · rename_i no_opening
      rw [List.count_cons_of_ne no_opening] at few
      split
      · rename_i closing
        subst closing
        have next := toInt_sub_one here (by omega)
        rw [wellNestedIn_closing]
        dsimp only
        split
        · rename_i negative
          rw [Int32.lt_iff_toInt_lt, next, Int32.toInt_zero] at negative
          refine iff_of_false Bool.false_ne_true ?_
          rintro ⟨m, rfl, -⟩
          omega
        · rename_i positive
          rw [Int32.lt_iff_toInt_lt, next, Int32.toInt_zero] at positive
          obtain ⟨m, rfl⟩ : ∃ m, n = m + 1 := ⟨n - 1, by omega⟩
          rw [ih (n := m) (by omega) (by omega)]
          simp
      · rename_i no_closing
        rw [wellNestedIn_other no_opening no_closing]
        exact ih here few

/-! ## Answers -/

theorem count_opening_le (cs : List Char) : cs.count '\x7b' ≤ cs.countP isBrace := by
  refine List.countP_mono_left fun c _ opening => ?_
  rw [isBrace, opening, Bool.true_or]

theorem isSelection_iff (few : query.toList.countP isBrace < 2 ^ 31) :
    isSelection query = true ↔ (∃ rest, query = "\x7b" ++ rest) ∧ WellNested query.toList := by
  have nested : closes 0 query.toList = true ↔ WellNested query.toList := by
    have opening := count_opening_le query.toList
    rw [wellNested_iff]
    exact closes_iff (n := 0) Int32.toInt_zero (by omega)
  have first : query.toList.head? = some '\x7b' ↔ ∃ rest, query = "\x7b" ++ rest := by
    rw [List.head?_eq_some_iff]
    constructor
    · rintro ⟨rest, h⟩
      exact ⟨String.ofList rest, by rw [← String.toList_inj, h]; simp⟩
    · rintro ⟨rest, rfl⟩
      exact ⟨rest.toList, by simp⟩
  rw [isSelection, Bool.and_eq_true, beq_iff_eq, first, nested]

/-- The words that are counted are the maximal runs of visible characters that hold no brace. -/
theorem selections_eq (query : String) :
    selections query = {r : Piece | IsRun query.toList r ∧ '\x7b' ∉ r.word ∧ '\x7d' ∉ r.word}.ncard := by
  have bare : ∀ word : List Char, (!word.any isBrace) = true ↔ '\x7b' ∉ word ∧ '\x7d' ∉ word := by
    intro word
    simp only [Bool.not_eq_true', List.any_eq_false, isBrace, Bool.or_eq_true, beq_iff_eq]
    constructor
    · intro h
      exact ⟨fun member => h _ member (Or.inl rfl), fun member => h _ member (Or.inr rfl)⟩
    · rintro ⟨no_opening, no_closing⟩ c member (rfl | rfl)
      · exact no_opening member
      · exact no_closing member
  rw [selections, Text.countP_words]
  simp only [bare]

/-- A query with fewer than 2^31 braces is answered with data exactly if it opens with a brace and its braces are well
nested: the data are the query itself and the number of its maximal runs of visible characters that hold no brace. Any
other query is answered with an error that quotes it. -/
theorem answer_by_form (query : String) (few : query.toList.countP isBrace < 2 ^ 31) :
    let formed := (∃ rest, query = "\x7b" ++ rest) ∧ WellNested query.toList
    let runs := {r : Piece | IsRun query.toList r ∧ '\x7b' ∉ r.word ∧ '\x7d' ∉ r.word}
    (((answer query).field? "data").isSome = true ↔ formed) ∧
      (((answer query).field? "errors").isSome = true ↔ ¬ formed) ∧
      (formed → answer query =
        .object [("data", .object [("query", .string query), ("selections", .nat runs.ncard)])]) ∧
      (¬ formed → answer query =
        .object [("errors", .array [.object [("message", .string ("syntax error in query: " ++ query))]])]) := by
  intro formed runs
  have selection : isSelection query = true ↔ formed := isSelection_iff few
  have data : formed → answer query =
      .object [("data", .object [("query", .string query), ("selections", .nat runs.ncard)])] := by
    intro h
    rw [answer, if_pos (selection.mpr h), selections_eq]
  have errors : ¬ formed → answer query =
      .object [("errors", .array [.object [("message", .string ("syntax error in query: " ++ query))]])] := by
    intro h
    rw [answer, if_neg (mt selection.mp h)]
    rfl
  -- One form answers with data and the other with errors, and neither with both.
  by_cases h : formed
  · refine ⟨?_, ?_, data, errors⟩
    · rw [data h]
      exact iff_of_true rfl h
    · rw [data h]
      exact iff_of_false Bool.false_ne_true fun other => other h
  · refine ⟨?_, ?_, data, errors⟩
    · rw [errors h]
      exact iff_of_false Bool.false_ne_true h
    · rw [errors h]
      exact iff_of_true rfl h

/-- A query with two words that hold a brace, and with a wide space between two that hold none. -/
def nestedQuery : String := "\x7b a\u2003b \x7b\x7d c\x7b\x7d \x7d"

/-- The query is answered with data, and with the number of the two words without a brace. -/
theorem answer_by_form_nested :
    nestedQuery.toList.countP isBrace < 2 ^ 31 ∧ WellNested nestedQuery.toList ∧
      {r : Piece | IsRun nestedQuery.toList r ∧ '\x7b' ∉ r.word ∧ '\x7d' ∉ r.word}.ncard = 2 := by
  have few : nestedQuery.toList.countP isBrace < 2 ^ 31 := by decide +kernel
  have answered : answer nestedQuery =
      .object [("data", .object [("query", .string nestedQuery), ("selections", .nat 2)])] := by
    have counted : selections nestedQuery = 2 := by decide +kernel
    rw [answer, if_pos (by decide +kernel), counted]
  obtain ⟨data, -, counts, -⟩ := answer_by_form nestedQuery few
  have formed := data.mp (by rw [answered]; rfl)
  refine ⟨few, formed.2, ?_⟩
  have same := (counts formed).symm.trans answered
  exact Int.ofNat_inj.mp (by simpa [Json.nat] using same)

end Shakedown.Stub

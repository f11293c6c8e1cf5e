import Shakedown.Session.Banner

/-!
# Closing banners

A session prints one of two banners once its outcome is known. Both start with a mark of their own
(`Banner.outcomeMark`), and no other text of a session starts with one of the marks, whatever the
names in it are. `Banner.closes` tells the two apart from the rest.
-/

namespace Shakedown.Banner

open Text (Style Colour)

/-- The colour of an outcome. -/
def outcomeColour : Bool → Colour
  | true => .green
  | false => .red

/-- The sign of an outcome. -/
def outcomeSign : Bool → String
  | true => "✓"
  | false => "✗"

/-- The mark that the closing banner of an outcome starts with. -/
def outcomeMark (colours outcome : Bool) : String :=
  (Style.boldOf (outcomeColour outcome)).paint colours (outcomeSign outcome)

/-- Whether a text closes a session. -/
def closes (colours : Bool) (text : String) : Bool :=
  [true, false].any fun outcome => ("\n" ++ outcomeMark colours outcome).toList.isPrefixOf text.toList

/-- A text closes a session if it starts with the mark of either outcome. -/
theorem closes_iff (colours : Bool) (text : String) :
    closes colours text = true ↔
      ∃ outcome, ("\n" ++ outcomeMark colours outcome).toList <+: text.toList := by
  simp [closes, or_comm]

/-- The banner of a session that passed closes it. -/
@[simp] theorem closes_passed (colours : Bool) : closes colours (passed colours) = true := by
  rw [closes_iff]
  refine ⟨true, ?_⟩
  show _ <+: ("\n" ++ outcomeMark colours true ++ " " ++ _ ++ "\n\n").toList
  simp [List.append_assoc]

/-- The banner of a session that failed closes it, whatever phase it names. -/
@[simp] theorem closes_failed (colours : Bool) (phase : String) :
    closes colours (failed colours phase) = true := by
  rw [closes_iff]
  refine ⟨false, ?_⟩
  show _ <+: ("\n" ++ outcomeMark colours false ++ " " ++ _ ++ " (" ++ phase ++ ")\n\n").toList
  simp [List.append_assoc]

/-- A painted text starts with the sequence that switches its style on. -/
theorem paint_toList {s : Style} {text : String} (hs : s.codes ≠ []) (ht : text ≠ "") :
    ∃ rest, (s.paint true text).toList = s.opening.toList ++ rest := by
  refine ⟨((Style.reset ++ s.opening).intercalate (text.splitOn Style.reset) ++ Style.reset).toList, ?_⟩
  simp [Style.paint, hs, ht]

/-- A bold colour is switched on by a sequence with one digit of its own. -/
theorem opening_boldOf (c : Colour) :
    (Style.boldOf c).opening.toList = ['\x1b', '[', '1', ';', '3', Nat.digitChar (c.code % 10), 'm'] := by
  cases c <;> rfl

/-- The digit tells the colour. -/
theorem colour_eq_of_digit {c d : Colour} (h : Nat.digitChar (c.code % 10) = Nat.digitChar (d.code % 10)) :
    c = d := by
  revert h
  cases c <;> cases d <;> decide

/-- Two bold words of which one continues the other have the same colour or the same first letter. -/
theorem boldOf_prefix {colours : Bool} {c d : Colour} {word other : String} {rest : List Char}
    (hw : word ≠ "") (ho : other ≠ "")
    (h : ((Style.boldOf c).paint colours word).toList <+: ((Style.boldOf d).paint colours other).toList ++ rest) :
    c = d ∨ word.toList.head? = other.toList.head? := by
  cases colours with
  | true =>
    left
    obtain ⟨tail, ht⟩ := paint_toList (s := Style.boldOf c) (by simp [Style.codes, Style.boldOf]) hw
    obtain ⟨tail', ht'⟩ := paint_toList (s := Style.boldOf d) (by simp [Style.codes, Style.boldOf]) ho
    rw [ht, ht', opening_boldOf, opening_boldOf] at h
    simp only [List.cons_append, List.nil_append, List.cons_prefix_cons, true_and] at h
    exact colour_eq_of_digit h.1
  | false =>
    right
    have hl : word.toList ≠ [] := by simpa using hw
    have hl' : other.toList ≠ [] := by simpa using ho
    simp only [Style.paint, Bool.false_and, Bool.false_eq_true, if_false] at h
    obtain ⟨a, as, ha⟩ := List.exists_cons_of_ne_nil hl
    obtain ⟨b, bs, hb⟩ := List.exists_cons_of_ne_nil hl'
    rw [ha, hb, List.cons_append, List.cons_prefix_cons] at h
    rw [ha, hb, h.1]
    rfl

/-- A text whose first line starts with a bold word closes nothing, if neither the colour nor the
first letter of the word is that of a mark. -/
theorem closes_of_boldOf {colours : Bool} {text : String} (c : Colour) (word : String) (hne : word ≠ "")
    (hc : ∀ outcome, outcomeColour outcome ≠ c)
    (hw : ∀ outcome, (outcomeSign outcome).toList.head? ≠ word.toList.head?)
    (ht : ("\n" ++ (Style.boldOf c).paint colours word).toList <+: text.toList) :
    closes colours text = false := by
  rw [← Bool.not_eq_true, closes_iff]
  rintro ⟨outcome, h⟩
  have hsign : outcomeSign outcome ≠ "" := by cases outcome <;> decide
  obtain ⟨rest, hrest⟩ := ht
  rw [← hrest, outcomeMark, String.toList_append, String.toList_append, List.append_assoc,
    List.prefix_append_right_inj] at h
  rcases boldOf_prefix hsign hne h with h | h
  · exact hc outcome h
  · exact hw outcome h

/-- A text that starts with a space closes nothing. -/
theorem closes_of_space {colours : Bool} {text : String} (ht : " ".toList <+: text.toList) :
    closes colours text = false := by
  rw [← Bool.not_eq_true, closes_iff]
  rintro ⟨outcome, h⟩
  obtain ⟨rest, hrest⟩ := ht
  rw [← hrest] at h
  simp at h

/-- The banner of a failed run is not that of a passed one. -/
theorem failed_ne_passed (colours : Bool) (phase : String) : failed colours phase ≠ passed colours := by
  intro h
  have hf : ("\n" ++ outcomeMark colours false).toList <+: (failed colours phase).toList := by
    show _ <+: ("\n" ++ outcomeMark colours false ++ " " ++ _ ++ " (" ++ phase ++ ")\n\n").toList
    simp [List.append_assoc]
  have hp : (passed colours).toList = ("\n" ++ outcomeMark colours true ++ " " ++ _ ++ "\n\n").toList := rfl
  rw [h, hp] at hf
  simp only [String.toList_append, List.append_assoc, List.prefix_append_right_inj] at hf
  rcases boldOf_prefix (by decide) (by decide) hf with hc | hs
  · cases hc
  · revert hs
    decide

/-! ## The other texts of a session -/

section

variable (colours : Bool)

/-- The banner that a session starts with does not close it. -/
@[simp] theorem closes_opening (p : Plan) : closes colours (opening colours p) = false := by
  refine closes_of_boldOf .blue "Running Smoke Test:" (by decide) (by decide) (by decide) ?_
  show _ <+: ("\n" ++ (Style.boldOf .blue).paint colours _ ++ " " ++ _ ++ "\n").toList
  simp [List.append_assoc]

@[simp] theorem closes_description (text : String) : closes colours (description colours text) = false := by
  refine closes_of_space ?_
  show _ <+: ("  " ++ _ ++ "\n").toList
  simp

/-- The line of a step does not close a session. -/
@[simp] theorem closes_step (what detail : String) : closes colours (step colours what detail) = false := by
  refine closes_of_boldOf .cyan "==>" (by decide) (by decide) (by decide) ?_
  show _ <+: ("\n" ++ (Style.boldOf .cyan).paint colours _ ++ " " ++ _ ++ " " ++ _ ++ "\n").toList
  simp [List.append_assoc]

@[simp] theorem closes_check (message : String) : closes colours (check colours message) = false := by
  refine closes_of_space ?_
  show _ <+: ("  " ++ _ ++ " " ++ _ ++ "\n").toList
  simp

@[simp] theorem closes_cross (message : String) : closes colours (cross colours message) = false := by
  refine closes_of_space ?_
  show _ <+: ("  " ++ _ ++ " " ++ _ ++ "\n").toList
  simp

@[simp] theorem closes_query (text : String) : closes colours (query colours text) = false := by
  refine closes_of_space ?_
  show _ <+: ("  " ++ _ ++ "\n").toList
  simp

/-- The notice of a request does not close a session: the banner comes after it. -/
@[simp] theorem closes_interrupted (signal : String) :
    closes colours (interrupted colours signal) = false := by
  refine closes_of_boldOf .yellow "!" (by decide) (by decide) (by decide) ?_
  show _ <+: ("\n" ++ (Style.boldOf .yellow).paint colours _ ++ " " ++ _ ++ "\n").toList
  simp [List.append_assoc]

end

end Shakedown.Banner

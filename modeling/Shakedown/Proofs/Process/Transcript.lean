import Shakedown.Proofs.Process.Capture
import Shakedown.Proofs.Session.Judgement
import Shakedown.Proofs.Text.Encoding

/-!
# The text of a capture

What is captured of a text is the text with its line ends made alike (`Text.evened`): one carriage return goes
before each line feed, and a last line without a line feed gets one. The lines are decoded one by one and a piece
of the stream may end anywhere, but what comes out is decided by the stream as a whole (`captured_text`). A text
without line ends in it is part of what is captured exactly if it is part of what was written (`infix_evened`).
-/

namespace Shakedown

namespace Text

/-- The text without the carriage return that stands right before a line feed. -/
def withoutReturns : List Char → List Char
  | '\r' :: '\n' :: rest => '\n' :: withoutReturns rest
  | c :: rest => c :: withoutReturns rest
  | [] => []

/-- The text with a line feed at its end, unless it is empty or has one there. -/
def endLastLine (cs : List Char) : List Char :=
  if cs = [] ∨ cs.getLast? = some '\n' then cs else cs ++ ['\n']

/-- The text with its line ends made alike: one carriage return is taken away before each line feed, and a last
line without a line feed gets one. -/
def evened (text : String) : String := String.ofList (endLastLine (withoutReturns text.toList))

/-- The line that characters are if a line feed comes next: without the carriage return at their end. -/
def lineOf (cs : List Char) : List Char := if cs.getLast? = some '\r' then cs.dropLast else cs

variable {cs rest needle : List Char}

/-! ## Lines of a text -/

theorem withoutReturns_cons {c : Char} (h : c ≠ '\r' ∨ cs.head? ≠ some '\n') :
    withoutReturns (c :: cs) = c :: withoutReturns cs := by
  rw [withoutReturns]
  rintro rest rfl rfl
  rcases h with h | h
  · exact h rfl
  · exact h rfl

/-- In a line nothing is taken away. -/
theorem withoutReturns_line (h : '\n' ∉ cs) : withoutReturns cs = cs := by
  induction cs with
  | nil => rfl
  | cons c cs ih =>
    have hc : cs.head? ≠ some '\n' := by
      intro hhead
      exact h (List.mem_cons_of_mem _ (List.mem_of_head? hhead))
    rw [withoutReturns_cons (Or.inr hc), ih (fun hm => h (List.mem_cons_of_mem _ hm))]

theorem lineOf_cons {c d : Char} : lineOf (c :: d :: cs) = c :: lineOf (d :: cs) := by
  rw [lineOf, lineOf, List.getLast?_cons_cons, List.dropLast_cons_cons]
  split
  · rfl
  · rfl

/-- What is taken away of a text is taken away line by line. -/
theorem withoutReturns_append (h : '\n' ∉ cs) :
    withoutReturns (cs ++ '\n' :: rest) = lineOf cs ++ '\n' :: withoutReturns rest := by
  induction cs with
  | nil => exact withoutReturns_cons (Or.inl (by decide))
  | cons c cs ih =>
    cases cs with
    | nil =>
      -- The last character of the line is the only one that may go.
      by_cases hc : c = '\r'
      · subst hc
        rfl
      · have hline : lineOf [c] = [c] := if_neg (by simpa using hc)
        rw [hline, List.singleton_append, withoutReturns_cons (Or.inl hc), withoutReturns_cons (Or.inl (by decide))]
        rfl
    | cons d cs =>
      have hd : d ≠ '\n' := by
        rintro rfl
        exact h (by simp)
      rw [List.cons_append, withoutReturns_cons (Or.inr (by simpa using hd)),
        ih (fun hm => h (List.mem_cons_of_mem _ hm)), lineOf_cons, List.cons_append]

theorem endLastLine_line (h : '\n' ∉ cs) : endLastLine cs = if cs = [] then [] else cs ++ ['\n'] := by
  have hlast : cs.getLast? ≠ some '\n' := fun hl => h (List.mem_of_getLast? hl)
  by_cases hn : cs = []
  · simp [endLastLine, hn]
  · rw [endLastLine, if_neg (by simp [hn, hlast]), if_neg hn]

theorem endLastLine_append : endLastLine (cs ++ '\n' :: rest) = cs ++ '\n' :: endLastLine rest := by
  cases rest with
  | nil => simp [endLastLine]
  | cons c rest =>
    have hlast : (cs ++ '\n' :: c :: rest).getLast? = (c :: rest).getLast? := by
      rw [List.getLast?_append, List.getLast?_cons_cons]
      cases hl : (c :: rest).getLast? with
      | none => simp at hl
      | some d => rfl
    unfold endLastLine
    rw [hlast]
    simp only [List.append_eq_nil_iff, reduceCtorEq, and_false, false_or]
    split
    · rfl
    · simp

/-! ## Texts without line ends -/

/-- A text without line ends in it. -/
def IsWithinLine (needle : List Char) : Prop := '\r' ∉ needle ∧ '\n' ∉ needle

theorem IsWithinLine.tail {c : Char} (h : IsWithinLine (c :: needle)) : IsWithinLine needle :=
  ⟨fun hm => h.1 (List.mem_cons_of_mem _ hm), fun hm => h.2 (List.mem_cons_of_mem _ hm)⟩

/-- Of the texts without line ends only the empty one starts at a line end. -/
theorem IsWithinLine.prefix_break (h : IsWithinLine needle) {c : Char} (hc : c = '\r' ∨ c = '\n') :
    needle <+: c :: cs ↔ needle = [] := by
  cases needle with
  | nil => simp
  | cons d needle =>
    have hd : d ≠ c := by
      rintro rfl
      rcases hc with rfl | rfl
      · exact h.1 (List.mem_cons_self ..)
      · exact h.2 (List.mem_cons_self ..)
    simp [List.cons_prefix_cons, hd]

theorem IsWithinLine.prefix_withoutReturns (h : IsWithinLine needle) :
    needle <+: withoutReturns cs ↔ needle <+: cs := by
  induction cs using withoutReturns.induct generalizing needle with
  | case1 rest ih => rw [withoutReturns, h.prefix_break (Or.inr rfl), h.prefix_break (Or.inl rfl)]
  | case2 c rest other ih =>
    rw [withoutReturns.eq_2 _ _ other]
    cases needle with
    | nil => simp
    | cons d needle => rw [List.cons_prefix_cons, List.cons_prefix_cons, ih h.tail]
  | case3 => rfl

theorem IsWithinLine.infix_withoutReturns (h : IsWithinLine needle) :
    needle <:+: withoutReturns cs ↔ needle <:+: cs := by
  induction cs using withoutReturns.induct with
  | case1 rest ih =>
    -- A text without line ends does not reach over the one that is changed here.
    rw [withoutReturns, List.infix_cons_iff, List.infix_cons_iff, List.infix_cons_iff, h.prefix_break (Or.inr rfl),
      h.prefix_break (Or.inl rfl), h.prefix_break (Or.inr rfl), ih, ← or_assoc, or_self]
  | case2 c rest other ih =>
    have hstart : needle <+: withoutReturns (c :: rest) ↔ needle <+: c :: rest := h.prefix_withoutReturns
    rw [withoutReturns.eq_2 _ _ other] at hstart ⊢
    rw [List.infix_cons_iff, List.infix_cons_iff, hstart, ih]
  | case3 => rfl

theorem IsWithinLine.infix_endLastLine (h : IsWithinLine needle) : needle <:+: endLastLine cs ↔ needle <:+: cs := by
  unfold endLastLine
  split
  · rfl
  · rw [List.infix_concat_iff]
    constructor
    · rintro (hs | hi)
      · rcases List.suffix_concat_iff.mp hs with rfl | ⟨before, rfl, -⟩
        · exact List.nil_infix
        · exact absurd (by simp) h.2
      · exact hi
    · exact Or.inr

/-- A text without line ends is part of a text with even line ends exactly if it is part of the text. -/
theorem infix_evened {needle text : String} (h : IsWithinLine needle.toList) :
    needle.toList <:+: (evened text).toList ↔ needle.toList <:+: text.toList := by
  rw [evened, String.toList_ofList, h.infix_endLastLine, h.infix_withoutReturns]

/-- The search of a text finds exactly its parts. -/
theorem containsChars_iff : containsChars needle cs = true ↔ needle <:+: cs := by
  induction cs with
  | nil => simp [containsChars]
  | cons c cs ih => rw [containsChars, Bool.or_eq_true, ih, List.isPrefixOf_iff_prefix, List.infix_cons_iff]

end Text

/-! ## Captures of texts -/

namespace Capture

open Text (evened lineOf endLastLine withoutReturns IsWithinLine)
open Text.Utf8 (encode decode IsText bytesOf bytesOf_eq_nil_iff decode_bytesOf mem_encoding)

variable {c : Capture}

/-- Bytes without a line feed go to the unfinished line. -/
theorem feed_open (hf : c.fault = none) (he : c.ended = false) {bytes : List UInt8} (h : 10 ∉ bytes) :
    c.feed bytes = { c with pendingRev := bytes.reverse ++ c.pendingRev } := by
  induction bytes generalizing c with
  | nil => rfl
  | cons b bytes ih =>
    have hb : b ≠ 10 := fun hb => h (hb ▸ List.mem_cons_self ..)
    rw [feed_cons, feedByte, if_neg (by simp [hf, he]), if_neg hb]
    have hrest := ih (c := { c with pendingRev := b :: c.pendingRev }) hf he (fun hm => h (List.mem_cons_of_mem _ hm))
    simpa using hrest

/-- The carriage return before a line end is one character and one byte. -/
theorem withoutReturn_bytesOf (cs : List Char) :
    (withoutReturn (bytesOf cs).reverse).reverse = bytesOf (lineOf cs) := by
  rcases List.eq_nil_or_concat cs with rfl | ⟨before, x, rfl⟩
  · rfl
  · have hsplit : bytesOf (before.concat x) = bytesOf before ++ String.utf8EncodeChar x := by simp [bytesOf]
    by_cases hx : x = '\r'
    · subst hx
      have hcr : String.utf8EncodeChar '\r' = [13] := by decide
      have hline : lineOf (before.concat '\r') = before := by simp [lineOf]
      rw [hsplit, hcr, hline, List.reverse_append]
      simp [withoutReturn]
    · have hline : lineOf (before.concat x) = before.concat x := by simp [lineOf, hx]
      have hkeep : withoutReturn (bytesOf (before.concat x)).reverse = (bytesOf (before.concat x)).reverse := by
        unfold withoutReturn
        split
        case h_1 rev hrev =>
          -- The last byte of a text is one of its last character.
          have hmem : 13 ∈ String.utf8EncodeChar x := by
            rw [hsplit, List.reverse_append] at hrev
            obtain ⟨b, others, hb⟩ := List.exists_cons_of_ne_nil (List.reverse_ne_nil_iff.mpr (String.utf8EncodeChar_ne_nil (c := x)))
            rw [hb, List.cons_append, List.cons.injEq] at hrev
            rw [← List.mem_reverse, hb, hrev.1]
            exact List.mem_cons_self ..
          have hn : x.toNat = '\r'.toNat := mem_encoding (by decide) hmem
          exact absurd (Char.toNat_inj.mp hn) hx
        case h_2 => rfl
      rw [hkeep, hline, List.reverse_reverse]

theorem text_addLine (c : Capture) (line : String) (pendingRev : List UInt8) :
    ({ c with linesRev := line :: c.linesRev, pendingRev := pendingRev } : Capture).text = c.text ++ (line ++ "\n") := by
  simp [text, lines]

/-- A line feed moves the unfinished line to the lines taken. -/
theorem feedByte_lf (hf : c.fault = none) (he : c.ended = false) {line : List Char}
    (hp : c.pendingRev = (bytesOf line).reverse) :
    c.feedByte 10 = { c with linesRev := String.ofList (lineOf line) :: c.linesRev, pendingRev := [] } := by
  rw [feedByte, if_neg (by simp [hf, he]), if_pos rfl, hp, withoutReturn_bytesOf, addLine_ok (decode_bytesOf _)]

/-- At the end of the stream an unfinished line is taken as it is. -/
theorem result_finish (hf : c.fault = none) (he : c.ended = false) {line : List Char}
    (hp : c.pendingRev = (bytesOf line).reverse) :
    c.finish.result = .ok (c.text ++ String.ofList (if line = [] then [] else line ++ ['\n'])) := by
  rw [finish, if_neg (by simp [hf, he])]
  by_cases hn : line = []
  · rw [if_pos (by simp [hp, hn, bytesOf]), if_pos hn]
    simp [result, hf, text, lines]
  · rw [if_neg (by simp [hp, bytesOf_eq_nil_iff, hn]), if_neg hn, hp, List.reverse_reverse,
      addLine_ok (decode_bytesOf line)]
    simp [result, hf, text, lines]

/-- A capture that has taken the bytes of an unfinished line and takes those of more characters to the end of its
stream. -/
theorem result_feed_bytesOf (hf : c.fault = none) (he : c.ended = false) {line : List Char} (hline : '\n' ∉ line)
    (hp : c.pendingRev = (bytesOf line).reverse) (cs : List Char) :
    (c.feed (bytesOf cs)).finish.result = .ok (c.text ++ String.ofList (endLastLine (withoutReturns (line ++ cs)))) := by
  -- The induction is on the characters: one that ends a line moves it to the lines taken, any other makes it longer.
  induction cs generalizing c line with
  | nil =>
    rw [List.append_nil, Text.withoutReturns_line hline, Text.endLastLine_line hline]
    exact result_finish hf he hp
  | cons x cs ih =>
    have hsplit : bytesOf (x :: cs) = String.utf8EncodeChar x ++ bytesOf cs := rfl
    rw [hsplit, feed_append]
    by_cases hx : x = '\n'
    · subst hx
      have hlf : String.utf8EncodeChar '\n' = [10] := by decide
      have hrest := ih (c := { c with linesRev := String.ofList (lineOf line) :: c.linesRev, pendingRev := [] }) hf he
        (List.not_mem_nil (a := '\n')) rfl
      rw [hlf, feed_cons, feed_nil, feedByte_lf hf he hp, hrest, text_addLine, List.nil_append,
        Text.withoutReturns_append hline, Text.endLastLine_append]
      simp [String.append_assoc]
    · have hopen : 10 ∉ String.utf8EncodeChar x := by
        intro hm
        have hn : x.toNat = '\n'.toNat := mem_encoding (by decide) hm
        exact hx (Char.toNat_inj.mp hn)
      have hlonger : '\n' ∉ line ++ [x] := by simp [hline, Ne.symm hx]
      have hrest := ih (c := { c with pendingRev := (String.utf8EncodeChar x).reverse ++ c.pendingRev }) hf he hlonger
        (by simp [hp, bytesOf])
      rw [feed_open hf he hopen, hrest, List.append_assoc, List.singleton_append]
      rfl

/-! ## Whole streams -/

/-- The pieces in which a stream is taken do not matter. -/
theorem foldl_feed (c : Capture) (pieces : List (List UInt8)) : pieces.foldl feed c = c.feed pieces.flatten := by
  induction pieces generalizing c with
  | nil => rfl
  | cons piece pieces ih => rw [List.foldl_cons, ih, List.flatten_cons, feed_append]

/-- The capture of a text. -/
theorem result_text {bytes : List UInt8} {text : String} (h : encode text = bytes) :
    (({} : Capture).feed bytes).finish.result = .ok (evened text) := by
  have hbytes : bytes = bytesOf text.toList := h.symm.trans (Text.Utf8.encode_eq_bytesOf text)
  have hall := result_feed_bytesOf (c := {}) rfl rfl (List.not_mem_nil (a := '\n')) rfl text.toList
  rw [hbytes, hall]
  simp [Capture.text, lines, evened]

/-- Only a text is captured. -/
theorem isText_of_result {bytes : List UInt8} {out : String}
    (h : (({} : Capture).feed bytes).finish.result = .ok out) : IsText bytes := by
  rw [Text.Utf8.isText_iff, ← fault_none_iff]
  unfold result at h
  split at h
  case h_1 => cases h
  case h_2 hf => exact hf

/-- For every stream and every way in which it is cut into pieces: it is captured exactly if it is text as a whole,
and what comes out, or what is wrong, is the same however it is cut. What is captured of a text is the text with one
carriage return taken away before each line feed, and with a line feed after a last line that has none. Held against
an expectation, it holds a wanted text without line ends exactly if the text that was written does. -/
theorem captured_text (pieces : List (List UInt8)) :
    let capture := (pieces.foldl feed {}).finish
    ((∃ out, capture.result = .ok out) ↔ IsText pieces.flatten) ∧
      (∀ others : List (List UInt8), others.flatten = pieces.flatten →
        (others.foldl feed {}).finish.result = capture.result) ∧
      ∀ text, encode text = pieces.flatten →
        capture.result = .ok (evened text) ∧
          ∀ (i : Invocation) (name : String) (expect : Option Expectation) (needle : String),
            capture.result = .ok i.stdout → Expectation.wantedText expect = some needle →
            '\r' ∉ needle.toList → '\n' ∉ needle.toList →
            (i.check name expect = .ok () ↔
              i.ending.succeeded = Expectation.wantsSuccess expect ∧ needle.toList <:+: text.toList) := by
  intro capture
  -- How the stream is cut plays no part from here on.
  have hwhole : capture = (({} : Capture).feed pieces.flatten).finish := congrArg finish (foldl_feed {} pieces)
  refine ⟨?_, ?_, ?_⟩
  · rw [hwhole]
    constructor
    · rintro ⟨out, h⟩
      exact isText_of_result h
    · rintro ⟨text, h⟩
      exact ⟨evened text, result_text h⟩
  · intro others h
    rw [hwhole, foldl_feed, h]
  · intro text h
    have hresult : capture.result = .ok (evened text) := by rw [hwhole, result_text h]
    refine ⟨hresult, ?_⟩
    intro i name expect needle hout hwanted hcr hlf
    have hstdout : i.stdout = evened text := Except.ok.inj (hout.symm.trans hresult)
    have hfound : Text.contains i.stdout needle = true ↔ needle.toList <:+: text.toList := by
      rw [Text.contains, Text.containsChars_iff, hstdout, Text.infix_evened ⟨hcr, hlf⟩]
    rw [Invocation.check_ok_iff, ← hfound]
    simp [hwanted]

/-- A stream that is cut within a character and within a line end. -/
def cutStream : List (List UInt8) := [[0xC3], [0xA9, 0x0D], [0x0A, 0x62]]

/-- The cut stream is captured as two lines, and a query that wants their characters is content. -/
theorem captured_text_cut :
    (cutStream.foldl feed {}).finish.result = .ok "é\nb\n" ∧
      (⟨.exited 0, "é\nb\n", ""⟩ : Invocation).check "query 1" (some { outputContains := some "é" }) = .ok () := by
  obtain ⟨-, -, whole⟩ := captured_text cutStream
  obtain ⟨captured, judged⟩ := whole "é\r\nb" (by decide +kernel)
  have heven : evened "é\r\nb" = "é\nb\n" := by decide +kernel
  rw [heven] at captured
  refine ⟨captured, ?_⟩
  exact (judged ⟨.exited 0, "é\nb\n", ""⟩ "query 1" (some { outputContains := some "é" }) "é" captured rfl (by decide) (by decide)).mpr
    ⟨rfl, [], ['\r', '\n', 'b'], by decide⟩

end Capture
end Shakedown

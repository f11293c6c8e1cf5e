import Shakedown.Proofs.Json.Line
import Shakedown.Proofs.Text.FirstLine
import Shakedown.Stub.Answer
import Shakedown.Stub.Client

/-!
# A query and its answer

The stub client and the stub server exchange one line each. The server takes the query up to its first line feed, and
its answer is a value whose text is one line (`reply_encode`): what a query holds is escaped in it. The client reads
that line back as the answer (`parse?_answer`) and judges it by the field that it has (`judge_answer`). Put together,
the client prints the line and exits with what the answer is (`query_is_answered`).
-/

namespace Shakedown.Stub

open Json (Fits)
open Text (beforeLineFeed)
open Text.Utf8 (encode)

variable {σ : Type}

/-- The stub server is what answers at an address, and the bytes come in order: what comes back for a text is the
server's reply to its bytes. -/
def Surroundings.ServedAt (around : Surroundings σ) (address : String) : Prop :=
  ∀ text s, (around.exchange address text s).1 = .over (reply (encode text))

variable {around : Surroundings σ} {query : String} {depth : Nat} {s : σ}

/-! ## Answers -/

/-- The data that a query is answered with. -/
def dataOf (query : String) : Json := .object [("query", .string query), ("selections", .nat (selections query))]

/-- The errors that a query is answered with. -/
def errorsOf (query : String) : Json := .array [.object [("message", .string s!"syntax error in query: {query}")]]

theorem answer_selection (h : isSelection query = true) : answer query = .object [("data", dataOf query)] := if_pos h

theorem answer_other (h : isSelection query = false) : answer query = .object [("errors", errorsOf query)] :=
  if_neg (by simp [h])

theorem answer_eq_object (query : String) : ∃ f, answer query = .object [f] := by
  cases h : isSelection query with
  | true => exact ⟨_, answer_selection h⟩
  | false => exact ⟨_, answer_other h⟩

/-- An answer counts no more selections than its query has characters. -/
theorem selections_le (query : String) : selections query ≤ query.length :=
  Nat.le_trans List.countP_le_length (Text.length_words_le query)

theorem fits_field {key : String} {j : Json} (h : Fits depth j) : Fits (depth + 1) (.object [(key, j)]) := by
  refine .object fun f hf => ?_
  obtain rfl := List.mem_singleton.mp hf
  exact h

theorem fits_dataOf (h : query.length < 2 ^ 64) : Fits (depth + 1) (dataOf query) := by
  have hcount : selections query < 2 ^ 64 := Nat.lt_of_le_of_lt (selections_le query) h
  refine .object fun f hf => ?_
  simp only [List.mem_cons, List.not_mem_nil, or_false] at hf
  rcases hf with rfl | rfl
  · exact .string query
  · exact .int (by omega) (by omega)

theorem fits_errorsOf (query : String) : Fits (depth + 2) (errorsOf query) := by
  refine .array fun j hj => ?_
  obtain rfl := List.mem_singleton.mp hj
  exact fits_field (.string _)

/-- An answer fits a document, as long as its count does. -/
theorem fits_answer (h : query.length < 2 ^ 64) : Fits (depth + 3) (answer query) := by
  cases hq : isSelection query with
  | true =>
    rw [answer_selection hq]
    exact fits_field (fits_dataOf h)
  | false =>
    rw [answer_other hq]
    exact fits_field (fits_errorsOf query)

/-- The fields of an answer are in order. -/
theorem sorted_answer (query : String) : (answer query).sorted = answer query := by
  cases h : isSelection query with
  | true =>
    have horder : ¬ "selections" < "query" := by decide
    rw [answer_selection h]
    simp [dataOf, Json.sorted, Json.sortedFields, Json.insertField, Json.nat, horder]
  | false =>
    rw [answer_other h]
    simp [errorsOf, Json.sorted, Json.sortedFields, Json.sortedItems, Json.insertField]

/-- The line of an answer is read back as the answer. -/
theorem parse?_answer (h : query.length < 2 ^ 64) : Json.parse? ((answer query).compact ++ "\n") = some (answer query) := by
  have hread := (fits_answer h : Fits 127 (answer query)).parse?_line
  rwa [sorted_answer] at hread

/-- An answer is judged by the field that it has. -/
theorem judge_answer (query : String) :
    judge (answer query) =
      if isSelection query then (0, "") else (1, s!"mock client: query failed: {(errorsOf query).compact}\n") := by
  cases h : isSelection query with
  | true =>
    rw [answer_selection h]
    rfl
  | false =>
    rw [answer_other h]
    rfl

/-! ## Lines -/

/-- What is answered of a query that is sent: its text before the first line feed, trimmed. -/
def asked (query : String) : String := Text.trim (beforeLineFeed query)

/-- What is asked is no longer than the query. -/
theorem length_asked_le (query : String) : (asked query).length ≤ query.length := by
  refine Nat.le_trans (Text.length_trim_le _) ?_
  rw [beforeLineFeed, String.length_ofList, ← String.length_toList]
  exact (List.takeWhile_sublist _).length_le

/-- The server replies to a query with the text of its answer and a line feed. -/
theorem reply_encode (query : String) :
    reply (encode (query ++ "\n")) = encode ((answer (asked query)).compact ++ "\n") := by
  obtain ⟨rest, hrest⟩ := Text.encode_split query
  rw [reply, hrest, if_neg (by simp), Text.firstLineText?_encode (Text.lf_not_mem_beforeLineFeed query) rest]
  -- The line is read with its line feed, which is trimmed with the other blanks.
  simp only [Text.trim_append_lf]
  rfl

/-- The text of an answer ends in a bracket, and nothing but the line feed after it is trimmed. -/
theorem trimEnd_answer (query : String) :
    String.ofList (Text.trimEnd ((answer query).compact ++ "\n").toList) = (answer query).compact := by
  obtain ⟨f, hf⟩ := answer_eq_object query
  have hlast : ∃ cs, (answer query).compact.toList = cs ++ ['\x7d'] := by
    rw [hf]
    exact ⟨_, Json.compact_object_toList [f]⟩
  obtain ⟨cs, hcs⟩ := hlast
  have htrim : Text.trimEnd ((answer query).compact ++ "\n").toList = (answer query).compact.toList := by
    rw [String.toList_append, show "\n".toList = ['\n'] from rfl, Text.trimEnd_append_blank _ (by decide), hcs,
      Text.trimEnd_append_visible _ (by decide)]
  rw [htrim, String.ofList_toList]

/-- An answer is a single line. -/
theorem lf_not_mem_answer (h : query.length < 2 ^ 64) : '\n' ∉ (answer query).compact.toList :=
  (fits_answer h : Fits 127 (answer query)).lf_not_mem_compact

/-- What the client makes of the line that is an answer: it prints the line, and complains of errors. -/
theorem conclude_answer (around : Surroundings σ) (h : query.length < 2 ^ 64) (s : σ) :
    conclude around (encode ((answer query).compact ++ "\n")) s =
      if isSelection query then (0, around.print ((answer query).compact ++ "\n") s)
      else (1, around.printError s!"mock client: query failed: {(errorsOf query).compact}\n"
        (around.print ((answer query).compact ++ "\n") s)) := by
  have hline : Text.firstLineText? (encode ((answer query).compact ++ "\n")) = some ((answer query).compact ++ "\n") := by
    rw [Text.encode_append_lf]
    exact Text.firstLineText?_encode (lf_not_mem_answer h) []
  -- A complaint that is empty would not be printed.
  have hcomplaint : (s!"mock client: query failed: {(errorsOf query).compact}\n").isEmpty = false := by
    simp [toString]
  rw [conclude, hline]
  simp only [trimEnd_answer, parse?_answer h, Option.getD_some, judge_answer]
  cases isSelection query with
  | true => rfl
  | false => simp only [hcomplaint, Bool.false_eq_true, reduceIte]

/-- A client whose query is recorded concludes from the bytes that it receives. -/
theorem runClient_over {options : ClientOptions} {s₁ w : σ} {received : List UInt8}
    (recorded : recordQuery around options s = .ok s₁)
    (exchanged : around.exchange options.address (options.query ++ "\n") (around.pause options.delayMs s₁) =
      (.over received, w)) : runClient around options s = conclude around received w := by
  rw [runClient, recorded]
  simp only [exchanged]

/-- For every query that is put to the stub server: the query up to its first line feed, trimmed, is what is answered,
and the reply is one line, whose only line feed is its last byte. The client reads that line as the answer, in which a
selection is found as it was put. The client prints the line, and it exits with 0 exactly if the answer has data and
with 1 exactly if it has errors. A text has fewer than 2^64 characters, so its words can be counted in 64 bits. -/
theorem query_is_answered (around : Surroundings σ) (options : ClientOptions) (s s₁ : σ)
    (served : around.ServedAt options.address) (recorded : recordQuery around options s = .ok s₁)
    (sized : options.query.length < 2 ^ 64) :
    let query := Text.trim (beforeLineFeed options.query)
    let line := (answer query).compact
    let exchanged := around.exchange options.address (options.query ++ "\n") (around.pause options.delayMs s₁)
    let printed := around.print (line ++ "\n") exchanged.2
    let run := runClient around options s
    exchanged.1 = .over (encode line ++ [10]) ∧ 10 ∉ encode line ∧
      Json.parse? (line ++ "\n") = some (answer query) ∧
      (∀ data, (answer query).field? "data" = some data → data.field? "query" = some (.string query)) ∧
      (run.1 = 0 ↔ ((answer query).field? "data").isSome = true) ∧
      (run.1 = 1 ↔ ((answer query).field? "errors").isSome = true) ∧
      ((run.1 = 0 ∧ run.2 = printed) ∨ ∃ errors, (answer query).field? "errors" = some errors ∧
        run = (1, around.printError s!"mock client: query failed: {errors.compact}\n" printed)) := by
  intro query line exchanged printed run
  have hsized : query.length < 2 ^ 64 := Nat.lt_of_le_of_lt (length_asked_le options.query) sized
  have hreply : exchanged.1 = .over (encode (line ++ "\n")) :=
    (served _ _).trans (congrArg Exchange.over (reply_encode options.query))
  -- What the client does with the reply depends on the form of the query alone.
  have hrun : run = if isSelection query then (0, printed)
      else (1, around.printError s!"mock client: query failed: {(errorsOf query).compact}\n" printed) := by
    have hconclude : run = conclude around (encode (line ++ "\n")) exchanged.2 :=
      runClient_over recorded (Prod.ext hreply rfl)
    rw [hconclude]
    exact conclude_answer around hsized exchanged.2
  refine ⟨by rw [hreply, Text.encode_append_lf], Text.lf_not_mem_encode (lf_not_mem_answer hsized), parse?_answer hsized, ?_⟩
  rw [hrun]
  cases h : isSelection query with
  | true =>
    rw [answer_selection h]
    have hdata : (Json.object [("data", dataOf query)]).field? "data" = some (dataOf query) := rfl
    have herrors : (Json.object [("data", dataOf query)]).field? "errors" = none := rfl
    rw [hdata, herrors]
    refine ⟨?_, by simp, by simp, Or.inl ⟨rfl, rfl⟩⟩
    rintro data ⟨⟩
    rfl
  | false =>
    rw [answer_other h]
    have hdata : (Json.object [("errors", errorsOf query)]).field? "data" = none := rfl
    have herrors : (Json.object [("errors", errorsOf query)]).field? "errors" = some (errorsOf query) := rfl
    rw [hdata, herrors]
    exact ⟨by simp, by simp, by simp, Or.inr ⟨_, rfl, rfl⟩⟩

/-- Surroundings in which the stub server answers at every address, and which keep what is printed. -/
def echoing : Surroundings (List String) where
  number _ := 0
  print text shown := shown ++ [text]
  printError text shown := shown ++ [text]
  pause _ shown := shown
  write _ _ shown := .ok shown
  append _ _ shown := .ok shown
  exchange _ text shown := (.over (reply (encode text)), shown)
  listen _ shown := .ok shown

/-- A query of two lines, with blanks around the first of them and a tab and quotes in it. -/
def quotedQuery : ClientOptions := { query := "\u00a0\x7b a\t\"é\" \x7d\r\nmore" }

/-- The line with which the query is answered. -/
def quotedLine : String := "\x7b\"data\":\x7b\"query\":\"\x7b a\\t\\\"é\\\" \x7d\",\"selections\":2\x7d\x7d\n"

/-- The line is read as the answer to the first line of the query, and the client prints it and succeeds. -/
theorem query_is_answered_quoted :
    Json.parse? quotedLine = some (answer "\x7b a\t\"é\" \x7d") ∧
      runClient echoing quotedQuery [] = (0, [quotedLine]) := by
  have hquery : Text.trim (beforeLineFeed quotedQuery.query) = "\x7b a\t\"é\" \x7d" := by decide +kernel
  have hline : (answer "\x7b a\t\"é\" \x7d").compact ++ "\n" = quotedLine := by decide +kernel
  obtain ⟨-, -, hparse, -, hdata, -, hprinted⟩ :=
    query_is_answered echoing quotedQuery [] [] (fun _ _ => rfl) rfl (by decide +kernel)
  rw [hquery, hline] at hparse hprinted
  rw [hquery] at hdata
  have hcode : (runClient echoing quotedQuery []).1 = 0 := hdata.mpr (by decide +kernel)
  rcases hprinted with ⟨-, hshown⟩ | ⟨errors, -, hrun⟩
  · exact ⟨hparse, Prod.ext hcode hshown⟩
  · rw [hrun] at hcode
    cases hcode

end Shakedown.Stub

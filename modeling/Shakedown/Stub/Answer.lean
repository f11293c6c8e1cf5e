import Shakedown.Json.Printer
import Shakedown.Text.Blank
import Shakedown.Text.FirstLine

/-!
# Answers to queries

The stub of a query server looks at the form of a query only. A query that opens with a brace, and whose
braces pair up, is answered with data: the query and the number of its words that hold no brace. Any
other query is answered with an error. A query and its answer are one line each.
-/

namespace Shakedown.Stub

/-- Whether the braces of a text pair up, inside a number of braces that are still open. The number is kept in
32 bits. -/
def closes : Int32 → List Char → Bool
  | depth, [] => depth == 0
  | depth, c :: rest =>
    if c = '\x7b' then closes (depth + 1) rest
    else if c = '\x7d' then
      let depth := depth - 1
      if depth < 0 then false else closes depth rest
    else closes depth rest

/-- Whether a character is a brace. -/
def isBrace (c : Char) : Bool := c == '\x7b' || c == '\x7d'

/-- The number of words of a query that hold no brace. -/
def selections (query : String) : Nat := (Text.words query).countP fun word => !word.any isBrace

/-- Whether a query has the form of a selection. -/
def isSelection (query : String) : Bool := query.toList.head? == some '\x7b' && closes 0 query.toList

/-- The answer to a query. -/
def answer (query : String) : Json :=
  if isSelection query then
    .object [("data", .object [("query", .string query), ("selections", .nat (selections query))])]
  else .object [("errors", .array [.object [("message", .string s!"syntax error in query: {query}")]])]

/-- What is sent back for the bytes that a client has sent: the answer to their first line, or nothing
if there is none or it is not text. -/
def reply (received : List UInt8) : List UInt8 :=
  if received.isEmpty then []
  else
    match Text.firstLineText? received with
    | some line => Text.Utf8.encode ((answer (Text.trim line)).compact ++ "\n")
    | none => []

end Shakedown.Stub

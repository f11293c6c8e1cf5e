import Shakedown.CommandLine.Arguments
import Shakedown.Json.Parser
import Shakedown.Json.Printer
import Shakedown.Stub.Surroundings
import Shakedown.Text.Blank
import Shakedown.Text.FirstLine

/-!
# The stub client as a program

It puts one query to a server and prints the answer. Its exit code says what came back: 0 for data, 1
for errors or an answer of neither kind, 2 if there was no answer to read. A query can be recorded in a
file before it is sent.
-/

namespace Shakedown.Stub

open CommandLine (Given Grammar Refusal)

/-- What the client is told. -/
structure ClientOptions where
  address : String := standardAddress
  record : Option Path := none
  delayMs : Nat := 0
  query : String
deriving DecidableEq, Repr

namespace ClientOptions

/-- The grammar of the client's arguments. -/
def grammar : Grammar :=
  { options := [⟨"addr", none, .takes .text⟩, ⟨"record", none, .takes .path⟩,
      ⟨"sleep-ms", none, .takes .natural⟩, CommandLine.helpOption]
    operands := [.text] }

/-- The options of arguments. -/
def parse (args : List String) : Except Refusal ClientOptions := do
  let g := (← grammar.scan args).given
  match g.operands with
  | query :: _ =>
    return { address := (g.value? "addr").getD standardAddress
             record := (g.value? "record").map Path.mk
             delayMs := (g.natural? "sleep-ms").getD 0
             query := query }
  | [] => throw .misuse

/-- The words on how the client is asked. -/
def usage : String :=
  "Usage: mock_query_client [--addr <ADDR>] [--record <PATH>] [--sleep-ms <MS>] <QUERY>\n"

end ClientOptions

/-- What an answer makes of the client: its exit code, and its complaint. -/
def judge (response : Json) : Nat × String :=
  match response.field? "errors", response.field? "data" with
  | some errors, _ => (1, s!"mock client: query failed: {errors.compact}\n")
  | none, none => (1, "mock client: malformed response\n")
  | none, some _ => (0, "")

variable {σ : Type} (around : Surroundings σ)

/-- What has been received is printed and judged. -/
def conclude (received : List UInt8) (s : σ) : Nat × σ :=
  match Text.firstLineText? received with
  | none => (2, around.printError "mock client: receive failed: stream did not contain valid UTF-8\n" s)
  | some line =>
    let shown := String.ofList (Text.trimEnd line.toList)
    let s := around.print (shown ++ "\n") s
    let (code, complaint) := judge ((Json.parse? line).getD .null)
    (code, if complaint.isEmpty then s else around.printError complaint s)

/-- The query is recorded, if that is wanted. -/
def recordQuery (options : ClientOptions) (s : σ) : Except String σ :=
  match options.record with
  | some path => around.append path (options.query ++ "\n") s
  | none => .ok s

/-- The client is run: its exit code. -/
def runClient (options : ClientOptions) (s : σ) : Nat × σ :=
  match recordQuery around options s with
  | .error reason => (1, around.printError s!"mock client: cannot record query: {reason}\n" s)
  | .ok s =>
    let s := around.pause options.delayMs s
    match around.exchange options.address (options.query ++ "\n") s with
    | (.notConnected reason, s) =>
      (2, around.printError s!"mock client: cannot connect to {options.address}: {reason}\n" s)
    | (.notSent reason, s) => (2, around.printError s!"mock client: send failed: {reason}\n" s)
    | (.notReceived reason, s) => (2, around.printError s!"mock client: receive failed: {reason}\n" s)
    | (.over received, s) => conclude around received s

end Shakedown.Stub

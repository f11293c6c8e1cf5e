import Shakedown.CommandLine.Arguments
import Shakedown.Stub.Surroundings

/-!
# The stub server as a program

It leaves its process number in a file if it is told to, waits, and then either exits with a given code
or listens and answers queries for good.
-/

namespace Shakedown.Stub

open CommandLine (Given Grammar Refusal)

/-- What the server is told. -/
structure ServerOptions where
  address : String := standardAddress
  delayMs : Nat := 0
  numberFile : Option Path := none
  exitCode : Option Int := none
deriving DecidableEq, Repr

namespace ServerOptions

/-- The grammar of the server's arguments. -/
def grammar : Grammar :=
  { options := [⟨"addr", none, .takes .text⟩, ⟨"startup-delay-ms", none, .takes .natural⟩,
      ⟨"pid-file", none, .takes .path⟩, ⟨"exit-code", none, .takes .integer⟩, CommandLine.helpOption] }

/-- The options that arguments give. -/
def ofGiven (g : Given) : ServerOptions :=
  { address := (g.value? "addr").getD standardAddress
    delayMs := (g.natural? "startup-delay-ms").getD 0
    numberFile := (g.value? "pid-file").map Path.mk
    exitCode := g.integer? "exit-code" }

/-- The options of arguments. -/
def parse (args : List String) : Except Refusal ServerOptions :=
  (grammar.scan args).map fun scanned => ofGiven scanned.given

/-- The words on how the server is asked. -/
def usage : String :=
  "Usage: mock_query_server [--addr <ADDR>] [--startup-delay-ms <MS>] [--pid-file <PATH>] [--exit-code <CODE>]\n"

end ServerOptions

variable {σ : Type} (around : Surroundings σ)

/-- The process number is left in a file, if that is wanted. -/
def leaveNumber (file : Option Path) (s : σ) : Except String σ :=
  match file with
  | some path => around.write path (toString (around.number s)) s
  | none => .ok s

/-- The server begins to listen. -/
def listen (address : String) (s : σ) : Conclusion × σ :=
  match around.listen address s with
  | .error reason => (.ended 1, around.printError s!"mock server: cannot bind {address}: {reason}\n" s)
  | .ok s => (.serving, around.printError s!"mock server: listening on {address}\n" s)

/-- The server is run. -/
def runServer (options : ServerOptions) (s : σ) : Conclusion × σ :=
  match leaveNumber around options.numberFile s with
  | .error reason => (.ended 1, around.printError s!"mock server: cannot write pid file: {reason}\n" s)
  | .ok s =>
    let s := around.pause options.delayMs s
    match options.exitCode with
    | some code => (.ended code, around.printError s!"mock server: exiting with {code}\n" s)
    | none => listen around options.address s

end Shakedown.Stub

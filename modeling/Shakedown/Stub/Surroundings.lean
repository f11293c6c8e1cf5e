import Shakedown.Path.Basic

/-!
# The surroundings of the stubs

What the stub server and the stub client need of the system around them, on a state of that system.
-/

namespace Shakedown.Stub

/-- How sending a line and waiting for one ends. Reading can fail before a line is there. -/
inductive Exchange where
  | notConnected (reason : String)
  | notSent (reason : String)
  | notReceived (reason : String)
  | over (received : List UInt8)
deriving DecidableEq, Repr

/-- The operations that the stubs need. `exchange` sends a text to an address and takes what comes back;
`listen` takes an address for serving. -/
structure Surroundings (σ : Type) where
  number : σ → Nat
  print : String → σ → σ
  printError : String → σ → σ
  pause : Nat → σ → σ
  write : Path → String → σ → Except String σ
  append : Path → String → σ → Except String σ
  exchange : String → String → σ → Exchange × σ
  listen : String → σ → Except String σ

/-- How a stub ends: with an exit code, or not at all, as it goes on serving. -/
inductive Conclusion where
  | ended (code : Int)
  | serving
deriving DecidableEq, Repr

/-- The address at which queries are answered unless another is given. -/
def standardAddress : String := "127.0.0.1:50051"

end Shakedown.Stub

import Shakedown.Loading
import Shakedown.Log.Filter
import Shakedown.Session.Outside

/-!
# The surroundings of a command

What a command needs of the system around it beside the operations of a session: variables, the
home directory of the user's account, the current directory, files to read and to write, and streams
for its user. Reading leaves the state as it is; only `write`, `printError` and what prepares the
diagnostics change it. Like `Outside.print`, `printError` is taken to succeed.
-/

namespace Shakedown.CommandLine

/-- The operations that a command needs, on a state of the system. -/
structure Surroundings (σ : Type) where
  outside : Outside σ
  variable_ : σ → String → Option String
  accountHome : σ → Option String
  colours : σ → Bool
  cwd : σ → Except String Path
  read : σ → ReadText
  doesExist : σ → Path → Bool
  isDirectory : σ → Path → Bool
  write : Path → String → σ → Except String σ
  printError : String → σ → σ
  makeDirectories : Path → σ → Except String σ
  keepLog : Path → σ → Except String σ
  tell : Log.Filter → σ → σ

end Shakedown.CommandLine

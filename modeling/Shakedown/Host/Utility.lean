import Shakedown.Host.Utility.Entries
import Shakedown.Host.Utility.Facts
import Shakedown.Host.Utility.Fields
import Shakedown.Host.Utility.Order
import Shakedown.Host.Utility.Search

/-!
# Programs of the system

`Utility.run` is what each of the small programs does. `Utility.readsInput` says which of them read their
standard input, and `Utility.hasEnough` which stop before its end.
-/

namespace Shakedown.Host.Utility

/-- The program that prints its arguments by a format. -/
def printFormatted (sc : Scope) : Result :=
  match (if sc.args.head? == some "--" then sc.args.drop 1 else sc.args) with
  | [] => sc.misuse "missing operand" 1
  | format :: args =>
    let p := Format.printf format args
    let told : List String := p.bad.map fun b => match b.2 with
      | .noNumber => s!"{inQuotes b.1}: expected a numeric value"
      | .notWhole => s!"{inQuotes b.1}: value not completely converted"
      | .outOfRange => s!"{inQuotes b.1}: Numerical result out of range"
    { files := sc.files, out := p.bytes, status := if told.isEmpty && p.fault.isNone then 0 else 1,
      err := (told ++ p.fault.toList).flatMap sc.complaint }

/-- Whether the operands of a program leave its input to be read: there are none, or a dash is one. -/
def leavesInput (t : OptionTable) (args : List String) (skipped : Nat) : Bool :=
  match t.read args with
  | .ok o => (o.operands.drop skipped).isEmpty || (o.operands.drop skipped).contains "-"
  | .error _ => false

/-- Whether a program reads its input first. -/
def readsInput (name : String) (args : List String) : Bool :=
  match name with
  | "cat" => leavesInput concatenateOptions args 0
  | "wc" => leavesInput countOptions args 0
  | "sort" => leavesInput sortOptions args 0
  | "uniq" => leavesInput uniqueOptions args 0
  | "cut" => leavesInput cutOptions args 0
  | "tac" | "rev" | "nl" | "fold" => leavesInput { valued := "bw" } args 0
  | "paste" => leavesInput { plain := "sz", valued := "d" } args 0
  | "head" | "tail" => leavesInput extentOptions (modernExtent args) 0
  | "grep" =>
    match searchOptions.read args with
    | .ok o => leavesInput searchOptions args (if o.has 'e' then 0 else 1)
    | .error _ => false
  | "sed" =>
    match editOptions.read args with
    | .ok o => leavesInput editOptions args (if o.has 'e' then 0 else 1)
    | .error _ => false
  | "cmp" => args.contains "-"
  | "tr" | "tee" => true
  | _ => false

/-- Whether a program stops reading with the input so far. -/
def hasEnough (name : String) (args : List String) (input : List UInt8) : Bool :=
  name == "head" && hasFirstLines args input

/-- What a program does. -/
def run (sc : Scope) : Result :=
  match sc.name with
  | "true" => sc.done 0
  | "false" => sc.done 1
  | "echo" => sc.put (Format.echo false sc.args)
  | "printf" => printFormatted sc
  | "test" | "[" => condition sc
  | "cat" => concatenate sc
  | "tac" => reversedLines sc
  | "rev" => reversedCharacters sc
  | "head" => partOfFiles sc Extent.first
  | "tail" => partOfFiles sc Extent.last
  | "wc" => count sc
  | "nl" => number sc
  | "fold" => wrap sc
  | "paste" => paste sc
  | "tee" => copyInput sc
  | "sort" => sort sc
  | "uniq" => unique sc
  | "seq" => sequence sc
  | "cut" => cut sc
  | "tr" => translate sc
  | "grep" => search sc
  | "sed" => edit sc
  | "cmp" => compareFiles sc
  | "cp" => copy sc
  | "mv" => move sc
  | "rm" => remove sc
  | "rmdir" => removeDirectories sc
  | "mkdir" => makeDirectories sc
  | "touch" => touch sc
  | "chmod" => setPermissions sc
  | "ls" => list sc
  | "basename" => baseNames sc
  | "dirname" => directoryNames sc
  | "realpath" => realPaths sc
  | "expr" => evaluate sc
  | "pwd" => sc.put (bytesOf (sc.files.pathOf sc.here ++ "\n"))
  | "printenv" => printVariables sc
  | "id" => identity sc
  | "whoami" => sc.put (bytesOf "root\n")
  | "uname" => sc.put (bytesOf "Linux\n")
  | "which" => which sc
  | "kill" => kill sc
  | "date" => sc.put (bytesOf "Thu Jan  1 00:00:00 UTC 1970\n")
  | "script" => recordSession sc
  | _ => sc.done 0

end Shakedown.Host.Utility

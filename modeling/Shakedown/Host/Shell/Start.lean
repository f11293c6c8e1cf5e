import Shakedown.Host.Shell.Machine

/-!
# Starting shells

What a shell runs is given to it as an argument, in a file, or on its input.
-/

namespace Shakedown.Host.Shell

/-- Where a shell's script comes from, with its name and its arguments. -/
inductive Source where
  | text (script name : String) (args : List String)
  | file (path : String) (args : List String)
  | input (args : List String)
  | nothing (message : String)
  | listing (text : String)
deriving DecidableEq, Repr

/-- A shell as its arguments ask for it, with the options that are on. -/
structure Beginning where
  source : Source
  switches : List Char

/-- The options so far: whether a text is given, and the letters of those that are on. -/
structure Options where
  hasText : Bool := false
  switches : List Char := []

/-- The shell that arguments ask for, given its own name. A list of options is told before any of them is
off. -/
def beginning (own : String) (o : Options) : List String → Beginning
  | [] => operands o []
  | a :: rest =>
    let on := a.startsWith "-"
    let sign := if on then "-" else "+"
    if a == "--" || a == "-" then operands o rest
    else if (on || a.startsWith "+") && 1 < a.length then
      let letters := a.toList.drop 1
      let asked := toggles ['c', 'l'] letters rest
      match unknownAmong asked with
      | some name => ⟨.nothing s!"{own}: 0: Illegal option {sign}{name}", o.switches⟩
      | none =>
        if asked.contains .listing then ⟨.listing (listSwitches on (switchNames.map (·.1))), o.switches⟩
        else
          beginning own
            { hasText := o.hasText || letters.contains 'c',
              switches := (lettersAmong asked).foldl (fun s x => switched on x s) o.switches }
            (rest.drop (letters.count 'o'))
    else operands o (a :: rest)
termination_by args => args.length
decreasing_by simp only [List.length_drop, List.length_cons]; omega
where
  /-- The shell that the arguments after the options ask for. -/
  operands (o : Options) (args : List String) : Beginning :=
    let source := match args with
      | [] => if o.hasText then .nothing s!"{own}: 0: -c requires an argument" else .input []
      | a :: rest =>
        if o.hasText then
          match rest with
          | name :: rest => .text a name rest
          | [] => .text a own []
        else if o.switches.contains 's' then .input (a :: rest)
        else .file a rest
    ⟨source, o.switches⟩

/-- The search path of a shell that is given none. -/
def defaultPath : String := "/usr/local/sbin:/usr/local/bin:/usr/sbin:/usr/bin:/sbin:/bin"

/-- A shell at the start of a script, with the variables of its environment. -/
def initial (p : Process) (here : String) (name : String) (args : List String) (script : Command)
    (switches : List Char) (lastReplaces : Bool) : ShellState :=
  let given := p.environment.filter fun kv => isName kv.1
  let vars := setVariable "OPTIND" "1" (setVariable "PPID" (toString p.parent) (setVariable "PWD" here given))
  let vars := if (vars.lookup "PATH").isNone then setVariable "PATH" defaultPath vars else vars
  let exported := given.map (·.1)
  { vars := vars, exported := if exported.contains "PWD" then exported else exported ++ ["PWD"],
    name := name, args := args, number := p.number, frames := [.run script []],
    switches := switches, lastReplaces := lastReplaces }

end Shakedown.Host.Shell

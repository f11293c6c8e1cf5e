/-!
# Shell syntax

Words and commands of the shell. What stands inside a parameter expansion, a command substitution
or an arithmetic expansion is kept as text and read when it is expanded. A script is read line by
line, so that a fault in it is a command of its own: what stands before it is carried out.
-/

namespace Shakedown.Host.Shell

/-- A part of a word; `quoted` parts are neither split nor matched against file names. -/
inductive Part where
  | literal (text : List Char) (quoted : Bool)
  | parameter (name : String) (operator : String) (operand : List Char) (quoted : Bool)
  | command (script : List Char) (line : Nat) (quoted : Bool)
  | arithmetic (expression : List Char) (quoted : Bool)
deriving DecidableEq, Repr

/-- A word. -/
abbrev Word := List Part

/-- What a redirection does with its descriptor; `force` writes even where files are kept from being
overwritten, and `document` lets it read a text of the script. -/
inductive RedirectKind where
  | read
  | write
  | force
  | append
  | duplicate
  | document
deriving DecidableEq, Repr

/-- A redirection of a descriptor. -/
structure Redirect where
  descriptor : Nat
  kind : RedirectKind
  target : Word
deriving DecidableEq, Repr

/-- What is wrong with a script, and the line on which it shows. -/
structure Fault where
  line : Nat
  message : String
deriving DecidableEq, Repr

/-- A command. Simple commands know their line. -/
inductive Command where
  | simple (line : Nat) (assignments : List (String × Word)) (words : List Word) (redirects : List Redirect)
  | pipeline (negated : Bool) (stages : List Command)
  | both (first second : Command)
  | either (first second : Command)
  | sequence (first second : Command)
  | background (body : Command)
  | subshell (body : Command) (redirects : List Redirect)
  | group (body : Command) (redirects : List Redirect)
  | branch (test yes : Command) (no : Option Command) (redirects : List Redirect)
  | loop (isUntil : Bool) (test body : Command) (redirects : List Redirect)
  | each (variable_ : String) (items : Option (List Word)) (body : Command) (redirects : List Redirect)
  | select (subject : Word) (clauses : List (List Word × Option Command)) (redirects : List Redirect)
  | define (name : String) (body : Command)
  | malformed (fault : Fault)
deriving Repr

/-- The command that does nothing. -/
def Command.nothing : Command := .group (.simple 1 [] [] []) []

instance : Inhabited Command := ⟨.nothing⟩

/-- Whether a command is only a fault of a script. -/
def Command.isMalformed : Command → Bool
  | .malformed _ => true
  | _ => false

/-- Commands one after the other. -/
def Command.ofList : List Command → Command
  | [] => .nothing
  | [c] => c
  | c :: rest => .sequence c (ofList rest)

/-- A script: its commands, and whether its last line has no line feed. -/
structure Script where
  body : Command
  endsOpen : Bool
deriving Repr

/-- The options of a shell that can be switched on and off, by letter and by name. Two have no letter and
are known by a digit here. -/
def switchNames : List (Char × String) :=
  [('e', "errexit"), ('f', "noglob"), ('I', "ignoreeof"), ('i', "interactive"), ('m', "monitor"), ('n', "noexec"),
    ('s', "stdin"), ('x', "xtrace"), ('v', "verbose"), ('V', "vi"), ('E', "emacs"), ('C', "noclobber"),
    ('a', "allexport"), ('b', "notify"), ('u', "nounset"), ('p', "privileged"), ('1', "nolog"), ('2', "debug")]

/-- The letters of options. -/
def switchLetters : List Char := (switchNames.map (·.1)).filter Char.isAlpha

/-- What one letter of an option word asks for: an option by its letter, a list of all options, or one
that there is not. -/
inductive Toggle where
  | letter (c : Char)
  | listing
  | unknown (name : String)
deriving DecidableEq, Repr

/-- What the letters of an option word ask for. The letter `o` takes the name of an option from the words
that follow; `also` are letters that are known beside those of options. -/
def toggles (also : List Char) : List Char → List String → List Toggle
  | [], _ => []
  | 'o' :: cs, [] => .listing :: toggles also cs []
  | 'o' :: cs, name :: rest =>
    let found := (switchNames.find? fun s => s.2 == name).map fun s => Toggle.letter s.1
    found.getD (.unknown s!"o {name}") :: toggles also cs rest
  | c :: cs, rest =>
    (if switchLetters.contains c || also.contains c then .letter c else .unknown (String.singleton c)) ::
      toggles also cs rest

/-- The name of the first option that there is not. -/
def unknownAmong (asked : List Toggle) : Option String :=
  asked.findSome? fun t =>
    match t with
    | .unknown name => some name
    | _ => none

/-- The letters of the options asked for. -/
def lettersAmong (asked : List Toggle) : List Char :=
  asked.filterMap fun t =>
    match t with
    | .letter c => some c
    | _ => none

/-- The options that are on, in their usual order, after one has been switched. -/
def switched (on : Bool) (letter : Char) (switches : List Char) : List Char :=
  (switchNames.map (·.1)).filter fun c => if c == letter then on else switches.contains c

/-- All options and whether they are on: as a table, or as commands that would switch them so. -/
def listSwitches (asTable : Bool) (switches : List Char) : String :=
  let line (c : Char) (name : String) : String :=
    let padding := String.ofList (List.replicate (16 - name.length) ' ')
    if asTable then name ++ padding ++ (if switches.contains c then "on" else "off")
    else (if switches.contains c then "set -o " else "set +o ") ++ name
  (if asTable then "Current option settings\n" else "") ++
    String.join (switchNames.map fun s => line s.1 s.2 ++ "\n")

/-- The commands that POSIX calls special. -/
def specialCommands : List String :=
  [".", ":", "break", "continue", "eval", "exec", "exit", "export", "readonly", "return", "set", "shift",
    "times", "trap", "unset"]

end Shakedown.Host.Shell

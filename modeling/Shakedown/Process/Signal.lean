import Shakedown.Decimal.Numeral

/-!
# Signals

The signals of the system: the number of each, its name without `SIG`, and the words that tell of an
ending by it. `Signal.number?` reads a name or a number, `Signal.defaultOf` says what a signal does
to a process that has made no arrangement for it.
-/

namespace Shakedown

/-- A signal of the system. -/
structure Signal where
  number : Nat
  name : String
  words : String
deriving DecidableEq, Repr

namespace Signal

/-- The signals that have a name of their own. -/
def all : List Signal :=
  [⟨1, "HUP", "Hangup"⟩, ⟨2, "INT", "Interrupt"⟩, ⟨3, "QUIT", "Quit"⟩, ⟨4, "ILL", "Illegal instruction"⟩,
    ⟨5, "TRAP", "Trace/breakpoint trap"⟩, ⟨6, "ABRT", "Aborted"⟩, ⟨7, "BUS", "Bus error"⟩,
    ⟨8, "FPE", "Floating point exception"⟩, ⟨9, "KILL", "Killed"⟩, ⟨10, "USR1", "User defined signal 1"⟩,
    ⟨11, "SEGV", "Segmentation fault"⟩, ⟨12, "USR2", "User defined signal 2"⟩, ⟨13, "PIPE", "Broken pipe"⟩,
    ⟨14, "ALRM", "Alarm clock"⟩, ⟨15, "TERM", "Terminated"⟩, ⟨16, "STKFLT", "Stack fault"⟩,
    ⟨17, "CHLD", "Child exited"⟩, ⟨18, "CONT", "Continued"⟩, ⟨19, "STOP", "Stopped (signal)"⟩,
    ⟨20, "TSTP", "Stopped"⟩, ⟨21, "TTIN", "Stopped (tty input)"⟩, ⟨22, "TTOU", "Stopped (tty output)"⟩,
    ⟨23, "URG", "Urgent I/O condition"⟩, ⟨24, "XCPU", "CPU time limit exceeded"⟩,
    ⟨25, "XFSZ", "File size limit exceeded"⟩, ⟨26, "VTALRM", "Virtual timer expired"⟩,
    ⟨27, "PROF", "Profiling timer expired"⟩, ⟨28, "WINCH", "Window changed"⟩, ⟨29, "IO", "I/O possible"⟩,
    ⟨30, "PWR", "Power failure"⟩, ⟨31, "SYS", "Bad system call"⟩]

/-- The signal of a number. -/
def ofNumber? (n : Nat) : Option Signal := all.find? fun s => s.number == n

/-- One more than the highest number of a signal. -/
def bound : Nat := 65

/-- The lowest and the highest of the signals that programs share out among themselves. -/
def firstShared : Nat := 34

/-- The name of a number: a signal's own, or a distance from one end of the shared ones. None if it
has none. -/
def nameOf? (n : Nat) : Option String :=
  match ofNumber? n with
  | some s => some s.name
  | none =>
    let last := bound - 1
    if n < firstShared || last < n then none
    else if n == firstShared then some "RTMIN"
    else if n == last then some "RTMAX"
    else if n < firstShared + 16 then some s!"RTMIN+{n - firstShared}"
    else some s!"RTMAX-{last - n}"

/-- The number that digits or a name without `SIG`, in either case, write. Zero is no signal, but may
be sent. -/
def number? (s : String) : Option Nat :=
  match Decimal.digitsUpTo (bound - 1) s.toList with
  | some n => some n
  | none =>
    let name := s.toUpper
    if name == "EXIT" then some 0 else (List.range bound).find? fun n => nameOf? n == some name

/-- What tells of an ending by the signal of a number. -/
def wordsOf (n : Nat) : String :=
  match ofNumber? n with
  | some s => s.words
  | none => if (nameOf? n).isSome then s!"Real-time signal {n - firstShared}" else s!"Unknown signal {n}"

/-- What a signal does. -/
inductive Effect where
  | ends
  | passes
  | stops
  | goesOn
deriving DecidableEq, Repr

/-- What a signal does to a process that has made no arrangement for it. -/
def defaultOf (n : Nat) : Effect :=
  if n == 0 || n == 17 || n == 23 || n == 28 then .passes
  else if n == 18 then .goesOn
  else if 19 ≤ n && n ≤ 22 then .stops
  else .ends

end Signal
end Shakedown

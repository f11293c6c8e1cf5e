import Shakedown.Plan.Basic
import Shakedown.Process.Invocation
import Shakedown.Text.Lines
import Shakedown.Text.Search

/-!
# Expectations

What an invocation is held against: whether it succeeds, which it should unless the plan says
otherwise, and a text that its output should contain. The exit status goes first.
-/

namespace Shakedown

/-- The number of lines of output that a failure quotes. -/
def quotedTail : Nat := 10

/-- Whether an invocation is expected to succeed. -/
def Expectation.wantsSuccess (expect : Option Expectation) : Bool := (expect.bind (·.success)).getD true

/-- The text that the output is expected to contain. -/
def Expectation.wantedText (expect : Option Expectation) : Option String := expect.bind (·.outputContains)

/-- An invocation of the given name against an expectation. -/
def Invocation.check (name : String) (expect : Option Expectation) (i : Invocation) : Except Failure Unit :=
  let wanted := Expectation.wantsSuccess expect
  if wanted && !i.ending.succeeded then
    .error (.invocation name i.ending.code? (Text.tailLines i.stderr quotedTail))
  else if !wanted && i.ending.succeeded then
    .error (.assertion s!"{name}: expected the client to fail, but it exited 0")
  else
    match Expectation.wantedText expect with
    | none => .ok ()
    | some needle =>
      if Text.contains i.stdout needle then .ok ()
      else
        let tail := Text.tailLines i.stdout quotedTail
        .error (.assertion s!"{name}: expected output to contain '{needle}', got:\n{tail}")

end Shakedown

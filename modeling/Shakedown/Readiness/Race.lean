import Shakedown.Readiness.Wait
import Shakedown.Process.Ending

/-!
# Waiting against the server's exit

A wait for readiness is abandoned when the server exits. The two are polled together: at each wake-up a
poll looks at one of them, and at the other only if the first is not over. Looking at the wait takes
time, and the server can exit meanwhile. `Poll.winner?` is what counts of a poll, and a `Race` is the
poll that has decided a wait.
-/

namespace Shakedown

/-- How the watch over the server ends: with the server, or without word of it. -/
inductive ServerEnd where
  | exited (ending : Ending)
  | lost (reason : String)
deriving DecidableEq, Repr

/-- Which of the two a poll looks at first. -/
inductive Poll.Order where
  | waitFirst
  | exitFirst
deriving DecidableEq, Repr

/-- A poll: the order of its looks, the result of the wait if that is over when it is looked at, the end of the
server if there was one before that, and the one that has come about by the end of it. -/
structure Poll (α : Type) where
  order : Poll.Order
  wait : Option α
  before : Option ServerEnd
  meanwhile : Option ServerEnd
deriving DecidableEq, Repr

namespace Poll

variable {α : Type}

/-- The end of the server that can be observed once the wait has been looked at. -/
def after (p : Poll α) : Option ServerEnd := p.before.or p.meanwhile

/-- What counts of a poll: what its first look finds, or else its second one. Nothing if neither of the two is
over. -/
def winner? (p : Poll α) : Option (α ⊕ ServerEnd) :=
  match p.order with
  | .waitFirst => (p.wait.map .inl).or (p.after.map .inr)
  | .exitFirst => (p.before.map .inr).or (p.wait.map .inl)

end Poll

/-- The poll that decides a wait. -/
structure Race (α : Type) where
  poll : Poll α
  decided : poll.winner?.isSome = true

namespace Race

variable {α : Type}

/-- What counts of a wait. -/
def winner (r : Race α) : α ⊕ ServerEnd := r.poll.winner?.get r.decided

/-- The race that a poll decides. -/
def ofPoll? (p : Poll α) : Option (Race α) := if h : p.winner?.isSome = true then some ⟨p, h⟩ else none

/-- The wait is over, and nothing is told of the server. -/
def waitOver (result : α) : Race α := ⟨⟨.waitFirst, some result, none, none⟩, rfl⟩

/-- The server is over, and the wait is not. -/
def serverOver (how : ServerEnd) : Race α := ⟨⟨.exitFirst, none, some how, none⟩, rfl⟩

end Race

/-- How a wait with a probe ends. -/
inductive ProbeEnd where
  | probed (attempts : UInt32) (elapsed : Nanos)
  | exhausted (attempts : UInt32)
deriving DecidableEq, Repr

/-- How a wait with a probe ends, among the ways in which readiness is awaited. -/
def ProbeEnd.readiness : ProbeEnd → Readiness
  | .probed attempts elapsed => .probed attempts elapsed
  | .exhausted attempts => .ceilingReached attempts

/-- The failure that the end of a server during the wait is. -/
def ServerEnd.failure (target : String) : ServerEnd → Failure
  | .exited ending => .serverExited target ending.code?
  | .lost reason => .launch target s!"lost track of server: {reason}"

end Shakedown

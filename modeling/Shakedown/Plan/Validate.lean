import Shakedown.Decimal.Numeral
import Shakedown.Plan.Basic
import Shakedown.Text.Blank

/-!
# Valid plans

The conditions on a plan that its shape alone does not enforce, checked in a fixed order; the first
one that fails is reported.
-/

namespace Shakedown

/-- The two executables of a plan. -/
inductive Role where
  | server
  | client
deriving DecidableEq, Repr

/-- The word for a role. -/
def Role.text : Role → String
  | .server => "server"
  | .client => "client"

/-- A violated condition. -/
inductive Plan.Fault where
  | blankName
  | noQueries
  | blankTarget (role : Role)
  | zeroCeiling
  | zeroInterval
  | badAddress (address : String)
  | emptyCommand
  | zeroClientTimeout
  | zeroQueryTimeout (query : String)
deriving DecidableEq, Repr

/-- A violated condition in words. -/
def Plan.Fault.message : Plan.Fault → String
  | .blankName => "plan name must not be empty"
  | .noQueries => "plan must contain at least one query"
  | .blankTarget role => s!"{role.text} target name must not be empty"
  | .zeroCeiling => "readiness ceiling_secs must be positive"
  | .zeroInterval => "readiness probe intervals must be positive"
  | .badAddress address => s!"tcp probe address '{address}' must be of the form host:port"
  | .emptyCommand => "command probe needs at least a program"
  | .zeroClientTimeout => "client timeout_secs must be positive"
  | .zeroQueryTimeout query => s!"{query}: timeout_secs must be positive"

/-- Whether a target has no usable name: a blank one, or an empty path. -/
def Target.isBlank : Target → Bool
  | .example n | .bin n => Text.allBlank n
  | .program p => p.text.isEmpty

/-- A port number: digits, after a plus sign or none, for a number of 16 bits. -/
def portNumber? (cs : List Char) : Option Nat := Decimal.naturalUpTo 65535 cs

/-- The parts of a text before and after its last colon. -/
def splitAtLastColon (cs : List Char) : Option (List Char × List Char) :=
  let rev := cs.reverse
  match rev.dropWhile (· != ':') with
  | [] => none
  | _ :: host => some (host.reverse, (rev.takeWhile (· != ':')).reverse)

/-- The host and port of a TCP address. -/
def tcpAddress? (address : String) : Option (String × Nat) := do
  let (host, port) ← splitAtLastColon address.toList
  if host.isEmpty then none
  let port ← portNumber? port
  some (String.ofList host, port)

namespace Plan

/-- A target has a name. -/
def checkTarget (role : Role) (t : Target) : Except Fault Unit :=
  if t.isBlank then .error (.blankTarget role) else .ok ()

/-- A probe has an address of the right form, or a program. -/
def checkProbe : Option Probe → Except Fault Unit
  | some (.tcp address) => if (tcpAddress? address).isSome then .ok () else .error (.badAddress address)
  | some (.command []) => .error .emptyCommand
  | _ => .ok ()

/-- The queries from a position on have positive timeouts. -/
def checkQueries : Nat → List QueryStep → Except Fault Unit
  | _, [] => .ok ()
  | index, q :: rest =>
    if q.timeoutSecs = some 0 then .error (.zeroQueryTimeout (q.displayName index))
    else checkQueries (index + 1) rest

/-- All conditions, in order. -/
def validate (p : Plan) : Except Fault Unit := do
  if Text.allBlank p.name then throw .blankName
  if p.queries.isEmpty then throw .noQueries
  checkTarget .server p.server.target
  checkTarget .client p.client.target
  let readiness := p.server.readiness
  if readiness.ceilingSecs = some 0 then throw .zeroCeiling
  if readiness.initialIntervalMs = some 0 || readiness.maxIntervalMs = some 0 then throw .zeroInterval
  checkProbe readiness.probe
  if p.client.timeoutSecs = some 0 then throw .zeroClientTimeout
  checkQueries 0 p.queries

end Plan
end Shakedown

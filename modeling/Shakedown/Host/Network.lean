import Shakedown.Host.World
import Shakedown.Plan.Validate
import Shakedown.Stub.Surroundings

/-!
# The network of a host

A host has no network: an address can be taken for serving, but none can be reached. The lowest ports
are not given to the runner.
-/

namespace Shakedown.Host

/-- The host and port that an address names. -/
def hostAndPort (address : String) : Except OsError (String × Nat) :=
  match splitAtLastColon address.toList with
  | none => .error .noPort
  | some (host, port) =>
    match portNumber? port with
    | none => .error .badPort
    | some port => if host.isEmpty then .error .unknownHost else .ok (String.ofList host, port)

/-- The lowest port that the runner may serve at, zero aside, which stands for any. -/
def lowestPort : Nat := 1024

namespace World

/-- An address is taken for serving. -/
def listen (address : String) (w : World) : Except String World :=
  match hostAndPort address with
  | .error e => .error e.message
  | .ok (_, port) => if port != 0 && port < lowestPort then .error OsError.permission.message else .ok w

/-- A text is sent to an address. -/
def exchange (address _text : String) (w : World) : Stub.Exchange × World :=
  match hostAndPort address with
  | .error e => (.notConnected e.message, w)
  | .ok _ => (.notConnected OsError.unreachable.message, w)

end World
end Shakedown.Host

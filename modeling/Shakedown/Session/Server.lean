import Shakedown.Session.State

/-!
# The server of a session

A managed server is taken to run until its exit is seen or it is killed. `Managed.terminate` asks
its process group to end, waits for the grace period, and kills the group; on a server that does
not run it does nothing. `Managed.drop` is the last resort for a server that still runs. It also kills
the process of a server whose exit was never seen and which was not killed before, but not the group.
-/

namespace Shakedown.Managed

open Session (Act note ask tell)

variable {σ : Type} (o : Outside σ)

/-- An event about a server. -/
def event (m : Managed) (level : Log.Level) (message : String) (fields : List (String × Log.FieldValue)) :
    Log.Event :=
  ⟨level, .server, message, ("target_name", .plain m.name) :: fields⟩

/-- The server is no longer taken to run. -/
def stopped (m : Managed) : Managed := { m with live := false }

/-- The exit of the server has been seen: there is no process any more that could be killed. -/
def ended (m : Managed) : Managed := { m with live := false, held := false }

/-- The server after the watch over it has ended. -/
def after (m : Managed) : ServerEnd → Managed
  | .exited _ => m.ended
  | .lost _ => m.stopped

/-- A signal is sent to the server's process group. -/
def signal (m : Managed) (g : GroupSignal) : Act σ Unit := do
  note (.signalled m.pid g)
  tell (o.signalGroup m.pid g)

/-- The process of the server is killed, which leads its group; what keeps it from being killed, if something
does. One that was killed is not killed again when it is let go of. -/
def killLeader (m : Managed) : Act σ (Option String × Managed) := do
  note (.leaderKilled m.pid)
  match ← ask (o.killLeader m.pid) with
  | none => return (none, { m with held := false })
  | some reason => return (some reason, m)

/-- Starts a server. -/
def spawn (name : String) (r : SpawnRequest) : Act σ (Except Failure Managed) := do
  match ← ask (o.spawn r) with
  | .error reason => return .error (.launch name s!"{r.program}: {reason}")
  | .ok pid =>
    note (.spawned pid)
    Session.log o ⟨.info, .server, "Launched background process",
      [("target_name", .quoted name), ("pid", .pid pid)]⟩
    return .ok { name := name, pid := pid, live := true }

/-- A look at a server that is taken to run. -/
def look (m : Managed) : Act σ (Bool × Managed) := do
  if m.live then
    match ← ask (o.viewServer m.pid) with
    | .running => return (true, m)
    | .ended _ =>
      note (.exitObserved m.pid)
      return (false, m.ended)
    | .unknown _ =>
      -- What cannot be told is taken for the end, and the group is not signalled for it.
      note (.sightLost m.pid)
      return (false, m.stopped)
  else return (false, m)

/-- Whether the server runs, and the server with that noted. -/
def isLive (m : Managed) : Act σ (Bool × Managed) := do
  let (live, m) ← m.look o
  note (.checked m.pid live)
  return (live, m)

/-- How the server ends on its own. -/
def waitExit (m : Managed) : Act σ (ServerEnd × Managed) := do
  let how ← ask (o.awaitServer m.pid)
  match how with
  | .exited _ => note (.exitObserved m.pid)
  | .lost _ => note (.sightLost m.pid)
  return (how, m.after how)

/-- The process of the server is killed and its end awaited; what stands in the way of that, if something does. -/
def reap (m : Managed) : Act σ (Option String × Managed) := do
  match ← m.killLeader o with
  | (some reason, m) => return (some reason, m)
  | (none, m) =>
    match ← ask (o.awaitServer m.pid) with
    | .exited _ => return (none, m)
    | .lost reason => return (some reason, m)

/-- The group of a server that did not end by itself is killed, and the end of its leader is awaited. -/
def kill (m : Managed) : Act σ Managed := do
  m.signal o .kill
  match ← m.reap o with
  | (none, m) => return m.stopped
  -- The leader may have gone already, which does not matter to its group.
  | (some reason, m) =>
    Session.log o (m.event .debug "Kill after exit" [("error", .plain reason)])
    return m.stopped

/-- Ends the server; whether this call stopped it. -/
def terminate (m : Managed) (grace : Nanos) : Act σ (Bool × Managed) := do
  note (.terminating m.pid)
  let (live, m) ← m.isLive o
  if live then
    Session.log o (m.event .info "Terminating background process" [("pid", .pid m.pid)])
    m.signal o .terminate
    match ← ask (o.awaitGrace m.pid grace) with
    | .ended ending =>
      note (.exitObserved m.pid)
      Session.log o (m.event .debug "Process exited after SIGTERM" [("status", .plain ending.describe)])
      -- The leader has ended, but others of its group may still run.
      m.signal o .kill
      return (true, m.ended)
    | .unknown reason =>
      Session.log o (m.event .warn "Failed waiting for process" [("error", .plain reason)])
      return (true, ← m.kill o)
    | .expired =>
      Session.log o (m.event .warn "Process ignored SIGTERM, killing" [("grace_ms", .nat grace.wholeMillis)])
      return (true, ← m.kill o)
  else
    Session.log o (m.event .debug "Process already stopped" [])
    return (false, m)

/-- A server that is taken to run when it is let go of is killed with its group. -/
def killLive (m : Managed) : Act σ Managed := do
  if m.live then
    Session.log o (m.event .warn "Process guard dropped while live, killing" [("pid", .pid m.pid)])
    m.signal o .kill
    -- A guard awaits nothing, and passes over what keeps the leader from being killed.
    let (_, m) ← m.killLeader o
    return m
  else return m

/-- The server is let go of: it is killed with its group if it is taken to run, and its process in any case if that
can still be killed. -/
def drop (m : Managed) : Act σ Unit := do
  note (.guardDropped m.pid m.live)
  let m ← m.killLive o
  -- A process that was neither seen to end nor killed is killed here, but its group is not signalled.
  if m.held then
    let _ ← m.killLeader o

end Shakedown.Managed

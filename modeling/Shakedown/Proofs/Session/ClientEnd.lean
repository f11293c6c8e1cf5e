import Shakedown.Proofs.Process.Interleaving
import Shakedown.Proofs.Session.Step

/-!
# The end of a client

What a session makes of a client that it has started, and what it does with the client's process. The outcome is
that of the events seen up to the deadline, and it does not matter whether the output is shown on the way. No return
leaves the process alone without its exit having been seen: past the deadline it is killed and its end awaited, and
where its end is not known it is killed as it is let go of (`client_run_concludes`).
-/

namespace Shakedown.Session

open Invocation (AllOver Faults ofWritten untilDeadline written)

variable {σ : Type}

/-- The session once a client was started, which it notes and logs. -/
def started (o : Outside σ) (name : String) (request : ClientRequest) (timeout : Nanos) (pid : Nat) (s : State σ) :
    State σ :=
  { s with
    outside := o.log ⟨.debug, .client, "Invocation started", [("name", .quoted name), ("pid", .pid pid)]⟩
      (o.startClient request s.outside).2
    journal := s.journal ++ [.clientStarted request timeout] }

/-- The kill of a client that is past its deadline, with the wait for its end: what stood in the way, or the request
that cut the wait short. -/
def killed (o : Outside σ) (name : String) (pid : Nat) (s : State σ) : Awaited (Option String) × State σ :=
  waitFor o (o.killClient pid)
    { s with outside := o.log ⟨.warn, .client, "Invocation timed out, killing", [("name", .quoted name)]⟩ s.outside }

/-- What becomes of a client whose events were seen: the result, and the world after it. -/
inductive ClientEnds (o : Outside σ) (name : String) (pid : Nat) (timeout : Nanos) (events : List Invocation.Event)
    (s : State σ) : Except Stop (Except Failure (Invocation × Nanos)) → σ → Prop
  | timedOut {fault : Option String} (verdict : Invocation.ofEvents events = .timedOut)
      (answer : (killed o name pid s).1 = .done fault) :
      ClientEnds o name pid timeout events s (.ok (.error (.invocationTimeout name timeout.wholeSeconds)))
        (killed o name pid s).2.outside
  | overtaken {i : Interrupt} (verdict : Invocation.ofEvents events = .timedOut)
      (answer : (killed o name pid s).1 = .interrupted i) :
      ClientEnds o name pid timeout events s (.error (.interrupted i)) (killed o name pid s).2.outside
  | left {reason : String} (verdict : Invocation.ofEvents events = .faulty reason)
      (running : Invocation.leavesProcess (Invocation.reached events) = true) :
      ClientEnds o name pid timeout events s (.ok (.error (.inputOutput reason))) (o.dropClient pid s.outside)
  | faulty {reason : String} (verdict : Invocation.ofEvents events = .faulty reason)
      (reaped : Invocation.leavesProcess (Invocation.reached events) = false) :
      ClientEnds o name pid timeout events s (.ok (.error (.inputOutput reason))) s.outside
  | finished {i : Invocation} {elapsed : Nanos} {w : σ} (verdict : Invocation.ofEvents events = .finished i) :
      ClientEnds o name pid timeout events s (.ok (.ok (i, elapsed))) w

/-- How an invocation goes on after its client was started. -/
inductive InvokeReturns (o : Outside σ) (name : String) (pid : Nat) (timeout : Nanos) (echo : Bool) (s : State σ) :
    Except Stop (Except Failure (Invocation × Nanos)) → σ → Prop
  | unpiped {stream : Stream} (hidden : o.piped pid stream s.outside = false) :
      InvokeReturns o name pid timeout echo s (.ok (.error (.internal s!"Failed to get client {stream.name}")))
        (o.dropClient pid s.outside)
  | interrupted {i : Interrupt} {u : State σ} (piped : ∀ stream, o.piped pid stream s.outside = true)
      (answer : waitFor o (o.awaitClient pid timeout echo) s = (.interrupted i, u)) :
      InvokeReturns o name pid timeout echo s (.error (.interrupted i)) (o.dropClient pid u.outside)
  | ended {events : List Invocation.Event} {u : State σ} {r : Except Stop (Except Failure (Invocation × Nanos))} {w : σ}
      (piped : ∀ stream, o.piped pid stream s.outside = true)
      (answer : waitFor o (o.awaitClient pid timeout echo) s = (.done events, u))
      (ends : ClientEnds o name pid timeout events u r w) :
      InvokeReturns o name pid timeout echo s r w

variable {o : Outside σ} {name : String} {request : ClientRequest} {pid : Nat} {timeout begun : Nanos} {echo : Bool}
  {s t u : State σ} {r : Except Stop (Except Failure (Invocation × Nanos))}

theorem interrupt_outside {α : Type} {i : Interrupt} {v : State σ} {x : Except Stop α}
    (h : (interrupt i : Steps σ α).run v = (x, t)) : x = .error (.interrupted i) ∧ t.outside = v.outside := by
  obtain ⟨_, u, hn, h⟩ := Steps.lift_inv h
  cases hn
  cases h
  exact ⟨rfl, rfl⟩

theorem followClient_returns (piped : ∀ stream, o.piped pid stream u.outside = true)
    (h : (followClient o name pid timeout echo begun).run u = (r, t)) :
    InvokeReturns o name pid timeout echo u r t.outside := by
  rcases awaitOr_cases h with ⟨events, x, answer, h⟩ | ⟨i, x, y, answer, hletGo, h⟩
  · refine .ended piped answer ?_
    cases hv : Invocation.ofEvents events with
    | timedOut =>
      simp only [hv] at h
      obtain ⟨_, y, hl, h⟩ := Steps.lift_inv h
      cases hl
      rcases awaitOr_cases h with ⟨fault, z, hkill, h⟩ | ⟨i, z, z', hkill, hletGo, h⟩
      · have ends : ClientEnds o name pid timeout events x _ _ := .timedOut hv (congrArg Prod.fst hkill)
        rw [killed, hkill] at ends
        cases h
        exact ends
      · have ends : ClientEnds o name pid timeout events x _ _ := .overtaken hv (congrArg Prod.fst hkill)
        rw [killed, hkill] at ends
        cases hletGo
        obtain ⟨rfl, hworld⟩ := interrupt_outside h
        rw [hworld]
        exact ends
    | faulty reason =>
      simp only [hv] at h
      obtain ⟨_, y, hd, h⟩ := Steps.lift_inv h
      unfold letGoOfClient at hd
      -- The end of the client may be known or not: its streams were over either way.
      split at hd
      case isTrue hleft =>
        cases hd
        cases h
        exact .left hv hleft
      case isFalse hreaped =>
        cases hd
        cases h
        exact .faulty hv (by simpa using hreaped)
    | finished i =>
      simp only [hv] at h
      cases h
      exact .finished hv
  · cases hletGo
    obtain ⟨rfl, hworld⟩ := interrupt_outside h
    rw [hworld]
    exact InvokeReturns.interrupted (u := x) piped answer

theorem invoke_returns (spawned : (o.startClient request s.outside).1 = .ok pid)
    (h : (invoke o name request timeout echo).run s = (r, t)) :
    InvokeReturns o name pid timeout echo (started o name request timeout pid s) r t.outside := by
  obtain ⟨_, _, hg, h⟩ := Steps.lift_inv h
  cases hg
  obtain ⟨answer, u, ha, h⟩ := Steps.lift_inv h
  cases ha
  rw [spawned] at h
  obtain ⟨_, v, hn, h⟩ := Steps.lift_inv h
  cases hn
  obtain ⟨_, w, hl, h⟩ := Steps.lift_inv h
  have hstarted : w = started o name request timeout pid s := by
    cases hl
    rfl
  obtain ⟨_, _, hg, h⟩ := Steps.lift_inv h
  cases hg
  rw [← hstarted]
  -- The first stream without a pipe ends the invocation; else both have one.
  cases hp : [Stream.stdout, .stderr].find? fun stream => !o.piped pid stream w.outside with
  | some stream =>
    simp only [hp] at h
    cases h
    exact .unpiped (by simpa using List.find?_some hp)
  | none =>
    simp only [hp] at h
    have piped : ∀ stream, o.piped pid stream w.outside = true := by
      have hall := List.find?_eq_none.mp hp
      rintro (_ | _)
      · simpa using hall .stdout (by simp)
      · simpa using hall .stderr (by simp)
    exact followClient_returns piped h

/-- Whatever happens to a client once it was started, in whatever order its streams carry what it writes and are
closed, it ends, and its deadline comes, and whether its output is shown or not. There is an invocation to return
exactly if both streams were closed and the exit was seen before the deadline and the streams carried texts, and it is
decided by the bytes of each stream and the exit status. The run times out exactly if something of that was still to
come at the deadline, and the client is then killed and its end awaited; only a request to end the run can cut that
wait short, and then takes the place of the timeout. If all came in time but a stream carried no text, or the end of the
client was lost, the result is that fault, that of the output before that of the error stream and both before the end.
However the run ends, the exit of the client was seen or it is killed. -/
theorem client_run_concludes (o : Outside σ) (name : String) (request : ClientRequest) (timeout : Nanos) (echo : Bool)
    (s : State σ) (pid : Nat) (spawned : (o.startClient request s.outside).1 = .ok pid) :
    let begun := started o name request timeout pid s
    let waited := waitFor o (o.awaitClient pid timeout echo) begun
    let kill := killed o name pid waited.2
    let run := (invoke o name request timeout echo).run s
    (∀ events, (∀ stream, o.piped pid stream begun.outside = true) → waited.1 = .done events →
      let seen := untilDeadline events
      (∀ i, (∃ elapsed, run.1 = .ok (.ok (i, elapsed))) ↔
        (∀ stream, .closed stream ∈ seen) ∧ ∃ ending, seen.findSome? Invocation.Event.end? = some (.ok ending) ∧
          ofWritten (written .stdout seen) (written .stderr seen) ending = some i) ∧
      (run.1 = .ok (.error (.invocationTimeout name timeout.wholeSeconds)) ↔
        ¬ AllOver seen ∧ ∃ fault, kill.1 = .done fault) ∧
      (¬ AllOver seen → run.2.outside = kill.2.outside ∧ ∀ i, kill.1 = .interrupted i → run.1 = .error (.interrupted i)) ∧
      ∀ reason, run.1 = .ok (.error (.inputOutput reason)) ↔ AllOver seen ∧ Faults seen reason) ∧
    ((∃ events ending, waited.1 = .done events ∧ .exited ending ∈ untilDeadline events) ∨
      run.2.outside = kill.2.outside ∨ run.2.outside = o.dropClient pid waited.2.outside ∨
        run.2.outside = o.dropClient pid begun.outside) := by
  intro begun waited kill run
  have returns : InvokeReturns o name pid timeout echo begun run.1 run.2.outside := invoke_returns spawned rfl
  refine ⟨?_, ?_⟩
  · intro events piped answer seen
    -- With both pipes and an answer of the wait, the verdict on the events says how the run goes on.
    have ends : ClientEnds o name pid timeout events waited.2 run.1 run.2.outside := by
      generalize run.1 = r, run.2.outside = w at returns ⊢
      cases returns with
      | unpiped hidden => rw [piped] at hidden; cases hidden
      | interrupted _ answer' =>
        have other : waited.1 = .interrupted _ := congrArg Prod.fst answer'
        rw [answer] at other
        cases other
      | @ended events' u _ _ _ answer' ends =>
        have same : waited.1 = .done events' := congrArg Prod.fst answer'
        have state : waited.2 = u := congrArg Prod.snd answer'
        rw [answer] at same
        cases same
        rw [state]
        exact ends
    simp only [← Invocation.finished_iff, ← Invocation.timedOut_iff, ← Invocation.faulty_iff, seen]
    generalize run.1 = r, run.2.outside = w at ends ⊢
    cases ends with
    | timedOut verdict answer => simp [verdict, kill, answer]
    | overtaken verdict answer => simp [verdict, kill, answer]
    | left verdict running => simp [verdict]
    | faulty verdict reaped => simp [verdict]
    | finished verdict => simp [verdict]
  -- Every way out kills the client, but for those on which its exit was seen.
  · generalize run.1 = r, run.2.outside = w at returns ⊢
    cases returns with
    | unpiped hidden => exact Or.inr (Or.inr (Or.inr rfl))
    | @interrupted i u piped answer =>
      have state : waited.2 = u := congrArg Prod.snd answer
      exact Or.inr (Or.inr (Or.inl (by rw [state])))
    | @ended events u r w piped answer ends =>
      have seen : waited.1 = .done events := congrArg Prod.fst answer
      have state : waited.2 = u := congrArg Prod.snd answer
      rw [← state] at ends
      cases ends with
      | timedOut verdict => exact Or.inr (Or.inl rfl)
      | overtaken verdict => exact Or.inr (Or.inl rfl)
      | left verdict running => exact Or.inr (Or.inr (Or.inl rfl))
      | faulty verdict reaped =>
        obtain ⟨ending, hexit⟩ := Invocation.leavesProcess_eq_false (Invocation.faulty_iff.mp verdict).1 reaped
        exact Or.inl ⟨events, ending, seen, hexit⟩
      | finished verdict =>
        obtain ⟨-, ending, hend, -⟩ := Invocation.finished_iff.mp verdict
        exact Or.inl ⟨events, ending, seen, Invocation.exited_of_end hend⟩

/-- A steady world that counts the clients that are killed. -/
def tallyWorld (client : List Invocation.Event) : Outside Nat where
  now _ := 0
  files _ := ⟨fun _ => true, fun _ => true, none, none, none⟩
  start n := (.stepsFirst, n)
  install n := (⟨.ctrlC, fun _ => none, false⟩, n)
  print _ n := n
  log _ n := n
  build _ _ _ := .waiting fun n => (.done (.ended (.exited 0)), n)
  spawn _ n := (.ok 7, n)
  awaitProbe _ _ _ _ := .waiting fun n => (.done (.waitOver (.probed 1 0)), n)
  awaitDelay _ _ := .waiting fun n => (.done (.waitOver ()), n)
  startClient _ n := (.ok 8, n)
  awaitClient _ _ _ := .waiting fun n => (.done client, n)
  killClient _ := .waiting fun n => (.done none, n + 1)
  dropClient _ n := n + 1
  viewServer _ n := (.running, n)
  awaitServer _ n := (.lost "", n)
  awaitGrace _ _ n := (.ended (.exited 0), n)
  signalGroup _ _ n := n
  killLeader _ n := (none, n)

/-- A client that writes to both streams in turns and ends in between. -/
def mingled : List Invocation.Event :=
  [.output .stderr [0x65], .output .stdout [0x68], .exited (.exited 3), .output .stdout [0x69, 0x0A], .closed .stderr,
    .closed .stdout]

/-- An invocation of a client from the start of a session. -/
def mingledRun (events : List Invocation.Event) : Except Stop (Except Failure (Invocation × Nanos)) × State Nat :=
  (invoke (tallyWorld events) "client" ⟨⟨"/client"⟩, [], [], ⟨"/"⟩⟩ 5000000000 true).run (.start (tallyWorld events) 0)

/-- A client that writes to both streams in turns is an invocation with the text of each, and one that has done
nothing by its deadline is killed. -/
theorem client_run_concludes_mingled :
    (∃ elapsed, (mingledRun mingled).1 = .ok (.ok (⟨.exited 3, "hi\n", "e\n"⟩, elapsed))) ∧
      (mingledRun (.deadline :: mingled)).1 = .ok (.error (.invocationTimeout "client" 5)) ∧
      (mingledRun (.deadline :: mingled)).2.outside = 1 := by
  obtain ⟨ended, -⟩ := client_run_concludes (tallyWorld mingled) "client" ⟨⟨"/client"⟩, [], [], ⟨"/"⟩⟩ 5000000000 true
    (.start (tallyWorld mingled) 0) 8 rfl
  obtain ⟨late, -⟩ := client_run_concludes (tallyWorld (.deadline :: mingled)) "client" ⟨⟨"/client"⟩, [], [], ⟨"/"⟩⟩
    5000000000 true (.start (tallyWorld (.deadline :: mingled)) 0) 8 rfl
  have running : ¬ AllOver (untilDeadline (.deadline :: mingled)) := by simp [AllOver, untilDeadline]
  refine ⟨?_, ?_, ?_⟩
  · refine ((ended mingled (fun _ => rfl) rfl).1 _).mpr ⟨?_, .exited 3, rfl, ?_⟩
    · rintro (_ | _)
      · simp [mingled, untilDeadline]
      · simp [mingled, untilDeadline]
    · decide +kernel
  · exact (late _ (fun _ => rfl) rfl).2.1.mpr ⟨running, none, rfl⟩
  · exact ((late _ (fun _ => rfl) rfl).2.2.1 running).1

end Shakedown.Session

import Shakedown.Proofs.Session.Verdict

/-!
# The exit of the server during the wait

While a session awaits its server, the wait and the watch over the server are polled together until one of them is over.
The poll that decides looks at one of the two first, and at the other only if the first is not over; and looking at the
wait takes time, in which the server can exit. So an exit that can be observed by the end of that poll ends the session
unless the wait is over at it and either looked at first, or after the server was found running (`Poll.Misses`). Then the
exit is missed: the wait counts, and the server is still taken to run (`exit_counts_unless_missed`, `exit_missed`).
-/

namespace Shakedown

variable {α β : Type}

namespace Poll

/-- A poll for something made of the result of the wait. -/
def map (f : α → β) (p : Poll α) : Poll β := ⟨p.order, p.wait.map f, p.before, p.meanwhile⟩

/-- The poll finds the wait over before it finds the server so, if it looks at the server at all. -/
def Misses (p : Poll α) : Prop := p.wait ≠ none ∧ (p.order = .waitFirst ∨ p.before = none)

/-- The wait counts of a poll exactly if that misses the server. -/
theorem winner?_eq_inl_iff {p : Poll α} {a : α} : p.winner? = some (.inl a) ↔ p.Misses ∧ p.wait = some a := by
  obtain ⟨order, wait, before, meanwhile⟩ := p
  cases order <;> cases wait <;> cases before <;> simp [winner?, Misses]

/-- The server counts of a poll only if the poll does not miss it, and what counts can be observed by the end of it. -/
theorem winner?_eq_inr {p : Poll α} {how : ServerEnd} (h : p.winner? = some (.inr how)) :
    ¬ p.Misses ∧ p.after = some how := by
  obtain ⟨order, wait, before, meanwhile⟩ := p
  cases order <;> cases wait <;> cases before <;> simp_all [winner?, Misses, after]

end Poll

namespace Race

/-- What counts of a race, with the poll that decides it. -/
theorem winner_cases (r : Race α) :
    (∃ a, r.winner = .inl a ∧ r.poll.Misses ∧ r.poll.wait = some a) ∨
      ∃ how, r.winner = .inr how ∧ ¬ r.poll.Misses ∧ r.poll.after = some how := by
  have hwinner : r.poll.winner? = some r.winner := (Option.some_get r.decided).symm
  cases hw : r.winner with
  | inl a => exact Or.inl ⟨a, rfl, Poll.winner?_eq_inl_iff.mp (hw ▸ hwinner)⟩
  | inr how => exact Or.inr ⟨how, rfl, Poll.winner?_eq_inr (hw ▸ hwinner)⟩

end Race

/-- The poll that an answer tells of, for something made of the result of the wait; none if a request came first. -/
def Awaited.poll? (f : α → β) : Awaited (Race α) → Option (Poll β)
  | .done race => some (race.poll.map f)
  | .interrupted _ => none

namespace Session

variable {σ : Type} (o : Outside σ)

/-- The poll that decides the wait for a server, for the result that the wait leads to under the policy; none if a
request ends the run. -/
def decidingPoll? (server : Managed) (probe : Option Probe) (root : Path) (policy : ReadinessPolicy) (s : State σ) :
    Option (Poll (Except Failure Readiness)) :=
  match probe with
  | some p =>
    (waitFor o (o.awaitProbe server.pid p root policy) s).1.poll? fun e => e.readiness.judge policy p.describe
  | none => (waitFor o (o.awaitDelay server.pid policy.ceiling) s).1.poll? fun _ => .ok (.delayElapsed policy.ceiling)

variable {o} {server : Managed} {probe : Option Probe} {root : Path} {policy : ReadinessPolicy} {s t : State σ}

/-- What a session makes of the poll that decides: the wait counts and the server stays as it is, or the server is over
and no longer taken to run. Without such a poll a request has ended the run. -/
inductive Concludes (server : Managed) (s : State σ) : Option (Poll (Except Failure Readiness)) →
    Except Stop (Except Failure Readiness) → State σ → Prop
  | stopped (i : Interrupt) {t : State σ} : Concludes server s none (.error (.interrupted i)) t
  | wait {poll : Poll (Except Failure Readiness)} {result : Except Failure Readiness} {t : State σ}
      (missed : poll.Misses) (found : poll.wait = some result) (kept : t.server = s.server) :
      Concludes server s (some poll) (.ok result) t
  | server {poll : Poll (Except Failure Readiness)} {how : ServerEnd} {t : State σ} (seen : ¬ poll.Misses)
      (exited : poll.after = some how) (ended : t.server = some (server.after how)) :
      Concludes server s (some poll) (.ok (.error (how.failure server.name))) t

/-- A server that is over fails the wait for it, and is no longer taken to run. -/
theorem serverIsOver_result {how : ServerEnd} {r : Except Stop (Except Failure Readiness)}
    (h : (liftM (serverIsOver (σ := σ) server how) : Steps σ _).run s = (r, t)) :
    r = .ok (.error (how.failure server.name)) ∧ t.server = some (server.after how) := by
  obtain ⟨result, h, rfl⟩ := Steps.lift_last h
  cases how with
  | exited ending =>
    cases h
    exact ⟨rfl, rfl⟩
  | lost reason =>
    cases h
    exact ⟨rfl, rfl⟩

/-- The end of a probe is judged by the policy, and no server changes for it. -/
theorem probeResult_result {p : Probe} {e : ProbeEnd} {result : Except Failure Readiness}
    (h : probeResult o p policy e s = (result, t)) :
    result = e.readiness.judge policy p.describe ∧ t.server = s.server := by
  cases e with
  | probed attempts elapsed =>
    cases h
    exact ⟨rfl, rfl⟩
  | exhausted attempts =>
    cases hp : policy.onTimeout with
    | proceed =>
      simp only [probeResult, ProbeEnd.readiness, Readiness.judge, hp] at h ⊢
      cases h
      exact ⟨rfl, rfl⟩
    | fail =>
      simp only [probeResult, ProbeEnd.readiness, Readiness.judge, hp] at h ⊢
      cases h
      exact ⟨rfl, rfl⟩

/-- What the deciding poll of a race leads to, if the result of the wait is the given one where the wait counts. -/
theorem Race.concludes {race : Race α} {f : α → Except Failure Readiness} {r : Except Stop (Except Failure Readiness)}
    (wait : ∀ a, race.winner = .inl a → r = .ok (f a) ∧ t.server = s.server)
    (exit : ∀ how, race.winner = .inr how →
      r = .ok (.error (how.failure server.name)) ∧ t.server = some (server.after how)) :
    Concludes server s (some (race.poll.map f)) r t := by
  rcases race.winner_cases with ⟨a, hwinner, missed, hwait⟩ | ⟨how, hwinner, seen, hafter⟩
  · obtain ⟨rfl, kept⟩ := wait a hwinner
    have hover : (race.poll.map f).wait = some (f a) := congrArg (Option.map f) hwait
    exact .wait ⟨hover ▸ Option.some_ne_none _, missed.2⟩ hover kept
  · obtain ⟨rfl, ended⟩ := exit how hwinner
    refine .server (fun missed => seen ⟨?_, missed.2⟩) hafter ended
    exact fun hnone => missed.1 (congrArg (Option.map f) hnone)

/-- Awaiting a server concludes as the poll that decides the wait has it. -/
theorem awaitReadiness_concludes {r : Except Stop (Except Failure Readiness)}
    (h : (awaitReadiness o server probe root policy).run s = (r, t)) :
    Concludes server s (decidingPoll? o server probe root policy s) r t := by
  -- With a probe the race is for how its wait ends, without one for the end of the delay.
  cases probe with
  | some p =>
    rcases awaitOr_cases h with ⟨race, u, hw, h⟩ | ⟨i, u, v, hw, -, h⟩
    · have kept := (waitFor_inv (c := false) hw).1.server
      rw [decidingPoll?, hw]
      refine Race.concludes ?_ ?_
      · intro e hwinner
        simp only [hwinner] at h
        obtain ⟨result, hp, rfl⟩ := Steps.lift_last h
        obtain ⟨rfl, same⟩ := probeResult_result hp
        exact ⟨rfl, same.trans kept⟩
      · intro how hwinner
        simp only [hwinner] at h
        exact serverIsOver_result h
    · rw [decidingPoll?, hw, (interrupt_inv (c := false) h).1]
      exact .stopped i
  | none =>
    rcases awaitOr_cases h with ⟨race, u, hw, h⟩ | ⟨i, u, v, hw, -, h⟩
    · have kept := (waitFor_inv (c := false) hw).1.server
      rw [decidingPoll?, hw]
      refine Race.concludes ?_ ?_
      · intro e hwinner
        simp only [hwinner] at h
        cases h
        exact ⟨rfl, kept⟩
      · intro how hwinner
        simp only [hwinner] at h
        exact serverIsOver_result h
    · rw [decidingPoll?, hw, (interrupt_inv (c := false) h).1]
      exact .stopped i

/-- What awaiting a server leads to, by the poll that decides the wait. If the exit of the server can be observed by the
end of that poll, the session fails for it and no longer takes the server to run, unless the wait is over at the poll
and is looked at first, or after the server was found running. Then the exit is not noticed: the wait counts, and the
server is still taken to run. Nothing else is a success. Without such a poll, a request has ended the run. -/
theorem exit_counts_unless_missed (o : Outside σ) (server : Managed) (probe : Option Probe) (root : Path)
    (policy : ReadinessPolicy) (s : State σ) :
    let run := (awaitReadiness o server probe root policy).run s
    match decidingPoll? o server probe root policy s with
    | some poll =>
      (∀ readiness, run.1 = .ok (.ok readiness) →
        poll.wait = some (.ok readiness) ∧ (poll.order = .waitFirst ∨ poll.before = none)) ∧
      (∀ ending, poll.after = some (.exited ending) → ¬ poll.Misses →
        run.1 = .ok (.error (.serverExited server.name ending.code?)) ∧ run.2.server = some server.ended) ∧
      (∀ result, poll.wait = some result → poll.order = .waitFirst ∨ poll.before = none →
        run.1 = .ok result ∧ run.2.server = s.server)
    | none => ∃ i, run.1 = .error (.interrupted i) := by
  intro run
  have concludes := awaitReadiness_concludes (r := run.1) (t := run.2) rfl
  generalize decidingPoll? o server probe root policy s = decided at concludes ⊢
  generalize run.1 = r, run.2 = t at concludes ⊢
  -- The poll misses the server or does not, and each part is about one of the two.
  cases concludes with
  | stopped i => exact ⟨i, rfl⟩
  | wait missed found kept =>
    refine ⟨?_, fun ending hafter seen => absurd missed seen, ?_⟩
    · rintro readiness ⟨⟩
      exact ⟨found, missed.2⟩
    · intro result hwait first
      rw [found, Option.some.injEq] at hwait
      exact ⟨congrArg Except.ok hwait, kept⟩
  | server seen exited ended =>
    refine ⟨by rintro readiness ⟨⟩, ?_, ?_⟩
    · intro ending hafter _
      rw [exited, Option.some.injEq] at hafter
      subst hafter
      exact ⟨rfl, ended⟩
    · intro result hwait first
      exact absurd ⟨hwait ▸ Option.some_ne_none _, first⟩ seen

/-! ## An exit that is missed -/

/-- A world in which a poll at once decides the wait for a server with a probe. -/
def closeWorld (race : Race ProbeEnd) : Outside Unit :=
  { steadyWorld [] with awaitProbe := fun _ _ _ _ s => (.ready race, s) }

/-- A server that runs. -/
def smallServer : Managed := ⟨"server", 7, true, true⟩

/-- The end of the wait for that server in such a world. -/
def closeWait (race : Race ProbeEnd) : Except Stop (Except Failure Readiness) × State Unit :=
  (awaitReadiness (closeWorld race) smallServer (some (.command ["true"])) ⟨"/"⟩
    ⟨seconds 1, millis 5, millis 10, .fail⟩).run
    { State.start (closeWorld race) () with server := some smallServer }

/-- A poll at which the attempt is successful and the server has exited. -/
def closeRace (order : Poll.Order) : Race ProbeEnd :=
  ⟨⟨order, some (.probed 1 0), some (.exited (.exited 3)), none⟩, by cases order <;> rfl⟩

/-- A poll that finds the server running, and a successful attempt after that, in the course of which the server exits. -/
def lateRace : Race ProbeEnd := ⟨⟨.exitFirst, some (.probed 1 0), none, some (.exited (.exited 3))⟩, rfl⟩

/-- The exit of a server is missed, in either order of the looks: the poll that decides finds the wait over, the exit can
be observed by the end of it, and yet the wait counts as a success and the server is taken to run. If the exit is
looked at first and is there, the session fails for it. -/
theorem exit_missed :
    (∀ race ∈ [closeRace .waitFirst, lateRace], race.poll.after = some (.exited (.exited 3)) ∧
      (closeWait race).1 = .ok (.ok (.probed 1 0)) ∧ (closeWait race).2.server = some smallServer) ∧
      (closeWait (closeRace .exitFirst)).1 = .ok (.error (.serverExited "server" (some 3))) ∧
      (closeWait (closeRace .exitFirst)).2.server = some smallServer.ended := by
  refine ⟨?_, rfl, rfl⟩
  simp only [List.forall_mem_cons, List.not_mem_nil, false_imp_iff, implies_true, and_true]
  exact ⟨⟨rfl, rfl, rfl⟩, rfl, rfl, rfl⟩

end Session
end Shakedown

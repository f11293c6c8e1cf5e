import Shakedown.Proofs.Session.Action
import Shakedown.Proofs.Session.Judgement

/-!
# The courses of the steps

What each step of a session can do: the milestones it adds, its result, and the server of the session
after it. A course is a relation with one constructor for each way in which the step can go, whatever
the world outside answers. `step_inv` is the part that all steps share: a step starts, its body comes
to a result, and the result is recorded.
-/

namespace Shakedown.Session

/-- The ways in which an action can go: its milestones, its result, and the server after it. -/
abbrev Course (α : Type) := List Event → Except Stop α → Option Managed → Prop

variable {σ : Type} {α β : Type}

/-- The action takes one of the courses that belong to the server before it. -/
def Takes (colours : Bool) (x : Steps σ α) (C : Option Managed → Course α) : Prop :=
  ∀ ⦃s : State σ⦄ ⦃r : Except Stop α⦄ ⦃t : State σ⦄, x.run s = (r, t) →
    ∃ es, Logs colours s es t ∧ C s.server es r t.server

/-- A step whose body takes the course `Body`: the result of the body is recorded, and a failure stops
the session. A step that is stopped before its result leaves no record. -/
inductive StepCourse (kind : StepKind) (name : String) (code : α → ExitCode) (detail : α → Option String)
    (Body : Course (Except Failure α)) : Course α
  | passed {es : List Event} {a : α} {m : Option Managed} (startedMs finishedMs : Nat)
      (body : Body es (.ok (.ok a)) m) :
      StepCourse kind name code detail Body
        (es ++ [.recorded ⟨kind, name, .passed, startedMs, finishedMs, code a, detail a⟩]) (.ok a) m
  | failed {es : List Event} {f : Failure} {m : Option Managed} (startedMs finishedMs : Nat)
      (body : Body es (.ok (.error f)) m) :
      StepCourse kind name code detail Body
        (es ++ [.recorded ⟨kind, name, .failed, startedMs, finishedMs, f.childCode, some f.message⟩])
        (.error (.failed f)) m
  | stopped {es : List Event} {e : Stop} {m : Option Managed} (body : Body es (.error e) m) :
      StepCourse kind name code detail Body es (.error e) m

/-- A step whose body can go in fewer ways can go in fewer ways itself. -/
theorem StepCourse.mono {kind : StepKind} {name : String} {code : α → ExitCode} {detail : α → Option String}
    {Body Body' : Course (Except Failure α)} {es : List Event} {r : Except Stop α} {m : Option Managed}
    (sub : ∀ {es r m}, Body es r m → Body' es r m) (h : StepCourse kind name code detail Body es r m) :
    StepCourse kind name code detail Body' es r m := by
  cases h with
  | passed startedMs finishedMs body => exact .passed startedMs finishedMs (sub body)
  | failed startedMs finishedMs body => exact .failed startedMs finishedMs (sub body)
  | stopped body => exact .stopped (sub body)

section Shared

variable {o : Outside σ} {colours : Bool} {kind : StepKind} {name : String} {code : α → ExitCode}
  {detail : α → Option String} {s t : State σ}

/-- The result of a body is recorded, passed or failed, and a failure goes on as what stops the session. -/
theorem settle_inv {step : OpenStep} {result : Except Failure α} {r : Except Stop α}
    (h : (settle o colours step result code detail).run s = (r, t)) :
    ∃ finishedMs,
      (∃ a, result = .ok a ∧ r = .ok a ∧
        Follows colours s [.recorded (step.close finishedMs .passed (code a) (detail a))] t) ∨
      ∃ f, result = .error f ∧ r = .error (.failed f) ∧
        Follows colours s [.recorded (step.close finishedMs .failed f.childCode (some f.message))] t := by
  cases result with
  | ok a =>
    obtain ⟨_, u, hf, h⟩ := Steps.lift_inv h
    cases h
    obtain ⟨finishedMs, hf⟩ := follows_finishStep (c := colours) hf
    exact ⟨finishedMs, Or.inl ⟨a, rfl, rfl, hf⟩⟩
  | error f =>
    obtain ⟨_, u, hs, h⟩ := Steps.lift_inv h
    obtain ⟨_, v, hf, h⟩ := Steps.lift_inv h
    cases h
    obtain ⟨finishedMs, hf⟩ := follows_finishStep (c := colours) hf
    exact ⟨finishedMs, Or.inr ⟨f, rfl, rfl, (follows_say_plain (by simp) hs).trans hf⟩⟩

/-- A step comes to a value and the session goes on, or the step stops the session. -/
theorem step_inv {body : Steps σ (Except Failure α)} {Body : Option Managed → Course (Except Failure α)}
    {k : α → Steps σ β} {r : Except Stop β} (hbody : Takes colours body Body)
    (h : (do
      let step ← (startStep o kind name : Act σ OpenStep)
      let result ← body
      let a ← settle o colours step result code detail
      k a : Steps σ β).run s = (r, t)) :
    (∃ es a u, Logs colours s es u ∧ StepCourse kind name code detail (Body s.server) es (.ok a) u.server ∧
        (k a).run u = (r, t)) ∨
      ∃ es e, Logs colours s es t ∧ StepCourse kind name code detail (Body s.server) es (.error e) t.server ∧
        r = .error e := by
  obtain ⟨step, s₁, h₁, h⟩ := Steps.lift_inv h
  obtain ⟨f₁, startedMs, rfl⟩ := follows_startStep (c := colours) h₁
  -- The body comes to a result, which is recorded, or is stopped before that and leaves no record.
  rcases Steps.bind_inv h with ⟨result, s₂, h₂, h⟩ | ⟨e, h₂, rfl⟩
  · obtain ⟨es, l₂, b⟩ := hbody h₂
    rw [f₁.server] at b
    rcases Steps.bind_inv h with ⟨a, s₃, h₃, hk⟩ | ⟨e, h₃, rfl⟩
    · obtain ⟨finishedMs, ⟨a, rfl, ha, f₃⟩ | ⟨f, rfl, hr, -⟩⟩ := settle_inv h₃
      · cases ha
        refine Or.inl ⟨_, a, s₃, (f₁.toLogs.trans l₂).trans f₃.toLogs, ?_, hk⟩
        rw [f₃.server]
        exact .passed startedMs finishedMs b
      · cases hr
    · obtain ⟨finishedMs, ⟨a, rfl, hr, -⟩ | ⟨f, rfl, he, f₃⟩⟩ := settle_inv h₃
      · cases hr
      · cases he
        refine Or.inr ⟨_, _, (f₁.toLogs.trans l₂).trans f₃.toLogs, ?_, rfl⟩
        rw [f₃.server]
        exact .failed startedMs finishedMs b
  · obtain ⟨es, l₂, b⟩ := hbody h₂
    rw [f₁.server] at b
    exact Or.inr ⟨es, e, f₁.toLogs.trans l₂, .stopped b, rfl⟩

end Shared

variable (o : Outside σ)

/-! ## The build step -/

/-- How a build command ends. -/
inductive BuildEnds (c : BuildCommand) (m : Option Managed) : Course (Except Failure Unit)
  | unavailable (reason : String) :
      BuildEnds c m [] (.ok (.error (.buildToolUnavailable c.program reason))) m
  | passed {ending : Ending} (h : ending.succeeded = true) : BuildEnds c m [.buildOver ending] (.ok (.ok ())) m
  | failed {program root : Path} {ending : Ending}
      (answer : (o.build program c.args root).Yields (.ended ending)) (h : ending.succeeded = false) :
      BuildEnds c m [.buildOver ending] (.ok (.error (.build c.display ending.code?))) m
  | interrupted {i : Interrupt} (requested : o.Requests i) : BuildEnds c m [.interrupted i] (.error (.interrupted i)) m

/-- A build tool cannot be run, or it is waited for and its end told, or the wait is cut short. -/
theorem runBuild_takes (colours : Bool) (root : Path) (c : BuildCommand) :
    Takes colours (runBuild o root c) (BuildEnds o c) := by
  intro s r t h
  obtain ⟨_, _, hg, h⟩ := Steps.lift_inv h
  cases hg
  dsimp only at h
  split at h
  · cases h
    exact ⟨[], (Follows.still rfl rfl rfl).toLogs, .unavailable _⟩
  · obtain ⟨_, u, hl, h⟩ := Steps.lift_inv h
    have fl := follows_log (c := colours) hl
    rcases await_inv (c := colours) h with ⟨answer, v, fa, hw, h⟩ | ⟨i, fa, stops, rfl⟩
    · have f := fl.andThen fa
      cases answer with
      | unavailable reason =>
        cases h
        exact ⟨[], f.toLogs, f.server ▸ .unavailable reason⟩
      | ended ending =>
        obtain ⟨_, x, hn, h⟩ := Steps.lift_inv h
        have f := f.trans (follows_mark (c := colours) (fun _ => rfl) rfl hn)
        cases hs : ending.succeeded with
        | true =>
          simp only [hs] at h
          cases h
          exact ⟨_, f.toLogs, f.server ▸ .passed hs⟩
        | false =>
          simp only [hs] at h
          cases h
          exact ⟨_, f.toLogs, f.server ▸ .failed hw hs⟩
    · have f := fl.trans fa
      exact ⟨_, f.toLogs, f.server ▸ .interrupted (.build _ _ _ stops)⟩

/-- The course of the build step: with nothing to build it is skipped. -/
inductive BuildCourse (plan : Plan) (options : RunOptions) (settings : Settings) (m : Option Managed) :
    Course Unit
  | skipped (startedMs finishedMs : Nat) (nothing : buildCommand? plan options settings = none) :
      BuildCourse plan options settings m
        [.entered .building,
          .recorded ⟨.build, "build", .skipped, startedMs, finishedMs, none, some "nothing to build"⟩]
        (.ok ()) m
  | ran {c : BuildCommand} {es : List Event} {r : Except Stop Unit} {m' : Option Managed}
      (command : buildCommand? plan options settings = some c)
      (step : StepCourse .build c.display (fun _ => none) (fun _ => none) (BuildEnds o c m) es r m') :
      BuildCourse plan options settings m (.entered .building :: es) r m'

/-- The build step enters its phase first. -/
theorem BuildCourse.begins {plan : Plan} {options : RunOptions} {settings : Settings} {m m' : Option Managed}
    {es : List Event} {r : Except Stop Unit} (h : BuildCourse o plan options settings m es r m') :
    ∃ rest, es = .entered .building :: rest := by
  cases h with
  | skipped => exact ⟨_, rfl⟩
  | ran => exact ⟨_, rfl⟩

/-- With a command the build step runs it; without one it is skipped, and recorded as such. -/
theorem build_takes (plan : Plan) (options : RunOptions) (settings : Settings) :
    Takes options.colours (build o plan options settings) (BuildCourse o plan options settings) := by
  intro s r t h
  obtain ⟨_, s₁, he, h⟩ := Steps.lift_inv h
  have fe := follows_enter (c := options.colours) he
  cases hc : buildCommand? plan options settings with
  | none =>
    simp only [hc] at h
    obtain ⟨_, s₂, hs, h⟩ := Steps.lift_inv h
    obtain ⟨step, s₃, hstart, h⟩ := Steps.lift_inv h
    obtain ⟨_, hfin, rfl⟩ := Steps.lift_last h
    obtain ⟨fstart, startedMs, rfl⟩ := follows_startStep (c := options.colours) hstart
    obtain ⟨finishedMs, ffin⟩ := follows_finishStep (c := options.colours) hfin
    have f := ((fe.andThen (follows_say_plain (by simp) hs)).andThen fstart).trans ffin
    exact ⟨_, f.toLogs, f.server ▸ .skipped startedMs finishedMs hc⟩
  | some c =>
    simp only [hc] at h
    obtain ⟨_, s₂, hs, h⟩ := Steps.lift_inv h
    have f := fe.andThen (follows_say_plain (by simp) hs)
    rcases step_inv (runBuild_takes o options.colours options.root c) h with
      ⟨es, _, u, l, b, h⟩ | ⟨es, e, l, b, rfl⟩
    · obtain ⟨_, hs, rfl⟩ := Steps.lift_last h
      have fs := follows_say_plain (c := options.colours) (by simp) hs
      rw [f.server] at b
      exact ⟨_, (f.toLogs.trans l).andThen fs.toLogs, .ran hc (fs.server ▸ b)⟩
    · rw [f.server] at b
      exact ⟨_, f.toLogs.trans l, .ran hc b⟩

/-! ## The launch step -/

/-- How the start of a server ends. -/
inductive LaunchEnds (name : String) (m : Option Managed) : Course (Except Failure Managed)
  | occupied {server : Managed} (there : m = some server) :
      LaunchEnds name m [] (.ok (.error (.internal "a server is already running"))) m
  | failed (reason : String) : LaunchEnds name m [] (.ok (.error (.launch name reason))) m
  | spawned (pid : Nat) : LaunchEnds name m [.spawned pid] (.ok (.ok ⟨name, pid, true, true⟩)) m

/-- A server that is started is taken to run and told of; one that is not leaves only the reason. -/
theorem spawn_inv {c : Bool} {name : String} {request : SpawnRequest} {s t : State σ}
    {result : Except Failure Managed} (h : Managed.spawn o name request s = (result, t)) :
    (∃ reason, result = .error (.launch name reason) ∧ Follows c s [] t) ∨
      ∃ pid, result = .ok ⟨name, pid, true, true⟩ ∧ Follows c s [.spawned pid] t := by
  obtain ⟨answer, u, ha, h⟩ := Act.bind_inv h
  obtain ⟨fa, -⟩ := follows_ask (c := c) ha
  cases answer with
  | error reason =>
    cases h
    exact Or.inl ⟨_, rfl, fa⟩
  | ok pid =>
    obtain ⟨_, v, hn, h⟩ := Act.bind_inv h
    obtain ⟨_, w, hl, h⟩ := Act.bind_inv h
    cases h
    exact Or.inr ⟨pid, rfl, (fa.trans (follows_mark (fun _ => rfl) rfl hn)).andThen (follows_log hl)⟩

/-- A server is started only if the session has none and its program is found. -/
theorem startServer_takes (plan : Plan) (options : RunOptions) (colours : Bool) :
    Takes colours (liftM (startServer o plan options) : Steps σ (Except Failure Managed))
      (LaunchEnds plan.server.target.name) := by
  intro s r t h
  obtain ⟨result, hs, rfl⟩ := Steps.lift_last h
  obtain ⟨_, _, hg, hs⟩ := Act.bind_inv hs
  cases hg
  cases hm : s.server.isSome with
  | true =>
    simp only [hm] at hs
    cases hs
    obtain ⟨server, there⟩ := Option.isSome_iff_exists.mp hm
    exact ⟨[], (Follows.still rfl rfl rfl).toLogs, .occupied there⟩
  | false =>
    simp only [hm] at hs
    obtain ⟨_, _, hg, hs⟩ := Act.bind_inv hs
    cases hg
    cases hp : (o.files s.outside).locate options.root plan.build.profile plan.server.target with
    | error fault =>
      simp only [hp] at hs
      cases hs
      exact ⟨[], (Follows.still rfl rfl rfl).toLogs, .failed _⟩
    | ok program =>
      simp only [hp] at hs
      rcases spawn_inv (c := colours) o hs with ⟨reason, rfl, f⟩ | ⟨pid, rfl, f⟩
      · exact ⟨_, f.toLogs, f.server ▸ .failed reason⟩
      · exact ⟨_, f.toLogs, f.server ▸ .spawned pid⟩

/-- The course of the launch step: the server that it starts is the server of the session. -/
inductive LaunchCourse (plan : Plan) (m : Option Managed) : Course Managed
  | launched {es : List Event} {server : Managed} {m' : Option Managed}
      (step : StepCourse .launch plan.server.target.name (fun _ => none) (fun s => some s!"pid {s.pid}")
        (LaunchEnds plan.server.target.name m) es (.ok server) m') :
      LaunchCourse plan m (.entered .serverStarting :: es) (.ok server) (some server)
  | stopped {es : List Event} {e : Stop} {m' : Option Managed}
      (step : StepCourse .launch plan.server.target.name (fun _ => none) (fun s => some s!"pid {s.pid}")
        (LaunchEnds plan.server.target.name m) es (.error e) m') :
      LaunchCourse plan m (.entered .serverStarting :: es) (.error e) m'

/-- After a launch the session has the server that was started. -/
theorem LaunchCourse.slot {plan : Plan} {m m' : Option Managed} {es : List Event} {server : Managed}
    (h : LaunchCourse plan m es (.ok server) m') : m' = some server := by
  cases h with
  | launched step => rfl

/-- The server that the launch step starts becomes the server of the session. -/
theorem launch_takes (plan : Plan) (options : RunOptions) :
    Takes options.colours (launch o plan options) (LaunchCourse plan) := by
  intro s r t h
  obtain ⟨_, s₁, he, h⟩ := Steps.lift_inv h
  obtain ⟨_, s₂, hs, h⟩ := Steps.lift_inv h
  have f := (follows_enter (c := options.colours) he).andThen (follows_say_plain (by simp) hs)
  rcases step_inv (startServer_takes o plan options options.colours) h with
    ⟨es, server, u, l, b, h⟩ | ⟨es, e, l, b, rfl⟩
  · obtain ⟨_, v, hm, h⟩ := Steps.lift_inv h
    obtain ⟨_, w, hc, h⟩ := Steps.lift_inv h
    cases h
    obtain ⟨lm, hv⟩ := logs_server (c := options.colours) hm
    have fc := follows_say_plain (c := options.colours) (by simp) hc
    rw [f.server] at b
    refine ⟨_, ((f.toLogs.trans l).andThen lm).andThen fc.toLogs, ?_⟩
    rw [fc.server, hv]
    exact .launched b
  · rw [f.server] at b
    exact ⟨_, f.toLogs.trans l, .stopped b⟩

/-! ## The await step -/

/-- The watch over a server ends a wait without word of the server. -/
def LosesServer (p : Nat) : Prop :=
  (∃ probe root policy race reason,
    (o.awaitProbe p probe root policy).Yields race ∧ race.winner = .inr (.lost reason)) ∨
    ∃ delay race reason, (o.awaitDelay p delay).Yields race ∧ race.winner = .inr (.lost reason)

/-- How awaiting the readiness of a server ends. A server that is over is no longer taken to run. -/
inductive AwaitEnds (probe : Option Probe) (policy : ReadinessPolicy) (server : Managed) (m : Option Managed) :
    Course (Except Failure Readiness)
  | ready (readiness : Readiness) : AwaitEnds probe policy server m [] (.ok (.ok readiness)) m
  | late {p : Probe} (given : probe = some p) (fails : policy.onTimeout = .fail) :
      AwaitEnds probe policy server m []
        (.ok (.error (.readinessTimeout policy.ceiling.wholeSeconds p.describe))) m
  | exited (ending : Ending) :
      AwaitEnds probe policy server m [.exitObserved server.pid]
        (.ok (.error (.serverExited server.name ending.code?))) (some server.ended)
  | lost (reason : String) (answer : LosesServer o server.pid) :
      AwaitEnds probe policy server m [.sightLost server.pid]
        (.ok (.error (.launch server.name s!"lost track of server: {reason}"))) (some server.stopped)
  | interrupted {i : Interrupt} (requested : o.Requests i) :
      AwaitEnds probe policy server m [.interrupted i] (.error (.interrupted i)) m

variable {o}

/-- What the watch over the server found is told, and the server is no longer taken to run. -/
theorem serverIsOver_inv {c : Bool} {probe : Option Probe} {policy : ReadinessPolicy} {server : Managed}
    {how : ServerEnd} {s t : State σ} {result : Except Failure Readiness} (m : Option Managed)
    (answer : ∀ reason, how = .lost reason → LosesServer o server.pid)
    (h : serverIsOver server how s = (result, t)) :
    ∃ es, Logs c s es t ∧ AwaitEnds o probe policy server m es (.ok result) t.server := by
  cases how with
  | exited ending =>
    obtain ⟨_, u, hn, h⟩ := Act.bind_inv h
    obtain ⟨_, v, hm, h⟩ := Act.bind_inv h
    cases h
    obtain ⟨lm, hv⟩ := logs_server (c := c) hm
    refine ⟨_, (follows_mark (fun _ => rfl) rfl hn).toLogs.andThen lm, ?_⟩
    rw [hv]
    exact .exited ending
  | lost reason =>
    obtain ⟨_, u, hn, h⟩ := Act.bind_inv h
    obtain ⟨_, v, hm, h⟩ := Act.bind_inv h
    cases h
    obtain ⟨lm, hv⟩ := logs_server (c := c) hm
    refine ⟨_, (follows_mark (fun _ => rfl) rfl hn).toLogs.andThen lm, ?_⟩
    rw [hv]
    exact .lost reason (answer reason rfl)

/-- The end of a probe is no milestone, and awaiting a server can end with what it leads to. -/
theorem probeResult_inv {c : Bool} {probe : Probe} {policy : ReadinessPolicy} (server : Managed)
    {e : ProbeEnd} {s t : State σ} {result : Except Failure Readiness}
    (h : probeResult o probe policy e s = (result, t)) :
    Follows c s [] t ∧ ∀ m, AwaitEnds o (some probe) policy server m [] (.ok result) m := by
  cases e with
  | probed attempts elapsed =>
    obtain ⟨_, u, hl, h⟩ := Act.bind_inv h
    cases h
    exact ⟨follows_log hl, fun _ => .ready _⟩
  | exhausted attempts =>
    cases hp : policy.onTimeout with
    | proceed =>
      simp only [probeResult, ProbeEnd.readiness, Readiness.judge, hp] at h
      obtain ⟨_, u, hl, h⟩ := Act.bind_inv h
      cases h
      exact ⟨follows_log hl, fun _ => .ready _⟩
    | fail =>
      simp only [probeResult, ProbeEnd.readiness, Readiness.judge, hp] at h
      cases h
      exact ⟨.still rfl rfl rfl, fun _ => .late rfl hp⟩

variable (o)

/-- A race that the server has ended: what was found of it is told, and awaiting it ends with that. -/
theorem raceLost_inv {c : Bool} {probe : Option Probe} {policy : ReadinessPolicy} {server : Managed} {race : Race α}
    {how : ServerEnd} {s t : State σ} {r : Except Stop (Except Failure Readiness)} (m : Option Managed)
    (hw : race.winner = .inr how) (answer : ∀ reason, race.winner = .inr (.lost reason) → LosesServer o server.pid)
    (h : (liftM (serverIsOver (σ := σ) server how) : Steps σ _).run s = (r, t)) :
    ∃ es, Logs c s es t ∧ AwaitEnds o probe policy server m es r t.server := by
  obtain ⟨result, hs, rfl⟩ := Steps.lift_last h
  exact serverIsOver_inv m (fun reason lost => answer reason (lost ▸ hw)) hs

/-- Awaiting readiness ends as the poll that decides it: with the wait, with the server, or with a request. -/
theorem awaitReadiness_takes (colours : Bool) (server : Managed) (probe : Option Probe) (root : Path)
    (policy : ReadinessPolicy) :
    Takes colours (awaitReadiness o server probe root policy) (AwaitEnds o probe policy server) := by
  intro s r t h
  cases probe with
  | some p =>
    rcases await_inv (c := colours) h with ⟨race, u, fa, hr, h⟩ | ⟨i, fa, stops, rfl⟩
    · cases hw : race.winner with
      | inl e =>
        simp only [hw] at h
        obtain ⟨result, hp, rfl⟩ := Steps.lift_last h
        obtain ⟨fp, b⟩ := probeResult_inv (c := colours) server hp
        have f := fa.andThen fp
        exact ⟨[], f.toLogs, f.server ▸ b _⟩
      | inr how =>
        simp only [hw] at h
        have lost : ∀ reason, race.winner = .inr (.lost reason) → LosesServer o server.pid :=
          fun reason hlost => Or.inl ⟨p, root, policy, race, reason, hr, hlost⟩
        obtain ⟨es, l, b⟩ := raceLost_inv (c := colours) o s.server hw lost h
        exact ⟨es, fa.toLogs.trans l, b⟩
    · exact ⟨_, fa.toLogs, fa.server ▸ .interrupted (.probe _ _ _ _ stops)⟩
  -- Without a probe the wait is one delay, and nothing but its end or the server can win.
  | none =>
    rcases await_inv (c := colours) h with ⟨race, u, fa, hr, h⟩ | ⟨i, fa, stops, rfl⟩
    · cases hw : race.winner with
      | inl e =>
        simp only [hw] at h
        cases h
        exact ⟨[], fa.toLogs, fa.server ▸ .ready _⟩
      | inr how =>
        simp only [hw] at h
        have lost : ∀ reason, race.winner = .inr (.lost reason) → LosesServer o server.pid :=
          fun reason hlost => Or.inr ⟨policy.ceiling, race, reason, hr, hlost⟩
        obtain ⟨es, l, b⟩ := raceLost_inv (c := colours) o s.server hw lost h
        exact ⟨es, fa.toLogs.trans l, b⟩
    · exact ⟨_, fa.toLogs, fa.server ▸ .interrupted (.delay _ _ stops)⟩

/-- The server that is awaited is the one that the session has. -/
theorem awaitLaunched_takes (colours : Bool) (server : Managed) (probe : Option Probe) (root : Path)
    (policy : ReadinessPolicy) :
    Takes colours (awaitLaunched o probe root policy) fun m es r m' =>
      m = some server → AwaitEnds o probe policy server m es r m' := by
  intro s r t h
  obtain ⟨_, _, hg, h⟩ := Steps.lift_inv h
  cases hg
  cases hm : s.server with
  | some other =>
    simp only [hm] at h
    obtain ⟨es, l, b⟩ := awaitReadiness_takes o colours other probe root policy h
    refine ⟨es, l, ?_⟩
    rintro ⟨⟩
    exact hm ▸ b
  | none =>
    simp only [hm] at h
    cases h
    refine ⟨[], (Follows.still rfl rfl rfl).toLogs, ?_⟩
    rintro ⟨⟩

/-- The name of the await step. -/
def awaitName (plan : Plan) (settings : Settings) : String :=
  waitingFor plan.server.readiness.probe (.resolve plan.server.readiness settings)

/-- The course of the await step: the session is ready once the server is taken to be. -/
inductive AwaitCourse (plan : Plan) (settings : Settings) (server : Managed) (m : Option Managed) : Course Unit
  | ready {es : List Event} {readiness : Readiness} {m' : Option Managed}
      (step : StepCourse .await (awaitName plan settings) (fun _ => none) (fun r => some r.describe)
        (AwaitEnds o plan.server.readiness.probe (.resolve plan.server.readiness settings) server m)
        es (.ok readiness) m') :
      AwaitCourse plan settings server m (es ++ [.entered .ready]) (.ok ()) m'
  | stopped {es : List Event} {e : Stop} {m' : Option Managed}
      (step : StepCourse .await (awaitName plan settings) (fun _ => none) (fun r => some r.describe)
        (AwaitEnds o plan.server.readiness.probe (.resolve plan.server.readiness settings) server m)
        es (.error e) m') :
      AwaitCourse plan settings server m es (.error e) m'

/-- The await step takes its course in a session that has a server. -/
theorem awaitServer_takes (plan : Plan) (options : RunOptions) (settings : Settings) (server : Managed) :
    Takes options.colours (awaitServer o plan options settings) fun m es r m' =>
      m = some server → AwaitCourse o plan settings server m es r m' := by
  intro s r t h
  obtain ⟨_, s₁, hs, h⟩ := Steps.lift_inv h
  have f := follows_say_plain (c := options.colours) (by simp) hs
  rcases step_inv (awaitLaunched_takes o options.colours server plan.server.readiness.probe options.root
      (.resolve plan.server.readiness settings)) h with ⟨es, readiness, u, l, b, h⟩ | ⟨es, e, l, b, rfl⟩
  · obtain ⟨_, v, hc, h⟩ := Steps.lift_inv h
    obtain ⟨_, he, rfl⟩ := Steps.lift_last h
    have fc := follows_say_plain (c := options.colours) (by simp) hc
    have fe := follows_enter (c := options.colours) he
    rw [f.server] at b
    refine ⟨_, ((f.toLogs.trans l).andThen fc.toLogs).trans fe.toLogs, fun there => ?_⟩
    rw [fe.server, fc.server]
    exact .ready (b.mono fun ends => ends there)
  · rw [f.server] at b
    exact ⟨_, f.toLogs.trans l, fun there => .stopped (b.mono fun ends => ends there)⟩

/-! ## The steps of the queries -/

/-- How an invocation ends, before it is held against an expectation. -/
inductive InvokeEnds (name : String) (request : ClientRequest) (timeout : Nanos) (echo : Bool) :
    List Event → Except Stop (Except Failure (Invocation × Nanos)) → Prop
  | unstarted (reason : String) :
      InvokeEnds name request timeout echo [] (.ok (.error (.invocationSpawn name reason)))
  | unpiped {pid : Nat} {stream : Stream} {v : σ} (hidden : o.piped pid stream v = false) :
      InvokeEnds name request timeout echo [.clientStarted request timeout, .clientOver none]
        (.ok (.error (.internal s!"Failed to get client {stream.name}")))
  | interrupted {i : Interrupt} (requested : o.Requests i) :
      InvokeEnds name request timeout echo [.clientStarted request timeout, .clientOver none, .interrupted i]
        (.error (.interrupted i))
  | ended {pid : Nat} {seen : List Invocation.Event} {result : Except Failure (Invocation × Nanos)}
      (answer : (o.awaitClient pid timeout echo).Yields seen)
      (verdict : (∃ i elapsed, Invocation.ofEvents seen = .finished i ∧ result = .ok (i, elapsed)) ∨
        ∃ f, result = .error f ∧ ∀ expect, judge name timeout expect seen = .error f) :
      InvokeEnds name request timeout echo [.clientStarted request timeout, .clientOver (some seen)] (.ok result)

/-- A client that is let go of is dropped or left, and neither is a milestone. -/
theorem follows_letGoOfClient {c : Bool} {pid : Nat} {seen : List Invocation.Event} {s t : State σ}
    (h : letGoOfClient o pid seen s = ((), t)) : Follows c s [] t := by
  unfold letGoOfClient at h
  split at h
  · exact follows_tell h
  · cases h
    exact .still rfl rfl rfl

/-- A client whose wait is cut short is over without having been seen to its end. -/
theorem follows_abandonClient {c : Bool} {pid : Nat} {s t : State σ} (h : abandonClient o pid s = ((), t)) :
    Follows c s [.clientOver none] t := by
  obtain ⟨_, u, ho, hd⟩ := Act.bind_inv h
  exact (follows_mark (fun _ => rfl) rfl ho).andThen (follows_tell hd)

/-- A client that was started is followed to its end, past its deadline, or up to a request. -/
theorem followClient_inv {c : Bool} {name : String} {request : ClientRequest} {pid : Nat} {timeout begun : Nanos}
    {echo : Bool} {s t u : State σ} {r : Except Stop (Except Failure (Invocation × Nanos))}
    (started : Follows c s [.clientStarted request timeout] u)
    (h : (followClient o name pid timeout echo begun).run u = (r, t)) :
    ∃ es, Follows c s es t ∧ InvokeEnds o name request timeout echo es r := by
  rcases awaitOr_inv (c := c) h with ⟨seen, x, fa, answer, h⟩ | ⟨i, x, y, fa, stops, hletGo, fi, rfl⟩
  · have f := started.andThen fa
    cases hv : Invocation.ofEvents seen with
    | timedOut =>
      simp only [hv] at h
      obtain ⟨_, y, hl, h⟩ := Steps.lift_inv h
      have fl := f.andThen (follows_log hl)
      -- The client is killed, and the wait for its end is one more that a request can cut short.
      rcases awaitOr_inv (c := c) h with ⟨fault, z, fk, -, h⟩ | ⟨i, z, z', fk, stops, hletGo, fi, rfl⟩
      · obtain ⟨_, z', ho, h⟩ := Steps.lift_inv h
        cases h
        exact ⟨_, (fl.andThen fk).trans (follows_mark (fun _ => rfl) rfl ho),
          .ended answer (Or.inr ⟨_, rfl, fun _ => by simp only [judge, hv]⟩)⟩
      · exact ⟨_, ((fl.andThen fk).trans (follows_mark (fun _ => rfl) rfl hletGo)).trans fi,
          .interrupted (.kill _ stops)⟩
    | faulty reason =>
      simp only [hv] at h
      obtain ⟨_, y, hd, h⟩ := Steps.lift_inv h
      obtain ⟨_, z, ho, h⟩ := Steps.lift_inv h
      cases h
      exact ⟨_, (f.andThen (follows_letGoOfClient o hd)).trans (follows_mark (fun _ => rfl) rfl ho),
        .ended answer (Or.inr ⟨_, rfl, fun _ => by simp only [judge, hv]⟩)⟩
    | finished i =>
      simp only [hv] at h
      obtain ⟨_, y, ho, h⟩ := Steps.lift_inv h
      obtain ⟨_, z, hg, h⟩ := Steps.lift_inv h
      cases hg
      obtain ⟨_, z', hl, h⟩ := Steps.lift_inv h
      cases h
      exact ⟨_, (f.trans (follows_mark (fun _ => rfl) rfl ho)).andThen (follows_log hl),
        .ended answer (Or.inl ⟨i, _, hv, rfl⟩)⟩
  · exact ⟨_, ((started.andThen fa).trans (follows_abandonClient o hletGo)).trans fi,
      .interrupted (.client _ _ _ stops)⟩

/-- A client is started, if it can be, and followed. -/
theorem invoke_inv {c : Bool} {name : String} {request : ClientRequest} {timeout : Nanos} {echo : Bool}
    {s t : State σ} {r : Except Stop (Except Failure (Invocation × Nanos))}
    (h : (invoke o name request timeout echo).run s = (r, t)) :
    ∃ es, Follows c s es t ∧ InvokeEnds o name request timeout echo es r := by
  obtain ⟨_, _, hg, h⟩ := Steps.lift_inv h
  cases hg
  obtain ⟨started, u, ha, h⟩ := Steps.lift_inv h
  obtain ⟨fa, -⟩ := follows_ask (c := c) ha
  cases started with
  | error reason =>
    cases h
    exact ⟨[], fa, .unstarted _⟩
  | ok pid =>
    obtain ⟨_, v, hn, h⟩ := Steps.lift_inv h
    obtain ⟨_, w, hl, h⟩ := Steps.lift_inv h
    obtain ⟨_, _, hg, h⟩ := Steps.lift_inv h
    cases hg
    have f := (fa.trans (follows_mark (c := c) (fun _ => rfl) rfl hn)).andThen (follows_log hl)
    cases hp : [Stream.stdout, .stderr].find? fun stream => !o.piped pid stream w.outside with
    | some stream =>
      simp only [hp] at h
      obtain ⟨_, x, hd, h⟩ := Steps.lift_inv h
      cases h
      exact ⟨_, f.trans (follows_abandonClient o hd), .unpiped (by simpa using List.find?_some hp)⟩
    | none =>
      simp only [hp] at h
      exact followClient_inv o f h

/-- How a query ends: its client does not start, is let go of because a pipe is missing or a request has come, or
is over and held against the expectation. -/
inductive QueryEnds (plan : Plan) (options : RunOptions) (settings : Settings) (q : QueryStep) (name : String)
    (m : Option Managed) : Course (Except Failure (Invocation × Nanos))
  | unstarted (reason : String) :
      QueryEnds plan options settings q name m [] (.ok (.error (.invocationSpawn name reason))) m
  | unpiped {pid : Nat} {stream : Stream} {v : σ} (program : Path) (hidden : o.piped pid stream v = false) :
      QueryEnds plan options settings q name m
        [.clientStarted ⟨program, clientArgs plan q, plan.client.env, options.root⟩
            (seconds (queryTimeout plan settings q)),
          .clientOver none]
        (.ok (.error (.internal s!"Failed to get client {stream.name}"))) m
  | interrupted {i : Interrupt} (program : Path) (requested : o.Requests i) :
      QueryEnds plan options settings q name m
        [.clientStarted ⟨program, clientArgs plan q, plan.client.env, options.root⟩
            (seconds (queryTimeout plan settings q)),
          .clientOver none, .interrupted i]
        (.error (.interrupted i)) m
  | ended {pid : Nat} {seen : List Invocation.Event} {result : Except Failure (Invocation × Nanos)}
      (program : Path)
      (answer : (o.awaitClient pid (seconds (queryTimeout plan settings q)) options.echo).Yields seen)
      (judged : result.map Prod.fst = judge name (seconds (queryTimeout plan settings q)) q.expect seen) :
      QueryEnds plan options settings q name m
        [.clientStarted ⟨program, clientArgs plan q, plan.client.env, options.root⟩
            (seconds (queryTimeout plan settings q)),
          .clientOver (some seen)]
        (.ok result) m

/-- A query looks up its client, invokes it, and judges what it did. -/
theorem runQuery_takes (plan : Plan) (options : RunOptions) (settings : Settings) (q : QueryStep) (name : String) :
    Takes options.colours (runQuery o plan options settings q name) (QueryEnds o plan options settings q name) := by
  intro s r t h
  obtain ⟨_, _, hg, h⟩ := Steps.lift_inv h
  cases hg
  cases hp : (o.files s.outside).locate options.root plan.build.profile plan.client.target with
  | error fault =>
    simp only [hp] at h
    cases h
    exact ⟨[], (Follows.still rfl rfl rfl).toLogs, .unstarted _⟩
  | ok program =>
    simp only [hp] at h
    rcases Steps.bind_inv h with ⟨result, u, hi, h⟩ | ⟨e, hi, rfl⟩
    · obtain ⟨es, f, b⟩ := invoke_inv o hi
      refine ⟨es, ?_⟩
      -- A client that was invoked is judged; one that was not started or has no pipe fails its query.
      cases b with
      | unstarted reason =>
        cases h
        exact ⟨f.toLogs, f.server ▸ .unstarted _⟩
      | unpiped hidden =>
        cases h
        exact ⟨f.toLogs, f.server ▸ .unpiped program hidden⟩
      | ended answer verdict =>
        rcases verdict with ⟨i, elapsed, hv, rfl⟩ | ⟨e, rfl, hj⟩
        · cases h
          refine ⟨f.toLogs, f.server ▸ .ended program answer ?_⟩
          cases hc : i.check name q.expect with
          | ok _ => simp [judge, hv, hc, Except.map]
          | error e => simp [judge, hv, hc, Except.map]
        · cases h
          exact ⟨f.toLogs, f.server ▸ .ended program answer (hj _).symm⟩
    · obtain ⟨es, f, b⟩ := invoke_inv o hi
      cases b with
      | interrupted requested => exact ⟨_, f.toLogs, f.server ▸ .interrupted program requested⟩

/-- The course of the step of the query at position `i`, counted from zero. -/
inductive QueryCourse (plan : Plan) (options : RunOptions) (settings : Settings) (i : Nat) (q : QueryStep)
    (m : Option Managed) : Course Unit
  | passed {es : List Event} {run : Invocation × Nanos} {m' : Option Managed}
      (step : StepCourse .query (q.displayName i) (fun r => r.1.ending.code?) (fun _ => none)
        (QueryEnds o plan options settings q (q.displayName i) m) es (.ok run) m') :
      QueryCourse plan options settings i q m (.entered (.querying (i + 1)) :: es) (.ok ()) m'
  | stopped {es : List Event} {e : Stop} {m' : Option Managed}
      (step : StepCourse .query (q.displayName i) (fun r => r.1.ending.code?) (fun _ => none)
        (QueryEnds o plan options settings q (q.displayName i) m) es (.error e) m') :
      QueryCourse plan options settings i q m (.entered (.querying (i + 1)) :: es) (.error e) m'

/-- A query enters its phase and is recorded under its name. -/
theorem query_takes (plan : Plan) (options : RunOptions) (settings : Settings) (i : Nat) (q : QueryStep) :
    Takes options.colours (query o plan options settings i q) (QueryCourse o plan options settings i q) := by
  intro s r t h
  obtain ⟨_, s₁, he, h⟩ := Steps.lift_inv h
  obtain ⟨_, s₂, hs, h⟩ := Steps.lift_inv h
  obtain ⟨_, s₃, hq, h⟩ := Steps.lift_inv h
  have f := ((follows_enter (c := options.colours) he).andThen (follows_say_plain (by simp) hs)).andThen
    (follows_say_plain (by simp) hq)
  rcases step_inv (runQuery_takes o plan options settings q (q.displayName i)) h with
    ⟨es, run, u, l, b, h⟩ | ⟨es, e, l, b, rfl⟩
  · obtain ⟨_, hc, rfl⟩ := Steps.lift_last h
    have fc := follows_say_plain (c := options.colours) (by simp) hc
    rw [f.server] at b
    exact ⟨_, (f.toLogs.trans l).andThen fc.toLogs, fc.server ▸ .passed b⟩
  · rw [f.server] at b
    exact ⟨_, f.toLogs.trans l, .stopped b⟩

/-- The course of the queries from a position on: one after the other, up to the first that does not
pass. -/
inductive QueriesCourse (plan : Plan) (options : RunOptions) (settings : Settings) :
    Nat → List QueryStep → Option Managed → Course Unit
  | done (i : Nat) (m : Option Managed) : QueriesCourse plan options settings i [] m [] (.ok ()) m
  | next {i : Nat} {q : QueryStep} {rest : List QueryStep} {m m' m'' : Option Managed} {es es' : List Event}
      {r : Except Stop Unit} (first : QueryCourse o plan options settings i q m es (.ok ()) m')
      (others : QueriesCourse plan options settings (i + 1) rest m' es' r m'') :
      QueriesCourse plan options settings i (q :: rest) m (es ++ es') r m''
  | stopped {i : Nat} {q : QueryStep} {rest : List QueryStep} {m m' : Option Managed} {es : List Event} {e : Stop}
      (first : QueryCourse o plan options settings i q m es (.error e) m') :
      QueriesCourse plan options settings i (q :: rest) m es (.error e) m'

/-- Queries are asked in turn until one of them stops the session. -/
theorem queries_takes (plan : Plan) (options : RunOptions) (settings : Settings) (i : Nat) (qs : List QueryStep) :
    Takes options.colours (queries o plan options settings i qs) (QueriesCourse o plan options settings i qs) := by
  induction qs generalizing i with
  | nil =>
    intro s r t h
    cases h
    exact ⟨[], (Follows.still rfl rfl rfl).toLogs, .done i _⟩
  | cons q rest ih =>
    intro s r t h
    rcases Steps.bind_inv h with ⟨_, u, hq, h⟩ | ⟨e, hq, rfl⟩
    · obtain ⟨es, l, b⟩ := query_takes o plan options settings i q hq
      obtain ⟨es', l', b'⟩ := ih (i + 1) h
      exact ⟨es ++ es', l.trans l', .next b b'⟩
    · obtain ⟨es, l, b⟩ := query_takes o plan options settings i q hq
      exact ⟨es, l, .stopped b⟩

end Shakedown.Session

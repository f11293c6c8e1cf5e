import Shakedown.Proofs.Session.Course
import Shakedown.Proofs.Session.Verdict

/-!
# The times of a session

The records of a run tell when its steps began and ended, and no two steps overlap (`records_in_order`). The start of a
step is read off the clock before its body and kept apart until the step is recorded, when its end is read off, so what
has to be known of everything in between is that it records nothing and that the clock does not go back. `Elapses` says
of two states of a session what has been recorded between them, in turn and within the time that has passed, and
`KeepsTime` that an action leads from any state to such a state. It holds of the parts of an action and so of the whole
(`KeepsTime.bind`); where a step is recorded stands in one place, `keepsTime_step`.
-/

namespace Shakedown.Session

/-- Records in turn between two times, in milliseconds: no step begins before that time or before the one recorded
before it has ended, and none ends before it begins or after the second time. -/
inductive InTurn : Nat → List StepRecord → Nat → Prop
  | none {start stop : Nat} (passed : start ≤ stop) : InTurn start [] stop
  | step {start stop : Nat} {r : StepRecord} {rs : List StepRecord} (begun : start ≤ r.startedMs)
      (ended : r.startedMs ≤ r.finishedMs) (rest : InTurn r.finishedMs rs stop) : InTurn start (r :: rs) stop

variable {start mid stop : Nat} {rs rs' : List StepRecord}

/-- Records in turn take a time that is not negative. -/
theorem InTurn.le (h : InTurn start rs stop) : start ≤ stop := by
  induction h with
  | none passed => exact passed
  | step begun ended _ ih => exact Nat.le_trans (Nat.le_trans begun ended) ih

/-- Records in turn may be preceded by a time without records. -/
theorem InTurn.after (h : InTurn mid rs stop) (le : start ≤ mid) : InTurn start rs stop := by
  cases h with
  | none passed => exact .none (Nat.le_trans le passed)
  | step begun ended rest => exact .step (Nat.le_trans le begun) ended rest

/-- Records in turn up to a time, and from that time on. -/
theorem InTurn.append (h : InTurn start rs mid) (h' : InTurn mid rs' stop) : InTurn start (rs ++ rs') stop := by
  induction h with
  | none passed => exact h'.after passed
  | step begun ended _ ih => exact .step begun ended (ih h')

/-- Records in turn lie between the two times, each with its begin before its end. -/
theorem InTurn.within (h : InTurn start rs stop) :
    ∀ r ∈ rs, start ≤ r.startedMs ∧ r.startedMs ≤ r.finishedMs ∧ r.finishedMs ≤ stop := by
  induction h with
  | none passed =>
    intro r hr
    cases hr
  | step begun ended rest ih =>
    intro r hr
    rcases List.mem_cons.mp hr with rfl | hr
    · exact ⟨begun, ended, rest.le⟩
    · obtain ⟨started, proper, finished⟩ := ih r hr
      exact ⟨Nat.le_trans (Nat.le_trans begun ended) started, proper, finished⟩

/-- Of two records in turn the earlier one has ended when the later one begins. -/
theorem InTurn.apart (h : InTurn start rs stop) : rs.Pairwise fun r r' => r.finishedMs ≤ r'.startedMs := by
  induction h with
  | none passed => exact .nil
  | step begun ended rest ih =>
    apply List.Pairwise.cons
    · intro r hr
      exact (rest.within r hr).1
    · exact ih

variable {σ : Type} {α β : Type}

/-- The milliseconds of a session that a state shows. -/
def State.offset (o : Outside σ) (s : State σ) : Nat := Nanos.wholeMillis (o.now s.outside - s.startedAt)

/-- From a state to a later one of a session steps were recorded in turn, in the time that has passed. -/
structure Elapses (o : Outside σ) (s : State σ) (rs : List StepRecord) (t : State σ) : Prop where
  clock : o.now s.outside ≤ o.now t.outside
  startedAt : t.startedAt = s.startedAt
  steps : t.recorder.steps = s.recorder.steps ++ rs
  inTurn : InTurn (s.offset o) rs (t.offset o)

/-- An action of a session takes time, in which the steps that it records are in turn. If it is not said to record it
records none. -/
def KeepsTime (o : Outside σ) (recording : Bool) (x : Act σ α) : Prop :=
  ∀ s, ∃ rs, Elapses o s rs (x s).2 ∧ (recording = false → rs = [])

variable {o : Outside σ} {recording : Bool} {s t u : State σ}

/-- The milliseconds do not go back if the clock does not. -/
theorem offset_le (clock : o.now s.outside ≤ o.now t.outside) (same : t.startedAt = s.startedAt) :
    s.offset o ≤ t.offset o := by
  unfold State.offset Nanos.wholeMillis
  rw [same]
  exact Nat.div_le_div_right (Nat.sub_le_sub_right clock _)

/-- Time passes and nothing is recorded. -/
theorem Elapses.quiet (clock : o.now s.outside ≤ o.now t.outside) (same : t.startedAt = s.startedAt)
    (steps : t.recorder.steps = s.recorder.steps) : Elapses o s [] t :=
  ⟨clock, same, by rw [steps, List.append_nil], .none (offset_le clock same)⟩

/-- One part of a session after another. -/
theorem Elapses.trans (h : Elapses o s rs t) (h' : Elapses o t rs' u) : Elapses o s (rs ++ rs') u where
  clock := Nat.le_trans h.clock h'.clock
  startedAt := h'.startedAt.trans h.startedAt
  steps := by rw [h'.steps, h.steps, List.append_assoc]
  inTurn := h.inTurn.append h'.inTurn

/-- The records between the states before and after an action. -/
theorem KeepsTime.ends {x : Act σ α} {a : α} (h : KeepsTime o recording x) (hx : x s = (a, t)) :
    ∃ rs, Elapses o s rs t := by
  obtain ⟨rs, elapses, -⟩ := h s
  rw [hx] at elapses
  exact ⟨rs, elapses⟩

/-- There are none if the action is not said to record. -/
theorem KeepsTime.quiet {x : Act σ α} {a : α} (h : KeepsTime o false x) (hx : x s = (a, t)) : Elapses o s [] t := by
  obtain ⟨rs, elapses, none⟩ := h s
  obtain rfl := none rfl
  rw [hx] at elapses
  exact elapses

/-! ## Actions and their parts -/

/-- An action through which time passes and that records nothing. -/
theorem keepsTime_quiet {x : Act σ α}
    (h : ∀ s, o.now s.outside ≤ o.now (x s).2.outside ∧ (x s).2.startedAt = s.startedAt ∧
      (x s).2.recorder.steps = s.recorder.steps) : KeepsTime o recording x := by
  intro s
  obtain ⟨clock, same, steps⟩ := h s
  exact ⟨[], .quiet clock same steps, fun _ => rfl⟩

theorem keepsTime_of_ends {x : Act σ α}
    (h : ∀ s a t, x s = (a, t) → ∃ rs, Elapses o s rs t ∧ (recording = false → rs = [])) : KeepsTime o recording x :=
  fun s => h s _ _ rfl

theorem keepsTime_pure (a : α) : KeepsTime o recording (pure a : Act σ α) :=
  keepsTime_quiet fun _ => ⟨Nat.le_refl _, rfl, rfl⟩

theorem keepsTime_get : KeepsTime o recording (get : Act σ (State σ)) :=
  keepsTime_quiet fun _ => ⟨Nat.le_refl _, rfl, rfl⟩

theorem keepsTime_server (m : Option Managed) :
    KeepsTime o recording (modify fun s => { s with server := m } : Act σ Unit) :=
  keepsTime_quiet fun _ => ⟨Nat.le_refl _, rfl, rfl⟩

theorem keepsTime_note (e : Event) : KeepsTime o recording (note e : Act σ Unit) :=
  keepsTime_quiet fun _ => ⟨Nat.le_refl _, rfl, rfl⟩

/-- A question takes time if its answer comes no earlier than the question. -/
theorem keepsTime_ask {f : σ → α × σ} (h : ∀ w, o.now w ≤ o.now (f w).2) : KeepsTime o recording (ask f) :=
  keepsTime_quiet fun s => ⟨h s.outside, rfl, rfl⟩

theorem keepsTime_tell {f : σ → σ} (h : ∀ w, o.now w ≤ o.now (f w)) : KeepsTime o recording (tell f) :=
  keepsTime_quiet fun s => ⟨h s.outside, rfl, rfl⟩

/-- Two actions in turn take time one after the other, and record if one of them does. -/
theorem KeepsTime.bind {x : Act σ α} {f : α → Act σ β} (hx : KeepsTime o recording x)
    (hf : ∀ a, KeepsTime o recording (f a)) : KeepsTime o recording (x >>= f) := by
  intro s
  obtain ⟨rs, before, none⟩ := hx s
  obtain ⟨rs', after, none'⟩ := hf (x s).1 (x s).2
  refine ⟨rs ++ rs', before.trans after, ?_⟩
  intro silent
  rw [none silent, none' silent, List.append_nil]

/-- Steps go on after a value, and stop where they are stopped. -/
theorem KeepsTime.andThen {x : Steps σ α} {f : α → Steps σ β} (hx : KeepsTime o recording x.run)
    (hf : ∀ a, KeepsTime o recording (f a).run) : KeepsTime o recording (x >>= f).run := by
  rw [ExceptT.run_bind]
  apply hx.bind
  intro r
  cases r with
  | ok a => exact hf a
  | error e => exact keepsTime_pure _

/-- Steps go on after an action, which does not stop them. -/
theorem KeepsTime.lift {x : Act σ α} {f : α → Steps σ β} (hx : KeepsTime o recording x)
    (hf : ∀ a, KeepsTime o recording (f a).run) : KeepsTime o recording (liftM x >>= f : Steps σ β).run :=
  hx.bind hf

section Monotone

variable (mono : o.Monotone)
include mono

/-! ## What every step does -/

theorem keepsTime_log (e : Log.Event) : KeepsTime o recording (log o e) :=
  keepsTime_tell (mono.log e)

theorem keepsTime_say (text : String) : KeepsTime o recording (say o text) := by
  apply (keepsTime_note _).bind
  intro _
  exact keepsTime_tell (mono.print text)

theorem keepsTime_enter (phase : Phase) : KeepsTime o recording (enter o phase) := by
  apply keepsTime_get.bind
  intro _
  apply (keepsTime_log mono _).bind
  intro _
  apply (keepsTime_note _).bind
  intro _
  exact keepsTime_quiet fun _ => ⟨Nat.le_refl _, rfl, rfl⟩

theorem keepsTime_logs (events : List Log.Event) :
    KeepsTime o recording (tell fun w => events.foldl (fun w e => o.log e w) w) := by
  apply keepsTime_tell
  induction events with
  | nil => exact fun _ => Nat.le_refl _
  | cons e events ih => exact fun w => Nat.le_trans (mono.log e w) (ih _)

/-- Setting up the watch takes time that the clock shows. -/
theorem keepsTime_watch : KeepsTime o recording (watch o) := by
  apply keepsTime_get.bind
  intro s
  cases s.watching with
  | true => exact keepsTime_pure _
  | false =>
    apply (keepsTime_ask mono.install).bind
    intro handlers
    apply (keepsTime_logs mono _).bind
    intro _
    apply (keepsTime_note _).bind
    intro _
    exact keepsTime_quiet fun _ => ⟨Nat.le_refl _, rfl, rfl⟩

/-- While an operation is waited for, the clock does not go back: not at the first look, and not after it. -/
theorem keepsTime_waitFor {op : Operation σ α} (advances : op.Advances o.now) :
    KeepsTime o recording (waitFor o op) := by
  apply keepsTime_of_ends
  intro s answer t h
  obtain ⟨look, u, hl, h⟩ := Act.bind_inv h
  cases hl
  have looked : Elapses o s [] { s with outside := (op s.outside).2 } := .quiet (advances.look _) rfl rfl
  cases hlook : (op s.outside).1 with
  | ready a =>
    rw [hlook] at h
    cases h
    exact ⟨[], looked, fun _ => rfl⟩
  | goesOn rest =>
    rw [hlook] at h
    obtain ⟨_, v, hw, h⟩ := Act.bind_inv h
    have watched := (keepsTime_watch mono).quiet hw
    cases h
    have waited : Elapses o v [] { v with outside := (rest v.outside).2 } :=
      .quiet (advances.rest _ rest hlook _) rfl rfl
    exact ⟨_, (looked.trans watched).trans waited, fun _ => rfl⟩

omit mono in
theorem keepsTime_interrupt (i : Interrupt) : KeepsTime o recording (interrupt i : Steps σ α).run := by
  apply (keepsTime_note _).lift
  intro _
  exact keepsTime_pure _

/-- A wait takes time, whether the operation is over at its first look, later, or cut short. -/
theorem keepsTime_awaitOr {letGo : Act σ Unit} {op : Operation σ α} (hletGo : KeepsTime o recording letGo)
    (advances : op.Advances o.now) : KeepsTime o recording (awaitOr o letGo op).run := by
  apply (keepsTime_waitFor mono advances).lift
  intro answer
  cases answer with
  | done a => exact keepsTime_pure _
  | interrupted i =>
    apply hletGo.lift
    intro _
    exact keepsTime_interrupt i

theorem keepsTime_await {op : Operation σ α} (advances : op.Advances o.now) :
    KeepsTime o recording (await o op).run :=
  keepsTime_awaitOr mono (keepsTime_pure _) advances

omit mono in
/-- A step that was opened in an earlier state is recorded, with the time in between as its own. -/
theorem finishStep_elapses {step : OpenStep} (opened : step.startedMs = s.offset o) (waited : Elapses o s [] t)
    (status : StepStatus) (code : ExitCode) (detail : Option String) :
    Elapses o s [step.close (t.offset o) status code detail] (finishStep o step status code detail t).2 where
  clock := waited.clock
  startedAt := waited.startedAt
  steps := by
    have same : t.recorder.steps = s.recorder.steps := waited.steps.trans (List.append_nil _)
    rw [← same]
    rfl
  inTurn := by
    have begun : s.offset o ≤ step.startedMs := Nat.le_of_eq opened.symm
    have ended : step.startedMs ≤ t.offset o := opened ▸ waited.inTurn.le
    exact .step begun ended (.none (Nat.le_refl _))

/-- A result is settled by the record of its step. -/
theorem settle_elapses {colours : Bool} {step : OpenStep} {result : Except Failure α} {code : α → ExitCode}
    {detail : α → Option String} {r : Except Stop α} (opened : step.startedMs = s.offset o) (waited : Elapses o s [] t)
    (h : (settle o colours step result code detail).run t = (r, u)) : ∃ record, Elapses o s [record] u := by
  cases result with
  | ok a =>
    cases h
    exact ⟨_, finishStep_elapses opened waited .passed (code a) (detail a)⟩
  | error f =>
    obtain ⟨_, v, hsay, h⟩ := Steps.lift_inv h
    have said := waited.trans ((keepsTime_say mono _).quiet hsay)
    cases h
    exact ⟨_, finishStep_elapses opened said .failed f.childCode (some f.message)⟩

/-- A step is recorded when its body has come to a result, and the session goes on after it if that is a value. -/
theorem keepsTime_step {colours : Bool} {kind : StepKind} {name : String} {body : Steps σ (Except Failure α)}
    {code : α → ExitCode} {detail : α → Option String} {k : α → Steps σ β} (hbody : KeepsTime o false body.run)
    (hk : ∀ a, KeepsTime o true (k a).run) :
    KeepsTime o true (do
      let step ← (startStep o kind name : Act σ OpenStep)
      let result ← body
      let a ← settle o colours step result code detail
      k a : Steps σ β).run := by
  apply keepsTime_of_ends
  intro s r t h
  obtain ⟨step, s₁, h₁, h⟩ := Steps.lift_inv h
  cases h₁
  rcases Steps.bind_inv h with ⟨result, s₂, h₂, h⟩ | ⟨e, h₂, rfl⟩
  · -- The body records nothing, so that the record of the step spans all of it.
    have waited := hbody.quiet h₂
    rcases Steps.bind_inv h with ⟨a, s₃, h₃, h⟩ | ⟨e, h₃, rfl⟩
    · obtain ⟨record, recorded⟩ := settle_elapses mono rfl waited h₃
      obtain ⟨rs, after⟩ := (hk a).ends h
      exact ⟨_, recorded.trans after, nofun⟩
    · obtain ⟨record, recorded⟩ := settle_elapses mono rfl waited h₃
      exact ⟨_, recorded, nofun⟩
  · -- A step whose body is stopped leaves no record.
    exact ⟨[], hbody.quiet h₂, nofun⟩

/-! ## The build step -/

/-- A build tool takes time, and the record is left to its step. -/
theorem keepsTime_runBuild (root : Path) (c : BuildCommand) : KeepsTime o recording (runBuild o root c).run := by
  apply keepsTime_get.lift
  intro s
  dsimp only
  split
  · exact keepsTime_pure _
  · apply (keepsTime_log mono _).lift
    intro _
    apply (keepsTime_await mono (mono.build _ _ _)).andThen
    intro answer
    cases answer with
    | unavailable reason => exact keepsTime_pure _
    | ended ending =>
      apply (keepsTime_note _).lift
      intro _
      exact keepsTime_pure _

variable {plan : Plan} {options : RunOptions} {settings : Settings}

/-- The build step is recorded once its tool is over. -/
theorem keepsTime_build : KeepsTime o true (build o plan options settings).run := by
  apply (keepsTime_enter mono _).lift
  intro _
  cases buildCommand? plan options settings with
  | some c =>
    apply (keepsTime_say mono _).lift
    intro _
    apply keepsTime_step mono (keepsTime_runBuild mono _ _)
    intro _
    exact keepsTime_say mono _
  | none =>
    apply (keepsTime_say mono _).lift
    -- A skipped step is recorded when it is opened.
    intro _ s
    have opened : OpenStep.startedMs ⟨.build, "build", s.offset o⟩ = s.offset o := rfl
    have still : Elapses o s [] s := .quiet (Nat.le_refl _) rfl rfl
    exact ⟨_, finishStep_elapses opened still .skipped none (some "nothing to build"), nofun⟩

/-! ## The launch step -/

theorem keepsTime_spawn (name : String) (request : SpawnRequest) :
    KeepsTime o recording (Managed.spawn o name request) := by
  apply (keepsTime_ask (mono.spawn request)).bind
  intro answer
  cases answer with
  | error reason => exact keepsTime_pure _
  | ok pid =>
    apply (keepsTime_note _).bind
    intro _
    apply (keepsTime_log mono _).bind
    intro _
    exact keepsTime_pure _

theorem keepsTime_startServer : KeepsTime o recording (startServer o plan options) := by
  apply keepsTime_get.bind
  intro s
  cases s.server with
  | some server => exact keepsTime_pure _
  | none =>
    apply keepsTime_get.bind
    intro s
    dsimp only
    split
    · exact keepsTime_pure _
    · exact keepsTime_spawn mono _ _

/-- The launch step is recorded once the server is started. -/
theorem keepsTime_launch : KeepsTime o true (launch o plan options).run := by
  apply (keepsTime_enter mono _).lift
  intro _
  apply (keepsTime_say mono _).lift
  intro _
  apply keepsTime_step mono
  · exact (keepsTime_startServer mono).bind fun _ => keepsTime_pure _
  · intro server
    apply (keepsTime_server _).lift
    intro _
    apply (keepsTime_say mono _).lift
    intro _
    exact keepsTime_pure _

/-! ## The await step -/

omit mono in
theorem keepsTime_serverIsOver (server : Managed) (how : ServerEnd) :
    KeepsTime o recording (serverIsOver (σ := σ) server how) := by
  cases how with
  | exited ending =>
    apply (keepsTime_note _).bind
    intro _
    exact (keepsTime_server _).bind fun _ => keepsTime_pure _
  | lost reason =>
    apply (keepsTime_note _).bind
    intro _
    exact (keepsTime_server _).bind fun _ => keepsTime_pure _

theorem keepsTime_probeResult (probe : Probe) (policy : ReadinessPolicy) (e : ProbeEnd) :
    KeepsTime o recording (probeResult o probe policy e) := by
  unfold probeResult
  dsimp only
  split
  · exact (keepsTime_log mono _).bind fun _ => keepsTime_pure _
  · exact (keepsTime_log mono _).bind fun _ => keepsTime_pure _
  · exact (keepsTime_pure _).bind fun _ => keepsTime_pure _

theorem keepsTime_awaitReadiness (server : Managed) (probe : Option Probe) (root : Path) (policy : ReadinessPolicy) :
    KeepsTime o recording (awaitReadiness o server probe root policy).run := by
  cases probe with
  | some probe =>
    apply (keepsTime_await mono (mono.awaitProbe _ _ _ _)).andThen
    intro race
    cases race.winner with
    | inl e => exact (keepsTime_probeResult mono _ _ _).bind fun _ => keepsTime_pure _
    | inr how => exact (keepsTime_serverIsOver _ _).bind fun _ => keepsTime_pure _
  | none =>
    apply (keepsTime_await mono (mono.awaitDelay _ _)).andThen
    intro race
    cases race.winner with
    | inl e => exact keepsTime_pure _
    | inr how => exact (keepsTime_serverIsOver _ _).bind fun _ => keepsTime_pure _

theorem keepsTime_awaitLaunched (probe : Option Probe) (root : Path) (policy : ReadinessPolicy) :
    KeepsTime o recording (awaitLaunched o probe root policy).run := by
  apply keepsTime_get.lift
  intro s
  cases s.server with
  | some server => exact keepsTime_awaitReadiness mono _ _ _ _
  | none => exact keepsTime_pure _

/-- The step that awaits the server is recorded once the wait is over. -/
theorem keepsTime_awaitServer : KeepsTime o true (awaitServer o plan options settings).run := by
  apply (keepsTime_say mono _).lift
  intro _
  apply keepsTime_step mono (keepsTime_awaitLaunched mono _ _ _)
  intro readiness
  apply (keepsTime_say mono _).lift
  intro _
  exact keepsTime_enter mono _

/-! ## The queries -/

theorem keepsTime_letGoOfClient (pid : Nat) (events : List Invocation.Event) :
    KeepsTime o recording (letGoOfClient o pid events) := by
  unfold letGoOfClient
  split
  · exact keepsTime_tell (mono.dropClient pid)
  · exact keepsTime_pure _

theorem keepsTime_abandonClient (pid : Nat) : KeepsTime o recording (abandonClient o pid) := by
  apply (keepsTime_note _).bind
  intro _
  exact keepsTime_tell (mono.dropClient pid)

/-- Following a client takes time, up to its end or past its deadline. -/
theorem keepsTime_followClient (name : String) (pid : Nat) (timeout : Nanos) (echo : Bool) (begun : Nanos) :
    KeepsTime o recording (followClient o name pid timeout echo begun).run := by
  apply (keepsTime_awaitOr mono (keepsTime_abandonClient mono _) (mono.awaitClient _ _ _)).andThen
  intro events
  dsimp only
  cases Invocation.ofEvents events with
  | timedOut =>
    apply (keepsTime_log mono _).lift
    intro _
    apply (keepsTime_awaitOr mono (keepsTime_note _) (mono.killClient pid)).andThen
    intro _
    apply (keepsTime_note _).lift
    intro _
    exact keepsTime_pure _
  | faulty reason =>
    apply (keepsTime_letGoOfClient mono _ _).lift
    intro _
    apply (keepsTime_note _).lift
    intro _
    exact keepsTime_pure _
  | finished invocation =>
    apply (keepsTime_note _).lift
    intro _
    apply keepsTime_get.lift
    intro _
    apply (keepsTime_log mono _).lift
    intro _
    exact keepsTime_pure _

theorem keepsTime_invoke (name : String) (request : ClientRequest) (timeout : Nanos) (echo : Bool) :
    KeepsTime o recording (invoke o name request timeout echo).run := by
  apply keepsTime_get.lift
  intro _
  apply (keepsTime_ask (mono.startClient request)).lift
  intro started
  cases started with
  | error reason => exact keepsTime_pure _
  | ok pid =>
    apply (keepsTime_note _).lift
    intro _
    apply (keepsTime_log mono _).lift
    intro _
    apply keepsTime_get.lift
    intro _
    dsimp only
    split
    · apply (keepsTime_abandonClient mono _).lift
      intro _
      exact keepsTime_pure _
    · exact keepsTime_followClient mono _ _ _ _ _

theorem keepsTime_runQuery (q : QueryStep) (name : String) :
    KeepsTime o recording (runQuery o plan options settings q name).run := by
  apply keepsTime_get.lift
  intro _
  dsimp only
  split
  · exact keepsTime_pure _
  · apply (keepsTime_invoke mono _ _ _ _).andThen
    intro result
    cases result with
    | error f => exact keepsTime_pure _
    | ok run => exact keepsTime_pure _

/-- A query is recorded once its client is judged. -/
theorem keepsTime_query (index : Nat) (q : QueryStep) :
    KeepsTime o true (query o plan options settings index q).run := by
  apply (keepsTime_enter mono _).lift
  intro _
  apply (keepsTime_say mono _).lift
  intro _
  apply (keepsTime_say mono _).lift
  intro _
  apply keepsTime_step mono (keepsTime_runQuery mono _ _)
  intro _
  exact keepsTime_say mono _

/-- Queries are recorded one after the other. -/
theorem keepsTime_queries (index : Nat) (qs : List QueryStep) :
    KeepsTime o true (queries o plan options settings index qs).run := by
  induction qs generalizing index with
  | nil => exact keepsTime_pure _
  | cons q rest ih =>
    apply (keepsTime_query mono index q).andThen
    intro _
    exact ih (index + 1)

/-! ## All steps, and what follows them -/

/-- All steps of a session are recorded in turn. -/
theorem keepsTime_steps : KeepsTime o true (steps o plan options settings).run := by
  apply (keepsTime_build mono).andThen
  intro _
  apply (keepsTime_launch mono).andThen
  intro _
  apply (keepsTime_awaitServer mono).andThen
  intro _
  exact keepsTime_queries mono 0 plan.queries

/-- The steps take time whether the session or a request goes first. -/
theorem keepsTime_drive : KeepsTime o true (drive o plan options settings).run := by
  apply (keepsTime_ask mono.start).lift
  intro start
  cases start with
  | stepsFirst => exact keepsTime_steps mono
  | watchFirst pending =>
    apply (keepsTime_watch mono).lift
    intro _
    cases pending with
    | some i => exact keepsTime_interrupt i
    | none => exact keepsTime_steps mono

theorem keepsTime_causeOf (result : Except Stop Unit) : KeepsTime o recording (causeOf o options result) := by
  rcases result with (f | i) | _
  · exact keepsTime_pure _
  · exact (keepsTime_say mono _).bind fun _ => keepsTime_pure _
  · exact keepsTime_pure _

theorem keepsTime_signal (m : Managed) (g : GroupSignal) : KeepsTime o recording (m.signal o g) := by
  apply (keepsTime_note _).bind
  intro _
  exact keepsTime_tell (mono.signalGroup _ _)

theorem keepsTime_isLive (m : Managed) : KeepsTime o recording (m.isLive o) := by
  apply KeepsTime.bind
  · unfold Managed.look
    split
    · apply (keepsTime_ask (mono.viewServer _)).bind
      intro view
      cases view with
      | running => exact keepsTime_pure _
      | ended ending => exact (keepsTime_note _).bind fun _ => keepsTime_pure _
      | unknown reason => exact (keepsTime_note _).bind fun _ => keepsTime_pure _
    · exact keepsTime_pure _
  · intro _
    exact (keepsTime_note _).bind fun _ => keepsTime_pure _

theorem keepsTime_killLeader (m : Managed) : KeepsTime o recording (m.killLeader o) := by
  apply (keepsTime_note _).bind
  intro _
  apply (keepsTime_ask (mono.killLeader _)).bind
  intro answer
  cases answer with
  | none => exact keepsTime_pure _
  | some reason => exact keepsTime_pure _

theorem keepsTime_reap (m : Managed) : KeepsTime o recording (m.reap o) := by
  apply (keepsTime_killLeader mono _).bind
  rintro ⟨fault, m'⟩
  cases fault with
  | some reason => exact keepsTime_pure _
  | none =>
    apply (keepsTime_ask (mono.awaitServer _)).bind
    intro how
    cases how with
    | exited ending => exact keepsTime_pure _
    | lost reason => exact keepsTime_pure _

theorem keepsTime_kill (m : Managed) : KeepsTime o recording (m.kill o) := by
  apply (keepsTime_signal mono _ _).bind
  intro _
  apply (keepsTime_reap mono m).bind
  rintro ⟨fault, m'⟩
  cases fault with
  | none => exact keepsTime_pure _
  | some reason => exact (keepsTime_log mono _).bind fun _ => keepsTime_pure _

theorem keepsTime_terminate (m : Managed) (grace : Nanos) : KeepsTime o recording (m.terminate o grace) := by
  apply (keepsTime_note _).bind
  intro _
  apply (keepsTime_isLive mono m).bind
  rintro ⟨live, m'⟩
  cases live with
  | false => exact (keepsTime_log mono _).bind fun _ => keepsTime_pure _
  | true =>
    apply (keepsTime_log mono _).bind
    intro _
    apply (keepsTime_signal mono _ _).bind
    intro _
    apply (keepsTime_ask (mono.awaitGrace _ _)).bind
    intro answer
    cases answer with
    | ended ending =>
      apply (keepsTime_note _).bind
      intro _
      apply (keepsTime_log mono _).bind
      intro _
      exact (keepsTime_signal mono _ _).bind fun _ => keepsTime_pure _
    | unknown reason =>
      apply (keepsTime_log mono _).bind
      intro _
      exact (keepsTime_kill mono _).bind fun _ => keepsTime_pure _
    | expired =>
      apply (keepsTime_log mono _).bind
      intro _
      exact (keepsTime_kill mono _).bind fun _ => keepsTime_pure _

theorem keepsTime_drop (m : Managed) : KeepsTime o recording (m.drop o) := by
  apply (keepsTime_note _).bind
  intro _
  apply KeepsTime.bind
  · unfold Managed.killLive
    split
    · apply (keepsTime_log mono _).bind
      intro _
      apply (keepsTime_signal mono _ _).bind
      intro _
      exact (keepsTime_killLeader mono _).bind fun _ => keepsTime_pure _
    · exact keepsTime_pure _
  · intro left
    split
    · exact (keepsTime_killLeader mono _).bind fun _ => keepsTime_pure _
    · exact keepsTime_pure _

/-- Cleaning up takes time and records nothing. -/
theorem keepsTime_cleanUp (grace : Nanos) : KeepsTime o recording (cleanUp o options grace) := by
  apply keepsTime_get.bind
  intro s
  cases s.server with
  | none => exact (keepsTime_log mono _).bind fun _ => keepsTime_pure _
  | some server =>
    apply (keepsTime_server none).bind
    intro _
    apply (keepsTime_isLive mono server).bind
    rintro ⟨live, m⟩
    have stopped : KeepsTime o recording (do
        let ended ← m.terminate o grace
        ended.2.drop o
        return ended.1 : Act σ Bool) := by
      apply (keepsTime_terminate mono m grace).bind
      intro ended
      exact (keepsTime_drop mono ended.2).bind fun _ => keepsTime_pure _
    cases live with
    | false => exact stopped
    | true => exact (keepsTime_say mono _).bind fun _ => stopped

theorem keepsTime_announce (cause : Option Failure) : KeepsTime o recording (announce o options cause) := by
  cases cause with
  | none =>
    apply (keepsTime_enter mono _).bind
    intro _
    exact keepsTime_say mono _
  | some f =>
    apply keepsTime_get.bind
    intro _
    apply (keepsTime_say mono _).bind
    intro _
    exact keepsTime_log mono _

end Monotone

/-! ## The report -/

/-- All that a run records is in turn, between its first step and the end that its duration tells. -/
theorem runPlan_inTurn {o : Outside σ} (mono : o.Monotone) (plan : Plan) (options : RunOptions) (settings : Settings)
    (s : σ) :
    InTurn ((opened o plan options s).offset o) (runPlan o plan options settings s).1.report.steps
      (runPlan o plan options settings s).1.report.durationMs := by
  generalize hrun : runPlan o plan options settings s = result
  obtain ⟨outcome, t⟩ := result
  obtain ⟨r, s₁, cause, s₂, terminated, s₃, s₄, durationMs, hdrive, hcause, hclean, hannounce, hoff, rfl⟩ :=
    runPlan_inv hrun
  -- Only the steps record anything, and the duration is read off the clock after the announcement.
  obtain ⟨rs, driven⟩ := (keepsTime_drive mono).ends hdrive
  have named := (keepsTime_causeOf mono r).quiet hcause
  have cleaned := (keepsTime_cleanUp mono _).quiet hclean
  have announced := (keepsTime_announce mono cause).quiet hannounce
  cases hoff
  have whole : Elapses o (opened o plan options s) rs t := by
    simpa using ((driven.trans named).trans cleaned).trans announced
  have recorded : t.recorder.steps = rs := whole.steps
  change InTurn _ t.recorder.steps (t.offset o)
  rw [recorded]
  exact whole.inTurn

/-- The records of a run whose clock does not go back, whatever the world outside answers and whenever a request ends
the run: every step ends no earlier than it begins, no step begins before all that were recorded before it have ended,
and all have ended within the duration that the report gives. -/
theorem records_in_order (o : Outside σ) (mono : o.Monotone) (plan : Plan) (options : RunOptions) (settings : Settings)
    (s : σ) :
    let report := (runPlan o plan options settings s).1.report
    (∀ r ∈ report.steps, r.startedMs ≤ r.finishedMs) ∧
      report.steps.Pairwise (fun r later => r.finishedMs ≤ later.startedMs) ∧
      ∀ r ∈ report.steps, r.finishedMs ≤ report.durationMs := by
  intro report
  have inTurn := runPlan_inTurn mono plan options settings s
  refine ⟨?_, inTurn.apart, ?_⟩
  · intro r hr
    exact (inTurn.within r hr).2.1
  · intro r hr
    exact (inTurn.within r hr).2.2

end Session

/-- An operation on a world with a clock, which takes a while. -/
def ticked {σ α : Type} (tick : Nanos) (operation : σ → α × σ) (w : σ × Nanos) : α × (σ × Nanos) :=
  ((operation w.1).1, (operation w.1).2, w.2 + tick)

/-- An awaited operation on a world with a clock. It takes a while to look at, and a while to wait for. -/
def Operation.ticking {σ α : Type} (tick : Nanos) (op : Operation σ α) : Operation (σ × Nanos) α := fun w =>
  ((op w.1).1.inside (ticked tick), (ticked tick op w).2)

/-- A world in which every operation takes a while. -/
def Outside.ticking {σ : Type} (o : Outside σ) (tick : Nanos) : Outside (σ × Nanos) where
  now w := w.2
  files w := o.files w.1
  start := ticked tick o.start
  install := ticked tick o.install
  print text w := (o.print text w.1, w.2 + tick)
  log e w := (o.log e w.1, w.2 + tick)
  build p args root := (o.build p args root).ticking tick
  spawn r := ticked tick (o.spawn r)
  awaitProbe n p root policy := (o.awaitProbe n p root policy).ticking tick
  awaitDelay n d := (o.awaitDelay n d).ticking tick
  startClient r := ticked tick (o.startClient r)
  piped n stream w := o.piped n stream w.1
  awaitClient n d echo := (o.awaitClient n d echo).ticking tick
  killClient n := (o.killClient n).ticking tick
  dropClient n w := (o.dropClient n w.1, w.2 + tick)
  viewServer n := ticked tick (o.viewServer n)
  awaitServer n := ticked tick (o.awaitServer n)
  awaitGrace n d := ticked tick (o.awaitGrace n d)
  signalGroup n g w := (o.signalGroup n g w.1, w.2 + tick)
  killLeader n := ticked tick (o.killLeader n)

/-- An operation of a ticking world moves its clock on. -/
theorem Operation.ticking_advances {σ α : Type} (op : Operation σ α) (tick : Nanos) :
    (op.ticking tick).Advances Prod.snd := by
  constructor
  · exact fun w => Nat.le_add_right _ _
  · intro w rest h t
    unfold Operation.ticking at h
    cases hlook : (op w.1).1 with
    | ready a =>
      rw [hlook] at h
      cases h
    | goesOn rest' =>
      rw [hlook] at h
      cases h
      exact Nat.le_add_right _ _

/-- No clock of a ticking world goes back. -/
theorem Outside.ticking_monotone {σ : Type} (o : Outside σ) (tick : Nanos) : (o.ticking tick).Monotone := by
  constructor
  all_goals
    intros
    first
      | exact Operation.ticking_advances _ _
      | exact Nat.le_add_right _ _

namespace Session

/-- A build and two queries, of which the second is expected to fail, with three quarters of a millisecond for every
operation. -/
def tickingRun : Outcome × State (Unit × Nanos) :=
  runPlan ((steadyWorld (exits [] 0)).ticking 750000)
    { smallPlan with queries := [{ query := "q" }, { query := "r", expect := some { success := some false } }] }
    { root := ⟨"/"⟩ } { buildProgram := "/bin/cargo" } ((), 0)

/-- The steps of that run, whose last one has failed, are apart and within its duration. -/
theorem ticking_records_in_order :
    ((steadyWorld (exits [] 0)).ticking 750000).Monotone ∧
      tickingRun.1.report.steps.map (fun r => (r.status, r.startedMs, r.finishedMs)) =
        [(.passed, 3, 6), (.passed, 9, 10), (.passed, 12, 13), (.passed, 17, 21), (.failed, 24, 28)] ∧
      tickingRun.1.report.durationMs = 36 ∧
      tickingRun.1.report.steps.Pairwise (fun r later => r.finishedMs ≤ later.startedMs) ∧
      ∀ r ∈ tickingRun.1.report.steps, r.finishedMs ≤ tickingRun.1.report.durationMs := by
  have mono := Outside.ticking_monotone (steadyWorld (exits [] 0)) 750000
  refine ⟨mono, by decide +kernel, by decide +kernel, ?_⟩
  rw [tickingRun]
  exact (records_in_order _ mono _ _ _ _).2

end Session
end Shakedown

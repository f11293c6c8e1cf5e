import Shakedown.Proofs.Session.Schedule

/-!
# The records of a report

The report of a run holds the records of the slots that have passed and, if a step has failed, that of the
failed step after them (`report_ended`). So the recorded steps are a beginning of the schedule, and where a
request has ended the run the step in flight is missing (`steps_follow_schedule`). A run is told to be
interrupted if a request has ended its steps, and in no other case.
-/

namespace Shakedown

/-- The position in the schedule of the step in flight when a request ends the run in a phase. While the
server is starting, that is the await step, since nothing is awaited before it. -/
def Phase.inFlight : Phase → Option Nat
  | .notStarted | .building => some 0
  | .serverStarting => some 2
  | .querying n => some (n + 2)
  | .ready | .done => none

/-- The phase in which a session stops that has passed a number of slots of its schedule and no more. -/
def Phase.stoppedAfter : Nat → Phase
  | 0 => .building
  | 1 | 2 => .serverStarting
  | n + 3 => .querying (n + 1)

/-- A session does not stop before its first phase, once it is ready, or in its last phase. -/
theorem Phase.stoppedAfter_ne (n : Nat) :
    Phase.stoppedAfter n ≠ .notStarted ∧ Phase.stoppedAfter n ≠ .ready ∧ Phase.stoppedAfter n ≠ .done := by
  match n with
  | 0 | 1 | 2 => decide
  | n + 3 => simp [Phase.stoppedAfter]

/-- Except after the build step, the number of passed slots is the position of the step in flight. -/
theorem Phase.inFlight_stoppedAfter {n : Nat} (h : n ≠ 1) : (Phase.stoppedAfter n).inFlight = some n := by
  match n with
  | 0 | 2 => rfl
  | 1 => exact absurd rfl h
  | n + 3 => rfl

namespace Session

variable {σ : Type} (o : Outside σ)

/-! ## From the milestones to the report -/

/-- The phase that a session is in at its end. -/
def lastPhase (es : List Event) : Option Failure → Phase
  | none => .done
  | some _ => (phases es).getLastD .notStarted

/-- The phases that a session enters after its steps. -/
def closingPhases : Option Failure → List Phase
  | none => [.done]
  | some _ => []

/-- The outcome and the journal of a run tell how its steps went. -/
structure Tells (colours : Bool) (outcome : Outcome) (journal driven : List Event) (r : Except Stop Unit) : Prop where
  told : ∃ rest, milestones colours journal = driven ++ rest ∧ About [.step, .exit, .cleanUp, .console] rest
  cause : outcome.cause = stopCause r
  steps : outcome.report.steps = records driven
  interruptions : interruptions journal = interruptions driven
  phase : outcome.report.phase = lastPhase driven (stopCause r)
  entered : phases journal = phases driven ++ closingPhases (stopCause r)

variable {o} {plan : Plan} {options : RunOptions} {settings : Settings} {outcome : Outcome} {journal : List Event}

theorem RunCourse.tells (h : RunCourse o plan options settings outcome journal) :
    ∃ driven r m, DriveCourse o plan options settings none driven r m ∧ Tells options.colours outcome journal driven r := by
  cases h with
  | @ran driven cleaned journal r m terminated phase durationMs drive clean told =>
    refine ⟨driven, r, m, drive, ?_⟩
    have rest : ∃ rest, milestones options.colours journal = driven ++ rest ∧
        About [.step, .exit, .cleanUp, .console] rest :=
      ⟨_, by rw [told, List.append_assoc],
        (clean.about.mono (by simp)).append ((announcement_about _ _ _).mono (by simp))⟩
    -- Letting go of the server leaves the records and the phase as they are.
    have hr : records cleaned = [] := clean.about.records_nil (by simp)
    have hp : phases cleaned = [] := clean.about.phases_nil (by simp)
    have calm : interruptions journal = interruptions driven := by
      rw [← interruptions_milestones (c := options.colours), told, interruptions_append, interruptions_append,
        clean.about.interruptions_nil (by simp), (announcement_about _ _ _).interruptions_nil (by simp),
        List.append_nil, List.append_nil]
    have entered : phases journal = phases driven ++ closingPhases (stopCause r) := by
      rw [← phases_milestones (c := options.colours), told, phases_append, phases_append, hp, List.append_nil]
      cases stopCause r with
      | none => rfl
      | some f => rfl
    rw [told, foldl_see]
    simp only [records_append, phases_append, hr, hp, List.append_nil, Recorder.new, List.nil_append]
    refine ⟨rest, rfl, ?_, calm, ?_, entered⟩
    · cases stopCause r with
      | none => exact List.append_nil _
      | some f => exact List.append_nil _
    · cases stopCause r with
      | none => exact List.getLastD_concat ..
      | some f => exact congrArg (List.getLastD · _) (List.append_nil _)

theorem Tells.mem {colours : Bool} {driven : List Event} {r : Except Stop Unit}
    (h : Tells colours outcome journal driven r) : ∀ e ∈ driven, e ∈ journal := by
  obtain ⟨rest, hm, -⟩ := h.told
  intro e he
  have hmem : e ∈ milestones colours journal := by
    rw [hm]
    exact List.mem_append_left _ he
  exact (List.mem_filter.mp hmem).1

/-- What a report says of failure is what is behind it. -/
theorem RunCourse.consistent (h : RunCourse o plan options settings outcome journal) :
    outcome.report.passed = outcome.cause.isNone ∧
      outcome.report.failure = outcome.cause.map (fun f => ⟨f.kind, f.message⟩) ∧
      outcome.report.exitCode = (outcome.cause.map Failure.exitCode).getD 0 := by
  cases h with
  | ran => exact ⟨rfl, rfl, rfl⟩

/-! ## How a run ends -/

/-- How a run ends: with all slots passed, with a slot that has failed, or with a request to end it. -/
inductive Ended (o : Outside σ) (journal : List Event) (slots : List Slot) (outcome : Outcome) : Prop
  | passed (cause : outcome.cause = none) (phase : outcome.report.phase = .done)
      (undisturbed : interruptions journal = [])
      (steps : outcome.report.steps.map outline = slots.map Slot.shape) : Ended o journal slots outcome
  | failed {before after : List Slot} {slot : Slot} {passed : List StepRecord} {f : Failure}
      (startedMs finishedMs : Nat) (cause : outcome.cause = some f) (phase : outcome.report.phase ≠ .done)
      (undisturbed : interruptions journal = [])
      (here : slots = before ++ slot :: after) (fine : passed.map outline = before.map Slot.shape)
      (steps : outcome.report.steps = passed ++
        [⟨slot.kind, slot.name, .failed, startedMs, finishedMs, f.childCode, some f.message⟩])
      (runs : slot.good = .passed) (raises : Raises o journal slot.kind f) : Ended o journal slots outcome
  | interrupted {before after : List Slot} {slot : Slot} {i : Interrupt}
      (cause : outcome.cause = some (.interrupted i)) (phase : outcome.report.phase ≠ .done)
      (requested : o.Requests i) (told : interruptions journal = [i])
      (here : slots = before ++ slot :: after)
      (steps : outcome.report.steps.map outline = before.map Slot.shape)
      (inFlight : outcome.report.phase.inFlight = some before.length) : Ended o journal slots outcome

theorem mapIdx_split {qs : List QueryStep} {before after : List Slot} {slot : Slot}
    (h : qs.mapIdx querySlot = before ++ slot :: after) : ∃ q, slot = querySlot before.length q := by
  have hs : (qs.mapIdx querySlot)[before.length]? = some slot := by
    rw [h, List.getElem?_append_right (Nat.le_refl _), Nat.sub_self]
    rfl
  rw [List.getElem?_mapIdx, Option.map_eq_some_iff] at hs
  obtain ⟨q, -, hq⟩ := hs
  exact ⟨q, hq.symm⟩

/-- A session that a slot stops is in the phase that belongs to the number of slots before it. -/
theorem phase_stopped {before after : List Slot} {slot : Slot}
    (h : schedule plan options settings = before ++ slot :: after) :
    (before.flatMap Slot.visits ++ slot.opening).getLastD .notStarted = .stoppedAfter before.length := by
  -- The first three slots are those of the build, the launch and the await step; all others are of queries.
  match before, h with
  | [], h =>
    cases h
    rfl
  | [_], h =>
    cases h
    rfl
  | [_, _], h =>
    cases h
    rfl
  | _ :: _ :: _ :: before, h =>
    simp only [schedule, List.cons_append, List.cons.injEq] at h
    obtain ⟨-, -, -, h⟩ := h
    obtain ⟨q, rfl⟩ := mapIdx_split h
    simp only [querySlot, List.getLastD_concat]
    rfl

/-- A session is in the phase of the slot that it has reached, and that phase is not the last one. -/
theorem phase_reached {before after : List Slot} {slot : Slot}
    (h : schedule plan options settings = before ++ slot :: after) :
    let phase := (before.flatMap Slot.visits ++ slot.opening).getLastD .notStarted
    phase ≠ .done ∧ (slot.kind ≠ .launch → phase.inFlight = some before.length) := by
  rw [phase_stopped h]
  refine ⟨(Phase.stoppedAfter_ne _).2.2, fun hk => Phase.inFlight_stoppedAfter fun hone => ?_⟩
  -- Only the slot of the launch stands right after the first one.
  obtain ⟨first, rfl⟩ := List.length_eq_one_iff.mp hone
  cases h
  exact hk rfl

theorem report_ended (h : RunCourse o plan options settings outcome journal) :
    Ended o journal (schedule plan options settings) outcome := by
  obtain ⟨driven, r, m, drive, tells⟩ := h.tells
  rcases drive_trail drive with trail | ⟨i, rfl, rfl, requested⟩
  -- A session that has begun runs its schedule to the end, or up to a slot that stops it.
  · rcases trail.split with
      ⟨rfl, hrs, hps, hcalm⟩ | ⟨before, slot, after, es₁, es₂, e, here, rfl, rfl, hrs, hps, hcalm, stop⟩
    · refine .passed tells.cause tells.phase ?_ ?_
      · rw [tells.interruptions, hcalm]
      · rw [tells.steps]
        exact hrs
    · have reached := phase_reached here
      cases stop with
      | failed startedMs finishedMs opening undisturbed record runs raises =>
        have hp := tells.phase
        rw [stopCause, lastPhase, phases_append, hps, opening] at hp
        refine .failed startedMs finishedMs tells.cause ?_ ?_ here hrs ?_ runs
          (raises.mono fun e he => tells.mem e (List.mem_append_right _ he))
        · rw [hp]
          exact reached.1
        · rw [tells.interruptions, interruptions_append, hcalm, undisturbed, List.append_nil]
        · rw [tells.steps, records_append, record]
      | interrupted requested told opening record runs waits =>
        have hp := tells.phase
        rw [stopCause, lastPhase, phases_append, hps, opening] at hp
        refine .interrupted tells.cause ?_ requested ?_ here ?_ ?_
        · rw [hp]
          exact reached.1
        · rw [tells.interruptions, interruptions_append, hcalm, told, List.nil_append]
        · rw [tells.steps, records_append, record, List.append_nil]
          exact hrs
        · rw [hp]
          exact reached.2 waits
  -- A request that comes before the first step leaves the whole schedule to be done.
  · have hp := tells.phase
    rw [stopCause, lastPhase] at hp
    refine .interrupted tells.cause ?_ requested ?_ (List.nil_append (_ :: _)).symm ?_ ?_
    · rw [hp]
      show Phase.notStarted ≠ .done
      decide
    · rw [tells.interruptions]
      rfl
    · rw [tells.steps]
      rfl
    · rw [hp]
      rfl

/-! ## The recorded steps -/

/-- No step fails with a request to end the run. -/
theorem Raises.kind_ne {es : List Event} {kind : StepKind} {f : Failure} (h : Raises o es kind f) : f.kind ≠ .interrupt := by
  cases h with
  | judged answer told h =>
    rcases judge_error h with ⟨-, rfl⟩ | ⟨reason, -, rfl⟩ | ⟨i, -, hc⟩
    · simp [Failure.kind]
    · simp [Failure.kind]
    · obtain ⟨tail, rfl, -⟩ | ⟨text, rfl⟩ := Invocation.check_error hc
      all_goals simp [Failure.kind]
  | _ => simp [Failure.kind]

/-- Only the build step is skipped, and it is if there is nothing to build. -/
theorem good_of_mem_schedule {slot : Slot} (h : slot ∈ schedule plan options settings) :
    slot.good = if slot.kind = .build ∧ buildCommand? plan options settings = none then .skipped else .passed := by
  simp only [schedule, List.mem_cons, List.mem_mapIdx] at h
  rcases h with rfl | rfl | rfl | ⟨i, hi, rfl⟩
  · cases hc : buildCommand? plan options settings <;> simp [buildSlot, hc]
  · rfl
  · rfl
  · rfl

theorem good_ne_failed {slot : Slot} (h : slot ∈ schedule plan options settings) : slot.good ≠ .failed := by
  rw [good_of_mem_schedule h]
  split <;> simp

theorem buildCommand_none_iff :
    buildCommand? plan options settings = none ↔
      options.skipBuild = true ∨ BuildCommand.ofPlan? plan settings.buildProgram = none := by
  cases hs : options.skipBuild <;> simp [buildCommand?, hs]

theorem schedule_headings :
    (schedule plan options settings).map (fun slot => (slot.kind, slot.name)) =
      (.build, buildName plan options settings) :: (.launch, plan.server.target.name) ::
        (.await, awaitName plan settings) :: plan.queries.mapIdx fun i q => (.query, q.displayName i) := by
  have hq : (plan.queries.mapIdx querySlot).map (fun slot => (slot.kind, slot.name)) =
      plan.queries.mapIdx fun i q => (.query, q.displayName i) := by
    refine List.ext_getElem? fun i => ?_
    rw [List.getElem?_map, List.getElem?_mapIdx, List.getElem?_mapIdx, Option.map_map]
    rfl
  simp [schedule, buildSlot, launchSlot, awaitSlot, hq]

section Outlines

variable {rs : List StepRecord} {before : List Slot}

theorem outline_slot (h : rs.map outline = before.map Slot.shape) {r : StepRecord} (hr : r ∈ rs) :
    ∃ slot ∈ before, r.kind = slot.kind ∧ r.status = slot.good := by
  have hm : outline r ∈ before.map Slot.shape := h ▸ List.mem_map_of_mem hr
  obtain ⟨slot, hslot, ho⟩ := List.mem_map.mp hm
  simp only [Slot.shape, outline, Prod.mk.injEq] at ho
  exact ⟨slot, hslot, ho.1.symm, ho.2.2.symm⟩

theorem outline_headings (h : rs.map outline = before.map Slot.shape) :
    rs.map (fun r => (r.kind, r.name)) = before.map fun slot => (slot.kind, slot.name) := by
  have hh := congrArg (List.map fun shape : StepKind × String × StepStatus => (shape.1, shape.2.1)) h
  simpa [outline, Slot.shape, Function.comp_def] using hh

theorem outline_length (h : rs.map outline = before.map Slot.shape) : rs.length = before.length := by
  simpa using congrArg List.length h

theorem outline_unfailed (h : rs.map outline = before.map Slot.shape) (good : ∀ slot ∈ before, slot.good ≠ .failed) :
    ∀ r ∈ rs, r.status ≠ .failed := by
  intro r hr
  obtain ⟨slot, hslot, -, hs⟩ := outline_slot h hr
  rw [hs]
  exact good slot hslot

end Outlines

namespace Ended

variable {slots : List Slot}

theorem headings (h : Ended o journal slots outcome) :
    outcome.report.steps.map (fun r => (r.kind, r.name)) <+: slots.map fun slot => (slot.kind, slot.name) := by
  cases h with
  | passed cause phase undisturbed steps =>
    exact ⟨[], by rw [List.append_nil, outline_headings steps]⟩
  | failed startedMs finishedMs cause phase undisturbed here fine steps runs raises =>
    rw [steps, List.map_append, outline_headings fine, here, List.map_append, List.prefix_append_right_inj]
    exact List.prefix_append [_] _
  | interrupted cause phase requested told here steps =>
    rw [outline_headings steps, here, List.map_append]
    exact List.prefix_append _ _

/-- Every record is that of a slot, which it shows as passed or as failed. -/
theorem record_slot (h : Ended o journal slots outcome) {r : StepRecord} (hr : r ∈ outcome.report.steps) :
    ∃ slot ∈ slots, r.kind = slot.kind ∧ (r.status = slot.good ∨ r.status = .failed ∧ slot.good = .passed) := by
  cases h with
  | passed cause phase undisturbed steps =>
    obtain ⟨slot, hslot, hk, hs⟩ := outline_slot steps hr
    exact ⟨slot, hslot, hk, Or.inl hs⟩
  | @failed before after slot passed f startedMs finishedMs cause phase undisturbed here fine steps runs raises =>
    rw [steps] at hr
    rcases List.mem_append.mp hr with hr | hr
    · obtain ⟨other, ho, hk, hs⟩ := outline_slot fine hr
      exact ⟨other, here ▸ List.mem_append_left _ ho, hk, Or.inl hs⟩
    · rw [List.mem_singleton.mp hr]
      exact ⟨slot, by simp [here], rfl, Or.inr ⟨rfl, runs⟩⟩
  | interrupted cause phase requested told here steps =>
    obtain ⟨slot, hslot, hk, hs⟩ := outline_slot steps hr
    exact ⟨slot, here ▸ List.mem_append_left _ hslot, hk, Or.inl hs⟩

/-- Every record but the last is that of a slot which has passed. -/
theorem before_last (h : Ended o journal slots outcome) {r : StepRecord} (hr : r ∈ outcome.report.steps.dropLast) :
    ∃ slot ∈ slots, r.kind = slot.kind ∧ r.status = slot.good := by
  cases h with
  | passed cause phase undisturbed steps => exact outline_slot steps (List.dropLast_subset _ hr)
  | failed startedMs finishedMs cause phase undisturbed here fine steps runs raises =>
    rw [steps, List.dropLast_concat] at hr
    obtain ⟨slot, hslot, hk, hs⟩ := outline_slot fine hr
    exact ⟨slot, here ▸ List.mem_append_left _ hslot, hk, hs⟩
  | interrupted cause phase requested told here steps =>
    obtain ⟨slot, hslot, hk, hs⟩ := outline_slot steps (List.dropLast_subset _ hr)
    exact ⟨slot, here ▸ List.mem_append_left _ hslot, hk, hs⟩

theorem passed_iff (h : Ended o journal slots outcome) (good : ∀ slot ∈ slots, slot.good ≠ .failed) :
    outcome.cause = none ↔
      outcome.report.steps.length = slots.length ∧ ∀ r ∈ outcome.report.steps, r.status ≠ .failed := by
  cases h with
  | passed cause phase undisturbed steps => exact ⟨fun _ => ⟨outline_length steps, outline_unfailed steps good⟩, fun _ => cause⟩
  | failed startedMs finishedMs cause phase undisturbed here fine steps runs raises =>
    rw [cause, steps]
    constructor
    · intro hc
      cases hc
    · rintro ⟨-, hs⟩
      exact absurd rfl (hs _ (List.mem_append_right _ (List.mem_singleton_self _)))
  | @interrupted before after slot i cause phase requested told here steps =>
    rw [cause, outline_length steps, here]
    constructor
    · intro hc
      cases hc
    · rintro ⟨hl, -⟩
      simp at hl

/-- A run that fails without a request to end it has one failed record, its last, which tells the failure. -/
theorem failed_last (h : Ended o journal slots outcome) (good : ∀ slot ∈ slots, slot.good ≠ .failed) {f : Failure}
    (hc : outcome.cause = some f) (hk : f.kind ≠ .interrupt) :
    ∃ before last, outcome.report.steps = before ++ [last] ∧ (∀ r ∈ before, r.status ≠ .failed) ∧
      last.status = .failed ∧ last.detail = some f.message := by
  cases h with
  | passed cause => rw [cause] at hc; cases hc
  | failed startedMs finishedMs cause phase undisturbed here fine steps runs raises =>
    rw [cause] at hc
    cases hc
    refine ⟨_, _, steps, ?_, rfl, rfl⟩
    exact outline_unfailed fine fun slot hslot => good slot (here ▸ List.mem_append_left _ hslot)
  | interrupted cause =>
    rw [cause] at hc
    cases hc
    exact absurd rfl hk

/-- A run that a request has ended has no failed record, and none for the step in flight. -/
theorem interrupted_steps (h : Ended o journal slots outcome) (good : ∀ slot ∈ slots, slot.good ≠ .failed) {f : Failure}
    (hc : outcome.cause = some f) (hk : f.kind = .interrupt) :
    (∀ r ∈ outcome.report.steps, r.status ≠ .failed) ∧
      outcome.report.phase.inFlight = some outcome.report.steps.length ∧
      outcome.report.steps.length < slots.length := by
  cases h with
  | passed cause => rw [cause] at hc; cases hc
  | failed startedMs finishedMs cause phase undisturbed here fine steps runs raises =>
    rw [cause] at hc
    cases hc
    exact absurd hk raises.kind_ne
  | interrupted cause phase requested told here steps inFlight =>
    refine ⟨?_, ?_, ?_⟩
    · exact outline_unfailed steps fun slot hslot => good slot (here ▸ List.mem_append_left _ hslot)
    · rw [inFlight, outline_length steps]
    · rw [outline_length steps, here]
      simp

/-- A request that has ended the steps was given, and the run is told to have ended with it. -/
theorem interruption_told (h : Ended o journal slots outcome) {i : Interrupt} (hi : i ∈ interruptions journal) :
    o.Requests i ∧ outcome.cause = some (.interrupted i) := by
  cases h with
  | passed cause phase undisturbed => rw [undisturbed] at hi; cases hi
  | failed startedMs finishedMs cause phase undisturbed => rw [undisturbed] at hi; cases hi
  | interrupted cause phase requested told =>
    rw [told, List.mem_singleton] at hi
    subst hi
    exact ⟨requested, cause⟩

/-- A run that is told to have ended with a request was ended by one. -/
theorem interruption_of_kind (h : Ended o journal slots outcome) {f : Failure} (hc : outcome.cause = some f)
    (hk : f.kind = .interrupt) : ∃ i, i ∈ interruptions journal ∧ f = .interrupted i := by
  cases h with
  | passed cause => rw [cause] at hc; cases hc
  | failed startedMs finishedMs cause phase undisturbed here fine steps runs raises =>
    rw [cause] at hc
    cases hc
    exact absurd hk raises.kind_ne
  | interrupted cause phase requested told =>
    rw [cause] at hc
    cases hc
    exact ⟨_, by rw [told]; exact List.mem_singleton_self _, rfl⟩

end Ended

/-- What the recorded steps of a run say, whatever the world outside answers and whenever a request ends
the run: they are a beginning of the schedule; all but the last have passed, or are a build step that was
skipped because there was nothing to build; the run has passed if all steps are there and none has failed;
a run that does not pass has a failure; one that fails ends with the one failed step, which tells that
failure; and one that a request has ended has no failed step and none for the step in flight. The failure is
an interrupt if the steps were ended by a request, which then was given, and in no other case. -/
theorem steps_follow_schedule (o : Outside σ) (plan : Plan) (options : RunOptions) (settings : Settings) (s : σ) :
    let report := (runPlan o plan options settings s).1.report
    let journal := (runPlan o plan options settings s).2.journal
    report.steps.map (fun r => (r.kind, r.name)) <+:
        (.build, buildName plan options settings) :: (.launch, plan.server.target.name) ::
          (.await, awaitName plan settings) :: plan.queries.mapIdx (fun i q => (.query, q.displayName i)) ∧
      (∀ r ∈ report.steps.dropLast, r.status = .passed ∨ r.status = .skipped ∧ r.kind = .build) ∧
      (∀ r ∈ report.steps, r.status = .skipped ↔
        r.kind = .build ∧ (options.skipBuild = true ∨ BuildCommand.ofPlan? plan settings.buildProgram = none)) ∧
      (report.passed = true ↔
        report.steps.length = plan.queries.length + 3 ∧ ∀ r ∈ report.steps, r.status ≠ .failed) ∧
      (report.passed = false → report.failure ≠ none) ∧
      (∀ failure, report.failure = some failure → failure.kind ≠ .interrupt →
        ∃ before last, report.steps = before ++ [last] ∧ (∀ r ∈ before, r.status ≠ .failed) ∧
          last.status = .failed ∧ last.detail = some failure.message) ∧
      (∀ failure, report.failure = some failure → failure.kind = .interrupt →
        (∀ r ∈ report.steps, r.status ≠ .failed) ∧ report.phase.inFlight = some report.steps.length ∧
          report.steps.length < plan.queries.length + 3) ∧
      (∀ failure, report.failure = some failure → failure.kind = .interrupt → ∃ i, .interrupted i ∈ journal) ∧
      ∀ i, .interrupted i ∈ journal →
        o.Requests i ∧ report.failure = some ⟨.interrupt, (Failure.interrupted i).message⟩ := by
  intro report journal
  have course := runPlan_takes plan options settings o s
  have ended := report_ended course
  obtain ⟨hpassed, hfailure, -⟩ := course.consistent
  have good : ∀ slot ∈ schedule plan options settings, slot.good ≠ .failed := fun _ => good_ne_failed
  -- Each part is read off the slots of the schedule that the records fill.
  refine ⟨?_, ?_, ?_, ?_, ?_, ?_, ?_, ?_, ?_⟩
  · rw [← schedule_headings]
    exact ended.headings
  · intro r hr
    obtain ⟨slot, hslot, hk, hs⟩ := ended.before_last hr
    rw [hs, hk, good_of_mem_schedule hslot]
    split
    case isTrue h => exact Or.inr ⟨rfl, h.1⟩
    case isFalse => exact Or.inl rfl
  · intro r hr
    obtain ⟨slot, hslot, hk, hs⟩ := ended.record_slot hr
    have hg := good_of_mem_schedule hslot
    rw [hk, ← buildCommand_none_iff]
    split at hg
    case isTrue h =>
      rcases hs with hs | ⟨-, hp⟩
      · simp [hs, hg, h]
      · rw [hg] at hp
        cases hp
    case isFalse h =>
      rcases hs with hs | ⟨hs, -⟩
      · simp [hs, hg, h]
      · simp [hs, h]
  · rw [hpassed, Option.isNone_iff_eq_none, ended.passed_iff good, schedule_length]
  · intro hp hf
    rw [hfailure, Option.map_eq_none_iff] at hf
    rw [hpassed, hf] at hp
    cases hp
  · intro failure hf hk
    rw [hfailure] at hf
    obtain ⟨f, hc, rfl⟩ := Option.map_eq_some_iff.mp hf
    exact ended.failed_last good hc hk
  · intro failure hf hk
    rw [hfailure] at hf
    obtain ⟨f, hc, rfl⟩ := Option.map_eq_some_iff.mp hf
    have hi := ended.interrupted_steps good hc hk
    rwa [schedule_length] at hi
  · intro failure hf hk
    rw [hfailure] at hf
    obtain ⟨f, hc, rfl⟩ := Option.map_eq_some_iff.mp hf
    obtain ⟨i, hi, -⟩ := ended.interruption_of_kind hc hk
    exact ⟨i, mem_interruptions.mp hi⟩
  · intro i hi
    obtain ⟨requested, cause⟩ := ended.interruption_told (mem_interruptions.mpr hi)
    refine ⟨requested, ?_⟩
    rw [hfailure, cause]
    rfl

end Session
end Shakedown

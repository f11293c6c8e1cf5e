import Mathlib.Data.List.Basic
import Mathlib.Data.List.Nodup
import Shakedown.Proofs.Session.Records

/-!
# The phases of a session

A session goes through the phases of its plan in order (`Plan.phases`): it skips none and comes back to none.
Where it stops is told by its records as well: the phase of a report follows from the number of steps that were
recorded as passed or skipped (`phase_follows_records`). Phases and records are both read off the trail of the
steps, which is cut at the slot that has stopped the session.
-/

namespace Shakedown

/-- The phases that a run of a plan enters, if nothing stops it. -/
def Plan.phases (plan : Plan) : List Phase :=
  [.building, .serverStarting, .ready] ++ (List.range' 1 plan.queries.length).map .querying ++ [.done]

theorem Plan.phases_nodup (plan : Plan) : plan.phases.Nodup := by
  have queried : ((List.range' 1 plan.queries.length).map Phase.querying).Nodup := by
    refine List.Nodup.map ?_ List.nodup_range'
    intro a b h
    injection h
  simp +contextual [Plan.phases, List.nodup_append, queried, eq_comm]

namespace Session

variable {σ : Type} {o : Outside σ} {plan : Plan} {options : RunOptions} {settings : Settings}

theorem querySlot_visits (i : Nat) (qs : List QueryStep) :
    (qs.mapIdx fun k q => querySlot (i + k) q).flatMap Slot.visits = (List.range' (i + 1) qs.length).map .querying := by
  induction qs generalizing i with
  | nil => rfl
  | cons q rest ih =>
    -- The positions of the rest are counted from one further on.
    have shift : (fun k q => querySlot (i + (k + 1)) q) = fun k q => querySlot (i + 1 + k) q := by
      funext k q
      rw [Nat.add_right_comm, Nat.add_assoc]
    rw [List.mapIdx_cons, shift, List.flatMap_cons, ih, List.length_cons, List.range'_succ, List.map_cons]
    rfl

/-- The slots of a schedule visit the phases of the plan, up to the last one. -/
theorem schedule_visits :
    (schedule plan options settings).flatMap Slot.visits ++ [.done] = plan.phases := by
  have queried := querySlot_visits 0 plan.queries
  simp only [Nat.zero_add] at queried
  simp [schedule, Plan.phases, queried, Slot.visits, buildSlot, launchSlot, awaitSlot]

/-! ## How far a run has come -/

/-- The phases of a run, its result, and the records of it, as far as it has come: to its end, up to a slot that
has stopped it, or not even to the first slot. -/
inductive Reached (plan : Plan) (outcome : Outcome) (entered : List Phase) : Prop
  | ended (phases : entered = plan.phases) (passed : outcome.report.passed = true)
      (phase : outcome.report.phase = .done) : Reached plan outcome entered
  | stopped (good : Nat) (within : good < plan.queries.length + 3) (follows : entered <+: plan.phases)
      (passed : outcome.report.passed = false)
      (counted : outcome.report.steps.countP (fun r => r.status = .passed ∨ r.status = .skipped) = good)
      (phase : outcome.report.phase = .stoppedAfter good) : Reached plan outcome entered
  | unbegun (phases : entered = []) (passed : outcome.report.passed = false) (steps : outcome.report.steps = [])
      (phase : outcome.report.phase = .notStarted) : Reached plan outcome entered

theorem counted_good {rs : List StepRecord} {before : List Slot} (h : rs.map outline = before.map Slot.shape)
    (good : ∀ slot ∈ before, slot.good ≠ .failed) :
    rs.countP (fun r => r.status = .passed ∨ r.status = .skipped) = before.length := by
  rw [← outline_length h, List.countP_eq_length]
  intro r hr
  have unfailed := outline_unfailed h good r hr
  cases hs : r.status with
  | passed => simp
  | skipped => simp
  | failed => exact absurd hs unfailed

/-- A slot that stops a session adds no record of a step that was passed or skipped, and enters its phase. -/
theorem Slot.Stopped.uncounted {slot : Slot} {es : List Event} {e : Stop} (h : slot.Stopped o es e) :
    phases es = slot.opening ∧ (records es).countP (fun r => r.status = .passed ∨ r.status = .skipped) = 0 := by
  cases h with
  | failed startedMs finishedMs opening undisturbed record => simp [opening, record]
  | interrupted requested told opening record => simp [opening, record]

theorem RunCourse.reached {outcome : Outcome} {journal : List Event}
    (h : RunCourse o plan options settings outcome journal) : Reached plan outcome (phases journal) := by
  have consistent := h.consistent.1
  obtain ⟨driven, r, m, drive, tells⟩ := h.tells
  have hcause := tells.cause
  have hphase := tells.phase
  have entered := tells.entered
  rcases drive_trail drive with trail | ⟨i, rfl, rfl, -⟩
  -- The trail goes through all slots of the schedule, or up to one that stops it.
  · rcases trail.split with
      ⟨rfl, hrs, hps, -⟩ | ⟨before, slot, after, es₁, es₂, e, here, rfl, rfl, hrs, hps, -, stop⟩
    · refine .ended ?_ ?_ hphase
      · rw [entered, hps]
        exact schedule_visits
      · rw [consistent, hcause]
        rfl
    -- The phases up to the slot that stops the session are a beginning of those of the whole schedule.
    · obtain ⟨opening, uncounted⟩ := stop.uncounted
      obtain ⟨f, hf⟩ : ∃ f, stopCause (.error e) = some f := by
        cases e with
        | failed f => exact ⟨f, rfl⟩
        | interrupted i => exact ⟨_, rfl⟩
      have hlast := phase_stopped here
      rw [hf, closingPhases, List.append_nil, phases_append, hps, opening] at entered
      rw [hf, lastPhase, phases_append, hps, opening, hlast] at hphase
      refine .stopped before.length ?_ ?_ ?_ ?_ hphase
      · have hlen := congrArg List.length here
        simp only [schedule_length, List.length_append, List.length_cons] at hlen
        omega
      · have hall : (schedule plan options settings).flatMap Slot.visits ++ [.done] = plan.phases := schedule_visits
        rw [entered, ← hall, here]
        simp [Slot.visits]
      · rw [consistent, hcause, hf]
        rfl
      · have good : ∀ slot ∈ before, slot.good ≠ .failed := by
          intro slot' hslot
          have hmem : slot' ∈ schedule plan options settings := here ▸ List.mem_append_left _ hslot
          exact good_ne_failed hmem
        rw [tells.steps, records_append, List.countP_append, uncounted, counted_good hrs good, Nat.add_zero]
  · refine .unbegun entered ?_ tells.steps hphase
    rw [consistent, hcause]
    rfl

theorem Reached.follows {outcome : Outcome} {entered : List Phase} (h : Reached plan outcome entered) :
    entered <+: plan.phases := by
  cases h with
  | ended phases => exact phases ▸ List.prefix_refl _
  | stopped good within follows => exact follows
  | unbegun phases => exact phases ▸ List.nil_prefix

/-- A report tells the last phase that its run has entered. -/
theorem RunCourse.phase_last {outcome : Outcome} {journal : List Event}
    (h : RunCourse o plan options settings outcome journal) :
    outcome.report.phase = (phases journal).getLastD .notStarted := by
  obtain ⟨driven, r, m, drive, tells⟩ := h.tells
  rw [tells.phase, tells.entered]
  -- A run that nothing has stopped enters one phase more when it is closed.
  cases stopCause r with
  | none => exact (List.getLastD_concat ..).symm
  | some f => rw [closingPhases, List.append_nil]; rfl

/-- No phase is entered exactly if a request comes before the first step. -/
theorem phases_nil_iff (o : Outside σ) (plan : Plan) (options : RunOptions) (settings : Settings) (s : σ) :
    phases (runPlan o plan options settings s).2.journal = [] ↔
      ∃ i, (o.start (greeted o plan options s)).1 = .watchFirst (some i) := by
  obtain ⟨driven, cleaned, r, m, terminated, phase, durationMs, drive, begun, clean, told, -⟩ :=
    runPlan_parts plan options settings o s
  rw [← begun, ← phases_milestones (c := options.colours), told, phases_append, phases_append,
    clean.about.phases_nil (by simp), List.append_nil, List.append_eq_nil_iff]
  refine ⟨And.left, fun hnil => ⟨hnil, ?_⟩⟩
  -- Without a phase the steps have not been run, and so a request has ended the run.
  rcases drive_trail drive with trail | ⟨i, -, rfl, -⟩
  · rcases trail.split with ⟨-, -, hps, -⟩ | ⟨before, slot, after, es₁, es₂, e, -, -, rfl, -⟩
    · rw [hps] at hnil
      cases hnil
    · cases e with
      | failed f => rfl
      | interrupted i => rfl
  · rfl

/-- The phases that a run enters, and what its report makes of them, whatever the world outside answers and
whenever a request ends the run. They are a beginning of the phases of the plan, and the report tells the last of
them. It is the phase done exactly if the run has passed. Else the number of steps recorded as passed or skipped
says which it is, unless the request came before the first step: then no phase was entered and no step recorded.
-/
theorem phase_follows_records (o : Outside σ) (plan : Plan) (options : RunOptions) (settings : Settings) (s : σ) :
    let report := (runPlan o plan options settings s).1.report
    let entered := phases (runPlan o plan options settings s).2.journal
    let good := report.steps.countP fun r => r.status = .passed ∨ r.status = .skipped
    entered <+: [.building, .serverStarting, .ready] ++ (List.range' 1 plan.queries.length).map .querying ++ [.done] ∧
      entered.Nodup ∧
      report.phase = entered.getLastD .notStarted ∧
      (report.phase = .done ↔ report.passed = true) ∧
      (report.passed = false → good < plan.queries.length + 3) ∧
      (report.passed = false → good = 0 → report.phase = .building ∨ report.phase = .notStarted) ∧
      (report.passed = false → good = 1 ∨ good = 2 → report.phase = .serverStarting) ∧
      (report.passed = false → 3 ≤ good → report.phase = .querying (good - 2)) ∧
      (report.phase = .notStarted ↔ ∃ i, (o.start (greeted o plan options s)).1 = .watchFirst (some i)) ∧
      (report.phase = .notStarted → report.steps = []) ∧
      report.phase ≠ .ready := by
  intro report entered good
  have course := runPlan_takes plan options settings o s
  have hlast : report.phase = entered.getLastD .notStarted := course.phase_last
  have hstart : entered = [] ↔ ∃ i, (o.start (greeted o plan options s)).1 = .watchFirst (some i) :=
    phases_nil_iff o plan options settings s
  rw [← hstart]
  have follows : entered <+: plan.phases := course.reached.follows
  refine ⟨follows, plan.phases_nodup.sublist follows.sublist, hlast, ?_⟩
  -- A run has come to its end, or a slot has stopped it, or a request came before the first slot.
  cases course.reached with
  | ended phases passed phase =>
    have hp : report.phase = .done := phase
    have hr : report.passed = true := passed
    have hne : entered ≠ [] := by
      intro hnil
      rw [hlast, hnil] at hp
      cases hp
    simp [hp, hr, hne]
  | stopped n within follows passed counted phase =>
    have hp : report.phase = .stoppedAfter n := phase
    have hr : report.passed = false := passed
    have hgood : good = n := counted
    obtain ⟨hstarted, hready, hdone⟩ := Phase.stoppedAfter_ne n
    rw [← hp] at hstarted hready hdone
    have hne : entered ≠ [] := fun hnil => hstarted (by rw [hlast, hnil]; rfl)
    refine ⟨iff_of_false hdone (by simp [hr]), fun _ => hgood ▸ within, ?_, ?_, ?_, iff_of_false hstarted hne,
      fun h => absurd h hstarted, hready⟩
    · rintro - hz
      rw [hp, ← hgood, hz]
      exact Or.inl rfl
    · rintro - (hone | htwo)
      · rw [hp, ← hgood, hone]
        rfl
      · rw [hp, ← hgood, htwo]
        rfl
    · intro _ hle
      obtain ⟨k, hk⟩ := Nat.exists_eq_add_of_le' hle
      rw [hp, ← hgood, hk]
      rfl
  | unbegun phases passed steps phase =>
    have hp : report.phase = .notStarted := phase
    have hs : report.steps = [] := steps
    have hr : report.passed = false := passed
    have hnil : entered = [] := phases
    have hgood : good = 0 := by
      show report.steps.countP _ = 0
      rw [hs]
      rfl
    simp [hp, hs, hr, hnil, hgood]

end Session
end Shakedown

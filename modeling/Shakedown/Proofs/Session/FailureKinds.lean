import Shakedown.Proofs.Session.Verdict

/-!
# The kinds of failure

Where a run stops decides of which kind its failure is (`failure_kind_by_step`). The courses of the steps say
which failures each step can raise, and the records before the failed one say which step it is (`StopsAt`). That
no failure is an internal one needs the server of the session to be followed through the steps: there is none
before the launch, and the one that was launched is there after it.
-/

namespace Shakedown

/-- The kinds of failure of a query. An assertion fails only if the query expects something. -/
inductive QueryStep.FailsWith (q : QueryStep) : FailureKind → Prop
  | client : q.FailsWith .invocation
  | late : q.FailsWith .invocationTimeout
  | unread : q.FailsWith .inputOutput
  | assertion (expects : q.expect.isSome = true) : q.FailsWith .assertion

/-- The kinds of failure of a step of a kind that has a number of steps before it. Readiness is late only if the
plan has a probe and lets a timeout fail the run. -/
inductive Plan.FailsWith (plan : Plan) : Nat → StepKind → FailureKind → Prop
  | build : plan.FailsWith 0 .build .build
  | launch : plan.FailsWith 1 .launch .launch
  | await : plan.FailsWith 2 .await .launch
  | late (given : plan.server.readiness.probe.isSome = true) (fails : plan.server.readiness.onTimeout = .fail) :
      plan.FailsWith 2 .await .readinessTimeout
  | query {i : Nat} {q : QueryStep} {kind : FailureKind} (here : plan.queries[i]? = some q) (fails : q.FailsWith kind) :
      plan.FailsWith (i + 3) .query kind

/-- No step fails with a kind of failure that is about the configuration or the runner itself. -/
theorem Plan.FailsWith.foreseen {plan : Plan} {n : Nat} {step : StepKind} {kind : FailureKind}
    (h : plan.FailsWith n step kind) : kind ≠ .configuration ∧ kind ≠ .internal := by
  cases h with
  | query here fails => cases fails <;> decide
  | _ => decide

namespace Session

variable {σ : Type} {o : Outside σ} {plan : Plan} {options : RunOptions} {settings : Settings} {es es' : List Event}
  {m m' : Option Managed} {f : Failure}

/-! ## The failures of a step -/

/-- A step stops with one of the failures that its body comes to. -/
theorem StepCourse.failure {α : Type} {kind : StepKind} {name : String} {code : α → ExitCode}
    {detail : α → Option String} {given : Interrupt → Prop} {Body : Course (Except Failure α)} (bare : Bare given Body)
    (h : StepCourse kind name code detail Body es (.error (.failed f)) m) :
    ∃ es', Body es' (.ok (.error f)) m := by
  obtain ⟨-, ⟨f, es', -, -, hf, body, -⟩ | ⟨i, hi, -⟩⟩ := h.stopped_inv bare
  · cases hf
    exact ⟨es', body⟩
  · cases hi

theorem BuildCourse.failure_kind (h : BuildCourse o plan options settings m es (.error (.failed f)) m') :
    f.kind = .build := by
  cases h with
  | ran command step =>
    obtain ⟨es', body⟩ := step.failure (BuildEnds.bare _ _)
    cases body <;> rfl

/-- A launch fails as one if the session has no server yet. -/
theorem LaunchCourse.failure_kind (h : LaunchCourse plan none es (.error (.failed f)) m') : f.kind = .launch := by
  cases h with
  | stopped step =>
    obtain ⟨es', body⟩ := step.failure (LaunchEnds.bare _ _)
    cases body with
    | occupied there => cases there
    | failed reason => rfl

theorem AwaitCourse.failure_kind {server : Managed}
    (h : AwaitCourse o plan settings server m es (.error (.failed f)) m') : plan.FailsWith 2 .await f.kind := by
  cases h with
  | stopped step =>
    obtain ⟨es', body⟩ := step.failure (AwaitEnds.bare _ _ _ _)
    cases body with
    | late given fails => exact .late (Option.isSome_of_mem given) fails
    | exited ending => exact .await
    | lost reason => exact .await

/-- A verdict that is a failure is one of the query's. -/
theorem judge_failsWith {q : QueryStep} {name : String} {timeout : Nanos} {seen : List Invocation.Event}
    (h : judge name timeout q.expect seen = .error f) : q.FailsWith f.kind := by
  rcases judge_error h with ⟨-, rfl⟩ | ⟨reason, -, rfl⟩ | ⟨i, -, hc⟩
  · exact .late
  · exact .unread
  · cases he : q.expect with
    | none =>
      rw [he] at hc
      obtain ⟨tail, rfl⟩ := Invocation.check_unexpected hc
      exact .client
    | some e =>
      obtain ⟨tail, rfl, -⟩ | ⟨text, rfl⟩ := Invocation.check_error hc
      · exact .client
      · exact .assertion (by rw [he]; rfl)

theorem QueryCourse.failure_kind {i : Nat} {q : QueryStep} (piped : ∀ pid stream v, o.piped pid stream v = true)
    (h : QueryCourse o plan options settings i q m es (.error (.failed f)) m') : q.FailsWith f.kind := by
  cases h with
  | stopped step =>
    obtain ⟨es', body⟩ := step.failure (QueryEnds.bare _ _ _)
    cases body with
    | unstarted reason => exact .client
    | @unpiped pid stream v program hidden =>
      rw [piped] at hidden
      cases hidden
    | ended program answer judged => exact judge_failsWith judged.symm

/-! ## The step that has failed -/

/-- The records end with that of a failed step of a kind, which tells the failure, after a number of steps that
have not failed. -/
def StopsAt (n : Nat) (kind : StepKind) (f : Failure) (rs : List StepRecord) : Prop :=
  ∃ before last, rs = before ++ [last] ∧ before.length = n ∧ (∀ r ∈ before, r.status ≠ .failed) ∧
    last.kind = kind ∧ last.status = .failed ∧ last.detail = some f.message

theorem Slot.Stopped.stopsAt {slot : Slot} (h : slot.Stopped o es (.failed f)) :
    StopsAt 0 slot.kind f (records es) := by
  cases h with
  | failed startedMs finishedMs opening undisturbed record runs raises =>
    exact ⟨[], _, record, rfl, fun _ hr => (List.not_mem_nil hr).elim, rfl, rfl, rfl⟩

/-- A step that has passed is one more before the one that fails. -/
theorem StopsAt.after {slot : Slot} {n : Nat} {kind : StepKind} (h : StopsAt n kind f (records es'))
    (here : slot.Passed es) (good : slot.good ≠ .failed) : StopsAt (n + 1) kind f (records (es ++ es')) := by
  obtain ⟨before, last, hrs, rfl, unfailed, hkind, hstatus, hdetail⟩ := h
  obtain ⟨r, hr, shape⟩ := here.record
  have hgood : r.status = slot.good := congrArg (·.2.2) shape
  refine ⟨r :: before, last, ?_, rfl, ?_, hkind, hstatus, hdetail⟩
  · rw [records_append, hr, hrs]
    rfl
  · exact List.forall_mem_cons.mpr ⟨hgood ▸ good, unfailed⟩

theorem buildSlot_good : (buildSlot plan options settings).good ≠ .failed :=
  good_ne_failed (List.mem_cons_self ..)

theorem QueriesCourse.failure {i : Nat} {qs : List QueryStep} {r : Except Stop Unit}
    (piped : ∀ pid stream v, o.piped pid stream v = true) (h : QueriesCourse o plan options settings i qs m es r m')
    (hr : r = .error (.failed f)) :
    ∃ k q, qs[k]? = some q ∧ StopsAt k .query f (records es) ∧ q.FailsWith f.kind := by
  -- The induction is on the queries: each that has passed moves the one that fails one place on.
  induction h with
  | done i m => cases hr
  | next first others ih =>
    obtain ⟨k, q, here, stops, fails⟩ := ih hr
    exact ⟨k + 1, q, here, stops.after first.passed_slot (by simp [querySlot]), fails⟩
  | @stopped i q rest m m' es e first =>
    cases hr
    exact ⟨0, q, rfl, first.stopped_slot.stopsAt, first.failure_kind piped⟩

/-- Steps that begin without a server and end with a failure stop at a step that fails with its kind. -/
theorem DriveCourse.failure (piped : ∀ pid stream v, o.piped pid stream v = true)
    (h : DriveCourse o plan options settings none es (.error (.failed f)) m) :
    ∃ n kind, StopsAt n kind f (records es) ∧ plan.FailsWith n kind f.kind := by
  cases h with
  | unbuilt build => exact ⟨0, _, build.stopped_slot.stopsAt, by rw [build.failure_kind]; exact .build⟩
  | unlaunched build launch =>
    -- The build step leaves the session without a server, so the launch finds the place free.
    obtain rfl := build.about.1
    refine ⟨1, _, launch.stopped_slot (o := o).stopsAt.after build.passed_slot buildSlot_good, ?_⟩
    rw [launch.failure_kind]
    exact .launch
  | unready build launch await =>
    have stops := await.stopped_slot.stopsAt.after (launch.passed_slot) (by simp [launchSlot])
    exact ⟨2, _, stops.after build.passed_slot buildSlot_good, await.failure_kind⟩
  | queried build launch await queries =>
    obtain ⟨k, q, here, stops, fails⟩ := queries.failure piped rfl
    have launched := (stops.after await.passed_slot (by simp [awaitSlot])).after launch.passed_slot (by simp [launchSlot])
    exact ⟨k + 3, _, launched.after build.passed_slot buildSlot_good, .query here fails⟩

/-- The kind of a run's failure, whatever the world outside answers and whenever a request ends the run, as long as
the pipes of a client can be had. The run has failed for a request to end it, which was given, and then no step has
failed; or it stops at a step that has failed, the only one and the last, which tells the failure, and the failure is
of a kind that belongs to the step. It is about neither the configuration nor the runner itself. -/
theorem failure_kind_by_step (o : Outside σ) (plan : Plan) (options : RunOptions) (settings : Settings) (s : σ)
    (piped : ∀ pid stream v, o.piped pid stream v = true) :
    let report := (runPlan o plan options settings s).1.report
    let journal := (runPlan o plan options settings s).2.journal
    ∀ failure, report.failure = some failure →
      failure.kind ≠ .configuration ∧ failure.kind ≠ .internal ∧
        (failure.kind = .interrupt ∧ (∃ i, .interrupted i ∈ journal ∧ o.Requests i) ∧
            (∀ r ∈ report.steps, r.status ≠ .failed) ∨
          ∃ before last, report.steps = before ++ [last] ∧ (∀ r ∈ before, r.status ≠ .failed) ∧
            last.status = .failed ∧ last.detail = some failure.message ∧
            plan.FailsWith before.length last.kind failure.kind) := by
  intro report journal failure hfailed
  have course := runPlan_takes plan options settings o s
  obtain ⟨-, hfailure, -⟩ := course.consistent
  rw [hfailure] at hfailed
  obtain ⟨f, hc, rfl⟩ := Option.map_eq_some_iff.mp hfailed
  obtain ⟨driven, r, m, drive, tells⟩ := course.tells
  have hcause : stopCause r = some f := tells.cause.symm.trans hc
  -- Only what stopped the steps can have failed the run: a request, or the failure of a step.
  match r, hcause with
  | .error (.interrupted i), rfl =>
    have good : ∀ slot ∈ schedule plan options settings, slot.good ≠ .failed := fun _ => good_ne_failed
    have ended := report_ended course
    obtain ⟨j, told, -⟩ := ended.interruption_of_kind hc rfl
    exact ⟨by simp [Failure.kind], by simp [Failure.kind],
      Or.inl ⟨rfl, ⟨j, mem_interruptions.mp told, (ended.interruption_told told).1⟩,
        (ended.interrupted_steps good hc rfl).1⟩⟩
  | .error (.failed f), rfl =>
    obtain ⟨n, kind, ⟨before, last, hsteps, rfl, unfailed, rfl, hstatus, hdetail⟩, fails⟩ := drive.failure piped
    obtain ⟨configured, inner⟩ := fails.foreseen
    exact ⟨configured, inner, Or.inr ⟨before, last, tells.steps.trans hsteps, unfailed, hstatus, hdetail, fails⟩⟩

/-- The client of the small plan exits with code three: the run stops at its query, with an invocation error. -/
theorem small_failure_kind :
    ∃ failure before last, (smallRun (exits [] 3)).1.report.failure = some failure ∧
      (smallRun (exits [] 3)).1.report.steps = before ++ [last] ∧
      smallPlan.FailsWith before.length last.kind failure.kind ∧ failure.kind = .invocation := by
  have failed : (smallRun (exits [] 3)).1.report.failure.map (·.kind) = some .invocation := by decide +kernel
  obtain ⟨failure, hfailure, hkind⟩ := Option.map_eq_some_iff.mp failed
  rw [smallRun] at hfailure ⊢
  obtain ⟨-, -, ⟨hinterrupt, -⟩ | ⟨before, last, hsteps, -, -, -, fails⟩⟩ :=
    failure_kind_by_step (steadyWorld (exits [] 3)) smallPlan { root := ⟨"/"⟩, skipBuild := true } {} ()
      (fun _ _ _ => rfl) failure hfailure
  · rw [hkind] at hinterrupt
    cases hinterrupt
  · exact ⟨failure, before, last, hfailure, hsteps, fails, hkind⟩

/-- Without the pipes of a client its query does end with an internal error. -/
example :
    (runPlan { steadyWorld (exits [] 0) with piped := fun _ _ _ => false } smallPlan
      { root := ⟨"/"⟩, skipBuild := true } {} ()).1.report.failure.map (·.kind) = some .internal := by
  decide +kernel

end Session
end Shakedown

import Shakedown.CommandLine.Program
import Shakedown.Proofs.Session.Verdict

/-!
# The exit status of a run

The exit status of the program is the low byte of an exit code. Children of a run end with codes that fit in
a byte, and so no failure is lost on the way: the status is zero exactly if the run has passed, and it tells
apart the failures that the report tells apart (`exit_status_tells`).
-/

namespace Shakedown

/-- The exit codes of children, as the world outside tells them, fit in a byte. -/
structure Outside.ByteCodes {σ : Type} (o : Outside σ) : Prop where
  build (program : Path) (args : List String) (root : Path) (code : Int) :
    (o.build program args root).Yields (.ended (.exited code)) → 0 ≤ code ∧ code ≤ 255
  client (pid : Nat) (timeout : Nanos) (echo : Bool) (seen : List Invocation.Event) (code : Int) :
    (o.awaitClient pid timeout echo).Yields seen → .exited (.exited code) ∈ seen → 0 ≤ code ∧ code ≤ 255

/-- The exit status that a run owes to its failure: the exit code of the child that has failed, if it has
one, and else a number that tells what has happened. -/
def Failure.owed : Failure → Int
  | .build _ (some code) | .invocation _ (some code) _ => code
  | .invocationTimeout .. => 124
  | .interrupted .ctrlC => 130
  | .interrupted .terminate => 143
  | _ => 1

namespace Session

variable {σ : Type} {o : Outside σ} {plan : Plan} {options : RunOptions} {settings : Settings} {outcome : Outcome}
  {journal : List Event} {slots : List Slot}

/-! ## Exit codes of failures -/

/-- The exit code of a failure is what is owed to it, and fits in a byte beside zero. -/
def Pays (f : Failure) : Prop := f.exitCode = f.owed ∧ 0 < f.exitCode ∧ f.exitCode ≤ 255

theorem pays_of_exitCode {f : Failure} {n : Int} (he : f.exitCode = n) (ho : f.owed = n) (hl : 0 < n) (hu : n ≤ 255) :
    Pays f :=
  ⟨he.trans ho.symm, he ▸ hl, he ▸ hu⟩

theorem interrupted_pays (i : Interrupt) : Pays (.interrupted i) := by
  cases i with
  | ctrlC => exact pays_of_exitCode (n := 130) rfl rfl (by decide) (by decide)
  | terminate => exact pays_of_exitCode (n := 143) rfl rfl (by decide) (by decide)

/-- A child that does not succeed and whose exit code fits in a byte makes a failure that passes it on. -/
theorem code_of_failed {ending : Ending} (hs : ending.succeeded = false)
    (hb : ∀ code, ending = .exited code → 0 ≤ code ∧ code ≤ 255) {code : Int} (hc : ending.code? = some code) :
    code ≠ 0 ∧ 0 < code ∧ code ≤ 255 := by
  cases ending with
  | exited c =>
    cases hc
    obtain ⟨hl, hu⟩ := hb _ rfl
    have hz : code ≠ 0 := by
      rintro rfl
      cases hs
    omega
  | signalled n => cases hc

/-- A failed child pays with its exit code, or with one if it has none. -/
theorem child_pays {f : Failure} {code : ExitCode}
    (hf : (∃ command, f = .build command code) ∨ ∃ name tail, f = .invocation name code tail)
    (h : ∀ c, code = some c → c ≠ 0 ∧ 0 < c ∧ c ≤ 255) : Pays f := by
  cases code with
  | none =>
    rcases hf with ⟨command, rfl⟩ | ⟨name, tail, rfl⟩
    all_goals exact pays_of_exitCode (n := 1) rfl rfl (by decide) (by decide)
  | some c =>
    obtain ⟨hz, hl, hu⟩ := h c rfl
    rcases hf with ⟨command, rfl⟩ | ⟨name, tail, rfl⟩
    all_goals exact pays_of_exitCode (if_pos hz) rfl hl hu

theorem Raises.pays (codes : o.ByteCodes) {es : List Event} {kind : StepKind} {f : Failure}
    (h : Raises o es kind f) : Pays f := by
  cases h with
  | @build program root args ending command answer told fails =>
    refine child_pays (Or.inl ⟨_, rfl⟩) fun c hc => code_of_failed fails (fun code he => ?_) hc
    exact codes.build program args root code (he ▸ answer)
  | @judged pid timeout echo seen name expect f answer told h =>
    rcases judge_error h with ⟨-, rfl⟩ | ⟨reason, -, rfl⟩ | ⟨i, hv, hc⟩
    · exact pays_of_exitCode (n := 124) rfl rfl (by decide) (by decide)
    · exact pays_of_exitCode (n := 1) rfl rfl (by decide) (by decide)
    · obtain ⟨tail, rfl, fails⟩ | ⟨text, rfl⟩ := Invocation.check_error hc
      · refine child_pays (Or.inr ⟨_, _, rfl⟩) fun c hc => code_of_failed fails (fun code he => ?_) hc
        exact codes.client pid timeout echo seen code answer (he ▸ Invocation.finished_end hv)
      · exact pays_of_exitCode (n := 1) rfl rfl (by decide) (by decide)
  | _ => exact pays_of_exitCode (n := 1) rfl rfl (by decide) (by decide)

theorem Ended.pays (codes : o.ByteCodes) (h : Ended o journal slots outcome) {f : Failure}
    (hc : outcome.cause = some f) : Pays f := by
  cases h with
  | passed cause =>
    rw [cause] at hc
    cases hc
  | failed startedMs finishedMs cause phase undisturbed here fine steps runs raises =>
    rw [cause] at hc
    cases hc
    exact raises.pays codes
  | interrupted cause =>
    rw [cause] at hc
    cases hc
    exact interrupted_pays _

/-! ## What goes with the exit status -/

theorem Ended.phase_iff (h : Ended o journal slots outcome) : outcome.report.phase = .done ↔ outcome.cause = none := by
  cases h with
  | passed cause phase => exact ⟨fun _ => cause, fun _ => phase⟩
  | failed startedMs finishedMs cause phase =>
    rw [cause]
    exact ⟨fun hp => absurd hp phase, fun hc => nomatch hc⟩
  | interrupted cause phase =>
    rw [cause]
    exact ⟨fun hp => absurd hp phase, fun hc => nomatch hc⟩

/-- The banner of a passed run is printed once by a run that passes, and never by another. -/
theorem RunCourse.passed_banner (h : RunCourse o plan options settings outcome journal) :
    journal.count (.printed (Banner.passed options.colours)) = if outcome.report.passed then 1 else 0 := by
  cases h with
  | @ran driven cleaned _ r m terminated phase durationMs drive clean told =>
    have hmark : (Event.printed (Banner.passed options.colours)).isMilestone options.colours = true :=
      Banner.closes_passed _
    have hdriven : .printed (Banner.passed options.colours) ∉ driven := drive.custody.about.not_mem (by simp)
    have hcleaned : .printed (Banner.passed options.colours) ∉ cleaned := clean.about.not_mem (by simp)
    rw [← List.count_filter hmark, ← milestones, told, List.count_append, List.count_append,
      List.count_eq_zero.mpr hdriven, List.count_eq_zero.mpr hcleaned]
    cases hc : stopCause r with
    | none => simp [Recorder.toReport, announcement]
    | some f => simp [Recorder.toReport, announcement, Banner.failed_ne_passed]

/-- The last step of a run has failed, with a child that ended with an exit code or by a signal. -/
def FailedOn (report : RunReport) (kind : StepKind) (code : ExitCode) : Prop :=
  ∃ before last, report.steps = before ++ [last] ∧ last.kind = kind ∧ last.status = .failed ∧ last.exitCode = code ∧
    ∀ c, code = some c → report.exitCode = c

theorem Raises.build_inv {es : List Event} {kind : StepKind} {command : String} {code : ExitCode}
    (h : Raises o es kind (.build command code)) :
    kind = .build ∧ ∃ ending, .buildOver ending ∈ es ∧ ending.succeeded = false ∧ ending.code? = code := by
  cases h with
  | build command answer told fails => exact ⟨rfl, _, told, fails, rfl⟩
  | judged answer told h =>
    rcases judge_error h with ⟨-, hf⟩ | ⟨reason, -, hf⟩ | ⟨i, -, hc⟩
    · cases hf
    · cases hf
    · obtain ⟨tail, hf, -⟩ | ⟨text, hf⟩ := Invocation.check_error hc
      all_goals cases hf

theorem Raises.invocation_inv {es : List Event} {kind : StepKind} {name tail : String} {code : ExitCode}
    (h : Raises o es kind (.invocation name code tail)) :
    kind = .query ∧ ∃ seen i, .clientOver (some seen) ∈ es ∧ Invocation.ofEvents seen = .finished i ∧
      i.ending.succeeded = false ∧ i.ending.code? = code := by
  cases h with
  | judged answer told h =>
    rcases judge_error h with ⟨-, hf⟩ | ⟨reason, -, hf⟩ | ⟨i, hv, hc⟩
    · cases hf
    · cases hf
    · obtain ⟨tail', hf, fails⟩ | ⟨text, hf⟩ := Invocation.check_error hc
      · cases hf
        exact ⟨rfl, _, i, told, hv, fails, rfl⟩
      · cases hf

/-- A failure that passes on the exit code of a child has it in the last record and in the report. -/
theorem Ended.failed_on (h : Ended o journal slots outcome) {f : Failure} (hc : outcome.cause = some f)
    (hi : ∀ i, f ≠ .interrupted i) (he : ∀ c, f.childCode = some c → outcome.report.exitCode = c) :
    ∃ kind, Raises o journal kind f ∧ FailedOn outcome.report kind f.childCode := by
  cases h with
  | passed cause =>
    rw [cause] at hc
    cases hc
  | failed startedMs finishedMs cause phase undisturbed here fine steps runs raises =>
    rw [cause] at hc
    cases hc
    exact ⟨_, raises, _, _, steps, rfl, rfl, rfl, he⟩
  | interrupted cause =>
    rw [cause] at hc
    cases hc
    exact absurd rfl (hi _)

/-! ## What the ends of children come to -/

variable {es : List Event} {m m' : Option Managed}

/-- A build tool that does not succeed stops the build step, and one that does not stop it has succeeded. -/
theorem BuildCourse.over {r : Except Stop Unit} {ending : Ending}
    (h : BuildCourse o plan options settings m es r m') (told : .buildOver ending ∈ es)
    (fails : ending.succeeded = false) :
    ∃ c, buildCommand? plan options settings = some c ∧ r = .error (.failed (.build c.display ending.code?)) := by
  cases h with
  | skipped => simp at told
  | ran command step =>
    have told' := (List.mem_cons.mp told).resolve_left (by simp)
    cases step with
    | passed startedMs finishedMs body =>
      cases body with
      | passed succeeds =>
        obtain rfl : ending = _ := by simpa using told'
        rw [succeeds] at fails
        cases fails
    | failed startedMs finishedMs body =>
      cases body with
      | unavailable reason => simp at told'
      | failed answer =>
        obtain rfl : ending = _ := by simpa using told'
        exact ⟨_, command, rfl⟩
    | stopped body =>
      cases body with
      | interrupted requested => simp at told'

/-- Build tools run in the build step only. -/
theorem DriveCourse.build_over {r : Except Stop Unit} {ending : Ending}
    (h : DriveCourse o plan options settings m es r m') (told : .buildOver ending ∈ es)
    (fails : ending.succeeded = false) :
    ∃ c, buildCommand? plan options settings = some c ∧ r = .error (.failed (.build c.display ending.code?)) := by
  have passed : ∀ {es : List Event} {m m' : Option Managed},
      BuildCourse o plan options settings m es (.ok ()) m' → .buildOver ending ∉ es := by
    intro es m m' build told
    obtain ⟨c, -, hr⟩ := build.over told fails
    cases hr
  cases h with
  | unbegun requested => simp at told
  | unbuilt build => exact build.over told fails
  | unlaunched build launch =>
    have told' := (List.mem_append.mp told).resolve_left (passed build)
    exact absurd told' (launch.stopped_inv.2.not_mem (by simp))
  | unready build launch await =>
    have told' := (List.mem_append.mp told).resolve_left (passed build)
    rcases List.mem_append.mp told' with hm | hm
    · exact absurd hm (launch.launched_inv.2.2.not_mem (by simp))
    · exact absurd hm (await.about.2.not_mem (by simp))
  | queried build launch await queries =>
    have told' := (List.mem_append.mp told).resolve_left (passed build)
    rcases List.mem_append.mp told' with hm | hm
    · exact absurd hm (launch.launched_inv.2.2.not_mem (by simp))
    · rcases List.mem_append.mp hm with hm | hm
      · exact absurd hm (await.about.2.not_mem (by simp))
      · exact absurd hm (queries.about.2.2.not_mem (by simp))

/-- A build tool that has not succeeded makes the run fail for that. -/
theorem RunCourse.build_over {ending : Ending} (h : RunCourse o plan options settings outcome journal)
    (told : .buildOver ending ∈ journal) (fails : ending.succeeded = false) :
    ∃ c, buildCommand? plan options settings = some c ∧ outcome.cause = some (.build c.display ending.code?) := by
  obtain ⟨driven, r, m, drive, tells⟩ := h.tells
  obtain ⟨rest, hm, about⟩ := tells.told
  have hmark : .buildOver ending ∈ driven ++ rest := by
    rw [← hm]
    exact (mem_milestones rfl).mpr told
  obtain ⟨c, hc, rfl⟩ :=
    drive.build_over ((List.mem_append.mp hmark).resolve_right (about.not_mem (by simp))) fails
  exact ⟨c, hc, tells.cause⟩

/-- A client whose run is not judged to be fine makes the run fail for that. -/
theorem client_fails {k : Nat} {seen : List Invocation.Event} (h : RunCourse o plan options settings outcome journal)
    (there : (overs journal)[k]? = some (some seen)) :
    ∃ q, plan.queries[k]? = some q ∧
      ∀ f, judge (q.displayName k) (seconds (queryTimeout plan settings q)) q.expect seen = .error f →
        outcome.cause = some f := by
  obtain ⟨q, record, r, hq, -, hcause, judged⟩ := client_judged h there
  refine ⟨q, hq, fun f hf => ?_⟩
  rcases judged.verdict with ⟨run, hj, -⟩ | ⟨f', hj, -, -, hr⟩
  · rw [hj] at hf
    cases hf
  · rw [hj] at hf
    cases hf
    rw [hcause, hr]
    rfl

end Session

namespace CommandLine

theorem statusOf_byte {code : Int} (hl : 0 ≤ code) (hu : code ≤ 255) : (statusOf code : Int) = code := by
  rw [statusOf, Int.emod_eq_of_lt hl (by omega), Int.toNat_of_nonneg hl]

open Session (Event FailedOn buildCommand? judge mem_interruptions overs queryTimeout)

variable {σ : Type}

/-- What the exit status of a run tells, whatever the world outside answers, whenever a request ends the run
and whether or not its report can be written. It is zero exactly if the run has passed, which is if the
report has no failure, if its phase is done, and if the banner of a passed run was printed, which then was
once. Else it is what is owed to the failure. A failed build or client with an exit code has it in the
record of the failed step, which is the last, and in the report. The failure is what has happened: a build tool
that did not succeed, the client of a query that is not judged to be fine, and a request that has ended the steps
each make the run fail for that, and it fails for a request only if one was given. -/
theorem exit_status_tells (around : Surroundings σ) (codes : around.outside.ByteCodes) (r : RunRequest)
    (p : Preparation) (s : σ) :
    let options := runOptions around r p s
    let run := runPlan around.outside p.plan options p.settings s
    let report := run.1.report
    let journal := run.2.journal
    let status := statusOf (runPrepared around r p s).1
    (∀ request s₀, request.command = .run r → prepareLog around request s₀ = .ok s → prepare around r s = .ok p →
        (meet around request s₀).1.status = status) ∧
      (status = 0 ↔ report.passed = true) ∧
      (report.passed = true ↔ report.failure = none) ∧
      (report.passed = true ↔ report.phase = .done) ∧
      journal.count (.printed (Banner.passed options.colours)) = (if report.passed then 1 else 0) ∧
      (∀ f, run.1.cause = some f → report.failure = some ⟨f.kind, f.message⟩ ∧ (status : Int) = f.owed) ∧
      (∀ command code, run.1.cause = some (.build command code) →
        FailedOn report .build code ∧
          ∃ ending, .buildOver ending ∈ journal ∧ ending.succeeded = false ∧ ending.code? = code) ∧
      (∀ name code tail, run.1.cause = some (.invocation name code tail) →
        FailedOn report .query code ∧
          ∃ seen i, .clientOver (some seen) ∈ journal ∧ Invocation.ofEvents seen = .finished i ∧
            i.ending.succeeded = false ∧ i.ending.code? = code) ∧
      (∀ ending, .buildOver ending ∈ journal → ending.succeeded = false →
        ∃ c, buildCommand? p.plan options p.settings = some c ∧
          run.1.cause = some (.build c.display ending.code?)) ∧
      (∀ k seen, (overs journal)[k]? = some (some seen) → ∃ q, p.plan.queries[k]? = some q ∧
        ∀ f, judge (q.displayName k) (seconds (queryTimeout p.plan p.settings q)) q.expect seen = .error f →
          run.1.cause = some f) ∧
      (∀ i, run.1.cause = some (.interrupted i) ↔ .interrupted i ∈ journal) ∧
      ∀ i, .interrupted i ∈ journal → around.outside.Requests i := by
  intro options run report journal status
  have course := Session.runPlan_takes p.plan options p.settings around.outside s
  have ended := Session.report_ended course
  obtain ⟨hpassed, hfailure, hexit⟩ := course.consistent
  have hstatus : status = statusOf report.exitCode := rfl
  have pays : ∀ {f}, run.1.cause = some f → report.exitCode = f.owed ∧ 0 < report.exitCode ∧ (status : Int) = f.owed := by
    intro f hc
    -- The code fits in a byte beside zero, so its low byte is the code itself.
    obtain ⟨he, hl, hu⟩ := ended.pays codes hc
    have hx : report.exitCode = f.exitCode := by
      rw [hexit, hc]
      rfl
    rw [hstatus, hx, statusOf_byte (by omega) hu]
    exact ⟨he, hl, he⟩
  -- A failure that owes the code of its child has it in the last record and in the report.
  have onRecord : ∀ {f}, run.1.cause = some f → (∀ i, f ≠ .interrupted i) → (∀ c, f.childCode = some c → f.owed = c) →
      ∃ kind, Session.Raises around.outside journal kind f ∧ FailedOn report kind f.childCode :=
    fun hc hi owes => ended.failed_on hc hi fun c hcode => (pays hc).1.trans (owes c hcode)
  refine ⟨?_, ?_, ?_, ?_, course.passed_banner, ?_, ?_, ?_, ?_, ?_, ?_, ?_⟩
  · intro request s₀ hr hlog hprep
    simp only [meet, hlog, hr, execute, hprep]
    rfl
  · cases hc : run.1.cause with
    | none =>
      have hz : status = 0 := by
        rw [hstatus, hexit, hc]
        rfl
      have hp : report.passed = true := by
        rw [hpassed, hc]
        rfl
      exact iff_of_true hz hp
    | some f =>
      obtain ⟨he, hl, hs⟩ := pays hc
      rw [hpassed, hc]
      constructor
      · intro hz
        rw [hz] at hs
        omega
      · intro hn
        cases hn
  · rw [hpassed, hfailure]
    simp
  · rw [hpassed, ended.phase_iff]
    simp
  · intro f hc
    refine ⟨?_, (pays hc).2.2⟩
    rw [hfailure, hc]
    rfl
  · intro command code hc
    obtain ⟨kind, raises, failed⟩ := onRecord hc (by simp) (by rintro c ⟨⟩; rfl)
    obtain ⟨rfl, evidence⟩ := raises.build_inv
    exact ⟨failed, evidence⟩
  · intro name code tail hc
    obtain ⟨kind, raises, failed⟩ := onRecord hc (by simp) (by rintro c ⟨⟩; rfl)
    obtain ⟨rfl, evidence⟩ := raises.invocation_inv
    exact ⟨failed, evidence⟩
  · exact fun ending told fails => course.build_over told fails
  · exact fun k seen there => Session.client_fails course there
  · -- No step fails with a request, so a run that fails for one was ended by it.
    intro i
    constructor
    · intro hc
      obtain ⟨j, hj, hsame⟩ := ended.interruption_of_kind hc rfl
      cases hsame
      exact mem_interruptions.mp hj
    · exact fun hm => (ended.interruption_told (mem_interruptions.mpr hm)).2
  · exact fun i hm => (ended.interruption_told (mem_interruptions.mpr hm)).1

/-- A command in a steady world, without files. -/
def steadySurroundings (client : List Invocation.Event) : Surroundings Unit where
  outside := Session.steadyWorld client
  variable_ _ _ := none
  accountHome _ := none
  colours _ := false
  cwd _ := .ok ⟨"/"⟩
  read _ _ := .error "no file"
  doesExist _ _ := false
  isDirectory _ _ := true
  write _ _ _ := .error "no space"
  printError _ _ := ()
  makeDirectories _ _ := .ok ()
  keepLog _ _ := .ok ()
  tell _ _ := ()

theorem steady_byteCodes {bytes : List UInt8} {code : Int} (hl : 0 ≤ code) (hu : code ≤ 255) :
    (steadySurroundings (Session.exits bytes code)).outside.ByteCodes where
  build _ _ _ _ h := by
    obtain ⟨w, hw⟩ := Operation.waiting_yields.mp h
    cases hw
    decide
  client _ _ _ seen c h hm := by
    obtain ⟨w, hw⟩ := Operation.waiting_yields.mp h
    cases hw
    simp only [Session.exits, List.mem_cons, reduceCtorEq, Invocation.Event.exited.injEq, Ending.exited.injEq,
      List.not_mem_nil, false_or, or_false] at hm
    exact hm ▸ ⟨hl, hu⟩

/-- A request for a report, to a place where none can be written. -/
def smallRequest : RunRequest := { skipBuild := true, report := some ⟨"/report"⟩ }

/-- The small plan, ready to be run. -/
def smallPreparation : Preparation := ⟨{}, Session.smallPlan, ⟨"/"⟩⟩

/-- The exit code of a failed client is the status of a run whose report cannot be written. -/
theorem small_exit_status :
    (statusOf (runPrepared (steadySurroundings (Session.exits [] 3)) smallRequest smallPreparation ()).1 : Int) = 3 := by
  have cause : (runPlan (steadySurroundings (Session.exits [] 3)).outside smallPreparation.plan
      (runOptions (steadySurroundings (Session.exits [] 3)) smallRequest smallPreparation ())
      smallPreparation.settings ()).1.cause = some (.invocation "query 1" (some 3) "") := by
    decide +kernel
  obtain ⟨-, -, -, -, -, owed, -⟩ :=
    exit_status_tells (steadySurroundings (Session.exits [] 3)) (steady_byteCodes (by decide) (by decide))
      smallRequest smallPreparation ()
  exact (owed _ cause).2

end CommandLine
end Shakedown

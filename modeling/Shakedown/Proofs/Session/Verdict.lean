import Shakedown.Proofs.Process.Completion
import Shakedown.Proofs.Session.Custody
import Shakedown.Proofs.Session.Records

/-!
# The verdict on a query

The clients of a session are those of its queries, in order, and the record of a query holds the verdict on
its client (`client_judged`). For a client that runs to completion the verdict is that of its exit status,
but only if what it has written is text: other bytes make the query fail whatever the exit
status is (`query_verdict`).
-/

namespace Shakedown.Session

open Invocation (Completes written)
open Text.Utf8 (IsText)

/-- The record of the query at position `i` holds the verdict on its client, and the steps end with `r`. -/
structure Judged (plan : Plan) (settings : Settings) (i : Nat) (q : QueryStep) (seen : List Invocation.Event)
    (record : StepRecord) (r : Except Stop Unit) : Prop where
  kind : record.kind = .query
  name : record.name = q.displayName i
  verdict :
    (∃ run, judge (q.displayName i) (seconds (queryTimeout plan settings q)) q.expect seen = .ok run ∧
      record.status = .passed ∧ record.exitCode = run.ending.code?) ∨
    ∃ f, judge (q.displayName i) (seconds (queryTimeout plan settings q)) q.expect seen = .error f ∧
      record.status = .failed ∧ record.exitCode = f.childCode ∧ r = .error (.failed f)

variable {σ : Type} {o : Outside σ} {plan : Plan} {options : RunOptions} {settings : Settings} {es : List Event}
  {m m' : Option Managed}

theorem QueryCourse.judged {i : Nat} {q : QueryStep} {r : Except Stop Unit}
    (h : QueryCourse o plan options settings i q m es r m') :
    (∃ e, r = .error e ∧ ∀ seen, some seen ∉ overs es) ∨
      ∃ seen record, overs es = [some seen] ∧ records es = [record] ∧ Judged plan settings i q seen record r := by
  cases h with
  | passed step =>
    cases step with
    | passed startedMs finishedMs body =>
      cases body with
      | ended program answer judged => exact Or.inr ⟨_, _, rfl, rfl, rfl, rfl, Or.inl ⟨_, judged.symm, rfl, rfl⟩⟩
  | stopped step =>
    cases step with
    | failed startedMs finishedMs body =>
      cases body with
      | unstarted reason => exact Or.inl ⟨_, rfl, by simp [overs, Event.clientOver?]⟩
      | unpiped program hidden => exact Or.inl ⟨_, rfl, by simp [overs, Event.clientOver?]⟩
      | ended program answer judged =>
        exact Or.inr ⟨_, _, rfl, rfl, rfl, rfl, Or.inr ⟨_, judged.symm, rfl, rfl, rfl⟩⟩
    | stopped body =>
      cases body with
      | interrupted program requested => exact Or.inl ⟨_, rfl, by simp [overs, Event.clientOver?]⟩

/-- A verdict that lets the session go on stands whatever the steps end with. -/
theorem Judged.of_ok {i : Nat} {q : QueryStep} {seen : List Invocation.Event} {record : StepRecord}
    (h : Judged plan settings i q seen record (.ok ())) (r : Except Stop Unit) :
    Judged plan settings i q seen record r := by
  refine ⟨h.kind, h.name, ?_⟩
  rcases h.verdict with hv | ⟨f, -, -, -, hr⟩
  · exact Or.inl hv
  · cases hr

/-- The clients of the queries come in the order of the queries, and so do the records. -/
theorem QueriesCourse.judged {i k : Nat} {qs : List QueryStep} {r : Except Stop Unit} {seen : List Invocation.Event}
    (h : QueriesCourse o plan options settings i qs m es r m') (hk : (overs es)[k]? = some (some seen)) :
    ∃ q record, qs[k]? = some q ∧ (records es)[k]? = some record ∧ Judged plan settings (i + k) q seen record r := by
  -- The induction is on the queries: each that has passed takes one client and one record from the front.
  induction h generalizing k with
  | done i m => cases hk
  | @next i q rest _ _ _ es es' r first others ih =>
    rcases first.judged with ⟨e, hr, -⟩ | ⟨seen', record, ho, hr, hj⟩
    · cases hr
    · rw [overs_append, ho] at hk
      cases k with
      | zero =>
        cases hk
        refine ⟨q, record, rfl, ?_, hj.of_ok r⟩
        rw [records_append, hr]
        rfl
      | succ k =>
        obtain ⟨q', record', hq, hrec, hj'⟩ := ih hk
        refine ⟨q', record', hq, ?_, ?_⟩
        · rw [records_append, hr]
          exact hrec
        · rwa [Nat.add_right_comm, Nat.add_assoc] at hj'
  | @stopped i q rest _ _ es e first =>
    rcases first.judged with ⟨e', hr, hno⟩ | ⟨seen', record, ho, hr, hj⟩
    · exact absurd (List.mem_of_getElem? hk) (hno seen)
    · rw [ho] at hk
      cases k with
      | zero =>
        cases hk
        exact ⟨q, record, rfl, by rw [hr]; rfl, hj⟩
      | succ k => cases hk

/-- The client at a position is that of the query there, and the record of the query holds its verdict. -/
theorem DriveCourse.judged {k : Nat} {r : Except Stop Unit} {seen : List Invocation.Event}
    (h : DriveCourse o plan options settings m es r m') (hk : (overs es)[k]? = some (some seen)) :
    ∃ q record, plan.queries[k]? = some q ∧ (records es)[k + 3]? = some record ∧
      Judged plan settings k q seen record r := by
  -- The clients of a session are those of its queries.
  cases h with
  | unbegun requested => cases hk
  | unbuilt build =>
    rw [build.about.2.overs_nil (by simp)] at hk
    cases hk
  | unlaunched build launch =>
    rw [overs_append, build.about.2.overs_nil (by simp), launch.stopped_inv.2.overs_nil (by simp)] at hk
    cases hk
  | unready build launch await =>
    rw [overs_append, overs_append, build.about.2.overs_nil (by simp), launch.launched_inv.2.2.overs_nil (by simp),
      await.about.2.overs_nil (by simp)] at hk
    cases hk
  | queried build launch await queries =>
    rw [overs_append, overs_append, overs_append, build.about.2.overs_nil (by simp),
      launch.launched_inv.2.2.overs_nil (by simp), await.about.2.overs_nil (by simp)] at hk
    obtain ⟨q, record, hq, hr, hj⟩ := queries.judged hk
    rw [Nat.zero_add] at hj
    obtain ⟨rb, hb, -⟩ := build.passed_slot.record
    obtain ⟨rl, hl, -⟩ := launch.passed_slot.record
    obtain ⟨ra, ha, -⟩ := await.passed_slot.record
    refine ⟨q, record, hq, ?_, hj⟩
    rw [records_append, records_append, records_append, hb, hl, ha]
    exact hr

/-! ## Whole runs -/

/-- The client at a position of a run is that of the query there. If the run goes on after it, or fails, it
is for the verdict on it. -/
theorem client_judged {outcome : Outcome} {journal : List Event} {k : Nat} {seen : List Invocation.Event}
    (h : RunCourse o plan options settings outcome journal) (hk : (overs journal)[k]? = some (some seen)) :
    ∃ q record r, plan.queries[k]? = some q ∧ outcome.report.steps[k + 3]? = some record ∧
      outcome.cause = stopCause r ∧ Judged plan settings k q seen record r := by
  obtain ⟨driven, r, m, drive, tells⟩ := h.tells
  obtain ⟨rest, hm, about⟩ := tells.told
  have hall : overs journal = overs driven := by
    rw [← overs_milestones (c := options.colours), hm, overs_append, about.overs_nil (by simp), List.append_nil]
  rw [hall] at hk
  obtain ⟨q, record, hq, hr, hj⟩ := drive.judged hk
  exact ⟨q, record, r, hq, by rw [tells.steps, hr], tells.cause, hj⟩

/-- The verdict on a client that runs to completion, of a query that expects nothing of the output. If what
the client has written to each stream is text, the query passes exactly if the client succeeds as it should, and
a client that fails against the expectation hands its exit code to the run. If it is not, the query fails for
that, and the run does not tell how the client has ended. -/
theorem query_verdict (o : Outside σ) (plan : Plan) (options : RunOptions) (settings : Settings) (s : σ) {k : Nat}
    {q : QueryStep} {seen : List Invocation.Event} {ending : Ending} (hq : plan.queries[k]? = some q)
    (seen_there : (overs (runPlan o plan options settings s).2.journal)[k]? = some (some seen))
    (completes : Completes seen ending) (plain : Expectation.wantedText q.expect = none) :
    let report := (runPlan o plan options settings s).1.report
    let readable := IsText (written .stdout seen) ∧ IsText (written .stderr seen)
    ∃ record, report.steps[k + 3]? = some record ∧ record.kind = .query ∧ record.name = q.displayName k ∧
      (record.status = .passed ↔ readable ∧ ending.succeeded = Expectation.wantsSuccess q.expect) ∧
      (∀ code, ending = .exited code → code ≠ 0 → Expectation.wantsSuccess q.expect = true → readable →
        report.failure.map (·.kind) = some .invocation ∧ report.exitCode = code ∧ record.exitCode = some code) ∧
      (¬ readable → report.failure.map (·.kind) = some .inputOutput ∧ report.exitCode = 1 ∧ record.exitCode = none) := by
  intro report readable
  have course := runPlan_takes plan options settings o s
  obtain ⟨-, hfailure, hexit⟩ := course.consistent
  obtain ⟨q', record, r, hq', hrecord, hcause, judged⟩ := client_judged course seen_there
  rw [hq] at hq'
  cases hq'
  obtain ⟨finishes, faults⟩ := Invocation.ofEvents_completes completes
  -- What a failed query makes of the report.
  have failed : ∀ {f}, r = .error (.failed f) →
      report.failure.map (·.kind) = some f.kind ∧ report.exitCode = f.exitCode := by
    rintro f rfl
    rw [hfailure, hexit, hcause]
    exact ⟨rfl, rfl⟩
  refine ⟨record, hrecord, judged.kind, judged.name, ?_⟩
  by_cases hr : readable
  -- With text on both streams there is an invocation, and the expectation alone decides.
  · obtain ⟨out, err, hv⟩ := finishes hr
    rcases judged.verdict with ⟨run, hj, hpassed, hcode⟩ | ⟨f, hj, hstatus, hcode, hf⟩
    · obtain ⟨hv', hc⟩ := judge_ok hj
      rw [hv] at hv'
      cases hv'
      obtain ⟨hs, -⟩ := Invocation.check_ok_iff.mp hc
      refine ⟨iff_of_true hpassed ⟨hr, hs⟩, ?_, fun hn => absurd hr hn⟩
      rintro code rfl hz hw
      rw [hw] at hs
      exact absurd (of_decide_eq_true hs) hz
    · obtain ⟨hk, hx⟩ := failed hf
      have hc : Invocation.check (q.displayName k) q.expect ⟨ending, out, err⟩ = .error f := by
        rcases judge_error hj with ⟨hv', -⟩ | ⟨reason, hv', -⟩ | ⟨i, hv', hc⟩
        all_goals
          rw [hv] at hv'
          cases hv'
        exact hc
      refine ⟨?_, ?_, fun hn => absurd hr hn⟩
      · refine iff_of_false (by simp [hstatus]) ?_
        rintro ⟨-, hs⟩
        rw [Invocation.check_ok_iff.mpr ⟨hs, by simp [plain]⟩] at hc
        cases hc
      · rintro code rfl hz hw -
        have hs : (Ending.exited code).succeeded = false := decide_eq_false hz
        rw [Invocation.check_unsucceeded hw hs] at hc
        cases hc
        refine ⟨hk, ?_, hcode⟩
        rw [hx]
        exact if_pos hz
  -- With anything else the query cannot pass, since there is no invocation to be judged.
  · obtain ⟨reason, hv⟩ := faults hr
    rcases judged.verdict with ⟨run, hj, -⟩ | ⟨f, hj, hstatus, hcode, hf⟩
    · rw [(judge_ok hj).1] at hv
      cases hv
    · obtain ⟨hk, hx⟩ := failed hf
      obtain rfl : f = .inputOutput reason := by
        rcases judge_error hj with ⟨hv', -⟩ | ⟨reason, hv', hf⟩ | ⟨i, hv', -⟩
        all_goals
          rw [hv] at hv'
          cases hv'
        exact hf
      exact ⟨iff_of_false (by simp [hstatus]) (fun h => hr h.1), fun _ _ _ _ hr' => absurd hr' hr,
        fun _ => ⟨hk, hx, hcode⟩⟩

/-! ## A steady world -/

/-- A world in which every program is there and starts, the server runs until it is asked to end, and every
client does the same. -/
def steadyWorld (client : List Invocation.Event) : Outside Unit where
  now _ := 0
  files _ := ⟨fun _ => true, fun _ => true, none, none, none⟩
  start _ := (.stepsFirst, ())
  install _ := (⟨.ctrlC, fun _ => none, false⟩, ())
  print _ _ := ()
  log _ _ := ()
  build _ _ _ := .waiting fun _ => (.done (.ended (.exited 0)), ())
  spawn _ _ := (.ok 7, ())
  awaitProbe _ _ _ _ := .waiting fun _ => (.done (.waitOver (.probed 1 0)), ())
  awaitDelay _ _ := .waiting fun _ => (.done (.waitOver ()), ())
  startClient _ _ := (.ok 8, ())
  awaitClient _ _ _ := .waiting fun _ => (.done client, ())
  viewServer _ _ := (.running, ())
  awaitServer _ _ := (.lost "", ())
  awaitGrace _ _ _ := (.ended (.exited 0), ())
  signalGroup _ _ _ := ()
  killLeader _ _ := (none, ())

/-- A client that writes bytes to its output and exits with a code. -/
def exits (bytes : List UInt8) (code : Int) : List Invocation.Event :=
  [.output .stdout bytes, .closed .stdout, .closed .stderr, .exited (.exited code)]

theorem exits_completes (bytes : List UInt8) (code : Int) : Completes (exits bytes code) (.exited code) :=
  ⟨exits bytes code, [], (List.append_nil _).symm, by simp [exits], by simp [exits], by simp [exits], rfl⟩

/-- A plan with one query that expects its client to succeed. -/
def smallPlan : Plan where
  name := "small"
  server := { target := .example "server" }
  client := { target := .example "client" }
  queries := [{ query := "q" }]

/-- The small plan in a steady world. -/
def smallRun (client : List Invocation.Event) : Outcome × State Unit :=
  runPlan (steadyWorld client) smallPlan { root := ⟨"/"⟩, skipBuild := true } {} ()

/-- A client that writes a line and exits with code three hands its code to the run. -/
theorem small_verdict : (smallRun (exits [0x68, 0x69, 0x0A] 3)).1.report.exitCode = 3 := by
  have readable : IsText [0x68, 0x69, 0x0A] := ⟨"hi\n", by decide +kernel⟩
  have seen_there : (overs (smallRun (exits [0x68, 0x69, 0x0A] 3)).2.journal)[0]? = some (some (exits [0x68, 0x69, 0x0A] 3)) := by
    decide +kernel
  rw [smallRun] at seen_there ⊢
  obtain ⟨record, -, -, -, -, passed_on, -⟩ :=
    query_verdict (steadyWorld (exits [0x68, 0x69, 0x0A] 3)) smallPlan { root := ⟨"/"⟩, skipBuild := true } {} ()
      (k := 0) rfl seen_there (exits_completes _ _) rfl
  exact (passed_on 3 rfl (by decide) rfl ⟨by simpa [written, exits] using readable, "", rfl⟩).2.1

/-- The verdict on a client depends on the bytes that it writes: of two clients that run to completion and exit
with code zero, the one that writes a byte which is no text fails; and a client that writes it and exits with
code three does not hand its code to the run. -/
theorem verdict_depends_on_bytes :
    Completes (exits [0xFF] 0) (.exited 0) ∧ overs (smallRun (exits [0xFF] 0)).2.journal = [some (exits [0xFF] 0)] ∧
      (smallRun (exits [0xFF] 0)).1.report.steps[3]?.map (·.status) = some .failed ∧
      (smallRun (exits [0xFF] 0)).1.report.failure.map (·.kind) = some .inputOutput ∧
      (smallRun (exits [0x61] 0)).1.report.steps[3]?.map (·.status) = some .passed ∧
      Completes (exits [0xFF] 3) (.exited 3) ∧ overs (smallRun (exits [0xFF] 3)).2.journal = [some (exits [0xFF] 3)] ∧
      (smallRun (exits [0xFF] 3)).1.report.exitCode = 1 := by
  refine ⟨exits_completes _ _, ?_, ?_, ?_, ?_, exits_completes _ _, ?_, ?_⟩
  all_goals decide +kernel

end Shakedown.Session

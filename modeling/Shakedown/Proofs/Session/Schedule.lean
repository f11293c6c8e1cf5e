import Shakedown.Proofs.Session.Course

/-!
# The schedule of a session

The steps that a plan leads to stand in a fixed order. A slot of the schedule says what the record of its
step looks like once the step has passed, and which phases the session enters around it. `Trail` relates a
schedule to the milestones of a session: one slot after the other passes, until one stops the session
(`drive_trail`). Every fact about the records and phases of a report is an induction on a trail.
-/

namespace Shakedown.Session

/-- The recorder holds the records of the events and the last phase that they enter. -/
theorem foldl_see (es : List Event) (r : Recorder) :
    es.foldl Recorder.see r = ⟨(phases es).getLastD r.phase, r.steps ++ records es⟩ := by
  induction es generalizing r with
  | nil => simp [phases, records]
  | cons e es ih =>
    rw [List.foldl_cons, ih, records_cons, phases_cons]
    cases e with
    | entered phase => simp [Recorder.see, Recorder.enter, Event.phase?, Event.record?, List.getLast?_cons]
    | recorded step => simp [Recorder.see, Event.phase?, Event.record?]
    | _ => rfl

/-! ## Slots -/

/-- A step of a schedule: its kind and name, the status that it has when the session goes on after it, and
the phases that are entered before it and after it. -/
structure Slot where
  kind : StepKind
  name : String
  good : StepStatus
  opening : List Phase
  closing : List Phase

/-- The kind, name and status that the record of a passed slot has. -/
def Slot.shape (slot : Slot) : StepKind × String × StepStatus := (slot.kind, slot.name, slot.good)

/-- The phases around a slot. -/
def Slot.visits (slot : Slot) : List Phase := slot.opening ++ slot.closing

/-- The kind, name and status of a record. -/
def outline (r : StepRecord) : StepKind × String × StepStatus := (r.kind, r.name, r.status)

/-- The name of the build step. -/
def buildName (plan : Plan) (options : RunOptions) (settings : Settings) : String :=
  match buildCommand? plan options settings with
  | some c => c.display
  | none => "build"

/-- The name of the build step is the command that it runs. -/
theorem buildName_some {plan : Plan} {options : RunOptions} {settings : Settings} {c : BuildCommand}
    (h : buildCommand? plan options settings = some c) : buildName plan options settings = c.display := by
  simp only [buildName, h]

/-- The slot of the build step, which is skipped if there is nothing to build. -/
def buildSlot (plan : Plan) (options : RunOptions) (settings : Settings) : Slot :=
  ⟨.build, buildName plan options settings,
    if (buildCommand? plan options settings).isSome then .passed else .skipped, [.building], []⟩

/-- The slot of the launch step. -/
def launchSlot (plan : Plan) : Slot :=
  ⟨.launch, plan.server.target.name, .passed, [.serverStarting], []⟩

/-- The slot of the await step, after which the session is ready. -/
def awaitSlot (plan : Plan) (settings : Settings) : Slot := ⟨.await, awaitName plan settings, .passed, [], [.ready]⟩

/-- The slot of the query at a position, counted from zero. -/
def querySlot (i : Nat) (q : QueryStep) : Slot :=
  ⟨.query, q.displayName i, .passed, [.querying (i + 1)], []⟩

/-- The steps that a plan leads to. -/
def schedule (plan : Plan) (options : RunOptions) (settings : Settings) : List Slot :=
  buildSlot plan options settings :: launchSlot plan :: awaitSlot plan settings :: plan.queries.mapIdx querySlot

/-- A build, a launch, an awaiting, and the queries of the plan. -/
@[simp] theorem schedule_length (plan : Plan) (options : RunOptions) (settings : Settings) :
    (schedule plan options settings).length = plan.queries.length + 3 := by
  simp [schedule]

variable {σ : Type} (o : Outside σ)

/-- The failures that a step of a kind with the events `es` can end with, and what the world outside has
answered then. -/
inductive Raises (es : List Event) : StepKind → Failure → Prop
  | build {program root : Path} {args : List String} {ending : Ending} (command : String)
      (answer : (o.build program args root).Yields (.ended ending)) (told : .buildOver ending ∈ es)
      (h : ending.succeeded = false) :
      Raises es .build (.build command ending.code?)
  | buildTool (program reason : String) : Raises es .build (.buildToolUnavailable program reason)
  | occupied : Raises es .launch (.internal "a server is already running")
  | launch (name reason : String) : Raises es .launch (.launch name reason)
  | exited (name : String) (ending : Ending) : Raises es .await (.serverExited name ending.code?)
  | lost (name reason : String) : Raises es .await (.launch name reason)
  | late (secs : Nat) (probe : String) : Raises es .await (.readinessTimeout secs probe)
  | unstarted (name reason : String) : Raises es .query (.invocationSpawn name reason)
  | unpiped {pid : Nat} {stream : Stream} {v : σ} (hidden : o.piped pid stream v = false) :
      Raises es .query (.internal s!"Failed to get client {stream.name}")
  | judged {pid : Nat} {timeout : Nanos} {echo : Bool} {seen : List Invocation.Event} {name : String}
      {expect : Option Expectation} {f : Failure} (answer : (o.awaitClient pid timeout echo).Yields seen)
      (told : .clientOver (some seen) ∈ es) (h : judge name timeout expect seen = .error f) :
      Raises es .query f

/-- A failure that some events raise is raised by more of them. -/
theorem Raises.mono {o : Outside σ} {es es' : List Event} {kind : StepKind} {f : Failure}
    (sub : ∀ e ∈ es, e ∈ es') (h : Raises o es kind f) : Raises o es' kind f := by
  cases h with
  | build command answer told h => exact .build command answer (sub _ told) h
  | buildTool program reason => exact .buildTool program reason
  | occupied => exact .occupied
  | launch name reason => exact .launch name reason
  | exited name ending => exact .exited name ending
  | lost name reason => exact .lost name reason
  | late secs probe => exact .late secs probe
  | unstarted name reason => exact .unstarted name reason
  | unpiped hidden => exact .unpiped hidden
  | judged answer told h => exact .judged answer (sub _ told) h

/-- A slot has passed: the session goes on. -/
structure Slot.Passed (slot : Slot) (es : List Event) : Prop where
  phases : phases es = slot.visits
  record : ∃ r, records es = [r] ∧ outline r = slot.shape
  undisturbed : interruptions es = []

/-- A slot has stopped the session: by a failure, which is recorded, or by a request to end the run, which
leaves no record. A slot that is skipped cannot stop the session, and the launch of a server waits for
nothing, so no request ends it. -/
inductive Slot.Stopped (slot : Slot) : List Event → Stop → Prop
  | failed {es : List Event} {f : Failure} (startedMs finishedMs : Nat) (phases : phases es = slot.opening)
      (undisturbed : interruptions es = [])
      (record : records es =
        [⟨slot.kind, slot.name, .failed, startedMs, finishedMs, f.childCode, some f.message⟩])
      (runs : slot.good = .passed) (raises : Raises o es slot.kind f) :
      Slot.Stopped slot es (.failed f)
  | interrupted {es : List Event} {i : Interrupt} (requested : o.Requests i) (told : interruptions es = [i])
      (phases : phases es = slot.opening) (record : records es = []) (runs : slot.good = .passed)
      (waits : slot.kind ≠ .launch) :
      Slot.Stopped slot es (.interrupted i)

/-- The slots of a schedule pass one after the other, until one stops the session. -/
inductive Trail : List Slot → List Event → Except Stop Unit → Prop
  | done : Trail [] [] (.ok ())
  | passed {slot : Slot} {rest : List Slot} {es es' : List Event} {r : Except Stop Unit} (here : slot.Passed es)
      (others : Trail rest es' r) :
      Trail (slot :: rest) (es ++ es') r
  | stopped {slot : Slot} {rest : List Slot} {es : List Event} {e : Stop} (here : slot.Stopped o es e) :
      Trail (slot :: rest) es (.error e)

variable {o}

/-- A trail runs to its end, or up to a slot that stops the session. -/
theorem Trail.split {slots : List Slot} {es : List Event} {r : Except Stop Unit} (h : Trail o slots es r) :
    (r = .ok () ∧ (records es).map outline = slots.map Slot.shape ∧ phases es = slots.flatMap Slot.visits ∧
        interruptions es = []) ∨
      ∃ before slot after es₁ es₂ e, slots = before ++ slot :: after ∧ es = es₁ ++ es₂ ∧ r = .error e ∧
        (records es₁).map outline = before.map Slot.shape ∧ phases es₁ = before.flatMap Slot.visits ∧
        interruptions es₁ = [] ∧ slot.Stopped o es₂ e := by
  -- The induction is on the trail: a slot that has passed is put in front of what the rest splits into.
  induction h with
  | done => exact Or.inl ⟨rfl, rfl, rfl, rfl⟩
  | stopped here => exact Or.inr ⟨[], _, _, [], _, _, rfl, rfl, rfl, rfl, rfl, rfl, here⟩
  | passed here others ih =>
    obtain ⟨record, hr, ho⟩ := here.record
    rcases ih with ⟨rfl, hrs, hps, hcalm⟩ | ⟨before, slot, after, es₁, es₂, e, rfl, rfl, rfl, hrs, hps, hcalm, stop⟩
    · left
      refine ⟨rfl, ?_, ?_, ?_⟩
      · rw [records_append, hr, List.map_append, hrs, List.map_singleton, ho]
        rfl
      · rw [phases_append, here.phases, hps, List.flatMap_cons]
      · rw [interruptions_append, here.undisturbed, hcalm, List.append_nil]
    · right
      refine ⟨_ :: before, slot, after, _ ++ es₁, es₂, e, rfl, (List.append_assoc ..).symm, rfl, ?_, ?_, ?_, stop⟩
      · rw [records_append, hr, List.map_append, hrs, List.map_singleton, ho]
        rfl
      · rw [phases_append, here.phases, hps, List.flatMap_cons]
      · rw [interruptions_append, here.undisturbed, hcalm, List.append_nil]

/-! ## The steps of a session follow the schedule -/

/-- The body of a step records nothing and enters no phase, and only requests to end the run stop it, of those that
can be given. -/
structure Bare {α : Type} (given : Interrupt → Prop) (Body : Course (Except Failure α)) : Prop where
  records : ∀ {es r m}, Body es r m → records es = []
  phases : ∀ {es r m}, Body es r m → phases es = []
  undisturbed : ∀ {es a m}, Body es (.ok a) m → interruptions es = []
  stop : ∀ {es e m}, Body es (.error e) m → ∃ i, e = .interrupted i ∧ given i ∧ interruptions es = [i]

section Steps

variable {α : Type} {kind : StepKind} {name : String} {code : α → ExitCode} {detail : α → Option String}
  {given : Interrupt → Prop} {Body : Course (Except Failure α)} {es : List Event} {m : Option Managed}

theorem StepCourse.passed_inv {a : α} (bare : Bare given Body) (h : StepCourse kind name code detail Body es (.ok a) m) :
    phases es = [] ∧ interruptions es = [] ∧ ∃ r, records es = [r] ∧ outline r = (kind, name, .passed) := by
  cases h with
  | passed startedMs finishedMs body =>
    refine ⟨?_, ?_, ⟨kind, name, .passed, startedMs, finishedMs, code a, detail a⟩, ?_, rfl⟩
    · rw [phases_append, bare.phases body]
      rfl
    · rw [interruptions_append, bare.undisturbed body]
      rfl
    · rw [records_append, bare.records body]
      rfl

/-- A step that does not pass fails with one of its failures and is recorded as failed, or it is stopped by
a request to end the run and not recorded. -/
theorem StepCourse.stopped_inv {e : Stop} (bare : Bare given Body)
    (h : StepCourse kind name code detail Body es (.error e) m) :
    phases es = [] ∧
      ((∃ f es' startedMs finishedMs, e = .failed f ∧ Body es' (.ok (.error f)) m ∧ (∀ x ∈ es', x ∈ es) ∧
          interruptions es = [] ∧
          records es = [⟨kind, name, .failed, startedMs, finishedMs, f.childCode, some f.message⟩]) ∨
        ∃ i, e = .interrupted i ∧ given i ∧ interruptions es = [i] ∧ records es = []) := by
  cases h with
  | failed startedMs finishedMs body =>
    refine ⟨?_, Or.inl ⟨_, _, startedMs, finishedMs, rfl, body, fun _ => List.mem_append_left _, ?_, ?_⟩⟩
    · rw [phases_append, bare.phases body]
      rfl
    · rw [interruptions_append, bare.undisturbed body]
      rfl
    · rw [records_append, bare.records body]
      rfl
  | stopped body =>
    -- A body is stopped by nothing but a request to end the run.
    obtain ⟨i, rfl, requested, told⟩ := bare.stop body
    exact ⟨bare.phases body, Or.inr ⟨i, rfl, requested, told, bare.records body⟩⟩

end Steps

variable {plan : Plan} {options : RunOptions} {settings : Settings} {es : List Event} {e : Stop} {m m' : Option Managed}

/-- The body of a build step leaves no record of its own. -/
theorem BuildEnds.bare (c : BuildCommand) (m : Option Managed) : Bare o.Requests (BuildEnds o c m) where
  records h := by cases h <;> rfl
  phases h := by cases h <;> rfl
  undisturbed h := by cases h <;> rfl
  stop h := by
    cases h with
    | interrupted requested => exact ⟨_, rfl, requested, rfl⟩

/-- The body of a launch leaves no record of its own, and no request ends it. -/
theorem LaunchEnds.bare (name : String) (m : Option Managed) : Bare (fun _ => False) (LaunchEnds name m) where
  records h := by cases h <;> rfl
  phases h := by cases h <;> rfl
  undisturbed h := by cases h <;> rfl
  stop h := by cases h

/-- Awaiting a server leaves no record of its own. -/
theorem AwaitEnds.bare (probe : Option Probe) (policy : ReadinessPolicy) (server : Managed) (m : Option Managed) :
    Bare o.Requests (AwaitEnds o probe policy server m) where
  records h := by cases h <;> rfl
  phases h := by cases h <;> rfl
  undisturbed h := by cases h <;> rfl
  stop h := by
    cases h with
    | interrupted requested => exact ⟨_, rfl, requested, rfl⟩

/-- The body of a query leaves no record of its own. -/
theorem QueryEnds.bare (q : QueryStep) (name : String) (m : Option Managed) :
    Bare o.Requests (QueryEnds o plan options settings q name m) where
  records h := by cases h <;> rfl
  phases h := by cases h <;> rfl
  undisturbed h := by cases h <;> rfl
  stop h := by
    cases h with
    | interrupted program requested => exact ⟨_, rfl, requested, rfl⟩

/-- A build step that passes fills its slot with one good record. -/
theorem BuildCourse.passed_slot (h : BuildCourse o plan options settings m es (.ok ()) m') :
    (buildSlot plan options settings).Passed es := by
  cases h with
  | skipped startedMs finishedMs nothing =>
    refine ⟨rfl, ⟨_, rfl, ?_⟩, rfl⟩
    simp [outline, Slot.shape, buildSlot, buildName, nothing]
  | ran command step =>
    obtain ⟨hp, hcalm, r, hr, ho⟩ := step.passed_inv (BuildEnds.bare _ _)
    refine ⟨?_, ⟨r, hr, ?_⟩, hcalm⟩
    · show Phase.building :: phases _ = _
      rw [hp]
      rfl
    · simp [ho, Slot.shape, buildSlot, buildName, command]

/-- A build step that stops the session leaves its slot failed, or open at a request. -/
theorem BuildCourse.stopped_slot (h : BuildCourse o plan options settings m es (.error e) m') :
    (buildSlot plan options settings).Stopped o es e := by
  cases h with
  | ran command step =>
    obtain ⟨hp, ⟨f, es', startedMs, finishedMs, rfl, body, sub, hcalm, hr⟩ | ⟨i, rfl, requested, told, hr⟩⟩ :=
      step.stopped_inv (BuildEnds.bare _ _)
    · refine .failed startedMs finishedMs ?_ hcalm ?_ (by simp [buildSlot, command]) ?_
      · show Phase.building :: phases _ = _
        rw [hp]
        rfl
      · rw [buildSlot, buildName_some command]
        exact hr
      · cases body with
        | unavailable reason => exact .buildTool _ _
        | failed answer fails =>
          exact .build _ answer (List.mem_cons_of_mem _ (sub _ (List.mem_singleton_self _))) fails
    · refine .interrupted requested told ?_ hr (by simp [buildSlot, command]) (by simp [buildSlot])
      show Phase.building :: phases _ = _
      rw [hp]
      rfl

/-- A launch that passes fills its slot with one good record. -/
theorem LaunchCourse.passed_slot {server : Managed} (h : LaunchCourse plan m es (.ok server) m') :
    (launchSlot plan).Passed es := by
  cases h with
  | launched step =>
    obtain ⟨hp, hcalm, r, hr, ho⟩ := step.passed_inv (LaunchEnds.bare _ _)
    refine ⟨?_, ⟨r, hr, ho⟩, hcalm⟩
    show Phase.serverStarting :: phases _ = _
    rw [hp]
    rfl

/-- A launch that stops the session leaves its slot failed: no request can come in between. -/
theorem LaunchCourse.stopped_slot (h : LaunchCourse plan m es (.error e) m') : (launchSlot plan).Stopped o es e := by
  cases h with
  | stopped step =>
    obtain ⟨hp, ⟨f, es', startedMs, finishedMs, rfl, body, sub, hcalm, hr⟩ | ⟨i, rfl, never, -, hr⟩⟩ :=
      step.stopped_inv (LaunchEnds.bare _ _)
    · refine .failed startedMs finishedMs ?_ hcalm hr rfl ?_
      · show Phase.serverStarting :: phases _ = _
        rw [hp]
        rfl
      · cases body with
        | occupied there => exact .occupied
        | failed reason => exact .launch _ _
    · exact never.elim

/-- A server that is ready fills its slot with one good record. -/
theorem AwaitCourse.passed_slot {server : Managed} (h : AwaitCourse o plan settings server m es (.ok ()) m') :
    (awaitSlot plan settings).Passed es := by
  cases h with
  | ready step =>
    obtain ⟨hp, hcalm, r, hr, ho⟩ := step.passed_inv (AwaitEnds.bare _ _ _ _)
    refine ⟨?_, ⟨r, ?_, ho⟩, ?_⟩
    · rw [phases_append, hp]
      rfl
    · rw [records_append, hr]
      rfl
    · rw [interruptions_append, hcalm]
      rfl

/-- A server that does not become ready leaves its slot failed, or open at a request. -/
theorem AwaitCourse.stopped_slot {server : Managed} (h : AwaitCourse o plan settings server m es (.error e) m') :
    (awaitSlot plan settings).Stopped o es e := by
  cases h with
  | stopped step =>
    obtain ⟨hp, ⟨f, es', startedMs, finishedMs, rfl, body, sub, hcalm, hr⟩ | ⟨i, rfl, requested, told, hr⟩⟩ :=
      step.stopped_inv (AwaitEnds.bare _ _ _ _)
    · refine .failed startedMs finishedMs hp hcalm hr rfl ?_
      cases body with
      | late given fails => exact .late _ _
      | exited ending => exact .exited _ _
      | lost reason => exact .lost _ _
    · exact .interrupted requested told hp hr rfl (by simp [awaitSlot])

/-- A query that passes fills its slot with one good record. -/
theorem QueryCourse.passed_slot {i : Nat} {q : QueryStep}
    (h : QueryCourse o plan options settings i q m es (.ok ()) m') : (querySlot i q).Passed es := by
  cases h with
  | passed step =>
    obtain ⟨hp, hcalm, r, hr, ho⟩ := step.passed_inv (QueryEnds.bare _ _ _)
    refine ⟨?_, ⟨r, hr, ho⟩, hcalm⟩
    show Phase.querying (i + 1) :: phases _ = _
    rw [hp]
    rfl

/-- A query that stops the session leaves its slot failed, or open at a request. -/
theorem QueryCourse.stopped_slot {i : Nat} {q : QueryStep}
    (h : QueryCourse o plan options settings i q m es (.error e) m') : (querySlot i q).Stopped o es e := by
  cases h with
  | stopped step =>
    have opens : ∀ {es' : List Event}, phases es' = [] →
        phases (.entered (.querying (i + 1)) :: es') = (querySlot i q).opening := by
      intro es' hp
      show Phase.querying (i + 1) :: phases _ = _
      rw [hp]
      rfl
    obtain ⟨hp, ⟨f, es', startedMs, finishedMs, rfl, body, sub, hcalm, hr⟩ | ⟨k, rfl, requested, told, hr⟩⟩ :=
      step.stopped_inv (QueryEnds.bare _ _ _)
    · refine .failed startedMs finishedMs (opens hp) hcalm hr rfl ?_
      cases body with
      | unstarted reason => exact .unstarted _ _
      | unpiped program hidden => exact .unpiped hidden
      | ended program answer judged =>
        exact .judged answer (List.mem_cons_of_mem _ (sub _ (by simp))) judged.symm
    · exact .interrupted requested told (opens hp) hr rfl (by simp [querySlot])

/-- Queries fill their slots in turn, up to the one that stops the session. -/
theorem QueriesCourse.trail {i : Nat} {qs : List QueryStep} {r : Except Stop Unit}
    (h : QueriesCourse o plan options settings i qs m es r m') :
    Trail o (qs.mapIdx fun k q => querySlot (i + k) q) es r := by
  induction h with
  | done i m => exact .done
  | @next i q rest _ _ _ _ _ _ first others ih =>
    -- The positions of the rest are counted from one further on.
    have shift : (fun k q => querySlot (i + (k + 1)) q) = fun k q => querySlot (i + 1 + k) q := by
      funext k q
      rw [Nat.add_right_comm, Nat.add_assoc]
    rw [List.mapIdx_cons, shift]
    exact .passed first.passed_slot ih
  | stopped first =>
    rw [List.mapIdx_cons]
    exact .stopped first.stopped_slot

/-- The steps of a session follow the schedule of its plan, unless a request to end the run comes before
the first of them. -/
theorem drive_trail {r : Except Stop Unit} (h : DriveCourse o plan options settings m es r m') :
    Trail o (schedule plan options settings) es r ∨
      ∃ i, es = [.interrupted i] ∧ r = .error (.interrupted i) ∧ o.Requests i := by
  cases h with
  | unbegun requested => exact Or.inr ⟨_, rfl, rfl, requested⟩
  | unbuilt build => exact Or.inl (.stopped build.stopped_slot)
  | unlaunched build launch => exact Or.inl (.passed build.passed_slot (.stopped launch.stopped_slot))
  | unready build launch await =>
    exact Or.inl (.passed build.passed_slot (.passed launch.passed_slot (.stopped await.stopped_slot)))
  | queried build launch await queries =>
    have t := queries.trail
    simp only [Nat.zero_add] at t
    exact Or.inl (.passed build.passed_slot (.passed launch.passed_slot (.passed await.passed_slot t)))

end Shakedown.Session

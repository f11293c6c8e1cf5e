import Shakedown.Proofs.Session.CleanUp
import Shakedown.Proofs.Session.Step

/-!
# The course of a session

A session runs its steps up to the first that does not pass, lets go of its server, and announces the
outcome. `RunCourse` says this of the milestones in the journal of a finished run, and that the report
holds what the milestones record; `runPlan_takes` is the theorem that every run goes so, whatever the
world outside answers. What a session guarantees is read off the courses from here on.
-/

namespace Shakedown.Session

variable {σ : Type} (o : Outside σ)

/-- The course of the steps of a session. A request to end the run may come before the first of them. -/
inductive DriveCourse (plan : Plan) (options : RunOptions) (settings : Settings) (m : Option Managed) : Course Unit
  | unbegun {i : Interrupt} (requested : o.Requests i) :
      DriveCourse plan options settings m [.interrupted i] (.error (.interrupted i)) m
  | unbuilt {es : List Event} {e : Stop} {m₁ : Option Managed}
      (build : BuildCourse o plan options settings m es (.error e) m₁) :
      DriveCourse plan options settings m es (.error e) m₁
  | unlaunched {es es' : List Event} {e : Stop} {m₁ m₂ : Option Managed}
      (build : BuildCourse o plan options settings m es (.ok ()) m₁)
      (launch : LaunchCourse plan m₁ es' (.error e) m₂) :
      DriveCourse plan options settings m (es ++ es') (.error e) m₂
  | unready {es es' es'' : List Event} {e : Stop} {server : Managed} {m₁ m₂ m₃ : Option Managed}
      (build : BuildCourse o plan options settings m es (.ok ()) m₁)
      (launch : LaunchCourse plan m₁ es' (.ok server) m₂)
      (await : AwaitCourse o plan settings server m₂ es'' (.error e) m₃) :
      DriveCourse plan options settings m (es ++ (es' ++ es'')) (.error e) m₃
  | queried {es es' es'' qs : List Event} {r : Except Stop Unit} {server : Managed} {m₁ m₂ m₃ m₄ : Option Managed}
      (build : BuildCourse o plan options settings m es (.ok ()) m₁)
      (launch : LaunchCourse plan m₁ es' (.ok server) m₂)
      (await : AwaitCourse o plan settings server m₂ es'' (.ok ()) m₃)
      (queries : QueriesCourse o plan options settings 0 plan.queries m₃ qs r m₄) :
      DriveCourse plan options settings m (es ++ (es' ++ (es'' ++ qs))) r m₄

/-- The failure that the end of the steps is. -/
def stopCause : Except Stop Unit → Option Failure
  | .ok () => none
  | .error (.failed f) => some f
  | .error (.interrupted i) => some (.interrupted i)

/-- The milestones of the announcement, made in a phase. -/
def announcement (colours : Bool) (phase : Phase) : Option Failure → List Event
  | none => [.entered .done, .printed (Banner.passed colours)]
  | some _ => [.printed (Banner.failed colours phase.describe)]

theorem announcement_about (colours : Bool) (phase : Phase) (cause : Option Failure) :
    About [.step, .console] (announcement colours phase cause) := by
  cases cause with
  | none => simp [announcement, About]
  | some f => simp [announcement, About]

/-- The course of a whole session: its outcome, and its journal. -/
inductive RunCourse (plan : Plan) (options : RunOptions) (settings : Settings) : Outcome → List Event → Prop
  | ran {driven cleaned journal : List Event} {r : Except Stop Unit} {m : Option Managed} {terminated : Bool}
      {phase : Phase} (durationMs : Nat)
      (drive : DriveCourse o plan options settings none driven r m)
      (clean : CleanCourse o m cleaned terminated)
      (told : milestones options.colours journal =
        driven ++ cleaned ++ announcement options.colours phase (stopCause r)) :
      RunCourse plan options settings
        ⟨((milestones options.colours journal).foldl Recorder.see .new).toReport plan.name (stopCause r)
            terminated durationMs, stopCause r⟩
        journal

variable (plan : Plan) (options : RunOptions) (settings : Settings)

/-- The steps begin with the build. -/
theorem steps_takes :
    Takes options.colours (steps o plan options settings) fun m es r m' =>
      DriveCourse o plan options settings m es r m' ∧ ∃ rest, es = .entered .building :: rest := by
  intro s r t h
  rcases Steps.bind_inv h with ⟨_, s₁, hb, h⟩ | ⟨e, hb, rfl⟩
  · obtain ⟨es, lb, build⟩ := build_takes o plan options settings hb
    obtain ⟨rest, rfl⟩ := build.begins
    rcases Steps.bind_inv h with ⟨server, s₂, hl, h⟩ | ⟨e, hl, rfl⟩
    · obtain ⟨es', ll, launch⟩ := launch_takes o plan options hl
      rcases Steps.bind_inv h with ⟨_, s₃, ha, h⟩ | ⟨e, ha, rfl⟩
      · obtain ⟨es'', la, await⟩ := awaitServer_takes o plan options settings server ha
        obtain ⟨qs, lq, queries⟩ := queries_takes o plan options settings 0 plan.queries h
        exact ⟨_, lb.trans (ll.trans (la.trans lq)), .queried build launch (await launch.slot) queries, _, rfl⟩
      · obtain ⟨es'', la, await⟩ := awaitServer_takes o plan options settings server ha
        exact ⟨_, lb.trans (ll.trans la), .unready build launch (await launch.slot), _, rfl⟩
    · obtain ⟨es', ll, launch⟩ := launch_takes o plan options hl
      exact ⟨_, lb.trans ll, .unlaunched build launch, _, rfl⟩
  · obtain ⟨es, lb, build⟩ := build_takes o plan options settings hb
    exact ⟨es, lb, .unbuilt build, build.begins⟩

/-- The steps run, before the watch for requests has begun or after it, unless a request is there already when
it begins. -/
theorem drive_inv {s t : State σ} {r : Except Stop Unit} (h : (drive o plan options settings).run s = (r, t)) :
    let u : State σ := { s with outside := (o.start s.outside).2 }
    (o.start s.outside).1 = .stepsFirst ∧ (steps o plan options settings).run u = (r, t) ∨
      (o.start s.outside).1 = .watchFirst none ∧
        (∃ v, watch o u = ((), v) ∧ (steps o plan options settings).run v = (r, t)) ∨
      ∃ i v, (o.start s.outside).1 = .watchFirst (some i) ∧ watch o u = ((), v) ∧
        (interrupt i : Steps σ Unit).run v = (r, t) := by
  obtain ⟨start, u, ha, h⟩ := Steps.lift_inv h
  cases hs : (o.start s.outside).1 with
  | stepsFirst =>
    cases ha
    rw [hs] at h
    exact Or.inl ⟨rfl, h⟩
  | watchFirst pending =>
    cases ha
    rw [hs] at h
    obtain ⟨_, v, hw, h⟩ := Steps.lift_inv h
    cases pending with
    | none => exact Or.inr (Or.inl ⟨rfl, v, hw, h⟩)
    | some i => exact Or.inr (Or.inr ⟨i, v, rfl, hw, h⟩)

/-- The session takes its course, and enters a phase unless a request comes before the first step. -/
theorem drive_takes {s t : State σ} {r : Except Stop Unit} (h : (drive o plan options settings).run s = (r, t)) :
    ∃ es, Logs options.colours s es t ∧ DriveCourse o plan options settings s.server es r t.server ∧
      (phases es = [] ↔ ∃ i, (o.start s.outside).1 = .watchFirst (some i)) := by
  have asked : Follows options.colours s [] { s with outside := (o.start s.outside).2 } := .still rfl rfl rfl
  rcases drive_inv o plan options settings h with ⟨hs, h⟩ | ⟨hs, v, hw, h⟩ | ⟨i, v, hs, hw, h⟩
  · obtain ⟨_, l, b, rest, rfl⟩ := steps_takes o plan options settings h
    exact ⟨_, asked.toLogs.trans l, b, by simp [hs, phases_cons, Event.phase?]⟩
  · have f := asked.andThen (follows_watch hw)
    obtain ⟨_, l, b, rest, rfl⟩ := steps_takes o plan options settings h
    rw [f.server] at b
    exact ⟨_, f.toLogs.trans l, b, by simp [hs, phases_cons, Event.phase?]⟩
  · obtain ⟨rfl, fi⟩ := interrupt_inv (c := options.colours) h
    have f := (asked.andThen (follows_watch hw)).trans fi
    exact ⟨_, f.toLogs, f.server ▸ .unbegun (.start _ hs), iff_of_true rfl ⟨i, hs⟩⟩

variable {o}

theorem causeOf_inv {s t : State σ} {r : Except Stop Unit} {cause : Option Failure}
    (h : causeOf o options r s = (cause, t)) : Follows options.colours s [] t ∧ cause = stopCause r := by
  cases r with
  | ok _ =>
    cases h
    exact ⟨.still rfl rfl rfl, rfl⟩
  | error e =>
    cases e with
    | failed f =>
      cases h
      exact ⟨.still rfl rfl rfl, rfl⟩
    | interrupted i =>
      obtain ⟨_, u, hs, h⟩ := Act.bind_inv h
      cases h
      exact ⟨follows_say_plain (by simp) hs, rfl⟩

theorem announce_inv {s t : State σ} {cause : Option Failure} (h : announce o options cause s = ((), t)) :
    Follows options.colours s (announcement options.colours s.recorder.phase cause) t := by
  cases cause with
  | none =>
    obtain ⟨_, u, he, h⟩ := Act.bind_inv h
    exact (follows_enter he).trans (follows_say_closing (by simp) h)
  | some f =>
    obtain ⟨_, _, hg, h⟩ := Act.bind_inv h
    cases hg
    obtain ⟨_, u, hs, h⟩ := Act.bind_inv h
    exact (follows_say_closing (by simp) hs).andThen (follows_log h)

variable (o)

/-- The world outside once a session has announced itself. -/
def greeted (s : σ) : σ :=
  let titled := o.print (Banner.opening options.colours plan) s
  let described := match plan.description with
    | some text => o.print (Banner.description options.colours text) titled
    | none => titled
  o.log ⟨.debug, .session, "Project root", [("root", .plain options.root.text)]⟩ described

/-- What a session prints before its first step. -/
def greeting : List Event :=
  .printed (Banner.opening options.colours plan) ::
    (plan.description.map fun text => .printed (Banner.description options.colours text)).toList

/-- A session that has announced itself. -/
def opened (s : σ) : State σ :=
  { State.start o s with outside := greeted o plan options s, journal := greeting plan options }

theorem greeting_about : About [.console] (greeting plan options) := by
  cases hd : plan.description with
  | none => simp [About, greeting, hd]
  | some text => simp [About, greeting, hd]

theorem milestones_greeting : milestones options.colours (greeting plan options) = [] := by
  cases hd : plan.description with
  | none => simp [milestones, greeting, hd, Event.isMilestone]
  | some text => simp [milestones, greeting, hd, Event.isMilestone]

variable {o plan options settings}

/-- The parts of a run, one after the other. -/
theorem runPlan_inv {s : σ} {outcome : Outcome} {t : State σ} (h : runPlan o plan options settings s = (outcome, t)) :
    ∃ r s₁ cause s₂ terminated s₃ s₄ durationMs,
      (drive o plan options settings).run (opened o plan options s) = (r, s₁) ∧
      causeOf o options r s₁ = (cause, s₂) ∧
      cleanUp o options (millis settings.shutdownGraceMs) s₂ = (terminated, s₃) ∧
      announce o options cause s₃ = ((), s₄) ∧ offsetMs o s₄ = (durationMs, t) ∧
      outcome = ⟨t.recorder.toReport plan.name cause terminated durationMs, cause⟩ := by
  have rest : (do
      let result ← (drive o plan options settings).run
      let cause ← causeOf o options result
      let terminated ← cleanUp o options (millis settings.shutdownGraceMs)
      announce o options cause
      let duration ← offsetMs o
      return ⟨(← get).recorder.toReport plan.name cause terminated duration, cause⟩ : Act σ Outcome)
        (opened o plan options s) = (outcome, t) := by
    obtain ⟨_, u, ho, h⟩ := Act.bind_inv h
    cases ho
    -- The description is printed if there is one.
    cases hd : plan.description with
    | none =>
      simp only [hd] at h
      obtain ⟨_, v, hl, h⟩ := Act.bind_inv h
      cases hl
      simp only [opened, greeted, greeting, hd]
      exact h
    | some text =>
      simp only [hd] at h
      obtain ⟨_, v, hp, h⟩ := Act.bind_inv h
      cases hp
      obtain ⟨_, w, hl, h⟩ := Act.bind_inv h
      cases hl
      simp only [opened, greeted, greeting, hd]
      exact h
  obtain ⟨r, s₁, hdrive, rest⟩ := Act.bind_inv rest
  obtain ⟨cause, s₂, hcause, rest⟩ := Act.bind_inv rest
  obtain ⟨terminated, s₃, hclean, rest⟩ := Act.bind_inv rest
  obtain ⟨_, s₄, hannounce, rest⟩ := Act.bind_inv rest
  obtain ⟨durationMs, s₅, hoff, rest⟩ := Act.bind_inv rest
  cases rest
  exact ⟨r, s₁, cause, s₂, terminated, s₃, s₄, durationMs, hdrive, hcause, hclean, hannounce, hoff, rfl⟩

variable (plan options settings)

/-- After its steps a session starts no server and no client. -/
theorem runPlan_drives (o : Outside σ) (s : σ) :
    ∃ r u rest, (drive o plan options settings).run (opened o plan options s) = (r, u) ∧
      (runPlan o plan options settings s).2.journal = u.journal ++ rest ∧
      About [.step, .exit, .cleanUp, .console] rest := by
  generalize hrun : runPlan o plan options settings s = result
  obtain ⟨outcome, t⟩ := result
  obtain ⟨r, s₁, cause, s₂, terminated, s₃, s₄, durationMs, hdrive, hcause, hclean, hannounce, hoff, -⟩ :=
    runPlan_inv hrun
  obtain ⟨cleaned, lclean, clean⟩ := cleanUp_inv hclean
  have fcause := (causeOf_inv options hcause).1
  have fannounce := announce_inv options hannounce
  obtain ⟨rest, hrest, hm⟩ := ((fcause.toLogs.trans lclean).trans (fannounce.andThen (follows_offsetMs hoff)).toLogs).journal
  have about : About [.step, .exit, .cleanUp, .console] (milestones options.colours rest) := by
    rw [hm, List.nil_append]
    exact (clean.about.mono (by simp)).append ((announcement_about _ _ _).mono (by simp))
  exact ⟨r, s₁, rest, hdrive, hrest, about.of_milestones (by simp)⟩

/-- The milestones of a run are those of its steps, of the clean-up and of the announcement; and unless a request
comes before the first step there is a phase among those of the steps. -/
theorem runPlan_parts (o : Outside σ) (s : σ) :
    ∃ driven cleaned r m terminated phase durationMs,
      DriveCourse o plan options settings none driven r m ∧
      (phases driven = [] ↔ ∃ i, (o.start (greeted o plan options s)).1 = .watchFirst (some i)) ∧
      CleanCourse o m cleaned terminated ∧
      milestones options.colours (runPlan o plan options settings s).2.journal =
        driven ++ cleaned ++ announcement options.colours phase (stopCause r) ∧
      (runPlan o plan options settings s).1 =
        ⟨((milestones options.colours (runPlan o plan options settings s).2.journal).foldl Recorder.see .new).toReport
            plan.name (stopCause r) terminated durationMs, stopCause r⟩ := by
  generalize hrun : runPlan o plan options settings s = result
  obtain ⟨outcome, t⟩ := result
  obtain ⟨r, s₁, cause, s₂, terminated, s₃, s₄, durationMs, hdrive, hcause, hclean, hannounce, hoff, rfl⟩ :=
    runPlan_inv hrun
  obtain ⟨driven, ldrive, drive, begun⟩ := drive_takes o plan options settings hdrive
  obtain ⟨fcause, rfl⟩ := causeOf_inv options hcause
  obtain ⟨cleaned, lclean, clean⟩ := cleanUp_inv hclean
  have fannounce := announce_inv options hannounce
  rw [fcause.server] at clean
  -- Only the steps, the clean-up and the announcement add milestones.
  have l := ((ldrive.andThen fcause.toLogs).trans lclean).trans (fannounce.andThen (follows_offsetMs hoff)).toLogs
  obtain ⟨js, hj, hm⟩ := l.journal
  have told : milestones options.colours t.journal =
      driven ++ cleaned ++ announcement options.colours s₃.recorder.phase (stopCause r) := by
    rw [hj, opened, milestones_append, milestones_greeting, hm, List.nil_append]
  refine ⟨driven, cleaned, r, _, terminated, _, durationMs, drive, begun, clean, told, ?_⟩
  rw [told, l.recorder]
  rfl

/-- Every run of a plan takes a course, whatever the world outside answers. -/
theorem runPlan_takes (o : Outside σ) (s : σ) :
    RunCourse o plan options settings (runPlan o plan options settings s).1
      (runPlan o plan options settings s).2.journal := by
  obtain ⟨driven, cleaned, r, m, terminated, phase, durationMs, drive, -, clean, told, outcome⟩ :=
    runPlan_parts plan options settings o s
  rw [outcome]
  exact .ran durationMs drive clean told

end Shakedown.Session

import Shakedown.Proofs.CommandLine.ExitStatus
import Shakedown.Proofs.Precedence

/-!
# What keeps a run from being begun

The settings, the plan and the project root of a run can be at fault, in this order, each with the failure it makes and
the exit status it is owed (`Obstacle`). To prepare a run is to come to the first obstacle (`prepare_reports`). What a
command does to the system is noted where it is done: `Surroundings.noting` are given surroundings with a record of the
processes that are started and the files that are written (`Deed`). A run with an obstacle leaves that record as it is
(`obstacle_ends_program`).
-/

namespace Shakedown

variable {σ α : Type}

/-- What a command does to the system: it has a process started, or a file written. -/
inductive Deed where
  | built (program : Path) (args : List String)
  | spawned (request : SpawnRequest)
  | probed (probe : Probe)
  | queried (request : ClientRequest)
  | wrote (path : Path)
deriving DecidableEq, Repr

/-- A world with a record of what is done in it. -/
def Outside.noting (o : Outside σ) : Outside (σ × List Deed) where
  now w := o.now w.1
  files w := o.files w.1
  start := noted [] o.start
  install := noted [] o.install
  print text w := (o.print text w.1, w.2)
  log e w := (o.log e w.1, w.2)
  build p args root := (o.build p args root).noting [.built p args]
  spawn r := noted [.spawned r] (o.spawn r)
  awaitProbe n p root policy := (o.awaitProbe n p root policy).noting [.probed p]
  awaitDelay n d := (o.awaitDelay n d).noting []
  startClient r := noted [.queried r] (o.startClient r)
  piped n stream w := o.piped n stream w.1
  awaitClient n d echo := (o.awaitClient n d echo).noting []
  killClient n := (o.killClient n).noting []
  dropClient n w := (o.dropClient n w.1, w.2)
  viewServer n := noted [] (o.viewServer n)
  awaitServer n := noted [] (o.awaitServer n)
  awaitGrace n d := noted [] (o.awaitGrace n d)
  signalGroup n g w := (o.signalGroup n g w.1, w.2)
  killLeader n := noted [] (o.killLeader n)

namespace CommandLine

/-- Surroundings with a record of what is done in them. -/
def Surroundings.noting (around : Surroundings σ) : Surroundings (σ × List Deed) where
  outside := around.outside.noting
  variable_ w := around.variable_ w.1
  accountHome w := around.accountHome w.1
  colours w := around.colours w.1
  cwd w := around.cwd w.1
  read w := around.read w.1
  doesExist w := around.doesExist w.1
  isDirectory w := around.isDirectory w.1
  write path text w := (around.write path text w.1).map fun s => (s, w.2 ++ [.wrote path])
  printError text w := (around.printError text w.1, w.2)
  makeDirectories path w := (around.makeDirectories path w.1).map fun s => (s, w.2)
  keepLog path w := (around.keepLog path w.1).map fun s => (s, w.2)
  tell filter w := (around.tell filter w.1, w.2)

/-- Something keeps a run from being begun: its place among all that can, the exit status it is owed, and the failure
that it makes. -/
inductive Obstacle (around : Surroundings σ) (r : RunRequest) (s : σ) : Nat → Nat → Failure → Prop
  | unreadableSettings {path : Path} {reason : String} (named : Settings.path? (around.variable_ s) (around.accountHome s) = some path)
      (found : around.doesExist s path = true) (unreadable : around.read s path = .error reason) :
      Obstacle around r s 0 1 (.fileRead path.text reason)
  | invalidSettings {path : Path} {text : String} {e : Settings.ParseError}
      (named : Settings.path? (around.variable_ s) (around.accountHome s) = some path) (found : around.doesExist s path = true)
      (said : around.read s path = .ok text) (invalid : Settings.parse text = .error e) :
      Obstacle around r s 0 2 e.toFailure
  | unreadablePlan {path : Path} {reason : String} (asked : r.plan = some path)
      (unreadable : around.read s path = .error reason) : Obstacle around r s 1 1 (.fileRead path.text reason)
  | invalidPlan {path : Path} {text : String} {e : Plan.ParseError} (asked : r.plan = some path)
      (said : around.read s path = .ok text) (invalid : Plan.parse text = .error e) :
      Obstacle around r s 1 2 e.toFailure
  | invalidBuiltin {e : Plan.ParseError} (unasked : r.plan = none) (invalid : Plan.builtin = .error e) :
      Obstacle around r s 1 2 e.toFailure
  | nowhere {reason : String} (lost : around.cwd s = .error reason) : Obstacle around r s 2 1 (.inputOutput reason)
  | rootless {plan : Plan} {cwd : Path} (chosen : choosePlan around r.plan s = .ok plan) (here : around.cwd s = .ok cwd)
      (missing : around.isDirectory s
        (Plan.resolveRoot (around.outside.files s).isFile cwd r.root plan.root r.plan) = false) :
      Obstacle around r s 2 2 (.configuration
        s!"project root '{(Plan.resolveRoot (around.outside.files s).isFile cwd r.root plan.root r.plan).text}' is not a directory")

variable {around : Surroundings σ} {r : RunRequest} {s s' : σ} {deeds : List Deed} {f : Failure} {place status : Nat}

/-! ## Preparing a run -/

/-- The exit code of the failure at an obstacle is the status that goes with it. -/
theorem Obstacle.exitCode (h : Obstacle around r s place status f) : f.exitCode = status := by
  cases h with
  | unreadableSettings | unreadablePlan | nowhere | rootless => rfl
  | @invalidSettings path text e => cases e <;> rfl
  | @invalidPlan path text e => cases e <;> rfl
  | @invalidBuiltin e => cases e <;> rfl

/-- The failure of an obstacle ends the program with the status that the obstacle is owed. -/
theorem Obstacle.statusOf_exitCode (h : Obstacle around r s place status f) : statusOf f.exitCode = status := by
  rw [h.exitCode]
  cases h <;> rfl

/-- Why a file cannot be loaded: it cannot be read, or what it says is refused. -/
theorem loadFile_error_iff {ε : Type} {read : ReadText} {parse : String → Except ε α} {path : Path}
    {invalid : ε → Failure} :
    (loadFile read parse path).mapError (LoadError.toFailure invalid) = .error f ↔
      (∃ reason, read path = .error reason ∧ .fileRead path.text reason = f) ∨
        ∃ text e, read path = .ok text ∧ parse text = .error e ∧ invalid e = f := by
  unfold loadFile
  cases hread : read path with
  | error reason => simp [Except.mapError, LoadError.toFailure]
  | ok text =>
    cases hparse : parse text with
    | error e => simp [Except.mapError, LoadError.toFailure, hparse]
    | ok a => simp [Except.mapError, hparse]

/-- The settings cannot be loaded exactly if there is an obstacle at the first place. -/
theorem loadSettings_error_iff : loadSettings around s = .error f ↔ ∃ status, Obstacle around r s 0 status f := by
  unfold loadSettings Settings.load
  cases hpath : (Settings.path? (around.variable_ s) (around.accountHome s)).filter (around.doesExist s) with
  | none =>
    -- Without a file that is found there is nothing that could be at fault.
    have absent : ∀ path, Settings.path? (around.variable_ s) (around.accountHome s) = some path → ¬ around.doesExist s path = true :=
      Option.filter_eq_none_iff.mp hpath
    constructor
    · intro h
      cases h
    · rintro ⟨status, h⟩
      cases h with
      | unreadableSettings named found => exact absurd found (absent _ named)
      | invalidSettings named found => exact absurd found (absent _ named)
  | some path =>
    obtain ⟨named, found⟩ := Option.filter_eq_some_iff.mp hpath
    refine loadFile_error_iff.trans ⟨?_, ?_⟩
    · rintro (⟨reason, unreadable, rfl⟩ | ⟨text, e, said, invalid, rfl⟩)
      · exact ⟨1, .unreadableSettings named found unreadable⟩
      · exact ⟨2, .invalidSettings named found said invalid⟩
    · rintro ⟨status, h⟩
      cases h with
      | unreadableSettings named' found' unreadable =>
        cases named.symm.trans named'
        exact .inl ⟨_, unreadable, rfl⟩
      | invalidSettings named' found' said invalid =>
        cases named.symm.trans named'
        exact .inr ⟨_, _, said, invalid, rfl⟩

/-- The plan cannot be chosen exactly if there is an obstacle at the second place. -/
theorem choosePlan_error_iff : choosePlan around r.plan s = .error f ↔ ∃ status, Obstacle around r s 1 status f := by
  cases hplan : r.plan with
  | some path =>
    -- A plan that is named is loaded from its file; of the obstacles at this place one is about the other plan.
    refine loadFile_error_iff.trans ⟨?_, ?_⟩
    · rintro (⟨reason, unreadable, rfl⟩ | ⟨text, e, said, invalid, rfl⟩)
      · exact ⟨1, .unreadablePlan hplan unreadable⟩
      · exact ⟨2, .invalidPlan hplan said invalid⟩
    · rintro ⟨status, h⟩
      cases h with
      | unreadablePlan asked unreadable =>
        cases hplan.symm.trans asked
        exact .inl ⟨_, unreadable, rfl⟩
      | invalidPlan asked said invalid =>
        cases hplan.symm.trans asked
        exact .inr ⟨_, _, said, invalid, rfl⟩
      | invalidBuiltin unasked =>
        cases hplan.symm.trans unasked
  | none =>
    -- Without a name it is the plan that comes with the program, which may not be valid.
    rw [choosePlan]
    constructor
    · intro h
      cases hb : Plan.builtin with
      | ok plan =>
        rw [hb] at h
        cases h
      | error e =>
        rw [hb] at h
        cases h
        exact ⟨2, .invalidBuiltin hplan hb⟩
    · rintro ⟨status, h⟩
      cases h with
      | unreadablePlan asked => cases hplan.symm.trans asked
      | invalidPlan asked => cases hplan.symm.trans asked
      | invalidBuiltin unasked invalid =>
        rw [invalid]
        rfl

/-- The root cannot be chosen exactly if there is an obstacle at the third place. -/
theorem chooseRoot_error_iff {plan : Plan} (chosen : choosePlan around r.plan s = .ok plan) :
    chooseRoot around r plan s = .error f ↔ ∃ status, Obstacle around r s 2 status f := by
  unfold chooseRoot
  constructor
  · intro h
    cases hcwd : around.cwd s with
    | error reason =>
      rw [hcwd] at h
      cases h
      exact ⟨1, .nowhere hcwd⟩
    | ok cwd =>
      simp only [hcwd] at h
      split at h
      case isTrue => cases h
      case isFalse missing =>
        cases h
        exact ⟨2, .rootless chosen hcwd (by simpa using missing)⟩
  · rintro ⟨status, h⟩
    cases h with
    | nowhere lost => rw [lost]
    | rootless chosen' here missing =>
      -- The root depends on the plan, which can only be the one that was chosen.
      cases chosen.symm.trans chosen'
      simp [here, missing]

/-- To prepare a run is to come to its first obstacle. -/
theorem prepare_reports : Reports (fun place f => ∃ status, Obstacle around r s place status f) 0 (prepare around r s) := by
  apply Reports.andThen
  · exact fun f => loadSettings_error_iff
  intro settings _
  apply Reports.andThen
  · exact fun f => choosePlan_error_iff
  intro plan chosen
  apply Reports.andThen
  · exact fun f => chooseRoot_error_iff chosen
  intro root _
  refine .done fun k hk f => ?_
  rintro ⟨status, h⟩
  cases h <;> omega

/-! ## Running the program -/

theorem printError_noting (text : String) :
    around.noting.printError text (s, deeds) = (around.printError text s, deeds) := rfl

/-- A log file is opened as it is without a record, and no process is started for that. -/
theorem openLog_noting (path : Path) :
    openLog around.noting path (s, deeds) = (openLog around path s).map fun s => (s, deeds) := by
  unfold openLog
  split
  · rfl
  · simp only [Surroundings.noting]
    generalize around.makeDirectories _ s = made
    cases made with
    | error reason => rfl
    | ok s => rfl

/-- Nothing is done for the diagnostics that the record would tell. -/
theorem prepareLog_noting (request : Request) :
    prepareLog around.noting request (s, deeds) = (prepareLog around request s).map fun s => (s, deeds) := by
  unfold prepareLog
  cases request.logFile with
  | none => rfl
  | some path => exact openLog_noting path

/-- A command that fails is complained of, and that is all. -/
theorem meet_error {request : Request} (prepared : prepareLog around request s = .ok s')
    (refused : execute around.noting request.command (s', deeds) = (.error f, s', deeds)) :
    meet around.noting request (s, deeds) =
      (.ended (statusOf f.exitCode), around.printError (complaint f) s', deeds) := by
  simp only [meet, prepareLog_noting, prepared, Except.map, refused, printError_noting]

/-- A program that runs its command ends with the low byte of the code. -/
theorem meet_ok {request : Request} {w : σ × List Deed} {code : Int}
    (prepared : prepareLog around request s = .ok s')
    (done : execute around.noting request.command (s', deeds) = (.ok code, w)) :
    meet around.noting request (s, deeds) = (.ended (statusOf code), w) := by
  simp only [meet, prepareLog_noting, prepared, Except.map, done]

/-- A program whose log file cannot be opened panics, and starts and writes nothing. -/
theorem meet_unlogged {request : Request} {reason : String} (unprepared : prepareLog around request s = .error reason) :
    meet around.noting request (s, deeds) = (.panicked reason, s, deeds) := by
  simp only [meet, prepareLog_noting, unprepared, Except.map]

theorem runProgram_of_parse {args : List String} {request : Request} (asked : Request.parse args = .ok request) (s : σ) :
    runProgram around args s = meet around request s := by
  rw [runProgram, asked]

/-- To prepare a run is only to read. -/
theorem prepare_noting : prepare around.noting r (s, deeds) = prepare around r s := rfl

theorem loadPlan_noting {path : Path} : loadPlan around.noting path (s, deeds) = loadPlan around path s := rfl

/-- A run that meets an obstacle starts and writes nothing. -/
theorem execute_run_error (h : prepare around r s = .error f) :
    execute around.noting (.run r) (s, deeds) = (.error f, s, deeds) := by
  rw [execute, prepare_noting, h]

theorem execute_run_ok {p : Preparation} (h : prepare around r s = .ok p) :
    execute around.noting (.run r) (s, deeds) =
      (.ok (runPrepared around.noting r p (s, deeds)).1, (runPrepared around.noting r p (s, deeds)).2) := by
  rw [execute, prepare_noting, h]

/-- Nor does a validation of a plan that cannot be read. -/
theorem execute_validate_error {path : Path} (h : loadPlan around path s = .error f) :
    execute around.noting (.validate path) (s, deeds) = (.error f, s, deeds) := by
  rw [execute, loadPlan_noting, h]

theorem execute_validate_ok {path : Path} {plan : Plan} (h : loadPlan around path s = .ok plan) :
    ∃ w, execute around.noting (.validate path) (s, deeds) = (.ok 0, w) := by
  rw [execute, loadPlan_noting, h]
  exact ⟨_, rfl⟩

/-- For every way in which a run is asked for, and whatever its settings, its plan and its directories are: if something
keeps it from being begun, then the program ends with the status that the first obstacle is owed and complains of its
failure. It has nothing else done to the system than what its diagnostics need, so no process is started and no file is
written. Without an obstacle the run is gone through. The only exception is a log file that cannot be opened: the program
panics before it looks for obstacles, and its status is another. A plan is valid on its own exactly if a run of it has no obstacle there, and
else the same failure is complained of with the same status. -/
theorem obstacle_ends_program (around : Surroundings σ) (r : RunRequest) (s : σ) (deeds : List Deed) :
    (∀ args request, Request.parse args = .ok request → request.command = .run r →
      (∀ reason, prepareLog around request s = .error reason →
        runProgram around.noting args (s, deeds) = (.panicked reason, s, deeds) ∧
          (runProgram around.noting args (s, deeds)).1.status = 101) ∧
      ∀ s', prepareLog around request s = .ok s' →
        (∀ place status f, Obstacle around r s' place status f →
          (∀ earlier, earlier < place → ∀ other g, ¬ Obstacle around r s' earlier other g) →
          runProgram around.noting args (s, deeds) = (.ended status, around.printError (complaint f) s', deeds)) ∧
        ((∀ place status f, ¬ Obstacle around r s' place status f) →
          ∃ p, prepare around r s' = .ok p ∧
            runProgram around.noting args (s, deeds) =
              (.ended (statusOf (runPrepared around.noting r p (s', deeds)).1),
                (runPrepared around.noting r p (s', deeds)).2))) ∧
    ∀ args request path, Request.parse args = .ok request → request.command = .validate path → r.plan = some path →
      ∀ s', prepareLog around request s = .ok s' →
        ((runProgram around.noting args (s, deeds)).1 = .ended 0 ↔ ∀ status f, ¬ Obstacle around r s' 1 status f) ∧
        ∀ status f, Obstacle around r s' 1 status f →
          runProgram around.noting args (s, deeds) = (.ended status, around.printError (complaint f) s', deeds) := by
  constructor
  · intro args request asked command
    rw [runProgram_of_parse asked]
    refine ⟨fun reason unprepared => ?_, fun s' prepared => ⟨?_, ?_⟩⟩
    · rw [meet_unlogged unprepared]
      exact ⟨rfl, rfl⟩
    · intro place status f here earlier
      -- The exit status that an obstacle is owed is that of its failure, and the first one's is the failure of the run.
      have first : prepare around r s' = .error f := by
        rw [prepare_reports.error_iff]
        exact ⟨place, ⟨status, here⟩, fun k hk g ⟨other, hg⟩ => earlier k hk other g hg⟩
      rw [meet_error prepared (command ▸ execute_run_error first), here.statusOf_exitCode]
    · intro clear
      obtain ⟨p, hp⟩ := prepare_reports.ok_iff.mpr fun place f ⟨status, h⟩ => clear place status f h
      exact ⟨p, hp, meet_ok prepared (command ▸ execute_run_ok hp)⟩
  · intro args request path asked command chosen s' prepared
    rw [runProgram_of_parse asked]
    -- The plan is loaded as a run would load it, and a run can only have an obstacle there if loading fails.
    have loads {f : Failure} : loadPlan around path s' = .error f ↔ ∃ status, Obstacle around r s' 1 status f := by
      rw [← choosePlan_error_iff, chosen, choosePlan]
    have fails : ∀ status f, Obstacle around r s' 1 status f →
        meet around.noting request (s, deeds) = (.ended status, around.printError (complaint f) s', deeds) := by
      intro status f here
      have refused : execute around.noting (.validate path) (s', deeds) = (.error f, s', deeds) :=
        execute_validate_error (loads.mpr ⟨status, here⟩)
      rw [meet_error prepared (command ▸ refused), here.statusOf_exitCode]
    refine ⟨?_, fails⟩
    cases hload : loadPlan around path s' with
    | ok plan =>
      obtain ⟨w, done⟩ : ∃ w, execute around.noting (.validate path) (s', deeds) = (.ok 0, w) := execute_validate_ok hload
      rw [meet_ok prepared (command ▸ done)]
      refine iff_of_true rfl fun status f here => ?_
      cases hload.symm.trans (loads.mpr ⟨status, here⟩)
    | error f =>
      obtain ⟨status, here⟩ := loads.mp hload
      rw [fails status f here]
      refine iff_of_false ?_ fun clear => clear status f here
      intro h
      cases h
      cases here

/-- Surroundings with a settings file that says nothing which could be read as settings, and without a plan. -/
def muddledSurroundings : Surroundings Unit :=
  { steadySurroundings (Session.exits [] 0) with
    variable_ := fun _ name => if name = "SMOKE_CONFIG" then some "/muddled" else none
    read := fun _ path => if path = ⟨"/muddled"⟩ then .ok "x" else .error "no file"
    doesExist := fun _ path => path == ⟨"/muddled"⟩ }

/-- The settings are complained of, not the plan, which is only looked at where it is asked for. -/
theorem muddled_settings_end_program :
    runProgram muddledSurroundings.noting ["run", "plan.yaml", "--quiet"] ((), []) = (.ended 2, (), []) ∧
      runProgram muddledSurroundings.noting ["validate", "plan.yaml"] ((), []) = (.ended 1, (), []) := by
  obtain ⟨runs, validates⟩ :=
    obstacle_ends_program muddledSurroundings { plan := some ⟨"plan.yaml"⟩, quiet := true } () []
  have named : Settings.path? (muddledSurroundings.variable_ ()) (muddledSurroundings.accountHome ()) =
      some ⟨"/muddled"⟩ := by decide +kernel
  have said : muddledSurroundings.read () ⟨"/muddled"⟩ = .ok "x" := rfl
  have unreadable : muddledSurroundings.read () ⟨"plan.yaml"⟩ = .error "no file" := rfl
  have settings : Obstacle muddledSurroundings { plan := some ⟨"plan.yaml"⟩, quiet := true } () 0 2
      Settings.ParseError.malformed.toFailure := .invalidSettings named (by decide +kernel) said rfl
  have plan : Obstacle muddledSurroundings { plan := some ⟨"plan.yaml"⟩, quiet := true } () 1 1
      (.fileRead "plan.yaml" "no file") := .unreadablePlan rfl unreadable
  constructor
  · obtain ⟨-, prepared⟩ := runs ["run", "plan.yaml", "--quiet"]
      { command := .run { plan := some ⟨"plan.yaml"⟩, quiet := true } } (by decide +kernel) rfl
    exact (prepared () rfl).1 0 2 _ settings fun earlier h => absurd h (Nat.not_lt_zero _)
  · exact (validates ["validate", "plan.yaml"] { command := .validate ⟨"plan.yaml"⟩ } ⟨"plan.yaml"⟩ (by decide +kernel)
      rfl rfl () rfl).2 1 _ plan

/-- Surroundings with a small plan and with a settings file that cannot be reached, and so is not found, and with a log
file that cannot be opened. -/
def lockedSurroundings : Surroundings Unit :=
  { steadySurroundings (Session.exits [] 0) with
    variable_ := fun _ name => if name = "SMOKE_CONFIG" then some "/locked/config.toml" else none
    read := fun _ path =>
      if path = ⟨"/plan.yaml"⟩ then
        .ok "name: x\nserver:\n  target: \x7b program: /s \x7d\nclient:\n  target: \x7b program: /c \x7d\nqueries:\n  - query: q\n"
      else .error "Permission denied (os error 13)"
    write := fun _ _ _ => .ok ()
    keepLog := fun _ _ => .error "Is a directory (os error 21)" }

/-- Settings that cannot be read are passed over where they cannot be found: the run starts its processes, writes its
report and ends well. And with a log file that cannot be opened, a plan that cannot be read does not make the status. -/
theorem unreachable_settings_passed_over :
    lockedSurroundings.read () ⟨"/locked/config.toml"⟩ = .error "Permission denied (os error 13)" ∧
      Settings.path? (lockedSurroundings.variable_ ()) (lockedSurroundings.accountHome ()) =
        some ⟨"/locked/config.toml"⟩ ∧
      runProgram lockedSurroundings.noting ["run", "/plan.yaml", "--report", "report"] ((), []) =
        (.ended 0, (), [.spawned ⟨⟨"/s"⟩, [], [], ⟨"/"⟩, false⟩, .queried ⟨⟨"/c"⟩, ["q"], [], ⟨"/"⟩⟩, .wrote ⟨"report"⟩]) ∧
      Obstacle lockedSurroundings { plan := some ⟨"/gone.yaml"⟩ } () 1 1
        (.fileRead "/gone.yaml" "Permission denied (os error 13)") ∧
      runProgram lockedSurroundings.noting ["run", "/gone.yaml", "--log-file", "logs"] ((), []) =
        (.panicked "Is a directory (os error 21)", (), []) ∧
      (Conclusion.panicked "Is a directory (os error 21)").status = 101 := by
  have unreadable : lockedSurroundings.read () ⟨"/gone.yaml"⟩ = .error "Permission denied (os error 13)" := by
    decide +kernel
  refine ⟨by decide +kernel, by decide +kernel, by decide +kernel, .unreadablePlan rfl unreadable, by decide +kernel,
    rfl⟩

end CommandLine
end Shakedown

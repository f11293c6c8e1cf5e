import Shakedown.Proofs.Session.Verdict

/-!
# The watch for requests

A session watches for requests to end the run from the first time that it waits for an operation that is not over at
the first look, or from its start if the watch goes first. Until then a request ends the program, and nothing is cleaned
up; the same goes for a request whose handler cannot be installed when the watch begins. Before the launch of the server
there is no operation to wait for but the build tool, so whether the watch has begun by then is decided by the start and
by the first look at that tool (`watchedFrom?`, `watch_before_launch`): with nothing to build and the steps going first
the server is started unwatched (`server_started_unwatched`). The watch is no milestone, so the whole journal is followed
here: `Writes` says which events an action adds to it, and that it leaves the watch as it is.
-/

namespace Shakedown.Session

variable {σ : Type} {α β : Type}

/-- The events `js` lead from the state `s` to the state `t`, and the watch stays as it is. -/
structure Writes (s : State σ) (js : List Event) (t : State σ) : Prop where
  journal : t.journal = s.journal ++ js
  watching : t.watching = s.watching

/-- The journal of the state `t` goes on from that of the state `s`. -/
def Extends (s t : State σ) : Prop := ∃ js, t.journal = s.journal ++ js

/-- Events that do not tell the begin of a watch. -/
def Unwatched (js : List Event) : Prop := ∀ heeded, .watching heeded ∉ js

/-- The requests that an event tells are heeded from then on. -/
def Event.heeded? : Event → Option (List Interrupt)
  | .watching heeded => some heeded
  | _ => none

/-- Events without the begin of a watch. -/
theorem unwatched_iff {js : List Event} : Unwatched js ↔ ∀ e ∈ js, e.heeded? = none := by
  constructor
  · intro h e he
    cases e with
    | watching heeded => exact absurd he (h heeded)
    | _ => rfl
  · intro h heeded hm
    cases h _ hm

instance (js : List Event) : Decidable (Unwatched js) := decidable_of_iff _ unwatched_iff.symm

/-- The watch has begun in a world, or in none: the journal tells of it, and heeded is what could be installed there. -/
structure WatchedFrom (o : Outside σ) (world : Option σ) (s : State σ) : Prop where
  watching : s.watching = world.isSome
  told : ∀ heeded, .watching heeded ∈ s.journal ↔ ∃ w, world = some w ∧ heeded = (o.install w).1.heeded

variable {o : Outside σ} {plan : Plan} {options : RunOptions} {settings : Settings} {s t u : State σ}
  {js js' : List Event} {c : Bool} {world : Option σ}

theorem Writes.trans (h : Writes s js t) (h' : Writes t js' u) : Writes s (js ++ js') u :=
  ⟨by rw [h'.journal, h.journal, List.append_assoc], h'.watching.trans h.watching⟩

/-- What is written without the begin of a watch does not begin one. -/
theorem Writes.keeps (h : Writes s js t) (hs : WatchedFrom o world s) (hj : Unwatched js) : WatchedFrom o world t := by
  refine ⟨h.watching.trans hs.watching, fun heeded => ?_⟩
  rw [h.journal, List.mem_append, or_iff_left (hj heeded)]
  exact hs.told heeded

/-- Before the watch the journal does not tell of one. -/
theorem WatchedFrom.unwatched (h : WatchedFrom o none s) : Unwatched s.journal := by
  intro heeded hm
  obtain ⟨w, hw, -⟩ := (h.told heeded).mp hm
  cases hw

theorem Extends.trans (h : Extends s t) (h' : Extends t u) : Extends s u := by
  obtain ⟨js, hj⟩ := h
  obtain ⟨js', hj'⟩ := h'
  exact ⟨js ++ js', by rw [hj', hj, List.append_assoc]⟩

theorem Logs.extends {es : List Event} (h : Logs c s es t) : Extends s t := by
  obtain ⟨js, hj, -⟩ := h.journal
  exact ⟨js, hj⟩

/-! ## Single actions -/

theorem writes_tell {f : σ → σ} (h : tell f s = ((), t)) : Writes s [] t := by
  cases h
  exact ⟨(List.append_nil _).symm, rfl⟩

theorem writes_log {e : Log.Event} (h : log o e s = ((), t)) : Writes s [] t :=
  writes_tell h

theorem writes_ask {f : σ → α × σ} {a : α} (h : ask f s = (a, t)) : Writes s [] t := by
  cases h
  exact ⟨(List.append_nil _).symm, rfl⟩

theorem writes_note {e : Event} (h : note e s = ((), t)) : Writes s [e] t := by
  cases h
  exact ⟨rfl, rfl⟩

theorem writes_say {text : String} (h : say o text s = ((), t)) : Writes s [.printed text] t := by
  obtain ⟨_, u, hn, ht⟩ := Act.bind_inv h
  exact (writes_note hn).trans (writes_tell ht)

theorem writes_enter {phase : Phase} (h : enter o phase s = ((), t)) : Writes s [.entered phase] t := by
  cases h
  exact ⟨rfl, rfl⟩

theorem writes_startStep {kind : StepKind} {name : String} {step : OpenStep}
    (h : startStep o kind name s = (step, t)) : Writes s [] t := by
  cases h
  exact ⟨(List.append_nil _).symm, rfl⟩

theorem writes_finishStep {step : OpenStep} {status : StepStatus} {code : ExitCode} {detail : Option String}
    (h : finishStep o step status code detail s = ((), t)) : ∃ r, Writes s [.recorded r] t := by
  cases h
  exact ⟨_, rfl, rfl⟩

theorem writes_server {m : Option Managed} (h : (modify fun s => { s with server := m } : Act σ Unit) s = ((), t)) :
    Writes s [] t := by
  cases h
  exact ⟨(List.append_nil _).symm, rfl⟩

/-- After the watch has begun, or been found to have begun, requests are watched for. -/
theorem watch_inv (h : watch o s = ((), t)) :
    t.watching = true ∧
      t.journal = s.journal ++ if s.watching then [] else [.watching (o.install s.outside).1.heeded] := by
  obtain ⟨_, _, hg, h⟩ := Act.bind_inv h
  cases hg
  cases hw : s.watching with
  | true =>
    rw [hw] at h
    cases h
    exact ⟨hw, (List.append_nil _).symm⟩
  | false =>
    rw [hw] at h
    cases h
    exact ⟨rfl, rfl⟩

/-- A watch that has not begun yet begins in the world as it is. -/
theorem WatchedFrom.watch (hs : WatchedFrom o world s) (h : watch o s = ((), t)) :
    WatchedFrom o (world.or (some s.outside)) t := by
  obtain ⟨hw, hj⟩ := watch_inv h
  cases world with
  | none =>
    have off : s.watching = false := hs.watching
    refine ⟨hw, fun heeded => ?_⟩
    rw [off] at hj
    rw [hj, List.mem_append, or_iff_right (hs.unwatched heeded)]
    simp
  | some w =>
    have on : s.watching = true := hs.watching
    refine ⟨hw, fun heeded => ?_⟩
    rw [on] at hj
    rw [hj]
    simpa using hs.told heeded

/-- An operation that is waited for is over at its first look, or is waited for under the watch. -/
theorem waitFor_watches {op : Operation σ α} {answer : Awaited α} (h : waitFor o op s = (answer, t)) :
    (∃ a, (op s.outside).1 = .ready a ∧ answer = .done a ∧ t = { s with outside := (op s.outside).2 }) ∨
      ∃ rest u, (op s.outside).1 = .goesOn rest ∧ watch o { s with outside := (op s.outside).2 } = ((), u) ∧
        Writes u [] t := by
  obtain ⟨look, u, hl, h⟩ := Act.bind_inv h
  cases hl
  cases hlook : (op s.outside).1 with
  | ready b =>
    rw [hlook] at h
    cases h
    exact Or.inl ⟨b, rfl, rfl, rfl⟩
  | goesOn rest =>
    rw [hlook] at h
    obtain ⟨_, v, hw, h⟩ := Act.bind_inv h
    exact Or.inr ⟨rest, v, rfl, hw, writes_ask h⟩

/-- The world that the watch begins in if an operation is waited for. -/
def waitsFrom? (op : Operation σ α) (w : σ) : Option σ :=
  match (op w).1 with
  | .ready _ => none
  | .goesOn _ => some (op w).2

/-- A wait begins the watch if its operation is not over at the first look and the watch has not begun. -/
theorem WatchedFrom.waitFor {op : Operation σ α} {answer : Awaited α} (hs : WatchedFrom o world s)
    (h : waitFor o op s = (answer, t)) : WatchedFrom o (world.or (waitsFrom? op s.outside)) t := by
  have looked : Writes s [] { s with outside := (op s.outside).2 } := ⟨(List.append_nil _).symm, rfl⟩
  have hs' := looked.keeps hs fun _ => List.not_mem_nil
  rcases waitFor_watches h with ⟨a, hlook, -, rfl⟩ | ⟨rest, u, hlook, hw, waited⟩
  · simp only [waitsFrom?, hlook, Option.or_none]
    exact hs'
  · simp only [waitsFrom?, hlook]
    exact waited.keeps (hs'.watch hw) fun _ => List.not_mem_nil

/-- A result that lets the session go on is recorded. -/
theorem settle_writes {colours : Bool} {step : OpenStep} {result : Except Failure α} {a : α}
    {code : α → ExitCode} {detail : α → Option String}
    (h : (settle o colours step result code detail).run s = (.ok a, t)) :
    result = .ok a ∧ ∃ r, Writes s [.recorded r] t := by
  cases result with
  | ok b =>
    obtain ⟨_, u, hf, h⟩ := Steps.lift_inv h
    cases h
    exact ⟨rfl, writes_finishStep hf⟩
  | error f =>
    obtain ⟨_, u, hs, h⟩ := Steps.lift_inv h
    obtain ⟨_, v, hf, h⟩ := Steps.lift_inv h
    cases h

/-! ## The steps up to the launch -/

/-- A session that has entered its first phase and announced what it builds. -/
def announced (o : Outside σ) (options : RunOptions) (c : BuildCommand) (s : State σ) : State σ :=
  ((do enter o .building; say o (Banner.step options.colours "Building" c.display) : Act σ Unit) s).2

/-- The world that the watch begins in if the session waits for its build tool. -/
def buildWaitsFrom? (o : Outside σ) (plan : Plan) (options : RunOptions) (settings : Settings) (s : State σ) : Option σ :=
  match buildCommand? plan options settings with
  | none => none
  | some c =>
    let w := (announced o options c s).outside
    match (o.files w).resolveProgram options.root ⟨c.program⟩ with
    | .error _ => none
    | .ok program => waitsFrom? (o.build program c.args options.root) (o.log (buildEvent program c) w)

/-- A build that succeeds was waited for unless its tool was over at the first look. -/
theorem runBuild_watches {root : Path} {b : BuildCommand} (h : (runBuild o root b).run s = (.ok (.ok ()), t))
    (hs : WatchedFrom o world s) :
    ∃ program, (o.files s.outside).resolveProgram root ⟨b.program⟩ = .ok program ∧
      WatchedFrom o (world.or (waitsFrom? (o.build program b.args root) (o.log (buildEvent program b) s.outside))) t := by
  obtain ⟨_, _, hg, h⟩ := Steps.lift_inv h
  cases hg
  dsimp only at h
  cases hp : (o.files s.outside).resolveProgram root ⟨b.program⟩ with
  | error fault =>
    simp only [hp] at h
    cases h
  | ok program =>
    simp only [hp] at h
    obtain ⟨_, u, hl, h⟩ := Steps.lift_inv h
    have hu := (writes_log hl).keeps hs fun _ => List.not_mem_nil
    cases hl
    refine ⟨program, rfl, ?_⟩
    rcases awaitOr_cases h with ⟨answer, v, hw, h⟩ | ⟨i, v, w, -, -, h⟩
    · have hv := hu.waitFor hw
      cases answer with
      | unavailable reason => cases h
      | ended ending =>
        obtain ⟨_, x, hn, h⟩ := Steps.lift_inv h
        obtain rfl : x = t := congrArg Prod.snd h
        exact (writes_note hn).keeps hv (by simp [Unwatched])
    · cases (interrupt_inv (c := false) h).1

/-- After the build step the watch has begun if it had before, or if the session has waited for its build tool. -/
theorem build_watches (h : (build o plan options settings).run s = (.ok (), t)) (hs : WatchedFrom o world s) :
    WatchedFrom o (world.or (buildWaitsFrom? o plan options settings s)) t := by
  obtain ⟨_, s₁, he, h⟩ := Steps.lift_inv h
  cases hc : buildCommand? plan options settings with
  | none =>
    simp only [hc] at h
    obtain ⟨_, s₂, hp, h⟩ := Steps.lift_inv h
    obtain ⟨step, s₃, hstart, h⟩ := Steps.lift_inv h
    obtain ⟨_, hfin, -⟩ := Steps.lift_last h
    obtain ⟨r, finished⟩ := writes_finishStep hfin
    have wrote := (((writes_enter he).trans (writes_say hp)).trans (writes_startStep hstart)).trans finished
    simp only [buildWaitsFrom?, hc, Option.or_none]
    exact wrote.keeps hs (by simp [Unwatched])
  | some b =>
    simp only [hc] at h
    obtain ⟨_, s₂, hp, h⟩ := Steps.lift_inv h
    -- The build tool is looked at in the world in which it was announced.
    have opening : s₂ = announced o options b s := by
      cases he
      cases hp
      rfl
    obtain ⟨step, s₃, hstart, h⟩ := Steps.lift_inv h
    have begun := ((writes_enter he).trans (writes_say hp)).trans (writes_startStep hstart)
    obtain rfl : s₂ = s₃ := congrArg Prod.snd hstart
    rcases Steps.bind_inv h with ⟨result, s₄, hrun, h⟩ | ⟨e, -, he⟩
    · rcases Steps.bind_inv h with ⟨_, s₅, hsettle, hsaid⟩ | ⟨e, -, he⟩
      · obtain ⟨rfl, r, recorded⟩ := settle_writes hsettle
        obtain ⟨_, hp', -⟩ := Steps.lift_last hsaid
        obtain ⟨program, hprogram, hs₄⟩ := runBuild_watches hrun (begun.keeps hs (by simp [Unwatched]))
        subst opening
        simp only [buildWaitsFrom?, hc, hprogram]
        exact (recorded.trans (writes_say hp')).keeps hs₄ (by simp [Unwatched])
      · cases he
    · cases he

/-- A server that is started writes nothing but its start: the session had none, and its program was found. -/
theorem startServer_writes {server : Managed} (h : startServer o plan options s = (.ok server, t)) :
    Writes s [.spawned server.pid] t := by
  obtain ⟨_, _, hg, h⟩ := Act.bind_inv h
  cases hg
  cases hslot : s.server.isSome with
  | true =>
    simp only [hslot] at h
    cases h
  | false =>
    simp only [hslot] at h
    obtain ⟨_, _, hg, h⟩ := Act.bind_inv h
    cases hg
    cases hview : (o.files s.outside).locate options.root plan.build.profile plan.server.target with
    | error fault =>
      simp only [hview] at h
      cases h
    | ok program =>
      simp only [hview] at h
      obtain ⟨answer, s₁, ha, h⟩ := Act.bind_inv h
      cases answer with
      | error reason => cases h
      | ok pid =>
        obtain ⟨_, s₂, hn, h⟩ := Act.bind_inv h
        obtain ⟨_, s₃, hl, h⟩ := Act.bind_inv h
        cases h
        exact ((writes_ask ha).trans (writes_note hn)).trans (writes_log hl)

/-- The events of the launch step: the server is started after the phase was entered and announced, and its start
is recorded and announced. -/
theorem launch_writes {server : Managed} (h : (launch o plan options).run s = (.ok server, t)) :
    ∃ announced r text, Writes s
      [.entered .serverStarting, .printed announced, .spawned server.pid, .recorded r, .printed text] t := by
  obtain ⟨_, s₁, he, h⟩ := Steps.lift_inv h
  obtain ⟨_, s₂, hp, h⟩ := Steps.lift_inv h
  obtain ⟨step, s₃, hstart, h⟩ := Steps.lift_inv h
  obtain ⟨result, s₄, hlaunch, h⟩ := Steps.lift_inv h
  -- The launch has succeeded, so its result was settled as one, and the server was started.
  rcases Steps.bind_inv h with ⟨m, s₅, hsettle, htaken⟩ | ⟨e, -, he⟩
  · obtain ⟨rfl, r, recorded⟩ := settle_writes hsettle
    obtain ⟨_, s₆, hm, hsaid⟩ := Steps.lift_inv htaken
    obtain ⟨_, s₇, hp', hdone⟩ := Steps.lift_inv hsaid
    cases hdone
    have begun := ((writes_enter he).trans (writes_say hp)).trans (writes_startStep hstart)
    have started := begun.trans (startServer_writes hlaunch)
    exact ⟨_, r, _, by simpa using ((started.trans recorded).trans (writes_server hm)).trans (writes_say hp')⟩
  · cases he

/-! ## The await step -/

/-- The operation can be over at its first look. -/
def AtOnce (op : Operation σ α) : Prop := ∃ w a, (op w).1 = .ready a

/-- The readiness wait for a server can be over at its first look. -/
def ReadyAtOnce (o : Outside σ) (server : Nat) (probe : Option Probe) (root : Path) (policy : ReadinessPolicy) : Prop :=
  match probe with
  | some p => AtOnce (o.awaitProbe server p root policy)
  | none => AtOnce (o.awaitDelay server policy.ceiling)

/-- The journal of the state `t` goes on from that of the state `s`, and does so with the begin of the watch if that had
not begun and nothing was over at once. -/
structure Resumes (atOnce : Prop) (s t : State σ) : Prop where
  journal : Extends s t
  watched : s.watching = false → atOnce ∨ ∃ heeded js, t.journal = s.journal ++ .watching heeded :: js

/-- What follows only adds to the journal. -/
theorem Resumes.andThen {atOnce : Prop} (h : Resumes atOnce s t) (h' : Extends t u) : Resumes atOnce s u := by
  refine ⟨h.journal.trans h', fun off => ?_⟩
  obtain ⟨js', hj'⟩ := h'
  rcases h.watched off with atOnce | ⟨heeded, js, hj⟩
  · exact Or.inl atOnce
  · exact Or.inr ⟨heeded, js ++ js', by rw [hj', hj, List.append_assoc, List.cons_append]⟩

/-- A wait begins the watch, if it is still off, before anything else is told, or its operation is over at once. -/
theorem waitFor_resumes {op : Operation σ α} {answer : Awaited α} (h : waitFor o op s = (answer, t)) :
    Resumes (AtOnce op) s t := by
  rcases waitFor_watches h with ⟨a, hlook, -, rfl⟩ | ⟨rest, u, -, hw, waited⟩
  · exact ⟨⟨[], (List.append_nil _).symm⟩, fun _ => Or.inl ⟨_, a, hlook⟩⟩
  · obtain ⟨-, hj⟩ := watch_inv hw
    rw [← List.append_nil u.journal, ← waited.journal] at hj
    refine ⟨⟨_, hj⟩, fun off => Or.inr ?_⟩
    rw [if_neg (by simp [off])] at hj
    exact ⟨_, [], hj⟩

/-- What an operation is awaited for comes after the wait, and so does the end of the steps that a request brings. -/
theorem await_resumes {op : Operation σ α} {k : α → Steps σ β} {r : Except Stop β}
    (next : ∀ a u, (k a).run u = (r, t) → Extends u t) (h : (await o op >>= k).run s = (r, t)) :
    Resumes (AtOnce op) s t := by
  rcases awaitOr_cases h with ⟨a, u, hw, h⟩ | ⟨i, u, v, hw, hletGo, h⟩
  · exact (waitFor_resumes hw).andThen (next a u h)
  · cases hletGo
    exact (waitFor_resumes hw).andThen (interrupt_inv (c := false) h).2.toLogs.extends

/-- What was found of a server is told at the end of the journal. -/
theorem serverIsOver_extends {server : Managed} {how : ServerEnd} {r : Except Stop (Except Failure Readiness)}
    (h : (liftM (serverIsOver (σ := σ) server how) : Steps σ _).run s = (r, t)) : Extends s t := by
  obtain ⟨result, h, -⟩ := Steps.lift_last h
  cases how with
  | exited ending =>
    cases h
    exact ⟨_, rfl⟩
  | lost reason =>
    cases h
    exact ⟨_, rfl⟩

/-- Awaiting readiness is one wait. -/
theorem awaitReadiness_resumes {server : Managed} {probe : Option Probe} {root : Path} {policy : ReadinessPolicy}
    {r : Except Stop (Except Failure Readiness)} (h : (awaitReadiness o server probe root policy).run s = (r, t)) :
    Resumes (ReadyAtOnce o server.pid probe root policy) s t := by
  cases probe with
  | some p =>
    refine await_resumes (fun race u hk => ?_) h
    cases hwin : race.winner with
    | inl e =>
      simp only [hwin] at hk
      obtain ⟨result, hp, -⟩ := Steps.lift_last hk
      exact (probeResult_inv (c := false) server hp).1.toLogs.extends
    | inr how =>
      simp only [hwin] at hk
      exact serverIsOver_extends hk
  | none =>
    refine await_resumes (fun race u hk => ?_) h
    cases hwin : race.winner with
    | inl e =>
      simp only [hwin] at hk
      cases hk
      exact ⟨[], (List.append_nil _).symm⟩
    | inr how =>
      simp only [hwin] at hk
      exact serverIsOver_extends hk

theorem awaitLaunched_resumes {server : Managed} {probe : Option Probe} {root : Path} {policy : ReadinessPolicy}
    {r : Except Stop (Except Failure Readiness)} (there : s.server = some server)
    (h : (awaitLaunched o probe root policy).run s = (r, t)) :
    Resumes (ReadyAtOnce o server.pid probe root policy) s t := by
  obtain ⟨_, _, hg, h⟩ := Steps.lift_inv h
  cases hg
  simp only [there] at h
  exact awaitReadiness_resumes h

/-- Before the session awaits its server it announces that, and does nothing else. -/
theorem awaitServer_resumes {server : Managed} {r : Except Stop Unit} (there : s.server = some server)
    (h : (awaitServer o plan options settings).run s = (r, t)) :
    ∃ text u, Writes s [.printed text] u ∧
      Resumes (ReadyAtOnce o server.pid plan.server.readiness.probe options.root
        (ReadinessPolicy.resolve plan.server.readiness settings)) u t := by
  obtain ⟨_, s₁, hp, h⟩ := Steps.lift_inv h
  obtain ⟨step, s₂, hstart, h⟩ := Steps.lift_inv h
  have announced := (writes_say hp).trans (writes_startStep hstart)
  have kept : s₂.server = some server := by
    rw [(follows_startStep (c := false) hstart).1.server, (follows_say (c := false) hp).server, there]
  rcases Steps.bind_inv h with ⟨result, s₃, hready, h⟩ | ⟨e, hready, -⟩
  · refine ⟨_, s₂, announced, (awaitLaunched_resumes kept hready).andThen ?_⟩
    rcases Steps.bind_inv h with ⟨readiness, s₄, hsettle, hrest⟩ | ⟨e, hsettle, -⟩
    · obtain ⟨-, r, recorded⟩ := settle_writes hsettle
      obtain ⟨_, s₅, hp', hrest⟩ := Steps.lift_inv hrest
      obtain ⟨_, he, -⟩ := Steps.lift_last hrest
      exact ⟨_, ((recorded.trans (writes_say hp')).trans (writes_enter he)).journal⟩
    · obtain ⟨finishedMs, ⟨a, -, hok, -⟩ | ⟨f, -, -, follows⟩⟩ := settle_inv hsettle
      · cases hok
      · exact follows.toLogs.extends
  · exact ⟨_, s₂, announced, awaitLaunched_resumes kept hready⟩

/-! ## The launch in a run -/

/-- The journal of a run around the launch of its server, before which the watch may have begun in a world. -/
structure Launched (o : Outside σ) (plan : Plan) (options : RunOptions) (settings : Settings) (world : Option σ)
    (server : Nat) (before after : List Event) : Prop where
  watched : ∀ heeded, .watching heeded ∈ before ↔ ∃ w, world = some w ∧ heeded = (o.install w).1.heeded
  unwatched : Unwatched before → ∃ shown rest, after = shown ++ rest ∧
    (∀ e ∈ shown, (∃ text, e = .printed text) ∨ ∃ r, e = .recorded r) ∧
    ((∃ heeded rest', rest = .watching heeded :: rest') ∨
      ReadyAtOnce o server plan.server.readiness.probe options.root
        (ReadinessPolicy.resolve plan.server.readiness settings))

/-- Steps that start a server have begun to watch before that if they were watching at their begin, or if the session
has waited for its build tool. -/
theorem steps_launched {p : Nat} {r : Except Stop Unit} (h : (steps o plan options settings).run s = (r, t))
    (hs : WatchedFrom o world s) (spawned : .spawned p ∈ t.journal) (fresh : .spawned p ∉ s.journal) :
    ∃ before q after, t.journal = before ++ .spawned q :: after ∧
      Launched o plan options settings (world.or (buildWaitsFrom? o plan options settings s)) q before after := by
  have unspawned : ∀ {es : List Event} {topics : List Topic} {v w : State σ}, Logs options.colours v es w →
      About topics es → .launch ∉ topics → .spawned p ∉ v.journal → .spawned p ∉ w.journal := by
    intro es topics v w l about ht hv hw
    obtain ⟨js, hj, rfl⟩ := l.journal
    rw [hj, List.mem_append] at hw
    exact hw.elim hv fun hjs => about.not_mem (by exact ht) ((mem_milestones rfl).mpr hjs)
  rcases Steps.bind_inv h with ⟨_, s₁, hb, h⟩ | ⟨e, hb, -⟩
  · obtain ⟨es, lb, build⟩ := build_takes o plan options settings hb
    have fresh₁ := unspawned lb build.about.2 (by simp) fresh
    have hs₁ := build_watches hb hs
    rcases Steps.bind_inv h with ⟨server, s₂, hl, h⟩ | ⟨e, hl, -⟩
    · obtain ⟨announced, r₁, text, launched⟩ := launch_writes hl
      -- From the launch on the journal only grows, and the await step begins with a wait.
      obtain ⟨r', s₃, hawait, rest⟩ : ∃ r' s₃, (awaitServer o plan options settings).run s₂ = (r', s₃) ∧
          Extends s₃ t := by
        rcases Steps.bind_inv h with ⟨_, s₃, ha, h⟩ | ⟨e, ha, -⟩
        · obtain ⟨qs, lq, -⟩ := queries_takes o plan options settings 0 plan.queries h
          exact ⟨_, s₃, ha, lq.extends⟩
        · exact ⟨_, t, ha, [], (List.append_nil _).symm⟩
      obtain ⟨_, -, launch⟩ := launch_takes o plan options hl
      obtain ⟨waiting, u, asked, waits⟩ := awaitServer_resumes launch.slot hawait
      have resumes := waits.andThen rest
      have hu : u.journal = s₁.journal ++ [.entered .serverStarting, .printed announced, .spawned server.pid,
          .recorded r₁, .printed text, .printed waiting] := by
        rw [asked.journal, launched.journal]
        simp
      obtain ⟨js, hjs⟩ := resumes.journal
      have told : ∀ heeded, .watching heeded ∈ s₁.journal ++ [.entered .serverStarting, .printed announced] ↔
          .watching heeded ∈ s₁.journal := by simp
      refine ⟨s₁.journal ++ [.entered .serverStarting, .printed announced], server.pid,
        [.recorded r₁, .printed text, .printed waiting] ++ js, ?_, fun heeded => ?_, fun hnone => ?_⟩
      · simp [hjs, hu]
      · rw [told]
        exact hs₁.told heeded
      · have off : u.watching = false := by
          rw [asked.watching, launched.watching, hs₁.watching]
          cases hworld : world.or (buildWaitsFrom? o plan options settings s) with
          | none => rfl
          | some w => exact absurd ((told _).mpr ((hs₁.told _).mpr ⟨w, hworld, rfl⟩)) (hnone _)
        refine ⟨[.recorded r₁, .printed text, .printed waiting], js, rfl, by simp, ?_⟩
        rcases resumes.watched off with atOnce | ⟨heeded, js', hj'⟩
        · exact Or.inr atOnce
        · exact Or.inl ⟨heeded, js', List.append_cancel_left (hjs.symm.trans hj')⟩
    · obtain ⟨es', ll, launch⟩ := launch_takes o plan options hl
      exact absurd spawned (unspawned ll launch.stopped_inv.2 (by simp) fresh₁)
  · obtain ⟨es, lb, build⟩ := build_takes o plan options settings hb
    exact absurd spawned (unspawned lb build.about.2 (by simp) fresh)

/-- The world that the watch for requests begins in, if it begins before the launch of the server: that of the start if
the watch goes first, or else that of the first look at the build tool. -/
def watchedFrom? (o : Outside σ) (plan : Plan) (options : RunOptions) (settings : Settings) (s : State σ) : Option σ :=
  let begun : State σ := { s with outside := (o.start s.outside).2 }
  match (o.start s.outside).1 with
  | .watchFirst _ => some begun.outside
  | .stepsFirst => buildWaitsFrom? o plan options settings begun

/-- Whether the session goes first or a request, its server is launched as `Launched` has it. -/
theorem drive_launched {p : Nat} {r : Except Stop Unit} (h : (drive o plan options settings).run s = (r, t))
    (hs : WatchedFrom o none s) (spawned : .spawned p ∈ t.journal) (fresh : .spawned p ∉ s.journal) :
    ∃ before q after, t.journal = before ++ .spawned q :: after ∧
      Launched o plan options settings (watchedFrom? o plan options settings s) q before after := by
  have asked : Writes s [] { s with outside := (o.start s.outside).2 } := ⟨(List.append_nil _).symm, rfl⟩
  have begun := asked.keeps hs fun _ => List.not_mem_nil
  -- The steps go first, or the watch does, and may find a request that is there already.
  rcases drive_inv o plan options settings h with ⟨hstart, h⟩ | ⟨hstart, v, hw, h⟩ | ⟨i, v, hstart, hw, h⟩
  · simp only [watchedFrom?, hstart]
    exact steps_launched h begun spawned fresh
  · obtain ⟨-, hv⟩ := watch_inv hw
    have fresh' : .spawned p ∉ v.journal := by
      rw [hv]
      simpa [hs.watching] using fresh
    simp only [watchedFrom?, hstart]
    exact steps_launched h (begun.watch hw) spawned fresh'
  · obtain ⟨-, hv⟩ := watch_inv hw
    obtain ⟨js, hj, hjs⟩ := (interrupt_inv (c := false) h).2.journal
    have unspawned : .spawned p ∉ t.journal := by
      rw [hj, hv]
      intro hm
      rcases List.mem_append.mp hm with hm | hm
      · exact fresh (by simpa [hs.watching] using hm)
      · have hmark := (mem_milestones (c := false) rfl).mpr hm
        rw [hjs] at hmark
        simp at hmark
    exact absurd spawned unspawned

/-- Of lists with one launch the part before it and the part after it are determined. -/
theorem launch_unique {es before after pre post : List Event} {p q : Nat} (once : (launches es).length ≤ 1)
    (h : es = before ++ .spawned q :: after) (h' : es = pre ++ .spawned p :: post) :
    pre = before ∧ post = after := by
  -- Another launch on either side of one would make two.
  have one : ∀ {a b : List Event} {q : Nat}, .spawned p ∈ a ∨ .spawned p ∈ b → (launches (a ++ .spawned q :: b)).length ≠ 1 := by
    intro a b q hm
    have positive : 1 ≤ (launches a).length + (launches b).length := by
      rcases hm with hm | hm
      · have hp : p ∈ launches a := List.mem_filterMap.mpr ⟨_, hm, rfl⟩
        have := List.length_pos_of_mem hp
        omega
      · have hp : p ∈ launches b := List.mem_filterMap.mpr ⟨_, hm, rfl⟩
        have := List.length_pos_of_mem hp
        omega
    have hcons : launches (.spawned q :: b) = q :: launches b := rfl
    rw [launches_append, hcons, List.length_append, List.length_cons]
    omega
  have hone : (launches es).length = 1 := by
    refine Nat.le_antisymm once ?_
    have hcons : launches (.spawned q :: after) = q :: launches after := rfl
    rw [h, launches_append, hcons, List.length_append, List.length_cons]
    omega
  rw [h] at hone h'
  rcases append_split h' with ⟨rest, rfl, -⟩ | ⟨rest, rfl, htail⟩
  · exact absurd hone (one (Or.inl (by simp)))
  · cases rest with
    | nil =>
      obtain ⟨-, rfl⟩ := List.cons.inj htail
      exact ⟨List.append_nil _, rfl⟩
    | cons e rest =>
      obtain ⟨rfl, rfl⟩ := List.cons.inj htail
      exact absurd hone (one (Or.inr (by simp)))

/-- The watch for requests and the launch of the server in a run, whatever the world outside answers. A request is heeded
before the server is started exactly if its handler could be installed when the watch began, and the watch had begun by
then: it goes first when the session is started, or the session has waited for a build tool that was not over at the
first look. If the watch has not begun by the launch, it begins after that was recorded and announced, when the session
awaits its server, unless the wait for it is over at once. -/
theorem watch_before_launch (o : Outside σ) (plan : Plan) (options : RunOptions) (settings : Settings) (s : σ) :
    let journal := (runPlan o plan options settings s).2.journal
    ∀ p pre post, journal = pre ++ .spawned p :: post →
      (∀ i, (∃ heeded, .watching heeded ∈ pre ∧ i ∈ heeded) ↔
        ∃ w, watchedFrom? o plan options settings (opened o plan options s) = some w ∧ i ∈ (o.install w).1.heeded) ∧
      ((∀ heeded, .watching heeded ∉ pre) → ∃ shown rest, post = shown ++ rest ∧
        (∀ e ∈ shown, (∃ text, e = .printed text) ∨ ∃ r, e = .recorded r) ∧
        ((∃ heeded rest', rest = .watching heeded :: rest') ∨
          ReadyAtOnce o p plan.server.readiness.probe options.root
            (ReadinessPolicy.resolve plan.server.readiness settings))) := by
  intro journal p pre post hj
  have served := (runPlan_takes plan options settings o s).served
  have once : (launches journal).length ≤ 1 := by
    rw [← launches_milestones (c := options.colours)]
    exact served.launches.1
  obtain ⟨r, s₁, rest, hdrive, hrest, about⟩ := runPlan_drives plan options settings o s
  change journal = s₁.journal ++ rest at hrest
  have fresh : .spawned p ∉ (opened o plan options s).journal := (greeting_about plan options).not_mem (by simp)
  have unwatched : WatchedFrom o none (opened o plan options s) := by
    refine ⟨rfl, fun heeded => ?_⟩
    cases hd : plan.description with
    | none => simp [opened, greeting, hd]
    | some text => simp [opened, greeting, hd]
  have spawned : .spawned p ∈ s₁.journal := by
    have hmem : .spawned p ∈ journal := hj ▸ List.mem_append_right _ (List.mem_cons_self ..)
    rw [hrest, List.mem_append] at hmem
    exact hmem.resolve_right (about.not_mem (by simp))
  obtain ⟨before, q, after, hs₁, launched⟩ := drive_launched hdrive unwatched spawned fresh
  -- There is one launch, so it is the one that the steps have led to.
  have hsplit : journal = before ++ .spawned q :: (after ++ rest) := by
    rw [hrest, hs₁, List.append_assoc, List.cons_append]
  obtain ⟨rfl, rfl⟩ := launch_unique once hsplit hj
  obtain ⟨rfl⟩ : q = p := by
    have hsame := List.append_cancel_left (hsplit.symm.trans hj)
    simpa using hsame
  refine ⟨fun i => ?_, fun hno => ?_⟩
  · simp only [launched.watched]
    constructor
    · rintro ⟨heeded, ⟨w, hw, rfl⟩, hi⟩
      exact ⟨w, hw, hi⟩
    · rintro ⟨w, hw, hi⟩
      exact ⟨_, ⟨w, hw, rfl⟩, hi⟩
  · obtain ⟨shown, later, rfl, quiet, hlater⟩ := launched.unwatched hno
    refine ⟨shown, later ++ rest, by rw [List.append_assoc], quiet, ?_⟩
    rcases hlater with ⟨heeded, rest', rfl⟩ | atOnce
    · exact Or.inl ⟨heeded, rest' ++ rest, rfl⟩
    · exact Or.inr atOnce

/-- In a small run the watch begins after the launch, and only what tells of the launch comes in between. -/
theorem small_watch_follows_launch :
    ∃ shown heeded rest, (smallRun (exits [] 0)).2.journal.drop 7 = shown ++ .watching heeded :: rest ∧
      ∀ e ∈ shown, (∃ text, e = .printed text) ∨ ∃ r, e = .recorded r := by
  have unwatched : Unwatched ((smallRun (exits [] 0)).2.journal.take 6) := by decide +kernel
  obtain ⟨shown, rest, hpost, quiet, ⟨heeded, rest', hrest⟩ | ⟨w, a, ready⟩⟩ :=
    (watch_before_launch (steadyWorld (exits [] 0)) smallPlan { root := ⟨"/"⟩, skipBuild := true } {} () 7
      ((smallRun (exits [] 0)).2.journal.take 6) ((smallRun (exits [] 0)).2.journal.drop 7)
      (by decide +kernel)).2 unwatched
  · exact ⟨shown, heeded, rest', hrest ▸ hpost, quiet⟩
  · -- The probe of the steady world is always waited for.
    cases ready

/-- The small plan has nothing to build, and in a steady world the steps go first: its server is started before the
session watches for requests. -/
theorem server_started_unwatched :
    ∃ pre post, (smallRun (exits [] 0)).2.journal = pre ++ .spawned 7 :: post ∧ ∀ heeded, .watching heeded ∉ pre := by
  refine ⟨(smallRun (exits [] 0)).2.journal.take 6, (smallRun (exits [] 0)).2.journal.drop 7, by decide +kernel, ?_⟩
  have unwatched : Unwatched ((smallRun (exits [] 0)).2.journal.take 6) := by decide +kernel
  exact unwatched

end Shakedown.Session

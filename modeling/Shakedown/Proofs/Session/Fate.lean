import Shakedown.Proofs.Session.Verdict

/-!
# The fate of the server

A session is done with a server that it has started in one of three ways: it has seen the server exit, it has killed
the server's process group, or it has lost sight of the server. `fates` reads the ways off the journal. As long as
the server is taken to run there is none; each place that stops taking it to run adds its own. In the last way the
group is not killed, only its leader when the session lets go of it, and so what the server has started may outlive
the session (`server_over_unless_sight_lost`, `group_outlives_session`).
-/

namespace Shakedown.Session

/-- What an event tells of the fate of a server: whether it is over, or was lost sight of. -/
def Event.fate? (p : Nat) : Event → Option Bool
  | .exitObserved q => if q = p then some true else none
  | .signalled q .kill => if q = p then some true else none
  | .sightLost q => if q = p then some false else none
  | _ => none

/-- What events tell of the fate of a server. -/
def fates (p : Nat) (es : List Event) : List Bool := es.filterMap (Event.fate? p)

/-- The fate of a server is settled: it is over, or was lost sight of, and not both. -/
inductive Settles : List Bool → Prop
  | ended : Settles [true]
  | killedAfter : Settles [true, true]
  | lost : Settles [false]

section Journal

variable {p : Nat} {es es' : List Event} {topics : List Topic}

@[simp] theorem fates_append : fates p (es ++ es') = fates p es ++ fates p es' :=
  List.filterMap_append ..

@[simp] theorem fates_cons (e : Event) (es : List Event) :
    fates p (e :: es) = (e.fate? p).toList ++ fates p es := by
  cases he : e.fate? p <;> simp [fates, he]

@[simp] theorem fates_empty : fates p [] = [] := rfl

/-- Events that are about neither the exit nor the clean-up tell nothing of a server. -/
theorem About.fates_nil (h : About topics es) (he : .exit ∉ topics) (hc : .cleanUp ∉ topics) : fates p es = [] := by
  refine List.filterMap_eq_nil_iff.mpr fun e hm => ?_
  have ht := h e hm
  cases e with
  | exitObserved q => exact absurd ht he
  | sightLost q => exact absurd ht he
  | signalled q g => exact absurd ht hc
  | _ => rfl

@[simp] theorem fates_milestones {c : Bool} (js : List Event) : fates p (milestones c js) = fates p js := by
  refine filterMap_milestones (fun e he => ?_) js
  cases e with
  | watching heeded => rfl
  | printed text => rfl
  | _ => cases he

/-- A server is known to be over when its exit was seen or its group was killed. -/
theorem mem_fates_over : true ∈ fates p es ↔ .exitObserved p ∈ es ∨ .signalled p .kill ∈ es := by
  rw [fates, List.mem_filterMap]
  constructor
  · rintro ⟨e, hm, he⟩
    cases e with
    | exitObserved q =>
      obtain rfl : q = p := by simpa [Event.fate?] using he
      exact Or.inl hm
    | signalled q g =>
      cases g with
      | terminate => cases he
      | kill =>
        obtain rfl : q = p := by simpa [Event.fate?] using he
        exact Or.inr hm
    | sightLost q => simp [Event.fate?] at he
    | _ => cases he
  · rintro (hm | hm)
    · exact ⟨_, hm, if_pos rfl⟩
    · exact ⟨_, hm, if_pos rfl⟩

/-- The sight of a server is lost where that is told. -/
theorem mem_fates_lost : false ∈ fates p es ↔ .sightLost p ∈ es := by
  rw [fates, List.mem_filterMap]
  constructor
  · rintro ⟨e, hm, he⟩
    cases e with
    | sightLost q =>
      obtain rfl : q = p := by simpa [Event.fate?] using he
      exact hm
    | exitObserved q => simp [Event.fate?] at he
    | signalled q g =>
      cases g with
      | terminate => cases he
      | kill => simp [Event.fate?] at he
    | _ => cases he
  · intro hm
    exact ⟨_, hm, if_pos rfl⟩

/-- A server whose fate is settled is over exactly if it was not lost sight of. -/
theorem Settles.over_iff (h : Settles (fates p es)) :
    (.exitObserved p ∈ es ∨ .signalled p .kill ∈ es) ↔ .sightLost p ∉ es := by
  rw [← mem_fates_over, ← mem_fates_lost]
  generalize fates p es = fs at h
  cases h with
  | ended => simp
  | killedAfter => simp
  | lost => simp

end Journal

/-! ## The server of the session -/

/-- The events agree with what is taken of a server: they tell nothing of it while it is taken to run, and settle
its fate once it is not. -/
def Agrees (n : Managed) (es : List Event) : Prop :=
  n.live = true ∧ fates n.pid es = [] ∨ n.live = false ∧ Settles (fates n.pid es)

variable {σ : Type} {o : Outside σ} {plan : Plan} {options : RunOptions} {settings : Settings} {es es' : List Event}
  {m m' : Option Managed} {n n' : Managed} {live : Bool}

/-- What tells nothing of the server may follow. -/
theorem Agrees.after_nil (h : Agrees n es') (hnil : fates n.pid es = []) : Agrees n (es ++ es') := by
  rw [Agrees, fates_append, hnil, List.nil_append]
  exact h

/-- What tells nothing of the server may come before. -/
theorem Agrees.then_nil (h : Agrees n es) (hnil : fates n.pid es' = []) : Agrees n (es ++ es') := by
  rw [Agrees, fates_append, hnil, List.append_nil]
  exact h

/-- Awaiting a server that runs settles its fate if it is not taken to run after that. -/
theorem AwaitEnds.agrees {probe : Option Probe} {policy : ReadinessPolicy}
    {r : Except Stop (Except Failure Readiness)} (running : n.live = true)
    (h : AwaitEnds o probe policy n (some n) es r m') : ∃ n', m' = some n' ∧ n'.pid = n.pid ∧ Agrees n' es := by
  cases h with
  | exited ending => exact ⟨n.ended, rfl, rfl, Or.inr ⟨rfl, by simpa [Event.fate?, Managed.ended] using Settles.ended⟩⟩
  | lost reason => exact ⟨n.stopped, rfl, rfl, Or.inr ⟨rfl, by simpa [Event.fate?, Managed.stopped] using Settles.lost⟩⟩
  | ready readiness => exact ⟨n, rfl, rfl, Or.inl ⟨running, rfl⟩⟩
  | late given fails => exact ⟨n, rfl, rfl, Or.inl ⟨running, rfl⟩⟩
  | interrupted requested => exact ⟨n, rfl, rfl, Or.inl ⟨running, rfl⟩⟩

/-- After its await step a session takes a server to run exactly if nothing has told otherwise. -/
theorem AwaitCourse.agrees {r : Except Stop Unit} (running : n.live = true)
    (h : AwaitCourse o plan settings n (some n) es r m') : ∃ n', m' = some n' ∧ n'.pid = n.pid ∧ Agrees n' es := by
  have quiet : ∀ {p : Nat} {es : List Event}, About [.step] es → fates p es = [] :=
    fun about => about.fates_nil (by simp) (by simp)
  cases h with
  | ready step =>
    obtain ⟨es', r', tail, body, rfl, ht⟩ := step.events
    obtain ⟨n', hm, hpid, agrees⟩ := body.agrees running
    exact ⟨n', hm, hpid, (agrees.then_nil (quiet ht)).then_nil (quiet (about_singleton (by simp)))⟩
  | stopped step =>
    obtain ⟨es', r', tail, body, rfl, ht⟩ := step.events
    obtain ⟨n', hm, hpid, agrees⟩ := body.agrees running
    exact ⟨n', hm, hpid, agrees.then_nil (quiet ht)⟩

/-- A server that was launched is taken to run. -/
theorem LaunchCourse.launched_live (h : LaunchCourse plan m es (.ok n) m') : n.live = true := by
  cases h with
  | launched step =>
    cases step with
    | passed startedMs finishedMs body =>
      cases body with
      | spawned pid => rfl

/-- The steps of a session agree with what it takes of its server. -/
theorem DriveCourse.agrees {r : Except Stop Unit} (h : DriveCourse o plan options settings none es r (some n)) :
    Agrees n es := by
  -- Of the steps, only that which awaits the server tells anything of its fate.
  have quiet : ∀ {p : Nat} {es : List Event} {topics : List Topic}, About topics es → .exit ∉ topics → .cleanUp ∉ topics →
      fates p es = [] := fun about => about.fates_nil
  have nobody : ∀ {m : Option Managed}, m = none → m ≠ some n := by
    rintro m rfl hn
    cases hn
  generalize hm : some n = m at h
  cases h with
  | unbegun requested => cases hm
  | unbuilt build => exact absurd hm.symm (nobody build.about.1)
  | unlaunched build launch => exact absurd hm.symm (nobody (launch.stopped_inv.1.trans build.about.1))
  | unready build launch await =>
    obtain ⟨rfl, -, launched⟩ := launch.launched_inv
    obtain ⟨n', rfl, hpid, agrees⟩ := await.agrees launch.launched_live
    cases hm
    exact (agrees.after_nil (quiet launched (by simp) (by simp))).after_nil (quiet build.about.2 (by simp) (by simp))
  | queried build launch await queries =>
    obtain ⟨rfl, -, launched⟩ := launch.launched_inv
    obtain ⟨n', rfl, hpid, agrees⟩ := await.agrees launch.launched_live
    obtain ⟨rfl, -, queried⟩ := queries.about
    cases hm
    exact ((agrees.then_nil (quiet queried (by simp) (by simp))).after_nil
      (quiet launched (by simp) (by simp))).after_nil (quiet build.about.2 (by simp) (by simp))

/-! ## Letting go of it -/

/-- A look at a server that is taken to run settles its fate if it does not find it running. -/
theorem CheckCourse.agrees (running : n.live = true) (h : CheckCourse o n es live n') : Agrees n' es := by
  cases h with
  | running => exact Or.inl ⟨running, rfl⟩
  | exited => exact Or.inr ⟨rfl, by simpa [Event.fate?, Managed.ended] using Settles.ended⟩
  | unknown => exact Or.inr ⟨rfl, by simpa [Event.fate?, Managed.stopped] using Settles.lost⟩
  | known gone =>
    rw [running] at gone
    cases gone

/-- Of a server that is not taken to run nothing more is told. -/
theorem CheckCourse.nothing_new (gone : n.live = false) (h : CheckCourse o n es live n') :
    live = false ∧ n' = n ∧ fates n.pid es = [] := by
  cases h with
  | known => exact ⟨rfl, rfl, rfl⟩
  | running hlive =>
    rw [gone] at hlive
    cases hlive
  | exited hlive =>
    rw [gone] at hlive
    cases hlive
  | unknown hlive =>
    rw [gone] at hlive
    cases hlive

/-- The termination of a server that is taken to run settles its fate. -/
theorem TerminateCourse.settles (running : n.live = true) (h : TerminateCourse o n es live n') :
    Settles (fates n.pid es) := by
  cases h with
  -- A server that is found running is killed with its group, whether its exit is seen before that or not.
  | ended check =>
    cases check with
    | running => simpa [Event.fate?] using Settles.killedAfter
  | killed held check =>
    cases check with
    | running => simpa [Event.fate?] using Settles.ended
  | gone check =>
    cases check with
    | exited => simpa [Event.fate?] using Settles.ended
    | unknown => simpa [Event.fate?] using Settles.lost
    | known gone =>
      rw [running] at gone
      cases gone

/-- A termination tells nothing of a server that is no longer taken to run. -/
theorem TerminateCourse.nothing_new (gone : n.live = false) (h : TerminateCourse o n es live n') :
    fates n.pid es = [] := by
  cases h with
  | ended check => cases (check.nothing_new gone).1
  | killed held check => cases (check.nothing_new gone).1
  | gone check => simpa [Event.fate?] using (check.nothing_new gone).2.2

/-- A server that was let go of has a fate that is settled. -/
theorem Agrees.settled_by {cleaned : List Event} {terminated : Bool} (held : Agrees n es)
    (clean : CleanCourse o (some n) cleaned terminated) : Settles (fates n.pid (es ++ cleaned)) := by
  cases clean with
  | @server _ n₁ n₂ before after _ _ look ending =>
    have guard : fates n.pid (guardDrop n₂) = [] := by cases hn : n₂.held <;> simp [guardDrop, hn, Event.fate?]
    rw [← List.append_assoc, ← List.append_assoc, fates_append, guard, List.append_nil]
    rcases held with ⟨running, hnil⟩ | ⟨gone, settled⟩
    -- A server that is taken to run is settled by the first look, or else by the termination.
    · rw [List.append_assoc, fates_append, hnil, List.nil_append]
      have hpid := look.same_pid
      rcases look.agrees running with ⟨running₁, hlook⟩ | ⟨gone₁, settled⟩
      · rw [hpid] at hlook
        rw [fates_append, hlook, List.nil_append, ← hpid]
        exact ending.settles running₁
      · have hending := ending.nothing_new gone₁
        rw [hpid] at settled hending
        rw [fates_append, hending, List.append_nil]
        exact settled
    -- Of one that is not, the clean-up tells nothing more.
    · obtain ⟨-, rfl, hlook⟩ := look.nothing_new gone
      rw [List.append_assoc, fates_append, fates_append, hlook, ending.nothing_new gone, List.append_nil, List.append_nil]
      exact settled

/-! ## Whole runs -/

/-- Every server that a run has started has a fate that is settled when the run is over. -/
theorem RunCourse.settles {outcome : Outcome} {journal : List Event} {p : Nat}
    (h : RunCourse o plan options settings outcome journal) (launched : .spawned p ∈ journal) :
    Settles (fates p journal) := by
  cases h with
  | @ran driven cleaned _ r m terminated phase durationMs drive clean told =>
    have announced : About [.step, .console] _ := announcement_about options.colours phase (stopCause r)
    -- The server that was started is the one that the session has in the end.
    have hm : .spawned p ∈ milestones options.colours journal := (mem_milestones rfl).mpr launched
    rw [told, List.mem_append, List.mem_append] at hm
    have hdriven : .spawned p ∈ driven := by
      rcases hm with (hm | hm) | hm
      · exact hm
      · exact absurd hm (clean.about.not_mem (by simp))
      · exact absurd hm (announced.not_mem (by simp))
    have hlaunch : p ∈ launches driven := List.mem_filterMap.mpr ⟨_, hdriven, rfl⟩
    rw [drive.custody.launched] at hlaunch
    cases m with
    | none => cases hlaunch
    | some n =>
      obtain rfl : p = n.pid := by simpa using hlaunch
      rw [← fates_milestones (c := options.colours), told, fates_append, announced.fates_nil (by simp) (by simp),
        List.append_nil]
      exact drive.agrees.settled_by clean

/-- The world outside fails to tell how it stands with a server: at a look, or while it is waited for. -/
def Blind (o : Outside σ) (p : Nat) : Prop :=
  (∃ v reason, (o.viewServer p v).1 = .unknown reason) ∨ LosesServer o p

/-- Sight of a server is lost only where the world outside fails to tell how it stands with it. -/
theorem CheckCourse.blind {p : Nat} (h : CheckCourse o n es live n') (lost : .sightLost p ∈ es) : Blind o p := by
  cases h with
  | @unknown v reason hlive answer =>
    obtain rfl : p = n.pid := by simpa using lost
    exact Or.inl ⟨v, reason, answer⟩
  | running => simp at lost
  | exited => simp at lost
  | known => simp at lost

/-- A termination that loses sight of the server asked the world in vain. -/
theorem TerminateCourse.blind {p : Nat} (h : TerminateCourse o n es live n') (lost : .sightLost p ∈ es) :
    Blind o p := by
  cases h with
  | ended check => exact check.blind (by simpa using lost)
  | killed held check => exact check.blind (by simpa using lost)
  | gone check => exact check.blind (by simpa using lost)

/-- Cleaning up loses sight of the server only if the world could not tell. -/
theorem CleanCourse.blind {p : Nat} (h : CleanCourse o m es live) (lost : .sightLost p ∈ es) : Blind o p := by
  cases h with
  | nothing => cases lost
  | server look ending =>
    rw [List.mem_append, List.mem_append] at lost
    rcases lost with (lost | lost) | lost
    · exact look.blind lost
    · exact ending.blind lost
    -- The drop of the guard tells nothing of the server.
    · unfold guardDrop at lost
      split at lost <;> simp at lost

/-- A wait loses sight of the server only if the world could not tell. -/
theorem AwaitEnds.blind {p : Nat} {probe : Option Probe} {policy : ReadinessPolicy}
    {r : Except Stop (Except Failure Readiness)} (h : AwaitEnds o probe policy n m es r m')
    (lost : .sightLost p ∈ es) : Blind o p := by
  cases h with
  | lost reason answer =>
    obtain rfl : p = n.pid := by simpa using lost
    exact Or.inr answer
  | exited ending => simp at lost
  | ready readiness => cases lost
  | late given fails => cases lost
  | interrupted requested => simp at lost

theorem AwaitCourse.blind {p : Nat} {r : Except Stop Unit} (h : AwaitCourse o plan settings n m es r m')
    (lost : .sightLost p ∈ es) : Blind o p := by
  cases h with
  | ready step =>
    obtain ⟨es', r', tail, body, rfl, ht⟩ := step.events
    have silent : .sightLost p ∉ tail := ht.not_mem (by simp)
    exact body.blind (by simpa [silent] using lost)
  | stopped step =>
    obtain ⟨es', r', tail, body, rfl, ht⟩ := step.events
    have silent : .sightLost p ∉ tail := ht.not_mem (by simp)
    exact body.blind (by simpa [silent] using lost)

/-- The steps lose sight of a server only if the world could not tell. -/
theorem DriveCourse.blind {p : Nat} {r : Except Stop Unit} (h : DriveCourse o plan options settings m es r m')
    (lost : .sightLost p ∈ es) : Blind o p := by
  have silent : ∀ {es : List Event} {topics : List Topic}, About topics es → .exit ∉ topics → .sightLost p ∉ es :=
    fun about ht => about.not_mem ht
  cases h with
  | unbegun requested => simp at lost
  | unbuilt build => exact absurd lost (silent build.about.2 (by simp))
  | unlaunched build launch =>
    exact absurd lost (silent (build.about.2.append (launch.stopped_inv.2.mono (by simp))) (by simp))
  -- Of the steps, only that which awaits the server looks at it.
  | unready build launch await =>
    have hbuild := silent build.about.2 (by simp)
    have hlaunch := silent launch.launched_inv.2.2 (by simp)
    exact await.blind (by simpa [hbuild, hlaunch] using lost)
  | queried build launch await queries =>
    have hbuild := silent build.about.2 (by simp)
    have hlaunch := silent launch.launched_inv.2.2 (by simp)
    have hqueries := silent queries.about.2.2 (by simp)
    exact await.blind (by simpa [hbuild, hlaunch, hqueries] using lost)

/-- A run loses sight of its server only if the world could not tell. -/
theorem RunCourse.blind {outcome : Outcome} {journal : List Event} {p : Nat}
    (h : RunCourse o plan options settings outcome journal) (lost : .sightLost p ∈ journal) : Blind o p := by
  cases h with
  | @ran driven cleaned _ r m terminated phase durationMs drive clean told =>
    -- The loss is told by the steps or by the clean-up, not by what is announced at the end.
    have hm : .sightLost p ∈ milestones options.colours journal := (mem_milestones rfl).mpr lost
    rw [told, List.mem_append, List.mem_append] at hm
    rcases hm with (hm | hm) | hm
    · exact drive.blind hm
    · exact clean.blind hm
    · exact absurd hm ((announcement_about _ _ _).not_mem (by simp))

/-- What is told of a server that a run has started, whatever the world outside answers and whenever a request ends
the run. Its exit was seen, or its process group was killed, exactly if the session has not lost sight of it; and
it loses sight of it only where the world outside fails to tell how it stands with it. -/
theorem server_over_unless_sight_lost (o : Outside σ) (plan : Plan) (options : RunOptions) (settings : Settings)
    (s : σ) {p : Nat} (launched : .spawned p ∈ (runPlan o plan options settings s).2.journal) :
    let journal := (runPlan o plan options settings s).2.journal
    ((.exitObserved p ∈ journal ∨ .signalled p .kill ∈ journal) ↔ .sightLost p ∉ journal) ∧
      (.sightLost p ∈ journal →
        (∃ v reason, (o.viewServer p v).1 = .unknown reason) ∨
        (∃ probe root policy race reason,
          (o.awaitProbe p probe root policy).Yields race ∧ race.winner = .inr (.lost reason)) ∨
        ∃ delay race reason, (o.awaitDelay p delay).Yields race ∧ race.winner = .inr (.lost reason)) := by
  intro journal
  have course := runPlan_takes plan options settings o s
  exact ⟨(course.settles launched).over_iff, course.blind⟩

/-! ## A group that is left behind -/

/-- A world in which a server that was started cannot be waited for. -/
def blindWorld : Outside Unit :=
  { steadyWorld (exits [] 0) with viewServer := fun _ _ => (.unknown "No child processes (os error 10)", ()) }

/-- A world in which the watch over the server fails while its readiness is awaited. -/
def lostWorld : Outside Unit :=
  { steadyWorld (exits [] 0) with
    awaitProbe := fun _ _ _ _ => .waiting fun _ => (.done (.serverOver (.lost "No child processes (os error 10)")), ())
    awaitDelay := fun _ _ => .waiting fun _ => (.done (.serverOver (.lost "No child processes (os error 10)")), ()) }

/-- The small plan in a world without a build. -/
def bareRun (o : Outside Unit) : Outcome × State Unit := runPlan o smallPlan { root := ⟨"/"⟩, skipBuild := true } {} ()

/-- In a steady world the server of the small plan is over after the run. -/
theorem small_server_over :
    .exitObserved 7 ∈ (bareRun (steadyWorld (exits [] 0))).2.journal ∨
      .signalled 7 .kill ∈ (bareRun (steadyWorld (exits [] 0))).2.journal := by
  have launched : .spawned 7 ∈ (bareRun (steadyWorld (exits [] 0))).2.journal := by decide +kernel
  have seen : .sightLost 7 ∉ (bareRun (steadyWorld (exits [] 0))).2.journal := by decide +kernel
  rw [bareRun] at launched seen ⊢
  exact (server_over_unless_sight_lost (steadyWorld (exits [] 0)) smallPlan { root := ⟨"/"⟩, skipBuild := true } {} ()
    launched).1.mpr seen

/-- The process group of a server outlives the session: the server was started, its exit was not seen and its group
was not sent a signal, since a look at it has failed, or the watch over it. -/
theorem group_outlives_session :
    .spawned 7 ∈ (bareRun blindWorld).2.journal ∧ .exitObserved 7 ∉ (bareRun blindWorld).2.journal ∧
      (∀ g, .signalled 7 g ∉ (bareRun blindWorld).2.journal) ∧
      .spawned 7 ∈ (bareRun lostWorld).2.journal ∧ .exitObserved 7 ∉ (bareRun lostWorld).2.journal ∧
      ∀ g, .signalled 7 g ∉ (bareRun lostWorld).2.journal := by
  have signals : ∀ {es : List Event}, .signalled 7 .terminate ∉ es → .signalled 7 .kill ∉ es →
      ∀ g, .signalled 7 g ∉ es := by
    intro es hterminate hkill g
    cases g with
    | terminate => exact hterminate
    | kill => exact hkill
  refine ⟨?_, ?_, signals ?_ ?_, ?_, ?_, signals ?_ ?_⟩
  all_goals decide +kernel

end Shakedown.Session

import Mathlib.Data.List.Basic
import Shakedown.Proofs.Session.Schedule

/-!
# Custody of the server

A session starts at most one server and terminates every server that it has started, once, when the last
client is over and before the outcome is announced (`server_terminated_once`). `Custody` is what the steps
of a session keep to on the way there: the server of the session is the one that was started, every client
that was started is over, and nothing has been terminated yet.
-/

namespace Shakedown.Session

/-! ## The steps of a session -/

/-- The events of a step are those of its body, and its record. -/
theorem StepCourse.events {α : Type} {kind : StepKind} {name : String} {code : α → ExitCode}
    {detail : α → Option String} {Body : Course (Except Failure α)} {es : List Event} {r : Except Stop α}
    {m : Option Managed} (h : StepCourse kind name code detail Body es r m) :
    ∃ es' r' tail, Body es' r' m ∧ es = es' ++ tail ∧ About [.step] tail := by
  cases h with
  | passed startedMs finishedMs body => exact ⟨_, _, _, body, rfl, about_singleton (by simp)⟩
  | failed startedMs finishedMs body => exact ⟨_, _, _, body, rfl, about_singleton (by simp)⟩
  | stopped body => exact ⟨_, _, [], body, (List.append_nil _).symm, about_nil⟩

variable {σ : Type} {o : Outside σ} {plan : Plan} {options : RunOptions} {settings : Settings} {es : List Event}
  {m m' : Option Managed}

/-- The build step has nothing to do with the server. -/
theorem BuildCourse.about {r : Except Stop Unit} (h : BuildCourse o plan options settings m es r m') :
    m' = m ∧ About [.step, .build, .request] es := by
  cases h with
  | skipped => exact ⟨rfl, by simp [About]⟩
  | ran command step =>
    obtain ⟨es', r', tail, body, rfl, ht⟩ := step.events
    have hb : m' = m ∧ About [.step, .build, .request] es' := by cases body <;> simp [About]
    exact ⟨hb.1, (about_singleton (by simp)).append (hb.2.append (ht.mono (by simp)))⟩

/-- A launch starts exactly the server that the session then has. -/
theorem LaunchCourse.launched_inv {server : Managed} (h : LaunchCourse plan m es (.ok server) m') :
    m' = some server ∧ launches es = [server.pid] ∧ About [.step, .launch] es := by
  cases h with
  | launched step =>
    cases step with
    | passed startedMs finishedMs body =>
      cases body with
      | spawned pid => exact ⟨rfl, rfl, by simp [About]⟩

/-- A launch that fails leaves the session without a new server. -/
theorem LaunchCourse.stopped_inv {e : Stop} (h : LaunchCourse plan m es (.error e) m') :
    m' = m ∧ About [.step] es := by
  cases h with
  | stopped step =>
    cases step with
    | failed startedMs finishedMs body =>
      cases body with
      | occupied there => exact ⟨rfl, by simp [About]⟩
      | failed reason => exact ⟨rfl, by simp [About]⟩
    | stopped body => cases body

/-- While a server is awaited it may end, and is then no longer taken to run. -/
theorem AwaitEnds.about {probe : Option Probe} {policy : ReadinessPolicy} {server : Managed}
    {r : Except Stop (Except Failure Readiness)} (h : AwaitEnds o probe policy server m es r m') :
    (m' = m ∨ ∃ how, m' = some (server.after how)) ∧ About [.step, .exit, .request] es := by
  cases h with
  | ready readiness => simp [About]
  | late given fails => simp [About]
  | exited ending => exact ⟨Or.inr ⟨.exited ending, rfl⟩, by simp [About]⟩
  | lost reason answer => exact ⟨Or.inr ⟨.lost reason, rfl⟩, by simp [About]⟩
  | interrupted requested => simp [About]

/-- The step that awaits the server starts and ends none. -/
theorem AwaitCourse.about {server : Managed} {r : Except Stop Unit} (h : AwaitCourse o plan settings server m es r m') :
    (m' = m ∨ ∃ how, m' = some (server.after how)) ∧ About [.step, .exit, .request] es := by
  cases h with
  | ready step =>
    obtain ⟨es', r', tail, body, rfl, ht⟩ := step.events
    obtain ⟨hm, hb⟩ := body.about
    exact ⟨hm, (hb.append (ht.mono (by simp))).append (about_singleton (by simp))⟩
  | stopped step =>
    obtain ⟨es', r', tail, body, rfl, ht⟩ := step.events
    obtain ⟨hm, hb⟩ := body.about
    exact ⟨hm, hb.append (ht.mono (by simp))⟩

/-- The body of a query ends the client that it starts, and does not touch the server. -/
theorem QueryEnds.about {q : QueryStep} {name : String} {r : Except Stop (Except Failure (Invocation × Nanos))}
    (h : QueryEnds o plan options settings q name m es r m') : m' = m ∧ Settled es ∧ About [.client, .request] es := by
  cases h with
  | unstarted reason => exact ⟨rfl, About.settled about_nil (List.not_mem_nil), about_nil⟩
  | unpiped program hidden => exact ⟨rfl, settled_pair _ _ _, by simp [About]⟩
  | @interrupted i program requested =>
    have stop : About [.request] [.interrupted i] := about_singleton (by simp)
    exact ⟨rfl, (settled_pair _ _ none).append (stop.settled (by simp)), by simp [About]⟩
  | ended program answer judged => exact ⟨rfl, settled_pair _ _ _, by simp [About]⟩

/-- A query ends the client that it starts. -/
theorem QueryCourse.about {i : Nat} {q : QueryStep} {r : Except Stop Unit}
    (h : QueryCourse o plan options settings i q m es r m') : m' = m ∧ Settled es ∧ About [.step, .client, .request] es := by
  obtain ⟨ends, r', body, tail, rfl, ht⟩ : ∃ ends r', QueryEnds o plan options settings q (q.displayName i) m ends r' m' ∧
      ∃ tail, es = [.entered (.querying (i + 1))] ++ ends ++ tail ∧ About [.step] tail := by
    cases h with
    | passed step =>
      obtain ⟨ends, r', tail, body, rfl, ht⟩ := step.events
      exact ⟨ends, r', body, tail, rfl, ht⟩
    | stopped step =>
      obtain ⟨ends, r', tail, body, rfl, ht⟩ := step.events
      exact ⟨ends, r', body, tail, rfl, ht⟩
  obtain ⟨rfl, hs, hc⟩ := body.about
  have opening : About [.step] [.entered (.querying (i + 1))] := about_singleton (by simp)
  refine ⟨rfl, ((opening.settled (by simp)).append hs).append (ht.settled (by simp)), ?_⟩
  exact ((opening.mono (by simp)).append (hc.mono (by simp))).append (ht.mono (by simp))

/-- Queries end each client that they start. -/
theorem QueriesCourse.about {i : Nat} {qs : List QueryStep} {r : Except Stop Unit}
    (h : QueriesCourse o plan options settings i qs m es r m') : m' = m ∧ Settled es ∧ About [.step, .client, .request] es := by
  induction h with
  | done i m => exact ⟨rfl, About.settled about_nil List.not_mem_nil, about_nil⟩
  | next first others ih =>
    obtain ⟨rfl, hs, ha⟩ := first.about
    obtain ⟨rfl, hs', ha'⟩ := ih
    exact ⟨rfl, hs.append hs', ha.append ha'⟩
  | stopped first => exact first.about

/-! ## What the steps keep to -/

/-- The steps with the events `es` have led to the server `m`: it is the one that was started, which was
after the build step had passed or been skipped; every client is over; and nothing was terminated. -/
structure Custody (es : List Event) (m : Option Managed) : Prop where
  launched : launches es = (m.map Managed.pid).toList
  built : m.isSome = true → ∃ a b r, es = a ++ b ∧ launches a = [] ∧ .recorded r ∈ a ∧
    r.kind = .build ∧ (r.status = .passed ∨ r.status = .skipped)
  settled : Settled es
  about : About [.step, .build, .client, .launch, .exit, .request] es

/-- Events that start no server and leave no client behind may follow. -/
theorem Custody.extend {es' : List Event} (h : Custody es m) (hpid : m'.map Managed.pid = m.map Managed.pid)
    (settled : Settled es') (about : About [.step, .client, .exit, .request] es') : Custody (es ++ es') m' where
  launched := by rw [launches_append, about.launches_nil (by simp), List.append_nil, h.launched, hpid]
  built hm := by
    have hm' : m.isSome = true := by
      rw [← Option.isSome_map (f := Managed.pid), ← hpid, Option.isSome_map]
      exact hm
    obtain ⟨a, b, r, rfl, ha, hr⟩ := h.built hm'
    exact ⟨a, b ++ es', r, List.append_assoc .., ha, hr⟩
  settled := h.settled.append settled
  about := h.about.append (about.mono (by simp))

/-- Before the launch there is nothing to guard. -/
theorem custody_of_steps (h : About [.step, .build, .request] es) : Custody es none where
  launched := h.launches_nil (by simp)
  built hm := nomatch hm
  settled := h.settled (by simp)
  about := h.mono (by simp)

/-- The launch hands the server that it started over to the session, after a build that did not fail. -/
theorem custody_of_launch {es' : List Event} {server : Managed} {m₁ m₂ : Option Managed}
    (build : BuildCourse o plan options settings m es (.ok ()) m₁) (launch : LaunchCourse plan m₁ es' (.ok server) m₂) :
    Custody (es ++ es') (some server) := by
  have before := custody_of_steps build.about.2
  obtain ⟨r, hr, ho⟩ := build.passed_slot.record
  obtain ⟨-, hs, ha⟩ := launch.launched_inv
  simp only [outline, Slot.shape, Prod.mk.injEq] at ho
  obtain ⟨hkind, -, hstatus⟩ := ho
  constructor
  · rw [launches_append, before.launched, hs]
    rfl
  · intro _
    refine ⟨es, es', r, rfl, before.launched, mem_records.mp (by simp [hr]), hkind, ?_⟩
    rw [hstatus, buildSlot]
    split
    · exact Or.inl rfl
    · exact Or.inr rfl
  · exact before.settled.append (ha.settled (by simp))
  · exact before.about.append (ha.mono (by simp))

/-- The server stays in the custody of the session while it is awaited. -/
theorem Custody.await {es' : List Event} {server : Managed} {r : Except Stop Unit} (held : Custody es (some server))
    (h : AwaitCourse o plan settings server (some server) es' r m') : Custody (es ++ es') m' := by
  obtain ⟨hm, about⟩ := h.about
  refine held.extend ?_ (about.settled (by simp)) (about.mono (by simp))
  -- A server that is seen to be over keeps its process number.
  rcases hm with rfl | ⟨how, rfl⟩
  · rfl
  · cases how <;> rfl

/-- The server stays in the custody of the session while it is queried. -/
theorem Custody.queries {es' : List Event} {i : Nat} {qs : List QueryStep} {r : Except Stop Unit}
    (held : Custody es m) (h : QueriesCourse o plan options settings i qs m es' r m') : Custody (es ++ es') m' := by
  obtain ⟨rfl, settled, about⟩ := h.about
  exact held.extend rfl settled (about.mono (by simp))

/-- The steps of a session keep custody of its server. -/
theorem DriveCourse.custody {r : Except Stop Unit} (h : DriveCourse o plan options settings none es r m) :
    Custody es m := by
  cases h with
  | unbegun requested => exact custody_of_steps (about_singleton (by simp))
  | unbuilt build =>
    obtain ⟨rfl, about⟩ := build.about
    exact custody_of_steps about
  | unlaunched build launch =>
    obtain ⟨rfl, about⟩ := build.about
    obtain ⟨rfl, about'⟩ := launch.stopped_inv
    exact custody_of_steps (about.append (about'.mono (by simp)))
  -- From the launch on there is a server, and the later steps leave it to the clean-up.
  | unready build launch await =>
    have held := custody_of_launch build launch
    obtain ⟨rfl, -⟩ := launch.launched_inv
    rw [← List.append_assoc]
    exact held.await await
  | queried build launch await queries =>
    have held := custody_of_launch build launch
    obtain ⟨rfl, -⟩ := launch.launched_inv
    rw [← List.append_assoc, ← List.append_assoc]
    exact (held.await await).queries queries

/-! ## Termination -/

/-- A look tells its answer, and nothing of a termination. -/
theorem CheckCourse.events {n n' : Managed} {live : Bool} (h : CheckCourse o n es live n') :
    (∀ p, .terminating p ∉ es) ∧ (∀ p b, .guardDropped p b ∉ es) ∧ .checked n.pid live ∈ es ∧
      (live = true ↔ .checked n.pid true ∈ es) := by
  cases h <;> simp

/-- A termination begins once, and its own look at the server tells whether it stopped it. -/
theorem TerminateCourse.events {n n' : Managed} {terminated : Bool} (h : TerminateCourse o n es terminated n') :
    ∃ ending, es = .terminating n.pid :: ending ∧ (∀ p, .terminating p ∉ ending) ∧
      (∀ p b, .guardDropped p b ∉ ending) ∧ .checked n.pid terminated ∈ ending ∧
      (terminated = true ↔ .checked n.pid true ∈ ending) := by
  cases h with
  | ended check =>
    obtain ⟨ht, hg, hc, hl⟩ := check.events
    exact ⟨_, rfl, by simpa using ht, by simpa using hg, by simpa using hc, by simpa using hl⟩
  | killed held check =>
    obtain ⟨ht, hg, hc, hl⟩ := check.events
    exact ⟨_, rfl, by simpa using ht, by simpa using hg, by simpa using hc, by simpa using hl⟩
  | gone check =>
    obtain ⟨ht, hg, hc, hl⟩ := check.events
    exact ⟨_, rfl, ht, hg, hc, hl⟩

/-- The termination of a server up to the drop of its guard: the guard is dropped once, of a server that is not taken
to run, and after that at most its process is killed. -/
structure Ends (p : Nat) (terminated : Bool) (ending rest : List Event) : Prop where
  once : ∀ q, .terminating q ∉ ending ++ rest
  guard : ∀ q, .guardDropped q true ∉ ending ++ rest
  look : .checked p terminated ∈ ending
  found : terminated = true ↔ .checked p true ∈ ending
  rest : ∀ e ∈ rest, e = .leaderKilled p

/-- With a server, the clean-up terminates it once and then drops its guard. -/
theorem CleanCourse.events {n : Managed} {terminated : Bool} (h : CleanCourse o (some n) es terminated) :
    ∃ before ending rest, es = before ++ .terminating n.pid :: (ending ++ .guardDropped n.pid false :: rest) ∧
      (∀ p, .terminating p ∉ before) ∧ (∀ p b, .guardDropped p b ∉ before) ∧ Ends n.pid terminated ending rest := by
  cases h with
  | @server _ n₁ n₂ before _ live _ look finish =>
    obtain ⟨hb, hgb, -, -⟩ := look.events
    obtain ⟨ending, rfl, ha, hga, hc, hl⟩ := finish.events
    have hpid : n₂.pid = n.pid := finish.same_pid.trans look.same_pid
    rw [look.same_pid] at hc hl ⊢
    refine ⟨before, ending, if n₂.held then [.leaderKilled n.pid] else [], ?_, hb, hgb, ?_⟩
    · simp [guardDrop, hpid]
    · cases n₂.held with
      | false => exact ⟨by simpa using ha, by simp [hga], hc, hl, by simp⟩
      | true => exact ⟨by simpa using ha, by simp [hga], hc, hl, by simp⟩

/-! ## Whole runs -/

/-- The events that announce the outcome: a banner that closes the session is among them. -/
structure Closing (colours : Bool) (es : List Event) : Prop where
  about : About [.step, .console] es
  banner : ∃ text, .printed text ∈ es ∧ (text = Banner.passed colours ∨ ∃ phase, text = Banner.failed colours phase)

/-- A session is announced by one banner, at the end. -/
theorem announcement_closing (colours : Bool) (phase : Phase) (cause : Option Failure) :
    Closing colours (announcement colours phase cause) := by
  cases cause with
  | none => exact ⟨announcement_about _ _ _, _, List.mem_cons_of_mem _ (List.mem_singleton_self _), Or.inl rfl⟩
  | some f => exact ⟨announcement_about _ _ _, _, List.mem_singleton_self _, Or.inr ⟨_, rfl⟩⟩

/-- The milestones of a run in which no server was started, or one was that was terminated at the end; and
whether its termination stopped it. -/
inductive Served (colours : Bool) : List Event → Bool → Prop
  | unstarted {driven closing : List Event} (held : Custody driven none) (closes : Closing colours closing) :
      Served colours (driven ++ closing) false
  | started {n : Managed} {driven before ending rest closing : List Event} {terminated : Bool}
      (held : Custody driven (some n)) (about : About [.exit, .cleanUp] before)
      (about' : About [.exit, .cleanUp] (ending ++ .guardDropped n.pid false :: rest))
      (once : ∀ p, .terminating p ∉ before) (guard : ∀ p b, .guardDropped p b ∉ before)
      (ends : Ends n.pid terminated ending rest) (closes : Closing colours closing) :
      Served colours
        ((driven ++ before) ++ .terminating n.pid :: ((ending ++ .guardDropped n.pid false :: rest) ++ closing)) terminated

variable {outcome : Outcome} {journal : List Event}

/-- However a run goes, its milestones are those of a served session. -/
theorem RunCourse.served (h : RunCourse o plan options settings outcome journal) :
    Served options.colours (milestones options.colours journal) outcome.report.serverTerminated := by
  cases h with
  | @ran driven cleaned _ r m terminated phase durationMs drive clean told =>
    show Served _ (milestones options.colours journal) terminated
    rw [told]
    have closes := announcement_closing options.colours phase (stopCause r)
    cases m with
    | none =>
      cases clean
      rw [List.append_nil]
      exact .unstarted drive.custody closes
    | some n =>
      have about := clean.about
      obtain ⟨before, ending, rest, rfl, once, guard, ends⟩ := clean.events
      have about_before : About [.exit, .cleanUp] before := fun e he => about e (List.mem_append_left _ he)
      have about_after : About [.exit, .cleanUp] (ending ++ .guardDropped n.pid false :: rest) := fun e he =>
        about e (List.mem_append_right _ (List.mem_cons_of_mem _ he))
      simpa using Served.started drive.custody about_before about_after once guard ends closes

theorem terminations_nil (h : ∀ p, .terminating p ∉ es) : terminations es = [] := by
  refine List.filterMap_eq_nil_iff.mpr fun e he => ?_
  cases e with
  | terminating p => exact absurd he (h p)
  | _ => rfl

/-- Nothing is terminated a second time. -/
theorem Ends.terminating_not_mem {p : Nat} {terminated : Bool} {ending rest : List Event}
    (h : Ends p terminated ending rest) (q : Nat) : .terminating q ∉ ending ++ .guardDropped p false :: rest := by
  have hq := h.once q
  simp only [List.mem_append, List.mem_cons, not_or] at hq ⊢
  exact ⟨hq.1, by simp, hq.2⟩

section Served

variable {colours terminated : Bool}

/-- At most one server is started, and those that are started are terminated. -/
theorem Served.launches (h : Served colours es terminated) :
    (launches es).length ≤ 1 ∧ terminations es = Session.launches es := by
  cases h with
  | unstarted held closes =>
    rw [launches_append, terminations_append, held.launched, closes.about.launches_nil (by simp),
      held.about.terminations_nil (by simp), closes.about.terminations_nil (by simp)]
    exact ⟨Nat.zero_le _, rfl⟩
  | @started n driven before ending rest closing _ held about about' once guard ends closes =>
    have hb : terminations before = [] := terminations_nil once
    have ha : terminations (ending ++ .guardDropped n.pid false :: rest) = [] := terminations_nil ends.terminating_not_mem
    -- The launch is in the steps, and the termination where the clean-up splits.
    have hone : Session.launches ((driven ++ before) ++
        .terminating n.pid :: ((ending ++ .guardDropped n.pid false :: rest) ++ closing)) = [n.pid] := by
      rw [launches_append, launches_append, held.launched, about.launches_nil (by simp)]
      show _ ++ Session.launches (_ ++ closing) = _
      rw [launches_append, about'.launches_nil (by simp), closes.about.launches_nil (by simp)]
      rfl
    have hend : terminations ((driven ++ before) ++
        .terminating n.pid :: ((ending ++ .guardDropped n.pid false :: rest) ++ closing)) = [n.pid] := by
      rw [terminations_append, terminations_append, held.about.terminations_nil (by simp), hb]
      show _ ++ n.pid :: terminations (_ ++ closing) = _
      rw [terminations_append, ha, closes.about.terminations_nil (by simp)]
      rfl
    rw [hone, hend]
    exact ⟨Nat.le_refl _, rfl⟩

/-- What comes before and after the begin of a termination. -/
theorem Served.around {p : Nat} {pre post : List Event} (h : Served colours es terminated)
    (hs : es = pre ++ .terminating p :: post) :
    Settled pre ∧ About [.step, .build, .client, .launch, .exit, .request, .cleanUp] pre ∧
      ∃ ending rest closing, post = ending ++ .guardDropped p false :: (rest ++ closing) ∧
        About [.exit, .cleanUp] (ending ++ rest) ∧ Ends p terminated ending rest ∧ Closing colours closing := by
  cases h with
  | @unstarted driven closing held closes =>
    have hm : .terminating p ∈ driven ++ closing := hs ▸ List.mem_append_right _ (List.mem_cons_self ..)
    rcases List.mem_append.mp hm with hm | hm
    · exact absurd hm (held.about.not_mem (by simp))
    · exact absurd hm (closes.about.not_mem (by simp))
  | @started n driven before ending rest closing _ held about about' once guard ends closes =>
    -- A termination begins nowhere else, so the two ways to split the milestones are the same.
    have hpre : .terminating p ∉ driven ++ before := by
      intro hm
      rcases List.mem_append.mp hm with hm | hm
      · exact held.about.not_mem (by simp) hm
      · exact once p hm
    have hpost : .terminating p ∉ (ending ++ .guardDropped n.pid false :: rest) ++ closing := by
      intro hm
      rcases List.mem_append.mp hm with hm | hm
      · exact ends.terminating_not_mem p hm
      · exact closes.about.not_mem (by simp) hm
    obtain ⟨rfl, hp, rfl⟩ := (List.append_cons_inj_of_notMem hpre hpost).mp hs
    cases hp
    refine ⟨held.settled.append (about.settled (by simp)), (held.about.mono (by simp)).append (about.mono (by simp)),
      ending, rest, closing, by simp, ?_, ends, closes⟩
    intro e he
    refine about' e ?_
    rcases List.mem_append.mp he with he | he
    · exact List.mem_append_left _ he
    · exact List.mem_append_right _ (List.mem_cons_of_mem _ he)

/-- A server is launched after a build step that passed or was skipped. -/
theorem Served.built {p : Nat} {pre post : List Event} (h : Served colours es terminated)
    (hs : es = pre ++ .spawned p :: post) :
    ∃ r, .recorded r ∈ pre ∧ r.kind = .build ∧ (r.status = .passed ∨ r.status = .skipped) := by
  have listed : ∀ {l : List Event}, .spawned p ∈ l → Session.launches l ≠ [] := by
    intro l hl hnil
    cases List.filterMap_eq_nil_iff.mp hnil _ hl
  cases h with
  | @unstarted driven closing held closes =>
    have hm : .spawned p ∈ driven ++ closing := hs ▸ List.mem_append_right _ (List.mem_cons_self ..)
    rcases List.mem_append.mp hm with hm | hm
    · exact absurd held.launched (listed hm)
    · exact absurd hm (closes.about.not_mem (by simp))
  | started held about about' once guard ends closes =>
    obtain ⟨a, b, r, rfl, ha, hr, hkind, hstatus⟩ := held.built rfl
    rw [List.append_assoc, List.append_assoc] at hs
    -- The launch is not in the part up to the build step, so that part is before it.
    rcases append_split hs with ⟨rest, rfl, -⟩ | ⟨rest, rfl, -⟩
    · exact absurd ha (listed (by simp))
    · exact ⟨r, List.mem_append_left _ hr, hkind, hstatus⟩

/-- No guard is dropped on a server that is taken to run. -/
theorem Served.guard (h : Served colours es terminated) (p : Nat) : .guardDropped p true ∉ es := by
  cases h with
  | @unstarted driven closing held closes =>
    intro hm
    rcases List.mem_append.mp hm with hm | hm
    · exact held.about.not_mem (by simp) hm
    · exact closes.about.not_mem (by simp) hm
  | @started n driven before ending rest closing _ held about about' once guard ends closes =>
    have hg := ends.guard p
    have hd : .guardDropped p true ∉ driven := held.about.not_mem (by simp)
    have hc : .guardDropped p true ∉ closing := closes.about.not_mem (by simp)
    simp only [List.mem_append, not_or] at hg
    simp [hd, hc, guard, hg]

/-- Only a termination stops a server. -/
theorem Served.terminating_mem (h : Served colours es terminated) (ht : terminated = true) : ∃ p, .terminating p ∈ es := by
  cases h with
  | unstarted => cases ht
  | started => exact ⟨_, List.mem_append_right _ (List.mem_cons_self ..)⟩

/-- After the begin of a termination nothing but the clean-up and the announcement follows. -/
theorem Served.after {p : Nat} {pre post : List Event} (h : Served colours es terminated)
    (hs : es = pre ++ .terminating p :: post) :
    About [.step, .exit, .cleanUp, .console] post ∧ (terminated = true ↔ .checked p true ∈ post) := by
  obtain ⟨-, -, ending, rest, closing, rfl, about, ends, closes⟩ := h.around hs
  constructor
  · intro e he
    simp only [List.mem_append, List.mem_cons] at he
    rcases he with he | rfl | he | he
    · exact (about.mono (by simp)) e (List.mem_append_left _ he)
    · simp
    · exact (about.mono (by simp)) e (List.mem_append_right _ he)
    · exact (closes.about.mono (by simp)) e he
  -- A check that finds the server running is the termination's own: the banner notes none.
  · rw [ends.found]
    constructor
    · exact List.mem_append_left _
    · intro hm
      simp only [List.mem_append, List.mem_cons] at hm
      rcases hm with hm | hm | hm | hm
      · exact hm
      · cases hm
      · cases ends.rest _ hm
      · exact absurd hm (closes.about.not_mem (by simp))

end Served

/-- Whatever the world outside answers and whenever a request ends the run: at most one server is started,
after the build step has passed or been skipped; what is started is terminated, once, and nothing else is;
when that begins every client is over and no outcome was announced, and after it no client starts and the
outcome is announced; before that the termination has looked at the server, is over, and has let go of it; the
guard of the server is never dropped while the server is taken to run; and the report says that the server was
terminated if the look at it which the termination takes finds it running. -/
theorem server_terminated_once (o : Outside σ) (plan : Plan) (options : RunOptions) (settings : Settings) (s : σ) :
    let report := (runPlan o plan options settings s).1.report
    let journal := (runPlan o plan options settings s).2.journal
    (launches journal).length ≤ 1 ∧
      (∀ p pre post, journal = pre ++ .spawned p :: post →
        ∃ r, .recorded r ∈ pre ∧ r.kind = .build ∧ (r.status = .passed ∨ r.status = .skipped)) ∧
      terminations journal = launches journal ∧
      (∀ p pre post, journal = pre ++ .terminating p :: post →
        Settled pre ∧
        (∀ text, .printed text ∈ pre →
          text ≠ Banner.passed options.colours ∧ ∀ phase, text ≠ Banner.failed options.colours phase) ∧
        (∀ request timeout, .clientStarted request timeout ∉ post) ∧ (∀ seen, .clientOver seen ∉ post) ∧
        ∃ ending rest, post = ending ++ .guardDropped p false :: rest ∧
          .checked p report.serverTerminated ∈ ending ∧
          (∀ text, .printed text ∈ ending →
            text ≠ Banner.passed options.colours ∧ ∀ phase, text ≠ Banner.failed options.colours phase) ∧
          (∀ live, .checked p live ∉ rest) ∧ (∀ signal, .signalled p signal ∉ rest) ∧
          ∃ text, .printed text ∈ rest ∧
            (text = Banner.passed options.colours ∨ ∃ phase, text = Banner.failed options.colours phase)) ∧
      (∀ p, .guardDropped p true ∉ journal) ∧
      (report.serverTerminated = true ↔
        ∃ p pre post, journal = pre ++ .terminating p :: post ∧ .checked p true ∈ post) := by
  intro report journal
  have served := (runPlan_takes plan options settings o s).served
  obtain ⟨hone, hsame⟩ := served.launches
  rw [launches_milestones] at hone
  rw [launches_milestones, terminations_milestones] at hsame
  refine ⟨hone, ?_, hsame, ?_, ?_, ?_⟩
  · intro p pre post hj
    obtain ⟨r, hr, hkind, hstatus⟩ := served.built (milestones_split rfl hj)
    exact ⟨r, (mem_milestones rfl).mp hr, hkind, hstatus⟩
  · intro p pre post hj
    have hsplit := milestones_split (c := options.colours) rfl hj
    have hpost := (served.after hsplit).1
    obtain ⟨settled, hpre, ending, rest, closing, hends, about, ends, closes⟩ := served.around hsplit
    refine ⟨settled.of_milestones, unclosed_of_about hpre (by simp), ?_, ?_, ?_⟩
    · intro request timeout hm
      exact hpost.not_mem (by simp) ((mem_milestones rfl).mpr hm)
    · intro seen hm
      exact hpost.not_mem (by simp) ((mem_milestones rfl).mpr hm)
    -- The drop of the guard stands in the journal where it stands among the milestones.
    · obtain ⟨ending', rest', rfl, rfl, hrest⟩ := milestones_unsplit hends
      have unseen : ∀ e : Event, e.topic = .cleanUp → e ≠ .leaderKilled p → e ∉ rest' := by
        intro e ht hne hm
        have hmark : e ∈ milestones options.colours rest' :=
          (mem_milestones (Event.isMilestone_of_topic (by rw [ht]; decide))).mpr hm
        rw [hrest] at hmark
        rcases List.mem_append.mp hmark with hm | hm
        · exact hne (ends.rest e hm)
        · exact closes.about.not_mem (by rw [ht]; simp) hm
      have about' : About [.exit, .cleanUp] (milestones options.colours ending') :=
        fun e he => about e (List.mem_append_left _ he)
      refine ⟨ending', rest', rfl, (mem_milestones rfl).mp ends.look, unclosed_of_about about' (by simp), ?_, ?_, ?_⟩
      · exact fun live => unseen _ rfl (by simp)
      · exact fun signal => unseen _ rfl (by simp)
      · obtain ⟨text, hm, hbanner⟩ := closes.banner
        have hmark : (Event.printed text).isMilestone options.colours = true := by
          rcases hbanner with rfl | ⟨phase, rfl⟩
          · exact Banner.closes_passed _
          · exact Banner.closes_failed _ _
        exact ⟨text, (mem_milestones hmark).mp (hrest ▸ List.mem_append_right _ hm), hbanner⟩
  · intro p hm
    exact served.guard p ((mem_milestones rfl).mpr hm)
  · constructor
    · intro ht
      obtain ⟨p, hp⟩ := served.terminating_mem ht
      obtain ⟨pre, post, hj⟩ := List.append_of_mem ((mem_milestones rfl).mp hp)
      have found := (served.after (milestones_split rfl hj)).2
      exact ⟨p, pre, post, hj, (mem_milestones rfl).mp (found.mp ht)⟩
    · rintro ⟨p, pre, post, hj, hm⟩
      exact (served.after (milestones_split rfl hj)).2.mpr ((mem_milestones rfl).mpr hm)

end Shakedown.Session

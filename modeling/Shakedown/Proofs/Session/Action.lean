import Shakedown.Proofs.Session.Banner
import Shakedown.Proofs.Session.Journal
import Shakedown.Session.Run

/-!
# Actions of a session, taken apart

An action changes the journal and the recorder together: the recorder is what the journal says
(`Recorder.see`). Of the journal only the milestones matter for the course of a session; the watch
for requests and what is printed on the way are none. `Logs` relates the states before and after an
action by the milestones that the action adds, and `Follows` adds that the server stays as it is. The
inversion lemmas peel a sequence of actions one at a time.
-/

namespace Shakedown

/-- The recorder after an event of the journal. -/
def Recorder.see (r : Recorder) : Session.Event → Recorder
  | .entered phase => r.enter phase
  | .recorded step => { r with steps := r.steps ++ [step] }
  | _ => r

namespace Session

/-- Whether an event is a milestone: all are but the watch for requests to end the run and what is
printed before the outcome is known. -/
def Event.isMilestone (colours : Bool) : Event → Bool
  | .watching _ => false
  | .printed text => Banner.closes colours text
  | _ => true

/-- The milestones of a journal. -/
def milestones (colours : Bool) (journal : List Event) : List Event :=
  journal.filter (Event.isMilestone colours)

/-- The milestones `es` lead from the state `s` to the state `t`. -/
structure Logs {σ : Type} (colours : Bool) (s : State σ) (es : List Event) (t : State σ) : Prop where
  journal : ∃ js, t.journal = s.journal ++ js ∧ milestones colours js = es
  recorder : t.recorder = es.foldl Recorder.see s.recorder

/-- The milestones `es` lead from `s` to `t`, and the server of the session stays as it is. -/
structure Follows {σ : Type} (colours : Bool) (s : State σ) (es : List Event) (t : State σ) : Prop
    extends Logs colours s es t where
  server : t.server = s.server

variable {σ : Type} {α β : Type} {c : Bool} {s t u : State σ} {es es' : List Event}

@[simp] theorem milestones_append (c : Bool) (js js' : List Event) :
    milestones c (js ++ js') = milestones c js ++ milestones c js' :=
  List.filter_append ..

/-- A milestone of a journal is an event of it. -/
theorem mem_milestones {c : Bool} {e : Event} {js : List Event} (he : e.isMilestone c = true) :
    e ∈ milestones c js ↔ e ∈ js := by
  simp [milestones, he]

/-- Milestones split where the journal does. -/
theorem milestones_split {c : Bool} {e : Event} {js pre post : List Event}
    (he : e.isMilestone c = true) (h : js = pre ++ e :: post) :
    milestones c js = milestones c pre ++ e :: milestones c post := by
  subst h
  simp [milestones, he]

/-- Where the milestones split, the journal does. -/
theorem milestones_unsplit {c : Bool} {e : Event} {js pre post : List Event} (h : milestones c js = pre ++ e :: post) :
    ∃ pre' post', js = pre' ++ e :: post' ∧ milestones c pre' = pre ∧ milestones c post' = post := by
  obtain ⟨js₁, js₂, rfl, h₁, h₂⟩ := List.filter_eq_append_iff.mp h
  obtain ⟨js₃, js₄, rfl, h₃, -, h₄⟩ := List.filter_eq_cons_iff.mp h₂
  refine ⟨js₁ ++ js₃, js₄, by simp, ?_, h₄⟩
  have none : milestones c js₃ = [] := List.filter_eq_nil_iff.mpr h₃
  rw [milestones_append, none, List.append_nil]
  exact h₁

/-- Every event but a line on the console is a milestone. -/
theorem Event.isMilestone_of_topic {e : Event} (h : e.topic ≠ .console) : e.isMilestone c = true := by
  cases e <;> first | rfl | exact absurd rfl h

/-- Events are about some topics if their milestones are, with the console among the topics. -/
theorem About.of_milestones {topics : List Topic} (h : About topics (milestones c es)) (hc : .console ∈ topics) :
    About topics es := by
  intro e he
  by_cases ht : e.topic = .console
  · rw [ht]
    exact hc
  · exact h e ((mem_milestones (Event.isMilestone_of_topic ht)).mpr he)

/-- What is not read off the console is read off the milestones. -/
theorem filterMap_milestones {f : Event → Option β} (hf : ∀ e : Event, e.topic = .console → f e = none)
    (js : List Event) : (milestones c js).filterMap f = js.filterMap f := by
  induction js with
  | nil => rfl
  | cons e js ih =>
    cases he : e.isMilestone c with
    | true => rw [milestones, List.filter_cons_of_pos he, List.filterMap_cons, List.filterMap_cons, ← milestones, ih]
    | false =>
      have hconsole : e.topic = .console := by
        by_cases ht : e.topic = .console
        · exact ht
        · rw [Event.isMilestone_of_topic ht] at he
          cases he
      rw [milestones, List.filter_cons_of_neg (by simp [he]), ← milestones, ih, List.filterMap_cons, hf e hconsole]

@[simp] theorem launches_milestones (js : List Event) : launches (milestones c js) = launches js :=
  filterMap_milestones (fun _ he => Event.spawned?_none (by rw [he]; decide)) js

@[simp] theorem terminations_milestones (js : List Event) : terminations (milestones c js) = terminations js :=
  filterMap_milestones (fun _ he => Event.terminating?_none (by rw [he]; decide)) js

@[simp] theorem interruptions_milestones (js : List Event) : interruptions (milestones c js) = interruptions js :=
  filterMap_milestones (fun _ he => Event.interrupted?_none (by rw [he]; decide)) js

@[simp] theorem overs_milestones (js : List Event) : overs (milestones c js) = overs js :=
  filterMap_milestones (fun _ he => Event.clientOver?_none (by rw [he]; decide)) js

@[simp] theorem phases_milestones (js : List Event) : phases (milestones c js) = phases js :=
  filterMap_milestones (fun _ he => Event.phase?_none (by rw [he]; decide)) js

/-- Clients are settled in a journal if they are in its milestones. -/
theorem Settled.of_milestones (h : Settled (milestones c es)) : Settled es := by
  intro a b request timeout hs
  obtain ⟨between, seen, rest, hb, hno⟩ := h _ _ request timeout (milestones_split rfl hs)
  obtain ⟨between', rest', rfl, hbetween, -⟩ := milestones_unsplit hb
  refine ⟨between', seen, rest', rfl, ?_⟩
  -- An event about a client is a milestone, and so would stand between the two in the milestones as well.
  intro e he hclient
  have hm : e.isMilestone c = true := Event.isMilestone_of_topic (by rw [hclient]; decide)
  exact hno e (hbetween ▸ (mem_milestones hm).mpr he) hclient

/-- No text that closes the session is printed where the milestones are not about the console. -/
theorem unclosed_of_about {topics : List Topic} (h : About topics (milestones c es)) (hc : .console ∉ topics) :
    ∀ text, .printed text ∈ es → text ≠ Banner.passed c ∧ ∀ phase, text ≠ Banner.failed c phase := by
  intro text hm
  have hopen : Banner.closes c text ≠ true := by
    intro hclose
    have hmark : (Event.printed text).isMilestone c = true := hclose
    exact hc (h _ ((mem_milestones hmark).mpr hm))
  constructor
  · rintro rfl
    exact hopen (Banner.closes_passed _)
  · rintro phase rfl
    exact hopen (Banner.closes_failed _ _)

/-- One part of a session after another. -/
theorem Logs.trans (h : Logs c s es t) (h' : Logs c t es' u) :
    Logs c s (es ++ es') u := by
  obtain ⟨js, hj, rfl⟩ := h.journal
  obtain ⟨js', hj', rfl⟩ := h'.journal
  refine ⟨⟨js ++ js', ?_, milestones_append ..⟩, ?_⟩
  · rw [hj', hj, List.append_assoc]
  · rw [h'.recorder, h.recorder, List.foldl_append]

/-- An action without milestones may follow. -/
theorem Logs.andThen (h : Logs c s es t) (h' : Logs c t [] u) : Logs c s es u := by
  simpa using h.trans h'

namespace Follows

/-- What leaves journal, recorder and server alone adds no milestone. -/
theorem still (hj : t.journal = s.journal) (hr : t.recorder = s.recorder) (hs : t.server = s.server) :
    Follows c s [] t :=
  ⟨⟨⟨[], by simp [hj, milestones]⟩, hr⟩, hs⟩

theorem trans (h : Follows c s es t) (h' : Follows c t es' u) :
    Follows c s (es ++ es') u :=
  ⟨h.toLogs.trans h'.toLogs, h'.server.trans h.server⟩

/-- An action without milestones may follow. -/
theorem andThen (h : Follows c s es t) (h' : Follows c t [] u) : Follows c s es u := by
  simpa using h.trans h'

end Follows

/-! ## Sequences of actions -/

/-- An action in two parts goes through the state between them. -/
theorem Act.bind_inv {x : Act σ α} {f : α → Act σ β} {b : β} (h : (x >>= f) s = (b, u)) :
    ∃ a t, x s = (a, t) ∧ f a t = (b, u) :=
  ⟨(x s).1, (x s).2, rfl, h⟩

theorem Steps.lift_inv {x : Act σ α} {f : α → Steps σ β} {r : Except Stop β}
    (h : (liftM x >>= f : Steps σ β).run s = (r, u)) : ∃ a t, x s = (a, t) ∧ (f a).run t = (r, u) :=
  ⟨(x s).1, (x s).2, rfl, h⟩

theorem Steps.lift_last {x : Act σ α} {r : Except Stop α} (h : (liftM x : Steps σ α).run s = (r, t)) :
    ∃ a, x s = (a, t) ∧ r = .ok a := by
  cases h
  exact ⟨(x s).1, rfl, rfl⟩

/-- Two steps in turn: the first has a value and the second goes on, or the first stops the session. -/
theorem Steps.bind_inv {x : Steps σ α} {f : α → Steps σ β} {r : Except Stop β}
    (h : (x >>= f).run s = (r, u)) :
    (∃ a t, x.run s = (.ok a, t) ∧ (f a).run t = (r, u)) ∨ (∃ e, x.run s = (.error e, u) ∧ r = .error e) := by
  rw [ExceptT.run_bind] at h
  obtain ⟨a, t, hx, h⟩ := Act.bind_inv h
  cases a with
  | ok a => exact Or.inl ⟨a, t, hx, h⟩
  | error e =>
    cases h
    exact Or.inr ⟨e, hx, rfl⟩

/-! ## Single actions -/

variable {o : Outside σ}

theorem follows_tell {f : σ → σ} (h : tell f s = ((), t)) : Follows c s [] t := by
  cases h
  exact .still rfl rfl rfl

theorem follows_log {e : Log.Event} (h : log o e s = ((), t)) : Follows c s [] t :=
  follows_tell h

/-- A question leaves no trace in the journal, and its answer is that of the world. -/
theorem follows_ask {f : σ → α × σ} {a : α} (h : ask f s = (a, t)) :
    Follows c s [] t ∧ (f s.outside).1 = a := by
  cases h
  exact ⟨.still rfl rfl rfl, rfl⟩

theorem follows_offsetMs {n : Nat} (h : offsetMs o s = (n, t)) : Follows c s [] t := by
  cases h
  exact .still rfl rfl rfl

/-- An event that the recorder does not see is noted. -/
theorem follows_note {e : Event} (he : ∀ r : Recorder, r.see e = r) (h : note e s = ((), t)) :
    Follows c s (milestones c [e]) t := by
  cases h
  refine ⟨⟨⟨[e], rfl, rfl⟩, ?_⟩, rfl⟩
  -- The event is in the journal either way, but only a milestone is folded into the recorder.
  cases hm : e.isMilestone c with
  | true => simp [milestones, hm, he]
  | false => simp [milestones, hm]

/-- A milestone that the recorder does not see is noted. -/
theorem follows_mark {e : Event} (he : ∀ r : Recorder, r.see e = r) (hm : e.isMilestone c = true)
    (h : note e s = ((), t)) : Follows c s [e] t := by
  have hf := follows_note (c := c) he h
  rwa [milestones, List.filter_cons_of_pos hm] at hf

/-- A line on the console is a milestone only if it closes the session. -/
theorem follows_say {text : String} (h : say o text s = ((), t)) :
    Follows c s (milestones c [.printed text]) t := by
  obtain ⟨_, u, hn, ht⟩ := Act.bind_inv h
  exact (follows_note (fun _ => rfl) hn).andThen (follows_tell ht)

/-- A text that does not close the session is printed. -/
theorem follows_say_plain {text : String} (hc : Banner.closes c text = false)
    (h : say o text s = ((), t)) : Follows c s [] t := by
  have hf := follows_say (c := c) h
  simpa [milestones, Event.isMilestone, hc] using hf

/-- A text that closes the session is printed. -/
theorem follows_say_closing {text : String} (hc : Banner.closes c text = true)
    (h : say o text s = ((), t)) : Follows c s [.printed text] t := by
  have hf := follows_say (c := c) h
  rwa [milestones, List.filter_cons_of_pos (by exact hc)] at hf

/-- A phase that is entered is told. -/
theorem follows_enter {phase : Phase} (h : enter o phase s = ((), t)) :
    Follows c s [.entered phase] t := by
  cases h
  exact ⟨⟨⟨[.entered phase], rfl, rfl⟩, rfl⟩, rfl⟩

theorem follows_startStep {kind : StepKind} {name : String} {step : OpenStep}
    (h : startStep o kind name s = (step, t)) :
    Follows c s [] t ∧ ∃ startedMs, step = ⟨kind, name, startedMs⟩ := by
  cases h
  exact ⟨.still rfl rfl rfl, _, rfl⟩

/-- A step that is finished is recorded under its name, with the time of its begin. -/
theorem follows_finishStep {step : OpenStep} {status : StepStatus} {code : ExitCode}
    {detail : Option String} (h : finishStep o step status code detail s = ((), t)) :
    ∃ finishedMs, Follows c s [.recorded (step.close finishedMs status code detail)] t := by
  cases h
  exact ⟨_, ⟨⟨_, rfl, rfl⟩, rfl⟩, rfl⟩

/-- The session takes note of its server. -/
theorem logs_server {m : Option Managed}
    (h : (modify fun s => { s with server := m } : Act σ Unit) s = ((), t)) :
    Logs c s [] t ∧ t.server = m := by
  cases h
  exact ⟨⟨⟨[], by simp [milestones]⟩, rfl⟩, rfl⟩

/-- The begin of a watch is no milestone. -/
theorem follows_watch (h : watch o s = ((), t)) : Follows c s [] t := by
  obtain ⟨_, _, hg, h⟩ := Act.bind_inv h
  cases hg
  cases hw : s.watching with
  | true =>
    rw [hw] at h
    cases h
    exact .still rfl rfl rfl
  | false =>
    rw [hw] at h
    obtain ⟨_, _, hi, h⟩ := Act.bind_inv h
    obtain ⟨_, _, ht, h⟩ := Act.bind_inv h
    obtain ⟨_, _, hn, hm⟩ := Act.bind_inv h
    cases hm
    exact (((follows_ask hi).1.andThen (follows_tell ht)).andThen (follows_note (fun _ => rfl) hn)).andThen
      (.still rfl rfl rfl)

/-- A request stops the steps, and the journal tells which. -/
theorem interrupt_inv {i : Interrupt} {r : Except Stop α} (h : (interrupt i : Steps σ α).run s = (r, t)) :
    r = .error (.interrupted i) ∧ Follows c s [.interrupted i] t := by
  obtain ⟨_, u, hn, h⟩ := Steps.lift_inv h
  cases h
  exact ⟨rfl, follows_mark (fun _ => rfl) rfl hn⟩

/-- What comes of waiting for an operation is its result or a request to end the run, and neither the looks nor the
watch add a milestone. -/
theorem waitFor_inv {op : Operation σ α} {answer : Awaited α} (h : waitFor o op s = (answer, t)) :
    Follows c s [] t ∧ (∀ a, answer = .done a → op.Yields a) ∧ ∀ i, answer = .interrupted i → op.Stops i := by
  obtain ⟨look, u, hl, h⟩ := Act.bind_inv h
  obtain ⟨fl, hlook⟩ := follows_ask (c := c) hl
  -- Only an operation that goes on after the first look is waited for under the watch.
  cases look with
  | ready b =>
    cases h
    exact ⟨fl, by rintro a ⟨⟩; exact ⟨_, Or.inl hlook⟩, by rintro i ⟨⟩⟩
  | goesOn rest =>
    obtain ⟨_, v, hw, h⟩ := Act.bind_inv h
    obtain ⟨fa, hans⟩ := follows_ask (c := c) h
    refine ⟨(fl.andThen (follows_watch hw)).andThen fa, ?_, ?_⟩
    · rintro a rfl
      exact ⟨_, Or.inr ⟨rest, _, hlook, hans⟩⟩
    · rintro i rfl
      exact ⟨_, rest, _, hlook, hans⟩

/-- The session goes on with the result of an operation, or a request has cut the wait short: then what belongs to the
operation is let go of, and the steps are stopped. -/
theorem awaitOr_cases {letGo : Act σ Unit} {op : Operation σ α} {k : α → Steps σ β} {r : Except Stop β}
    (h : (awaitOr o letGo op >>= k).run s = (r, t)) :
    (∃ a u, waitFor o op s = (.done a, u) ∧ (k a).run u = (r, t)) ∨
      ∃ i u v, waitFor o op s = (.interrupted i, u) ∧ letGo u = ((), v) ∧
        (interrupt i : Steps σ β).run v = (r, t) := by
  rcases Steps.bind_inv h with ⟨a, u, hu, hk⟩ | ⟨e, hu, rfl⟩
  all_goals obtain ⟨answer, v, hw, hu⟩ := Steps.lift_inv hu
  · cases answer with
    | done b =>
      cases hu
      exact Or.inl ⟨a, u, hw, hk⟩
    | interrupted i =>
      obtain ⟨_, _, _, hu⟩ := Steps.lift_inv hu
      cases (interrupt_inv (c := true) hu).1
  · cases answer with
    | done b => cases hu
    | interrupted i =>
      obtain ⟨_, w, hletGo, hu⟩ := Steps.lift_inv hu
      cases hu
      exact Or.inr ⟨i, v, w, hw, hletGo, rfl⟩

/-- What the two ways of an awaited operation add to the milestones. -/
theorem awaitOr_inv {letGo : Act σ Unit} {op : Operation σ α} {k : α → Steps σ β} {r : Except Stop β}
    (h : (awaitOr o letGo op >>= k).run s = (r, t)) :
    (∃ a u, Follows c s [] u ∧ op.Yields a ∧ (k a).run u = (r, t)) ∨
      ∃ i u v, Follows c s [] u ∧ op.Stops i ∧ letGo u = ((), v) ∧ Follows c v [.interrupted i] t ∧
        r = .error (.interrupted i) := by
  rcases awaitOr_cases h with ⟨a, u, hw, hk⟩ | ⟨i, u, v, hw, hletGo, hi⟩
  · obtain ⟨f, yields, -⟩ := waitFor_inv (c := c) hw
    exact Or.inl ⟨a, u, f, yields a rfl, hk⟩
  · obtain ⟨f, -, stops⟩ := waitFor_inv (c := c) hw
    obtain ⟨rfl, fi⟩ := interrupt_inv (c := c) hi
    exact Or.inr ⟨i, u, v, f, stops i rfl, hletGo, fi, rfl⟩

/-- An operation is over and the session goes on, or a request to end the run cuts the wait for it short. -/
theorem await_inv {op : Operation σ α} {k : α → Steps σ β} {r : Except Stop β}
    (h : (await o op >>= k).run s = (r, t)) :
    (∃ a u, Follows c s [] u ∧ op.Yields a ∧ (k a).run u = (r, t)) ∨
      ∃ i, Follows c s [.interrupted i] t ∧ op.Stops i ∧ r = .error (.interrupted i) := by
  rcases awaitOr_inv (c := c) h with ⟨a, u, f, yields, hk⟩ | ⟨i, u, v, f, stops, hletGo, fi, rfl⟩
  · exact Or.inl ⟨a, u, f, yields, hk⟩
  · cases hletGo
    exact Or.inr ⟨i, f.trans fi, stops, rfl⟩

end Session

/-! ## Operations that are not over at the first look -/

theorem Operation.waiting_yields {σ α : Type} {rest : σ → Awaited α × σ} {a : α} :
    (Operation.waiting rest).Yields a ↔ ∃ w, (rest w).1 = .done a := by
  constructor
  · rintro ⟨v, ready | ⟨rest', w, hrest, done⟩⟩
    · cases ready
    · cases hrest
      exact ⟨w, done⟩
  · rintro ⟨w, done⟩
    exact ⟨w, Or.inr ⟨rest, w, rfl, done⟩⟩

/-! ## Worlds with a record -/

section Record

variable {σ τ α ρ : Type}

/-- What a first look finds, with the rest of the wait taken over to another world. -/
def FirstLook.inside (carry : (σ → Awaited α × σ) → τ → Awaited α × τ) : FirstLook σ α → FirstLook τ α
  | .ready a => .ready a
  | .goesOn rest => .goesOn (carry rest)

/-- An operation on a world with a record, which notes some entries. -/
def noted (entries : List ρ) (operation : σ → α × σ) (w : σ × List ρ) : α × (σ × List ρ) :=
  ((operation w.1).1, (operation w.1).2, w.2 ++ entries)

/-- An awaited operation on a world with a record, which notes some entries when it is looked at first. -/
def Operation.noting (entries : List ρ) (op : Operation σ α) : Operation (σ × List ρ) α := fun w =>
  ((op w.1).1.inside (noted []), (noted entries op w).2)

end Record

end Shakedown

import Shakedown.Proofs.Plan.Validity
import Shakedown.Proofs.Readiness.Attempts
import Shakedown.Session.Run

/-!
# No time is zero

A plan and settings that were accepted never let a run wait for no time (`timing_positive`): what validation ensures
of each of them carries over to the values chosen between the two, from there to the backoff and to every delay of
the wait (`Wait.Paced`), and to the time limit of every query. Nor does a run ever attempt a command probe without a
program: it does not depend on what such an attempt would lead to (`runPlan_probe_congr`).
-/

namespace Shakedown

/-! ## Values between plan and settings -/

/-- The value of a plan where it gives one, and else that of the settings. -/
def Chosen (given : Option Nat) (fallback n : Nat) : Prop := given = some n ∨ given = none ∧ n = fallback

/-- The value that is given, or else the fallback. -/
theorem chosen_getD (given : Option Nat) (fallback : Nat) : Chosen given fallback (given.getD fallback) := by
  cases given with
  | none => exact Or.inr ⟨rfl, rfl⟩
  | some n => exact Or.inl rfl

/-- What is chosen is positive if zero is not given and the fallback is positive. -/
theorem Chosen.pos {given : Option Nat} {fallback n : Nat} (h : Chosen given fallback n) (hg : given ≠ some 0)
    (hf : 0 < fallback) : 0 < n := by
  rcases h with rfl | ⟨-, rfl⟩
  · exact Nat.pos_of_ne_zero fun hn => hg (congrArg some hn)
  · exact hf

theorem seconds_pos {n : Nat} (h : 0 < n) : 0 < seconds n := Nat.mul_pos h (by decide)

theorem millis_pos {n : Nat} (h : 0 < n) : 0 < millis n := Nat.mul_pos h (by decide)

/-! ## The delays of a wait -/

/-- A backoff whose delays are positive: the current one is, and the cap does not cut it off. -/
def Backoff.IsPositive (b : Backoff) : Prop := 0 < b.current ∧ b.current ≤ b.cap

/-- A positive backoff hands out positive delays only, and stays positive. -/
theorem Backoff.IsPositive.next {b : Backoff} (h : b.IsPositive) (elapsed : Nanos) :
    (b.next elapsed).2.IsPositive ∧ ∀ delay, (b.next elapsed).1 = some delay → 0 < delay := by
  unfold Backoff.IsPositive at h
  by_cases hlate : b.limit < elapsed
  · rw [Backoff.next, if_pos hlate]
    exact ⟨h, fun delay hd => absurd hd.symm (Option.some_ne_none delay)⟩
  · rw [Backoff.next, if_neg hlate]
    constructor
    · simp only [Backoff.IsPositive, Backoff.grow]
      grind
    · intro delay hd
      by_cases hfits : elapsed + b.current ≤ b.limit
      · rw [if_pos hfits] at hd
        cases hd
        exact h.1
      · rw [if_neg hfits] at hd
        cases hd

/-- The backoff of a policy starts with its initial interval. -/
theorem ReadinessPolicy.backoff_isPositive {p : ReadinessPolicy} (h : 0 < p.initialInterval) : p.backoff.IsPositive :=
  ⟨h, p.initialInterval_le_cap⟩

namespace Wait

variable {p : ReadinessPolicy}

/-- A wait whose delays are positive: the one it asks for, and those that its backoff has left. -/
structure Paced (w : Wait) : Prop where
  backoff : w.backoff.IsPositive
  pause : ∀ delay, w.request = .sleep delay → 0 < delay

/-- A request that follows a positive backoff asks for no empty delay. -/
theorem ask_paced {b : Backoff} (h : b.IsPositive) (attempts : UInt32) (elapsed : Nanos) :
    (ask p attempts b elapsed).Paced :=
  ⟨h, fun _ hd => nomatch hd⟩

/-- A delay that is asked for ends by the ceiling, which is not there yet: an attempt at the ceiling is the last. -/
theorem Paced.answer {w : Wait} (h : w.Paced) (succeeded : Bool) (elapsed : Nanos) :
    (w.answer p succeeded elapsed).Paced := by
  have settled : ∀ {request : Request}, (∀ delay, request ≠ .sleep delay) → ({ w with request := request } : Wait).Paced :=
    fun hr => ⟨h.backoff, fun delay hd => absurd hd (hr delay)⟩
  unfold Wait.answer
  cases hw : w.request with
  | attempt number slot =>
    cases succeeded with
    | true => exact settled fun _ => Request.noConfusion
    | false =>
      by_cases hleft : p.ceiling - elapsed = 0
      · simp only [Bool.false_eq_true, if_false, hleft, if_true]
        exact settled fun _ => Request.noConfusion
      · simp only [Bool.false_eq_true, if_false, hleft]
        obtain ⟨grown, positive⟩ := h.backoff.next elapsed
        refine ⟨grown, fun delay hd => ?_⟩
        cases hd
        refine Nat.lt_min.mpr ⟨?_, Nat.pos_of_ne_zero hleft⟩
        cases hn : (w.backoff.next elapsed).1 with
        | none => exact Nat.pos_of_ne_zero hleft
        | some delay => exact positive delay hn
  | sleep delay => exact ask_paced h.backoff _ _
  | probed attempts t => exact h
  | exhausted attempts => exact h

/-- The wait after a number of answers, each with whether an attempt succeeded and with the elapsed time. -/
def after (p : ReadinessPolicy) (answers : List (Bool × Nanos)) : Wait :=
  answers.foldl (fun w a => w.answer p a.1 a.2) (start p)

/-- Whatever a wait is answered, its next request asks for no empty delay. -/
theorem after_paced (h : 0 < p.initialInterval) (answers : List (Bool × Nanos)) : (after p answers).Paced := by
  have run : ∀ {w : Wait}, w.Paced → (answers.foldl (fun w a => w.answer p a.1 a.2) w).Paced := by
    induction answers with
    | nil => exact id
    | cons a rest ih => exact fun hw => ih (hw.answer a.1 a.2)
  exact run (ask_paced (p.backoff_isPositive h) 0 0)

end Wait

/-! ## Attempts that are not made -/

namespace Session

variable {σ : Type} {o : Outside σ} {plan : Plan} {options : RunOptions} {settings : Settings}
  {attempt : Nat → Probe → Path → ReadinessPolicy → Operation σ (Race ProbeEnd)}

/-- Awaiting a server makes no attempt at any probe but the one of the plan. -/
theorem awaitServer_probe_congr (same : ∀ p, plan.server.readiness.probe = some p → ∀ n, attempt n p = o.awaitProbe n p) :
    awaitServer { o with awaitProbe := attempt } plan options settings = awaitServer o plan options settings := by
  have ready : ∀ server : Managed, awaitReadiness { o with awaitProbe := attempt } server plan.server.readiness.probe =
      awaitReadiness o server plan.server.readiness.probe := by
    intro server
    funext root policy
    cases hp : plan.server.readiness.probe with
    | none => rfl
    | some p =>
      simp only [awaitReadiness, same p hp]
      rfl
  unfold awaitServer awaitLaunched
  simp only [ready]
  rfl

/-- Queries make no attempt at a probe. -/
theorem queries_probe_congr (i : Nat) (qs : List QueryStep) :
    queries { o with awaitProbe := attempt } plan options settings i qs = queries o plan options settings i qs := by
  induction qs generalizing i with
  | nil => rfl
  | cons q rest ih =>
    unfold queries
    rw [ih]
    rfl

/-- A run makes no attempts at any probe but its plan's. -/
theorem runPlan_probe_congr (same : ∀ p, plan.server.readiness.probe = some p → ∀ n, attempt n p = o.awaitProbe n p)
    (s : σ) :
    runPlan { o with awaitProbe := attempt } plan options settings s = runPlan o plan options settings s := by
  have driven : steps { o with awaitProbe := attempt } plan options settings = steps o plan options settings := by
    unfold steps
    rw [awaitServer_probe_congr same]
    simp only [queries_probe_congr]
    rfl
  unfold runPlan session drive
  rw [driven]
  rfl

end Session

open Session (queryTimeout)

/-- The times of a run with a plan and settings that were accepted. The ceiling and both intervals of the readiness
wait are the plan's where it gives them and else the settings', and positive; the backoff starts with the initial
interval, which is positive and never above its cap, even where the maximal interval is the smaller one; every delay
between two attempts is positive, whatever the attempts come to and however long they take; so is the time limit of
every query. And a command probe has a program, so that it makes no difference to a run what an attempt without one
would lead to. -/
theorem timing_positive {text : String} {plan : Plan} {settings : Settings} (read : Plan.parse text = .ok plan)
    (accepted : settings.Accepted) :
    let readiness := plan.server.readiness
    let policy := ReadinessPolicy.resolve readiness settings
    (∃ n, Chosen readiness.ceilingSecs settings.readinessCeilingSecs n ∧ policy.ceiling = seconds n ∧
        0 < policy.ceiling) ∧
      (∃ n, Chosen readiness.initialIntervalMs settings.initialIntervalMs n ∧ policy.initialInterval = millis n ∧
        0 < policy.initialInterval) ∧
      (∃ n, Chosen readiness.maxIntervalMs settings.maxIntervalMs n ∧ policy.maxInterval = millis n ∧
        0 < policy.maxInterval) ∧
      (policy.backoff.current = policy.initialInterval ∧ 0 < policy.backoff.current ∧
        policy.backoff.current ≤ policy.backoff.cap) ∧
      (∀ answers delay, (Wait.after policy answers).request = .sleep delay → 0 < delay) ∧
      (∀ q ∈ plan.queries, 0 < seconds (queryTimeout plan settings q)) ∧
      (∀ argv, readiness.probe = some (.command argv) → ∃ program args, argv = program :: args) ∧
      ∀ {σ : Type} (o : Outside σ) (attempt : Nat → Probe → Path → ReadinessPolicy → Operation σ (Race ProbeEnd))
        (options : RunOptions) (s : σ), (∀ p, p ≠ .command [] → ∀ n, attempt n p = o.awaitProbe n p) →
        runPlan { o with awaitProbe := attempt } plan options settings s = runPlan o plan options settings s := by
  intro readiness policy
  have valid := Plan.parse_valid read
  have initial : 0 < policy.initialInterval :=
    millis_pos ((chosen_getD ..).pos valid.initialInterval (accepted.pos .initialInterval))
  refine ⟨⟨_, chosen_getD .., rfl, ?_⟩, ⟨_, chosen_getD .., rfl, initial⟩, ⟨_, chosen_getD .., rfl, ?_⟩,
    ⟨rfl, policy.backoff_isPositive initial⟩, ?_, ?_, ?_, ?_⟩
  · exact seconds_pos ((chosen_getD ..).pos valid.ceiling (accepted.pos .readinessCeiling))
  · exact millis_pos ((chosen_getD ..).pos valid.maxInterval (accepted.pos .maxInterval))
  · exact fun answers => (Wait.after_paced initial answers).pause
  · intro q hq
    -- Neither timeout of the plan is zero, so the one that comes first is not.
    have given : q.timeoutSecs.or plan.client.timeoutSecs ≠ some 0 := by
      have hquery := valid.queryTimeouts q hq
      have hclient := valid.clientTimeout
      cases ht : q.timeoutSecs with
      | none => simpa using hclient
      | some n => simpa [ht] using hquery
    exact seconds_pos ((chosen_getD ..).pos given (accepted.pos .invocation))
  · intro argv hp
    exact List.exists_cons_of_ne_nil (valid.probe _ hp)
  · intro σ o attempt options s same
    refine Session.runPlan_probe_congr (fun p hp => same p ?_) s
    rintro rfl
    exact valid.probe _ hp rfl

/-- A plan whose command probe is tried at a maximal interval below the initial one. -/
def hastyText : String :=
  "name: hasty\nserver:\n  target: {bin: server}\n  readiness:\n    probe: {command: [check, -q]}\n" ++
    "    initial_interval_ms: 80\n    max_interval_ms: 20\nclient: {target: {bin: client}}\nqueries:\n- query: q\n"

/-- What the hasty plan's text says. -/
def hastyPlan : Plan where
  name := "hasty"
  server :=
    { target := .bin "server"
      readiness := { probe := some (.command ["check", "-q"]), initialIntervalMs := some 80, maxIntervalMs := some 20 } }
  client := { target := .bin "client" }
  queries := [{ query := "q" }]

/-- Settings that were read from a text, with the hasty plan: the cap is raised to the initial interval of the plan,
and the query has the time of the settings. -/
theorem hasty_timing :
    Plan.parse hastyText = .ok hastyPlan ∧ Settings.parse "[timeouts]\ninvocation_secs = 5\n" = .ok { invocationSecs := 5 } ∧
      (ReadinessPolicy.resolve hastyPlan.server.readiness { invocationSecs := 5 }).backoff.cap = millis 80 ∧
      (∃ program args, ["check", "-q"] = program :: args) ∧
      0 < seconds (queryTimeout hastyPlan { invocationSecs := 5 } { query := "q" }) := by
  have read : Plan.parse hastyText = .ok hastyPlan := by decide +kernel
  have settings : Settings.parse "[timeouts]\ninvocation_secs = 5\n" = .ok { invocationSecs := 5 } := by decide +kernel
  obtain ⟨-, -, -, -, -, queries, probe, -⟩ := timing_positive read (Or.inr ⟨_, settings⟩)
  exact ⟨read, settings, rfl, probe _ rfl, queries _ (List.mem_singleton_self _)⟩

end Shakedown

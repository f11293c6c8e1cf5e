import Shakedown.Proofs.Readiness.Attempts

/-!
# The detection of readiness

A server that becomes ready by the ceiling is not missed, and one that is ready later is not waited for
(`readiness_is_detected`). The attempt that was made before the server became ready bounds the delay to the next
one: by the cap of the backoff, and by what has elapsed so far, since delays no more than double
(`Awaits.current_le`).
-/

namespace Shakedown.Wait

/-- A probe that answers at once, and with success from a time onwards. -/
def IdealProbe.readyFrom (ready : Nanos) : IdealProbe := ⟨fun _ _ => 0, fun _ clock => decide (ready ≤ clock)⟩

variable {p : ReadinessPolicy} {ready t : Nanos} {starts : List Nanos} {n : Nat}

theorem IdealProbe.readyFrom_hits : (IdealProbe.readyFrom ready).hits p n t = decide (ready ≤ t) := by
  simp [IdealProbe.hits, IdealProbe.readyFrom]

@[simp] theorem IdealProbe.readyFrom_over : (IdealProbe.readyFrom ready).over p n t = t := by
  simp [IdealProbe.over, IdealProbe.readyFrom]

/-- Before the ceiling, the interval is at most the first one longer than what has elapsed. -/
theorem Awaits.current_le (h : Awaits p (.readyFrom ready) starts t) (early : t < p.ceiling) :
    (p.backoffAfter starts.length).current ≤ t + p.initialInterval := by
  induction h with
  | first =>
    rw [List.length_nil, p.backoffAfter_zero, Nat.zero_add]
    exact Nat.le_refl _
  | @next starts t before failed sooner ih =>
    rw [IdealProbe.readyFrom_over] at early sooner ⊢
    have hinterval := ih sooner
    -- A delay that ends before the ceiling is the whole interval.
    have hwhole : p.delay starts.length t = (p.backoffAfter starts.length).current := by
      simp only [ReadinessPolicy.delay] at early ⊢
      grind
    have hdouble := p.current_succ_le starts.length
    rw [hwhole, List.length_cons]
    grind

/-- The next attempt is due soon after the last that failed, and so soon after the server became ready. -/
theorem Awaits.soon (h : Awaits p (.readyFrom ready) starts t) :
    t ≤ ready + max p.initialInterval p.maxInterval ∧ t ≤ 2 * ready + p.initialInterval := by
  cases h with
  | first => exact ⟨Nat.zero_le _, Nat.zero_le _⟩
  | @next starts t before failed early =>
    rw [IdealProbe.readyFrom_hits] at failed
    rw [IdealProbe.readyFrom_over] at early ⊢
    have hlate : t < ready := Nat.lt_of_not_le (of_decide_eq_false failed)
    have hcap : (p.backoffAfter starts.length).current ≤ max p.initialInterval p.maxInterval := by
      rw [Nat.max_comm]
      exact p.backoffAfter_current_le_cap starts.length
    have hinterval := before.current_le early
    have hdelay : p.delay starts.length t ≤ (p.backoffAfter starts.length).current := Nat.min_le_left ..
    constructor <;> grind

/-- A wait with a positive first interval, for a server that is ready from a time on and answers at once, succeeds
exactly if that time is not past the ceiling: then not before it, not past the ceiling, and after it by no more
than the longer interval and by no more than what it doubled to. If it is past the ceiling, the wait is over at
the ceiling, and the policy decides. -/
theorem readiness_is_detected (p : ReadinessPolicy) (ready : Nanos) (describe : String) (fuel : Nat)
    (hpos : 0 < p.initialInterval) (hfuel : 2 * (p.ceiling ⌈/⌉ p.initialInterval + 1) ≤ fuel) :
    let run := runIdeal p (.readyFrom ready) id fuel (IdealRun.start p)
    let result := run.result? p describe
    ((∃ attempts elapsed, result = some (.ok (.probed attempts elapsed))) ↔ ready ≤ p.ceiling) ∧
      (∀ attempts elapsed, result = some (.ok (.probed attempts elapsed)) →
        attempts = .ofNat run.starts.length ∧ elapsed = run.clock ∧ ready ≤ elapsed ∧
        elapsed ≤ min p.ceiling
          (min (ready + max p.initialInterval p.maxInterval) (2 * ready + p.initialInterval))) ∧
      (p.ceiling < ready → run.clock = p.ceiling ∧
        result = some (match p.onTimeout with
          | .proceed => .ok (.ceilingReached (.ofNat run.starts.length))
          | .fail => .error (.readinessTimeout p.ceiling.wholeSeconds describe))) := by
  intro run result
  obtain ⟨starts, t, due, hstarts, hclock, settled⟩ := runIdeal_settled (.readyFrom ready) hpos hfuel
  rw [IdealProbe.readyFrom_over] at hclock
  have hceiling := due.le_ceiling
  have hlength : run.starts.length = starts.length + 1 := by
    rw [hstarts]
    rfl
  -- A success means that the server was ready by the last attempt, a failure that it was not ready by the ceiling.
  cases settled with
  | succeeded hit outcome =>
    rw [IdealProbe.readyFrom_hits] at hit
    have hready : ready ≤ t := of_decide_eq_true hit
    have hresult : result = some (.ok (.probed (.ofNat run.starts.length) run.clock)) := by
      rw [hlength]
      exact congrArg (Option.map _) outcome
    refine ⟨⟨fun _ => Nat.le_trans hready hceiling, fun _ => ⟨_, _, hresult⟩⟩, ?_, ?_⟩
    · intro attempts elapsed hprobed
      cases hresult.symm.trans hprobed
      obtain ⟨hinterval, hdouble⟩ := due.soon
      rw [hclock]
      exact ⟨rfl, rfl, hready, Nat.le_min.mpr ⟨hceiling, Nat.le_min.mpr ⟨hinterval, hdouble⟩⟩⟩
    · intro hpast
      exact absurd (Nat.le_trans hready hceiling) (Nat.not_le_of_lt hpast)
  | exhausted failed late outcome =>
    rw [IdealProbe.readyFrom_hits] at failed
    have hlate : t < ready := Nat.lt_of_not_le (of_decide_eq_false failed)
    have hresult : result = some ((Readiness.ceilingReached (.ofNat run.starts.length)).judge p describe) := by
      rw [hlength]
      exact congrArg (Option.map _) outcome
    have hend : run.clock = p.ceiling := Nat.le_antisymm (hclock ▸ hceiling) late
    have hmissed : ∀ attempts elapsed, result ≠ some (.ok (.probed attempts elapsed)) := by
      intro attempts elapsed hprobed
      exact judge_ceilingReached_ne (Option.some.inj (hresult.symm.trans hprobed))
    refine ⟨⟨?_, ?_⟩, ?_, fun _ => ⟨hend, hresult⟩⟩
    · rintro ⟨attempts, elapsed, hprobed⟩
      exact absurd hprobed (hmissed attempts elapsed)
    · intro hready
      rw [hclock] at late
      exact absurd (Nat.le_trans hready late) (Nat.not_le_of_lt hlate)
    · intro attempts elapsed hprobed
      exact absurd hprobed (hmissed attempts elapsed)

/-- A server that is ready after 700 milliseconds is seen to be so by the third attempt. -/
theorem readiness_is_detected_third :
    let p : ReadinessPolicy := ⟨seconds 2, millis 500, seconds 5, .fail⟩
    let run := runIdeal p (.readyFrom (millis 700)) id 10 (IdealRun.start p)
    0 < p.initialInterval ∧ 2 * (p.ceiling ⌈/⌉ p.initialInterval + 1) ≤ 10 ∧
      run.result? p "port 80" = some (.ok (.probed 3 (millis 1500))) ∧
      millis 1500 ≤ min p.ceiling (min (millis 700 + max p.initialInterval p.maxInterval)
        (2 * millis 700 + p.initialInterval)) := by
  intro p run
  have hrun : run =
      ⟨⟨3, ⟨seconds 2, seconds 5, seconds 2⟩, .probed 3 (millis 1500)⟩, millis 1500, [millis 1500, millis 500, 0]⟩ := by
    decide
  have hresult : run.result? p "port 80" = some (.ok (.probed 3 (millis 1500))) := by
    rw [hrun]
    rfl
  have hpos : 0 < p.initialInterval := by decide
  have hfuel : 2 * (p.ceiling ⌈/⌉ p.initialInterval + 1) ≤ 10 := by decide
  obtain ⟨-, hbounds, -⟩ := readiness_is_detected p (millis 700) "port 80" 10 hpos hfuel
  exact ⟨hpos, hfuel, hresult, (hbounds _ _ hresult).2.2.2⟩

end Shakedown.Wait

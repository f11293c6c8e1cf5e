import Mathlib.Algebra.Order.Floor.Div
import Shakedown.Readiness.Wait

/-!
# The attempts of a readiness wait

A wait for readiness makes a bounded number of attempts and is over soon after its ceiling, whatever the probe
does, as long as its clock shows what attempts and delays take (`wait_is_bounded`). `Awaits` says which attempts have
failed when the next one is due, and `Standing` puts a run at one of its four places: at an attempt, at a delay, or over
in one of two ways. A step goes from place to place (`Standing.step`), and `IdealRun.toDo` decreases with it. The wait
counts its attempts in 32 bits, so that a run stands at `UInt32.ofNat` of the number of those it has made.
-/

namespace Shakedown

variable {p : ReadinessPolicy}

/-! ## The backoff of a policy -/

/-- The backoff of a policy after a number of delays: the interval has doubled with each, up to the cap. -/
def ReadinessPolicy.backoffAfter (p : ReadinessPolicy) (k : Nat) : Backoff :=
  { p.backoff with current := min (p.initialInterval * 2 ^ k) p.backoff.cap }

/-- The delay after an attempt that was over at an elapsed time, with a number of delays before it. -/
def ReadinessPolicy.delay (p : ReadinessPolicy) (k : Nat) (elapsed : Nanos) : Nanos :=
  min (p.backoffAfter k).current (p.ceiling - elapsed)

namespace ReadinessPolicy

theorem initialInterval_le_cap (p : ReadinessPolicy) : p.initialInterval ≤ p.backoff.cap :=
  Nat.le_max_right ..

theorem backoffAfter_current_le_cap (p : ReadinessPolicy) (k : Nat) : (p.backoffAfter k).current ≤ p.backoff.cap :=
  Nat.min_le_right ..

theorem backoffAfter_zero (p : ReadinessPolicy) : p.backoffAfter 0 = p.backoff := by
  have hcap : min (p.initialInterval * 2 ^ 0) p.backoff.cap = p.initialInterval := by
    rw [Nat.pow_zero, Nat.mul_one]
    exact Nat.min_eq_left p.initialInterval_le_cap
  rw [backoffAfter, hcap]
  rfl

theorem backoffAfter_grow (p : ReadinessPolicy) (k : Nat) : (p.backoffAfter k).grow = p.backoffAfter (k + 1) := by
  have hdouble : p.initialInterval * 2 ^ (k + 1) = 2 * (p.initialInterval * 2 ^ k) := by
    rw [Nat.pow_succ, ← Nat.mul_assoc, Nat.mul_comm]
  simp only [Backoff.grow, backoffAfter, hdouble, Backoff.mk.injEq, and_true]
  grind

theorem initialInterval_le_current (p : ReadinessPolicy) (k : Nat) :
    p.initialInterval ≤ (p.backoffAfter k).current :=
  Nat.le_min.mpr ⟨Nat.le_mul_of_pos_right _ (Nat.two_pow_pos k), p.initialInterval_le_cap⟩

theorem intervals_le_ceiling (p : ReadinessPolicy) (h : p.initialInterval = 1) :
    p.ceiling ⌈/⌉ p.initialInterval ≤ p.ceiling := by
  have hpos : 0 < p.initialInterval := by
    rw [h]
    exact Nat.one_pos
  refine (ceilDiv_le_iff_le_mul hpos).mpr ?_
  rw [h, Nat.one_mul]

theorem current_succ_le (p : ReadinessPolicy) (k : Nat) :
    (p.backoffAfter (k + 1)).current ≤ 2 * (p.backoffAfter k).current := by
  rw [← p.backoffAfter_grow k, Backoff.grow]
  grind

end ReadinessPolicy

/-- Before a ceiling that is not past its limit a backoff grows, and cut off at the time left its delay is its interval:
where it has no delay to give, the interval reaches past the ceiling. -/
theorem Backoff.next_of_lt {b : Backoff} {elapsed ceiling : Nanos} (h : elapsed < ceiling)
    (hlimit : ceiling ≤ b.limit) :
    ∃ delay, b.next elapsed = (delay, b.grow) ∧
      min (delay.getD (ceiling - elapsed)) (ceiling - elapsed) = min b.current (ceiling - elapsed) := by
  refine ⟨if elapsed + b.current ≤ b.limit then some b.current else none, ?_, ?_⟩
  · rw [Backoff.next, if_neg (Nat.not_lt_of_gt (Nat.lt_of_lt_of_le h hlimit))]
  · by_cases hfits : elapsed + b.current ≤ b.limit
    · rw [if_pos hfits, Option.getD_some]
    · rw [if_neg hfits, Option.getD_none]
      grind

/-- A failed attempt before the ceiling is followed by a delay, whether or not the backoff has one left. -/
theorem Wait.answer_failed_of_limit {b : Backoff} {n number : UInt32} {slot elapsed : Nanos} (h : elapsed < p.ceiling)
    (hlimit : p.ceiling ≤ b.limit) :
    (⟨n, b, .attempt number slot⟩ : Wait).answer p false elapsed =
      ⟨n, b.grow, .sleep (min b.current (p.ceiling - elapsed))⟩ := by
  obtain ⟨delay, hnext, hdelay⟩ := Backoff.next_of_lt h hlimit
  have hleft : p.ceiling - elapsed ≠ 0 := Nat.sub_ne_zero_of_lt h
  simp only [Wait.answer, Bool.false_eq_true, if_false, hleft, hnext]
  exact congrArg (fun d => (⟨n, b.grow, .sleep d⟩ : Wait)) hdelay

theorem Wait.answer_failed {n number : UInt32} {k : Nat} {slot elapsed : Nanos} (h : elapsed < p.ceiling) :
    (⟨n, p.backoffAfter k, .attempt number slot⟩ : Wait).answer p false elapsed =
      ⟨n, p.backoffAfter (k + 1), .sleep (p.delay k elapsed)⟩ := by
  rw [Wait.answer_failed_of_limit h (Nat.le_refl _), p.backoffAfter_grow]
  rfl

/-- A failed attempt that was over at the ceiling or later is the last. -/
theorem Wait.answer_late {b : Backoff} {n number : UInt32} {slot elapsed : Nanos} (h : p.ceiling ≤ elapsed) :
    (⟨n, b, .attempt number slot⟩ : Wait).answer p false elapsed = ⟨n, b, .exhausted n⟩ := by
  have hnone : p.ceiling - elapsed = 0 := Nat.sub_eq_zero_of_le h
  simp only [Wait.answer, Bool.false_eq_true, if_false, hnone, if_true]

namespace Wait

/-! ## Attempts that fail and succeed -/

/-- An attempt succeeds within its slot. -/
def IdealProbe.hits (p : ReadinessPolicy) (probe : IdealProbe) (n : Nat) (t : Nanos) : Bool :=
  decide (probe.duration n t ≤ attemptSlot (p.ceiling - t)) && probe.succeeds n t

/-- When an attempt that was started at a time is over. -/
def IdealProbe.over (p : ReadinessPolicy) (probe : IdealProbe) (n : Nat) (t : Nanos) : Nanos :=
  t + min (probe.duration n t) (attemptSlot (p.ceiling - t))

/-- The attempts that were started at the given times, last first, have failed before the ceiling, and the next
one is due at a time. -/
inductive Awaits (p : ReadinessPolicy) (probe : IdealProbe) : List Nanos → Nanos → Prop
  | first : Awaits p probe [] 0
  | next {starts : List Nanos} {t : Nanos} (before : Awaits p probe starts t)
      (failed : probe.hits p (starts.length + 1) t = false) (early : probe.over p (starts.length + 1) t < p.ceiling) :
      Awaits p probe (t :: starts)
        (probe.over p (starts.length + 1) t + p.delay starts.length (probe.over p (starts.length + 1) t))

variable {probe : IdealProbe} {starts : List Nanos} {t : Nanos} {n : Nat}

theorem attemptSlot_bounds (remaining : Nanos) :
    millis 10 ≤ attemptSlot remaining ∧ attemptSlot remaining ≤ seconds 1 := by
  have hslots : millis 10 ≤ seconds 1 := by decide
  simp only [attemptSlot, shortestAttempt, longestAttempt]
  grind

theorem IdealProbe.le_over (p : ReadinessPolicy) (probe : IdealProbe) (n : Nat) (t : Nanos) : t ≤ probe.over p n t :=
  Nat.le_add_right ..

theorem IdealProbe.over_le (probe : IdealProbe) (n : Nat) (h : t ≤ p.ceiling) :
    probe.over p n t ≤ p.ceiling + millis 10 := by
  simp only [IdealProbe.over, attemptSlot, shortestAttempt]
  grind

/-- An attempt is due at the ceiling at the latest. -/
theorem Awaits.le_ceiling (h : Awaits p probe starts t) : t ≤ p.ceiling := by
  cases h with
  | first => exact Nat.zero_le _
  | next before failed early =>
    simp only [ReadinessPolicy.delay]
    grind

/-- Each failed attempt puts the next one off by the initial interval or more, short of the ceiling. -/
theorem Awaits.spaced (h : Awaits p probe starts t) : min p.ceiling (starts.length * p.initialInterval) ≤ t := by
  -- The induction is on the failed attempts. An attempt may take no time at all, so only the delays count.
  induction h with
  | first => simp
  | @next starts t before failed early ih =>
    have hstart := probe.le_over p (starts.length + 1) t
    have hpause := p.initialInterval_le_current starts.length
    rw [List.length_cons, Nat.succ_mul]
    simp only [ReadinessPolicy.delay]
    grind

/-- There are no more failed attempts than initial intervals up to the ceiling. -/
theorem Awaits.length_le (h : Awaits p probe starts t) (hpos : 0 < p.initialInterval) :
    starts.length ≤ p.ceiling ⌈/⌉ p.initialInterval := by
  cases h with
  | first => exact Nat.zero_le _
  | @next starts t before failed early =>
    -- The last of them was started before the ceiling, so those before it have left room for it.
    have hstart := probe.le_over p (starts.length + 1) t
    have hspaced := before.spaced
    have hlt : p.initialInterval * starts.length < p.ceiling := by
      rw [Nat.mul_comm]
      grind
    have hceil : ¬ p.ceiling ⌈/⌉ p.initialInterval ≤ starts.length :=
      (not_congr (ceilDiv_le_iff_le_mul hpos)).mpr (Nat.not_le_of_lt hlt)
    exact Nat.lt_of_not_le hceil

/-- The position of an attempt, counted from the first: before the last one, or at it. -/
theorem attempt_cases {i : Nat} {s : Nanos} (h : (t :: starts).reverse[i]? = some s) :
    (i < starts.length ∧ starts.reverse[i]? = some s) ∨ (i = starts.length ∧ s = t) := by
  rw [List.reverse_cons] at h
  rcases Nat.lt_or_ge i starts.reverse.length with hlt | hge
  · rw [List.getElem?_append_left hlt] at h
    exact Or.inl ⟨by simpa using hlt, h⟩
  · rw [List.getElem?_append_right hge] at h
    obtain ⟨hlast, rfl⟩ := List.getElem?_eq_some_iff.mp h
    simp only [List.length_reverse, List.length_singleton] at hge hlast
    exact Or.inr ⟨by omega, by simp⟩

theorem last_attempt (starts : List Nanos) (t : Nanos) : (t :: starts).reverse[starts.length]? = some t := by
  rw [List.reverse_cons, List.getElem?_append_right (by simp)]
  simp

/-- The attempts before one that is due have all failed. -/
theorem Awaits.failed (h : Awaits p probe starts t) {i : Nat} {s : Nanos} (hi : starts.reverse[i]? = some s) :
    probe.hits p (i + 1) s = false := by
  induction h with
  | first => cases hi
  | @next starts t before failed early ih =>
    rcases attempt_cases hi with ⟨-, hearlier⟩ | ⟨rfl, rfl⟩
    · exact ih hearlier
    · exact failed

/-! ## The places of a run -/

/-- Where a run stands: at an attempt, at a delay, or over with a success or with a failed attempt that reached
the ceiling. -/
inductive Standing (p : ReadinessPolicy) (probe : IdealProbe) : IdealRun → Prop
  | asking {starts : List Nanos} {t : Nanos} (due : Awaits p probe starts t) :
      Standing p probe ⟨ask p (.ofNat starts.length) (p.backoffAfter starts.length) t, t, starts⟩
  | pausing {starts : List Nanos} {t : Nanos} (due : Awaits p probe starts t)
      (failed : probe.hits p (starts.length + 1) t = false) (early : probe.over p (starts.length + 1) t < p.ceiling) :
      Standing p probe
        ⟨⟨.ofNat (starts.length + 1), p.backoffAfter (starts.length + 1),
          .sleep (p.delay starts.length (probe.over p (starts.length + 1) t))⟩,
          probe.over p (starts.length + 1) t, t :: starts⟩
  | succeeded {starts : List Nanos} {t : Nanos} {b : Backoff} (due : Awaits p probe starts t)
      (hit : probe.hits p (starts.length + 1) t = true) :
      Standing p probe
        ⟨⟨.ofNat (starts.length + 1), b, .probed (.ofNat (starts.length + 1)) (probe.over p (starts.length + 1) t)⟩,
          probe.over p (starts.length + 1) t, t :: starts⟩
  | exhausted {starts : List Nanos} {t : Nanos} {b : Backoff} (due : Awaits p probe starts t)
      (failed : probe.hits p (starts.length + 1) t = false) (late : p.ceiling ≤ probe.over p (starts.length + 1) t) :
      Standing p probe
        ⟨⟨.ofNat (starts.length + 1), b, .exhausted (.ofNat (starts.length + 1))⟩, probe.over p (starts.length + 1) t,
          t :: starts⟩

/-- The most requests that a run still meets before it is over. -/
def IdealRun.toDo (p : ReadinessPolicy) (r : IdealRun) : Nat :=
  let left := p.ceiling ⌈/⌉ p.initialInterval + 1 - r.starts.length
  match r.wait.request with
  | .attempt .. => 2 * left
  | .sleep _ => 2 * left + 1
  | _ => 0

variable {r : IdealRun} {fuel : Nat}

theorem IdealRun.toDo_le (p : ReadinessPolicy) (r : IdealRun) :
    r.toDo p ≤ 2 * (p.ceiling ⌈/⌉ p.initialInterval + 1 - r.starts.length) + 1 := by
  simp only [toDo]
  split <;> omega

theorem Standing.start (p : ReadinessPolicy) (probe : IdealProbe) : Standing p probe (IdealRun.start p) := by
  have h := Standing.asking (Awaits.first : Awaits p probe [] 0)
  rw [List.length_nil, p.backoffAfter_zero] at h
  exact h

/-- An attempt is made: the run goes on as the wait does when it is told whether it succeeded. -/
theorem IdealRun.step_ask (k : UInt32) (b : Backoff) :
    IdealRun.step p probe id ⟨ask p k b t, t, starts⟩ =
      ⟨(ask p k b t).answer p (probe.hits p (starts.length + 1) t) (probe.over p (starts.length + 1) t),
        probe.over p (starts.length + 1) t, t :: starts⟩ :=
  rfl

/-- The count of an attempt is that of the attempts before it and one more, in 32 bits. -/
theorem ask_count (p : ReadinessPolicy) (k : Nat) (b : Backoff) :
    ask p (.ofNat k) b t = ⟨.ofNat (k + 1), b, .attempt (.ofNat (k + 1)) (attemptSlot (p.ceiling - t))⟩ := by
  rw [UInt32.ofNat_add]
  rfl

/-- A step goes from place to place. -/
theorem Standing.step (h : Standing p probe r) : Standing p probe (r.step p probe id) := by
  cases h with
  | @asking starts t due =>
    rw [IdealRun.step_ask]
    cases hhit : probe.hits p (starts.length + 1) t with
    | true =>
      rw [ask_count]
      exact .succeeded due hhit
    | false =>
      rcases Nat.lt_or_ge (probe.over p (starts.length + 1) t) p.ceiling with early | late
      · rw [ask_count, answer_failed early]
        exact .pausing due hhit early
      · rw [ask_count, answer_late late]
        exact .exhausted due hhit late
  | pausing due failed early => exact .asking (due.next failed early)
  | succeeded due hit => exact .succeeded due hit
  | exhausted due failed late => exact .exhausted due failed late

/-- A step of a run that is not over leaves less to do. -/
theorem Standing.toDo_step (h : Standing p probe r) (hpos : 0 < p.initialInterval) (hr : r.wait.outcome? = none) :
    (r.step p probe id).toDo p < r.toDo p := by
  cases h with
  | @asking starts t due =>
    -- The attempt is used up; if it fails, the delay after it is one more request.
    have hlen := due.length_le hpos
    have hbefore : IdealRun.toDo p ⟨ask p (.ofNat starts.length) (p.backoffAfter starts.length) t, t, starts⟩ =
        2 * (p.ceiling ⌈/⌉ p.initialInterval + 1 - starts.length) := rfl
    have hafter := IdealRun.toDo_le p
      (IdealRun.step p probe id ⟨ask p (.ofNat starts.length) (p.backoffAfter starts.length) t, t, starts⟩)
    rw [IdealRun.step_ask, List.length_cons] at hafter
    rw [IdealRun.step_ask, hbefore]
    omega
  | pausing due failed early => exact Nat.lt_succ_self _
  | succeeded due hit => cases hr
  | exhausted due failed late => cases hr

/-- A run goes from place to place. -/
theorem Standing.run (h : Standing p probe r) (fuel : Nat) : Standing p probe (runIdeal p probe id fuel r) := by
  induction fuel generalizing r with
  | zero => exact h
  | succ fuel ih =>
    rw [runIdeal]
    cases r.wait.outcome? with
    | some _ => exact h
    | none => exact ih h.step

/-- With fuel for what it has to do, a run is over at its end. -/
theorem Standing.over (h : Standing p probe r) (hpos : 0 < p.initialInterval) (hfuel : r.toDo p ≤ fuel) :
    (runIdeal p probe id fuel r).wait.outcome? ≠ none := by
  induction fuel generalizing r with
  | zero =>
    intro hnone
    exact absurd (h.toDo_step hpos hnone) (by omega)
  | succ fuel ih =>
    rw [runIdeal]
    cases hr : r.wait.outcome? with
    | some outcome =>
      simp only
      rw [hr]
      exact Option.some_ne_none _
    | none =>
      have hless := h.toDo_step hpos hr
      exact ih h.step (by omega)

/-- The policy's answer to a run that is over. -/
def IdealRun.result? (p : ReadinessPolicy) (describe : String) (r : IdealRun) : Option (Except Failure Readiness) :=
  r.wait.outcome?.map (·.judge p describe)

/-- A run that is over ended with its last attempt, which has succeeded or has reached the ceiling. -/
inductive Settled (p : ReadinessPolicy) (probe : IdealProbe) (starts : List Nanos) (t : Nanos) (r : IdealRun) : Prop
  | succeeded (hit : probe.hits p (starts.length + 1) t = true)
      (outcome : r.wait.outcome? = some (.probed (.ofNat (starts.length + 1)) r.clock))
  | exhausted (failed : probe.hits p (starts.length + 1) t = false) (late : p.ceiling ≤ r.clock)
      (outcome : r.wait.outcome? = some (.ceilingReached (.ofNat (starts.length + 1))))

theorem Standing.settled (h : Standing p probe r) (hr : r.wait.outcome? ≠ none) :
    ∃ starts t, Awaits p probe starts t ∧ r.starts = t :: starts ∧ r.clock = probe.over p (starts.length + 1) t ∧
      Settled p probe starts t r := by
  cases h with
  | asking due => exact absurd rfl hr
  | pausing due failed early => exact absurd rfl hr
  | succeeded due hit => exact ⟨_, _, due, rfl, rfl, .succeeded hit rfl⟩
  | exhausted due failed late => exact ⟨_, _, due, rfl, rfl, .exhausted failed late rfl⟩

/-- With fuel for two requests per attempt, the run from the start is over. -/
theorem runIdeal_settled (probe : IdealProbe) (hpos : 0 < p.initialInterval)
    (hfuel : 2 * (p.ceiling ⌈/⌉ p.initialInterval + 1) ≤ fuel) :
    ∃ starts t, Awaits p probe starts t ∧ (runIdeal p probe id fuel (IdealRun.start p)).starts = t :: starts ∧
      (runIdeal p probe id fuel (IdealRun.start p)).clock = probe.over p (starts.length + 1) t ∧
      Settled p probe starts t (runIdeal p probe id fuel (IdealRun.start p)) := by
  have hstart := Standing.start p probe
  exact (hstart.run fuel).settled (hstart.over hpos hfuel)

theorem Standing.clock_le (h : Standing p probe r) : r.clock ≤ p.ceiling + millis 10 := by
  cases h with
  | asking due => exact Nat.le_add_right_of_le due.le_ceiling
  | pausing due failed early => exact Nat.le_add_right_of_le (Nat.le_of_lt early)
  | succeeded due hit => exact probe.over_le _ due.le_ceiling
  | exhausted due failed late => exact probe.over_le _ due.le_ceiling

theorem Standing.length_le (h : Standing p probe r) (hpos : 0 < p.initialInterval) :
    r.starts.length ≤ p.ceiling ⌈/⌉ p.initialInterval + 1 := by
  cases h with
  | asking due => exact Nat.le_succ_of_le (due.length_le hpos)
  | pausing due failed early => exact Nat.succ_le_succ (due.length_le hpos)
  | succeeded due hit => exact Nat.succ_le_succ (due.length_le hpos)
  | exhausted due failed late => exact Nat.succ_le_succ (due.length_le hpos)

/-- The slot of a pending attempt is what is left to the ceiling, between ten milliseconds and one second. -/
theorem Standing.slot {number : UInt32} {slot : Nanos} (h : Standing p probe r)
    (hr : r.wait.request = .attempt number slot) :
    number = .ofNat (r.starts.length + 1) ∧ slot = attemptSlot (p.ceiling - r.clock) := by
  cases h with
  | @asking starts t due =>
    rw [ask_count] at hr
    cases hr
    exact ⟨rfl, rfl⟩
  | pausing due failed early => cases hr
  | succeeded due hit => cases hr
  | exhausted due failed late => cases hr

/-- What a wait that is over without success is judged to be is no success. -/
theorem judge_ceilingReached_ne {n m : UInt32} {elapsed : Nanos} {describe : String} :
    (Readiness.ceilingReached n).judge p describe ≠ .ok (.probed m elapsed) := by
  intro h
  rw [Readiness.judge] at h
  cases hpolicy : p.onTimeout with
  | proceed =>
    rw [hpolicy] at h
    cases h
  | fail =>
    rw [hpolicy] at h
    cases h

variable {describe : String} {count : UInt32}

theorem Settled.probed_iff (h : Settled p probe starts t r) :
    (∃ elapsed, r.result? p describe = some (.ok (.probed count elapsed))) ↔
      probe.hits p (starts.length + 1) t = true ∧ count = .ofNat (starts.length + 1) := by
  cases h with
  | succeeded hit outcome =>
    rw [IdealRun.result?, outcome]
    constructor
    · rintro ⟨elapsed, hprobed⟩
      cases hprobed
      exact ⟨hit, rfl⟩
    · rintro ⟨-, rfl⟩
      exact ⟨r.clock, rfl⟩
  | exhausted failed late outcome =>
    rw [IdealRun.result?, outcome]
    constructor
    · rintro ⟨elapsed, hprobed⟩
      exact absurd (Option.some.inj hprobed) judge_ceilingReached_ne
    · rintro ⟨hit, -⟩
      rw [failed] at hit
      cases hit

/-- An attempt is the first to succeed exactly if it is the last one made, and that succeeds. -/
theorem Awaits.first_hit_iff (h : Awaits p probe starts t) :
    (∃ s, (1 ≤ n ∧ (t :: starts).reverse[n - 1]? = some s) ∧ probe.hits p n s = true ∧
      ∀ m s', 1 ≤ m ∧ (t :: starts).reverse[m - 1]? = some s' → m < n → ¬ probe.hits p m s' = true) ↔
      probe.hits p (starts.length + 1) t = true ∧ n = starts.length + 1 := by
  constructor
  · rintro ⟨s, ⟨hn, hs⟩, hit, -⟩
    rcases attempt_cases hs with ⟨-, hearlier⟩ | ⟨hlast, rfl⟩
    · have hfailed := h.failed hearlier
      rw [Nat.sub_add_cancel hn, hit] at hfailed
      cases hfailed
    · obtain rfl : n = starts.length + 1 := by omega
      exact ⟨hit, rfl⟩
  · rintro ⟨hit, rfl⟩
    refine ⟨t, ⟨Nat.succ_pos _, last_attempt starts t⟩, hit, ?_⟩
    rintro m s' ⟨hm, hs'⟩ hlt hhit
    rcases attempt_cases hs' with ⟨-, hearlier⟩ | ⟨hlast, -⟩
    · have hfailed := h.failed hearlier
      rw [Nat.sub_add_cancel hm, hhit] at hfailed
      cases hfailed
    · omega

/-- Where the last attempt has failed, all have. -/
theorem Awaits.all_failed (h : Awaits p probe starts t) (hlast : probe.hits p (starts.length + 1) t = false)
    {m : Nat} {s : Nanos} (hm : 1 ≤ m) (hs : (t :: starts).reverse[m - 1]? = some s) : probe.hits p m s = false := by
  obtain ⟨i, rfl⟩ := Nat.exists_eq_add_of_le' hm
  rcases attempt_cases hs with ⟨-, hearlier⟩ | ⟨rfl, rfl⟩
  · exact h.failed hearlier
  · exact hlast

/-! ## Counts that start again -/

/-- A probe that answers at once, and with success at one attempt only. -/
def IdealProbe.only (n : Nat) : IdealProbe := ⟨fun _ _ => 0, fun m _ => decide (m = n)⟩

/-- If attempts take no time, an attempt is due after as many caps as there were attempts before it, at the latest. -/
theorem Awaits.le_caps (h : Awaits p (.only n) starts t) : t ≤ starts.length * p.backoff.cap := by
  induction h with
  | first => exact Nat.zero_le _
  | @next starts t before failed early ih =>
    have hover : (IdealProbe.only n).over p (starts.length + 1) t = t := by
      rw [IdealProbe.over, IdealProbe.only, Nat.zero_min, Nat.add_zero]
    have hdelay : p.delay starts.length t ≤ p.backoff.cap :=
      Nat.le_trans (Nat.min_le_left ..) (p.backoffAfter_current_le_cap starts.length)
    rw [hover, List.length_cons, Nat.succ_mul]
    exact Nat.add_le_add ih hdelay

/-- With intervals of one nanosecond and attempts that take no time, the attempt at the ceiling has as many before it as
there are nanoseconds up to there. -/
theorem Awaits.length_eq_ceiling (hinterval : p.initialInterval = 1) (hcap : p.backoff.cap = 1)
    (h : Awaits p (.only n) starts t) (hlast : p.ceiling ≤ t) : starts.length = p.ceiling := by
  have hpos : 0 < p.initialInterval := by
    rw [hinterval]
    exact Nat.one_pos
  have hintervals := p.intervals_le_ceiling hinterval
  have hcaps := h.le_caps
  rw [hcap, Nat.mul_one] at hcaps
  exact Nat.le_antisymm (Nat.le_trans (h.length_le hpos) hintervals) (Nat.le_trans hlast hcaps)

/-- A run with intervals of one nanosecond, towards a success at the attempt that is due at the ceiling: it makes as many
attempts as there are nanoseconds up to there and one more. -/
theorem probed_at_ceiling {k : Nat} {describe : String} (hinterval : p.initialInterval = 1) (hcap : p.backoff.cap = 1)
    (hceiling : p.ceiling = k) (hk : 0 < k) (hfuel : 2 * (k + 1) ≤ fuel) :
    let run := runIdeal p (.only (k + 1)) id fuel (IdealRun.start p)
    run.starts.length = k + 1 ∧ run.result? p describe = some (.ok (.probed (.ofNat (k + 1)) run.clock)) ∧
      ∀ t, (IdealProbe.only (k + 1)).succeeds 1 t = false := by
  intro run
  have hpos : 0 < p.initialInterval := by
    rw [hinterval]
    exact Nat.one_pos
  have hintervals : p.ceiling ⌈/⌉ p.initialInterval ≤ k := Nat.le_trans (p.intervals_le_ceiling hinterval) hceiling.le
  have hrequests : 2 * (p.ceiling ⌈/⌉ p.initialInterval + 1) ≤ fuel :=
    Nat.le_trans (Nat.mul_le_mul_left 2 (Nat.succ_le_succ hintervals)) hfuel
  obtain ⟨starts, t, due, hstarts, hclock, settled⟩ := runIdeal_settled (.only (k + 1)) hpos hrequests
  have hlength : run.starts.length = starts.length + 1 := by
    rw [hstarts]
    rfl
  have hits_iff : (IdealProbe.only (k + 1)).hits p (starts.length + 1) t = true ↔ starts.length = k := by
    simp [IdealProbe.hits, IdealProbe.only]
  have early : ∀ t, (IdealProbe.only (k + 1)).succeeds 1 t = false := fun _ => decide_eq_false (by omega)
  cases settled with
  | succeeded hit outcome =>
    rw [hlength, IdealRun.result?, outcome, hits_iff.mp hit]
    exact ⟨rfl, rfl, early⟩
  | exhausted failed late outcome =>
    have hover : run.clock = t := by
      rw [hclock, IdealProbe.over, IdealProbe.only, Nat.zero_min, Nat.add_zero]
    have hlast := due.length_eq_ceiling hinterval hcap (hover ▸ late)
    rw [hits_iff.mpr (hlast.trans hceiling)] at failed
    cases failed

/-! ## The wait as a whole -/

/-- With at most one attempt per first interval up to the ceiling and one more, the count of an attempt is its number as
long as there is room for all of them. -/
theorem Standing.toNat_count (h : Standing p probe r) (hpos : 0 < p.initialInterval)
    (hroom : p.ceiling ⌈/⌉ p.initialInterval + 1 < 2 ^ 32) (hn : n ≤ r.starts.length) : (UInt32.ofNat n).toNat = n :=
  UInt32.toNat_ofNat_of_lt' (Nat.lt_of_le_of_lt (Nat.le_trans hn (h.length_le hpos)) hroom)

/-- Whatever a probe does, a wait with a positive first interval makes at most one attempt per first interval up
to the ceiling and one more, each in a slot between ten milliseconds and one second, and is over ten milliseconds
after the ceiling at the latest. It succeeds at an attempt exactly if that is the first to succeed within its
slot; otherwise the policy decides on a ceiling reached, after at least one attempt, all of them failed. Attempts are
counted modulo `2 ^ 32`, which is their number if there are fewer first intervals than that up to the ceiling. -/
theorem wait_is_bounded (p : ReadinessPolicy) (probe : IdealProbe) (describe : String) (fuel : Nat)
    (hpos : 0 < p.initialInterval) (hfuel : 2 * (p.ceiling ⌈/⌉ p.initialInterval + 1) ≤ fuel) :
    let run := runIdeal p probe id fuel (IdealRun.start p)
    let result := run.result? p describe
    let madeAt (n : Nat) (t : Nanos) := 1 ≤ n ∧ run.starts.reverse[n - 1]? = some t
    let succeeds (n : Nat) (t : Nanos) :=
      probe.duration n t ≤ attemptSlot (p.ceiling - t) ∧ probe.succeeds n t = true
    result ≠ none ∧ run.starts.length ≤ p.ceiling ⌈/⌉ p.initialInterval + 1 ∧ run.clock ≤ p.ceiling + millis 10 ∧
      (∀ k number slot, let sofar := runIdeal p probe id k (IdealRun.start p)
        sofar.wait.request = .attempt number slot → number = .ofNat (sofar.starts.length + 1) ∧
          slot = attemptSlot (p.ceiling - sofar.clock) ∧ millis 10 ≤ slot ∧ slot ≤ seconds 1) ∧
      (∀ count, (∃ elapsed, result = some (.ok (.probed count elapsed))) ↔
        ∃ n t, (madeAt n t ∧ succeeds n t ∧ ∀ m s, madeAt m s → m < n → ¬ succeeds m s) ∧ count = .ofNat n) ∧
      (∀ ending, result = some ending → (∀ count elapsed, ending ≠ .ok (.probed count elapsed)) →
        ending = (Readiness.ceilingReached (.ofNat run.starts.length)).judge p describe ∧
        1 ≤ run.starts.length ∧ (∀ m s, madeAt m s → ¬ succeeds m s) ∧ p.ceiling ≤ run.clock) ∧
      (p.ceiling ⌈/⌉ p.initialInterval + 1 < 2 ^ 32 → ∀ n ≤ run.starts.length, (UInt32.ofNat n).toNat = n) := by
  intro run result madeAt succeeds
  have hits_iff : ∀ n t, succeeds n t ↔ probe.hits p n t = true := by
    intro n t
    simp [succeeds, IdealProbe.hits]
  -- The run as it is when it is over: the attempt that decides it, made at `t` after `starts`.
  obtain ⟨starts, t, due, hstarts, -, settled⟩ := runIdeal_settled probe hpos hfuel
  have standing : ∀ k, Standing p probe (runIdeal p probe id k (IdealRun.start p)) := (Standing.start p probe).run
  refine ⟨?_, (standing fuel).length_le hpos, (standing fuel).clock_le, ?_, ?_, ?_, ?_⟩
  · intro hnone
    exact (Standing.start p probe).over hpos hfuel (Option.map_eq_none_iff.mp hnone)
  · intro k number slot sofar hrequest
    obtain ⟨hnumber, rfl⟩ := (standing k).slot hrequest
    exact ⟨hnumber, rfl, attemptSlot_bounds _⟩
  · intro count
    -- The only attempt that can be the first to succeed is the last one that was made.
    have first : ∀ n, (∃ t, madeAt n t ∧ succeeds n t ∧ ∀ m s, madeAt m s → m < n → ¬ succeeds m s) ↔
        probe.hits p (starts.length + 1) t = true ∧ n = starts.length + 1 := by
      intro n
      simp only [hits_iff, madeAt, run, hstarts]
      exact due.first_hit_iff
    constructor
    · intro hprobed
      obtain ⟨hit, hcount⟩ := settled.probed_iff.mp hprobed
      obtain ⟨s, hfirst⟩ := (first _).mpr ⟨hit, rfl⟩
      exact ⟨_, s, hfirst, hcount⟩
    · rintro ⟨n, s, hfirst, hcount⟩
      obtain ⟨hit, rfl⟩ := (first n).mp ⟨s, hfirst⟩
      exact settled.probed_iff.mpr ⟨hit, hcount⟩
  · intro ending hending hfailure
    simp only [result, IdealRun.result?, run] at hending
    cases settled with
    | succeeded hit outcome =>
      rw [outcome] at hending
      exact absurd (Option.some.inj hending).symm (hfailure _ _)
    | exhausted failed late outcome =>
      have hjudged : ending = (Readiness.ceilingReached (.ofNat (starts.length + 1))).judge p describe := by
        rw [outcome] at hending
        exact (Option.some.inj hending).symm
      simp only [hits_iff, madeAt, run, hstarts]
      refine ⟨hjudged, Nat.succ_pos _, ?_, late⟩
      rintro m s ⟨hm, hs⟩ hhit
      rw [due.all_failed failed hm hs] at hhit
      cases hhit
  · exact fun hroom n hn => (standing fuel).toNat_count hpos hroom hn

/-- A probe that never answers in time is asked twice in two seconds, and the wait fails at the ceiling. -/
theorem wait_is_bounded_hanging :
    let p : ReadinessPolicy := ⟨seconds 2, millis 500, seconds 5, .fail⟩
    let probe : IdealProbe := ⟨fun _ _ => seconds 3, fun _ _ => true⟩
    let run := runIdeal p probe id 10 (IdealRun.start p)
    0 < p.initialInterval ∧ 2 * (p.ceiling ⌈/⌉ p.initialInterval + 1) ≤ 10 ∧
      run.result? p "port 80" = some (.error (.readinessTimeout 2 "port 80")) ∧
      run.starts = [millis 1500, 0] ∧ run.clock ≤ seconds 2 + millis 10 ∧ seconds 2 ≤ run.clock := by
  intro p probe run
  have hrun : run = ⟨⟨2, ⟨seconds 1, seconds 5, seconds 2⟩, .exhausted 2⟩, seconds 2, [millis 1500, 0]⟩ := by decide
  have hresult : run.result? p "port 80" = some (.error (.readinessTimeout 2 "port 80")) := by
    have hsecs : p.ceiling.wholeSeconds = 2 := by decide
    rw [hrun]
    show some (Except.error (Failure.readinessTimeout p.ceiling.wholeSeconds "port 80")) = _
    rw [hsecs]
  have hpos : 0 < p.initialInterval := by decide
  have hfuel : 2 * (p.ceiling ⌈/⌉ p.initialInterval + 1) ≤ 10 := by decide
  obtain ⟨-, -, hclock, -, -, hfailed, -⟩ := wait_is_bounded p probe "port 80" 10 hpos hfuel
  obtain ⟨-, -, -, hceiling⟩ := hfailed _ hresult (by rintro n elapsed ⟨⟩)
  exact ⟨hpos, hfuel, hresult, congrArg IdealRun.starts hrun, hclock, hceiling⟩

/-- A wait that succeeds at its attempt of number `2 ^ 32 + 1`, the first that does, tells of one attempt; and before a
clock that stands still, a wait goes on past its ceiling, with more attempts than there are intervals. -/
theorem counts_and_clocks_mislead :
    (let p : ReadinessPolicy := ⟨2 ^ 32, 1, 1, .proceed⟩
     let run := runIdeal p (.only (2 ^ 32 + 1)) id (2 * (2 ^ 32 + 1)) (IdealRun.start p)
     run.starts.length = 2 ^ 32 + 1 ∧ run.result? p "" = some (.ok (.probed 1 run.clock)) ∧
       ∀ t, (IdealProbe.only (2 ^ 32 + 1)).succeeds 1 t = false) ∧
    let p : ReadinessPolicy := ⟨millis 1000, millis 500, millis 500, .proceed⟩
    let run := runIdeal p (.only 11) (fun _ => 0) 21 (IdealRun.start p)
    run.result? p "" = some (.ok (.probed 11 0)) ∧ run.starts.length = 11 ∧
      p.ceiling ⌈/⌉ p.initialInterval + 1 = 3 ∧ run.clock = seconds 5 ∧ p.ceiling + millis 10 < run.clock := by
  refine ⟨probed_at_ceiling rfl rfl rfl (by decide) (Nat.le_refl _), ?_⟩
  intro p run
  have hrun : run.wait.outcome? = some (.probed 11 0) ∧ run.starts.length = 11 ∧ run.clock = seconds 5 := by
    decide +kernel
  obtain ⟨outcome, hlength, hclock⟩ := hrun
  refine ⟨congrArg (Option.map _) outcome, hlength, by decide, hclock, ?_⟩
  rw [hclock]
  decide

end Wait
end Shakedown

import Shakedown.Proofs.Readiness.Attempts

/-!
# The delays of a readiness wait

The delay after a failed attempt is the interval of the backoff, cut off at the time that is left to the ceiling
(`Wait.getElem?_delays`). The interval doubles with each delay up to a cap that is never below the first one, and the
limit of the backoff's own makes no difference to it: where the backoff has no delay to give, the interval reaches past
the ceiling anyway. If a probe fails at once, nothing but delays takes time, so that the attempts are made at the sums
of the delays before them (`Wait.spacedBy_unready`), and the last one at the ceiling (`Wait.last_unready`).
-/

namespace Shakedown

variable {p : ReadinessPolicy}

/-! ## Intervals -/

/-- The interval of a policy after a number of delays: the first one doubled as often, up to the longer of the two that
the policy gives. -/
def ReadinessPolicy.interval (p : ReadinessPolicy) (k : Nat) : Nanos :=
  min (p.initialInterval * 2 ^ k) (max p.initialInterval p.maxInterval)

theorem ReadinessPolicy.interval_le_succ (p : ReadinessPolicy) (k : Nat) : p.interval k ≤ p.interval (k + 1) := by
  have hdouble : p.initialInterval * 2 ^ k ≤ p.initialInterval * 2 ^ (k + 1) :=
    Nat.mul_le_mul_left _ (Nat.pow_le_pow_right (by decide) (Nat.le_succ k))
  exact min_le_min_right _ hdouble

theorem ReadinessPolicy.backoffAfter_current (p : ReadinessPolicy) (k : Nat) :
    (p.backoffAfter k).current = p.interval k := by
  rw [interval, Nat.max_comm]
  rfl

theorem ReadinessPolicy.iterate_grow (p : ReadinessPolicy) (k : Nat) :
    Backoff.grow^[k] p.backoff = p.backoffAfter k := by
  induction k with
  | zero => exact p.backoffAfter_zero.symm
  | succ k ih => rw [Function.iterate_succ_apply', ih, p.backoffAfter_grow]

/-- The limit of a backoff has no part in how its interval grows. -/
theorem Backoff.iterate_grow_limit (b : Backoff) (limit : Nanos) (k : Nat) :
    Backoff.grow^[k] { b with limit := limit } = { Backoff.grow^[k] b with limit := limit } := by
  induction k with
  | zero => rfl
  | succ k ih =>
    rw [Function.iterate_succ_apply', Function.iterate_succ_apply', ih]
    rfl

namespace Wait

/-! ## The delays that a wait asks for -/

/-- The delay that a request asks for, if it asks for one. -/
def Request.delay? : Request → Option Nanos
  | .sleep delay => some delay
  | _ => none

/-- The delays that a wait asks for while it is given answers: whether an attempt succeeded, and the elapsed time. -/
def delays (p : ReadinessPolicy) : Wait → List (Bool × Nanos) → List Nanos
  | w, [] => w.request.delay?.toList
  | w, a :: rest => w.request.delay?.toList ++ delays p (w.answer p a.1 a.2) rest

variable {b : Backoff} {w : Wait} {answers rest : List (Bool × Nanos)} {i k : Nat} {m n : UInt32} {t d elapsed : Nanos}

theorem delays_over (h : w.outcome? ≠ none) : delays p w answers = [] := by
  rcases w with ⟨n, b, request⟩
  induction answers with
  | nil =>
    cases request with
    | attempt number slot => exact absurd rfl h
    | sleep delay => exact absurd rfl h
    | probed attempts t => rfl
    | exhausted attempts => rfl
  | cons a rest ih =>
    cases request with
    | attempt number slot => exact absurd rfl h
    | sleep delay => exact absurd rfl h
    | probed attempts t => exact ih
    | exhausted attempts => exact ih

theorem delays_sleep_nil : delays p ⟨n, b, .sleep d⟩ [] = [d] := rfl

/-- A delay is followed by the next attempt, whatever the answer to it is. -/
theorem delays_sleep_cons {a : Bool × Nanos} :
    delays p ⟨n, b, .sleep d⟩ (a :: rest) = d :: delays p (ask p n b a.2) rest := rfl

/-- After an attempt that has failed before the ceiling there is a delay. -/
theorem delays_ask_failed (hlimit : p.ceiling ≤ b.limit) (early : elapsed < p.ceiling) :
    delays p (ask p m b t) ((false, elapsed) :: rest) =
      delays p ⟨m + 1, b.grow, .sleep (min b.current (p.ceiling - elapsed))⟩ rest := by
  rw [← answer_failed_of_limit early hlimit]
  rfl

/-- After an attempt that has succeeded or was over too late there is none. -/
theorem delays_ask_last {succeeded : Bool} (last : ¬ (succeeded = false ∧ elapsed < p.ceiling)) :
    delays p (ask p m b t) ((succeeded, elapsed) :: rest) = [] := by
  change delays p ((ask p m b t).answer p succeeded elapsed) rest = []
  cases succeeded with
  | true => exact delays_over (Option.some_ne_none _)
  | false =>
    rw [ask, answer_late (Nat.le_of_not_lt fun early => last ⟨rfl, early⟩)]
    exact delays_over (Option.some_ne_none _)

/-- The first attempts, up to a number of them counted from zero, have all failed before the ceiling. Every other answer
is one to an attempt. -/
def HaveFailed (p : ReadinessPolicy) (answers : List (Bool × Nanos)) (i : Nat) : Prop :=
  ∀ j ≤ i, ∃ elapsed, answers[2 * j]? = some (false, elapsed) ∧ elapsed < p.ceiling

variable {a a' : Bool × Nanos}

theorem HaveFailed.first (h : HaveFailed p (a :: rest) i) : a.1 = false ∧ a.2 < p.ceiling := by
  obtain ⟨elapsed, first, early⟩ := h 0 (Nat.zero_le i)
  cases first
  exact ⟨rfl, early⟩

theorem haveFailed_zero : HaveFailed p (a :: rest) 0 ↔ a.1 = false ∧ a.2 < p.ceiling := by
  constructor
  · exact HaveFailed.first
  · rintro ⟨failed, early⟩ j hj
    obtain rfl := Nat.le_zero.mp hj
    exact ⟨a.2, congrArg some (Prod.ext failed rfl), early⟩

theorem haveFailed_succ :
    HaveFailed p (a :: a' :: rest) (i + 1) ↔ (a.1 = false ∧ a.2 < p.ceiling) ∧ HaveFailed p rest i := by
  constructor
  · intro h
    exact ⟨h.first, fun j hj => h (j + 1) (Nat.succ_le_succ hj)⟩
  · rintro ⟨first, others⟩ j hj
    cases j with
    | zero => exact haveFailed_zero.mpr first 0 (Nat.le_refl 0)
    | succ j => exact others j (Nat.le_of_succ_le_succ hj)

/-- The delays of a wait with any limit from the ceiling on: there is one after each attempt as long as all have failed
before the ceiling, and it is the interval of the backoff, cut off at the time left. -/
theorem getElem?_delays (hlimit : p.ceiling ≤ b.limit) :
    (delays p (ask p m b t) answers)[i]? = some d ↔
      HaveFailed p answers i ∧ ∃ elapsed, answers[2 * i]? = some (false, elapsed) ∧
        d = min (Backoff.grow^[i] b).current (p.ceiling - elapsed) := by
  -- The induction is on the number of delays before, from any place of a wait where an attempt is pending.
  induction i generalizing m b t answers with
  | zero =>
    match answers with
    | [] => simp [delays, ask, Request.delay?]
    | (succeeded, elapsed) :: rest =>
      rw [haveFailed_zero]
      by_cases failed : succeeded = false ∧ elapsed < p.ceiling
      · obtain ⟨rfl, early⟩ := failed
        rw [delays_ask_failed hlimit early]
        cases rest with
        | nil => simp [delays_sleep_nil, early, eq_comm]
        | cons a rest => simp [delays_sleep_cons, early, eq_comm]
      · rw [delays_ask_last failed]
        simp [failed]
  | succ i ih =>
    match answers with
    | [] => simp [delays, ask, Request.delay?]
    | (succeeded, elapsed) :: rest =>
      by_cases failed : succeeded = false ∧ elapsed < p.ceiling
      · obtain ⟨rfl, early⟩ := failed
        rw [delays_ask_failed hlimit early]
        cases rest with
        | nil => simp [delays_sleep_nil, Nat.mul_succ]
        | cons a rest =>
          have shift : ((false, elapsed) :: a :: rest)[2 * (i + 1)]? = rest[2 * i]? := rfl
          rw [delays_sleep_cons, List.getElem?_cons_succ, ih (b := b.grow) hlimit, haveFailed_succ, shift,
            Function.iterate_succ_apply]
          simp [early]
      · rw [delays_ask_last failed]
        exact iff_of_false (by simp) fun h => failed h.1.first

/-! ## Attempts that take no time -/

/-- A probe whose attempts fail at once. -/
def IdealProbe.unready : IdealProbe := ⟨fun _ _ => 0, fun _ _ => false⟩

/-- The delays that a run of at most `fuel` requests waits for, in order. -/
def slept (p : ReadinessPolicy) (probe : IdealProbe) (seen : Nanos → Nanos) : Nat → IdealRun → List Nanos
  | 0, _ => []
  | fuel + 1, r => r.wait.request.delay?.toList ++ slept p probe seen fuel (r.step p probe seen)

variable {probe : IdealProbe} {seen : Nanos → Nanos} {starts ds : List Nanos} {r : IdealRun} {fuel : Nat}

theorem runIdeal_over (h : r.wait.outcome? ≠ none) :
    runIdeal p probe seen fuel r = r ∧ slept p probe seen fuel r = [] := by
  rcases r with ⟨⟨n, b, request⟩, clock, starts⟩
  induction fuel with
  | zero => exact ⟨rfl, rfl⟩
  | succ fuel ih =>
    cases request with
    | attempt number slot => exact absurd rfl h
    | sleep delay => exact absurd rfl h
    | probed attempts t => exact ⟨rfl, ih.2⟩
    | exhausted attempts => exact ⟨rfl, ih.2⟩

theorem runIdeal_ask : runIdeal p probe seen (fuel + 1) ⟨ask p m b t, elapsed, starts⟩ =
    runIdeal p probe seen fuel (IdealRun.step p probe seen ⟨ask p m b t, elapsed, starts⟩) := rfl

/-- An attempt is no delay. -/
theorem slept_ask : slept p probe seen (fuel + 1) ⟨ask p m b t, elapsed, starts⟩ =
    slept p probe seen fuel (IdealRun.step p probe seen ⟨ask p m b t, elapsed, starts⟩) := rfl

theorem IdealProbe.unready_hits : IdealProbe.unready.hits p k t = false := by
  rw [IdealProbe.hits, unready, Bool.and_false]

theorem IdealProbe.unready_over : IdealProbe.unready.over p k t = t := by
  rw [IdealProbe.over, unready, Nat.zero_min, Nat.add_zero]

theorem step_unready_early (early : t < p.ceiling) :
    IdealRun.step p .unready id ⟨ask p m (p.backoffAfter k) t, t, starts⟩ =
      ⟨⟨m + 1, p.backoffAfter (k + 1), .sleep (p.delay k t)⟩, t, t :: starts⟩ := by
  rw [IdealRun.step_ask, IdealProbe.unready_hits, IdealProbe.unready_over, ask, answer_failed early]

theorem step_unready_late (late : p.ceiling ≤ t) :
    IdealRun.step p .unready id ⟨ask p m b t, t, starts⟩ = ⟨⟨m + 1, b, .exhausted (m + 1)⟩, t, t :: starts⟩ := by
  rw [IdealRun.step_ask, IdealProbe.unready_hits, IdealProbe.unready_over, ask, answer_late late]

/-- What comes of an attempt that is made at a time after others: after it as well, attempts are made at the sums of the
delays so far, and each delay is that of its place at its time. -/
structure SpacedBy (p : ReadinessPolicy) (starts : List Nanos) (t : Nanos) (ds : List Nanos) (r : IdealRun) : Prop where
  attempts : r.starts.reverse = starts.reverse ++ ds.scanl (· + ·) t
  clock : r.clock = t + ds.sum
  delays : ∀ i d, ds[i]? = some d → d = p.delay (starts.length + i) (t + (ds.take i).sum)

theorem SpacedBy.last {w : Wait} : SpacedBy p starts t [] ⟨w, t, t :: starts⟩ where
  attempts := List.reverse_cons
  clock := rfl
  delays _ _ := nofun

theorem SpacedBy.next (h : SpacedBy p (t :: starts) (t + p.delay starts.length t) ds r) :
    SpacedBy p starts t (p.delay starts.length t :: ds) r where
  attempts := by
    rw [h.attempts, List.reverse_cons, List.scanl_cons, List.append_assoc]
    rfl
  clock := by rw [h.clock, List.sum_cons, Nat.add_assoc]
  delays := by
    intro i d hd
    cases i with
    | zero =>
      cases hd
      rfl
    | succ i =>
      rw [h.delays i d hd, List.length_cons, List.take_succ_cons, List.sum_cons, Nat.add_assoc t]
      congr 1
      omega

/-- A run of attempts that fail at once, from an attempt on that is due at a time after others. -/
theorem spacedBy_unready (ended : (runIdeal p .unready id fuel
      ⟨ask p m (p.backoffAfter starts.length) t, t, starts⟩).wait.outcome? ≠ none) :
    SpacedBy p starts t
      (slept p .unready id fuel ⟨ask p m (p.backoffAfter starts.length) t, t, starts⟩)
      (runIdeal p .unready id fuel ⟨ask p m (p.backoffAfter starts.length) t, t, starts⟩) := by
  -- From attempt to attempt there are two requests, the attempt itself and the delay after it.
  induction fuel using Nat.strongRecOn generalizing m starts t with
  | ind fuel ih =>
    match fuel with
    | 0 => exact absurd rfl ended
    | fuel + 1 =>
      rw [runIdeal_ask] at ended ⊢
      rw [slept_ask]
      rcases Nat.lt_or_ge t p.ceiling with early | late
      · rw [step_unready_early early] at ended ⊢
        match fuel with
        | 0 => exact absurd rfl ended
        | fuel + 1 =>
          have rest : SpacedBy p (t :: starts) (t + p.delay starts.length t) _ _ := ih fuel (by omega) ended
          exact rest.next
      · obtain ⟨same, nothing⟩ := @runIdeal_over p .unready id
          ⟨⟨m + 1, p.backoffAfter starts.length, .exhausted (m + 1)⟩, t, t :: starts⟩
          fuel (Option.some_ne_none _)
        rw [step_unready_late late, same, nothing]
        exact SpacedBy.last

/-! ## The wait as a whole -/

/-- The delay with a number of others before it, at a wait from its start: it is there if all attempts so far have
failed before the ceiling, and is the interval of the policy then, or what is left to the ceiling. -/
theorem getElem?_delays_start :
    (delays p (start p) answers)[k]? = some d ↔
      HaveFailed p answers k ∧ ∃ elapsed, answers[2 * k]? = some (false, elapsed) ∧
        d = min (p.interval k) (p.ceiling - elapsed) := by
  have hlimit : p.ceiling ≤ p.backoff.limit := Nat.le_refl _
  rw [start, getElem?_delays hlimit, p.iterate_grow, p.backoffAfter_current]

/-- A backoff with another limit asks for the same delays, as long as the limit is not before the ceiling. -/
theorem delays_limit {limit : Nanos} (hlimit : p.ceiling ≤ limit) :
    delays p (ask p 0 { p.backoff with limit := limit } 0) answers = delays p (start p) answers := by
  have current : ∀ k, (Backoff.grow^[k] { p.backoff with limit := limit }).current = p.interval k := by
    intro k
    rw [Backoff.iterate_grow_limit, p.iterate_grow]
    exact p.backoffAfter_current k
  apply List.ext_getElem?
  intro k
  ext d
  rw [getElem?_delays hlimit, getElem?_delays_start, current]

/-- If all attempts fail at once, the last one is made at the ceiling. -/
theorem last_unready (hpos : 0 < p.initialInterval) (hfuel : 2 * (p.ceiling ⌈/⌉ p.initialInterval + 1) ≤ fuel) :
    ∃ starts, (runIdeal p .unready id fuel (IdealRun.start p)).starts = p.ceiling :: starts ∧
      (runIdeal p .unready id fuel (IdealRun.start p)).clock = p.ceiling ∧
      (runIdeal p .unready id fuel (IdealRun.start p)).wait.outcome? =
        some (.ceilingReached (.ofNat (starts.length + 1))) := by
  obtain ⟨starts, t, due, hstarts, hclock, settled⟩ := runIdeal_settled (p := p) .unready hpos hfuel
  rw [IdealProbe.unready_over] at hclock
  cases settled with
  | succeeded hit outcome =>
    rw [IdealProbe.unready_hits] at hit
    cases hit
  | exhausted failed late outcome =>
    rw [hclock] at late
    obtain rfl := Nat.le_antisymm due.le_ceiling late
    exact ⟨starts, hstarts, hclock, outcome⟩

/-- The delays of a readiness wait with a positive first interval double up to the ceiling: whatever answers the wait is
given, the delay with `k` others before it is there exactly if all attempts before it have failed before the ceiling,
and is the shortest of the first interval doubled `k` times, the longer one of the two that the policy gives and the
time left to the ceiling. A backoff with a later limit than the ceiling asks for the same delays, and uncut they never
decrease. If the attempts fail at once, they are made at the sums of the delays before them, and the last of them at
the ceiling. -/
theorem delays_double_up_to_ceiling (p : ReadinessPolicy) (fuel : Nat) (hpos : 0 < p.initialInterval)
    (hfuel : 2 * (p.ceiling ⌈/⌉ p.initialInterval + 1) ≤ fuel) :
    let run := runIdeal p .unready id fuel (IdealRun.start p)
    let pauses := slept p .unready id fuel (IdealRun.start p)
    (∀ answers k d, (delays p (start p) answers)[k]? = some d ↔
      HaveFailed p answers k ∧ ∃ elapsed, answers[2 * k]? = some (false, elapsed) ∧
        d = min (p.interval k) (p.ceiling - elapsed)) ∧
      (∀ limit, p.ceiling ≤ limit → ∀ answers,
        delays p (ask p 0 { p.backoff with limit := limit } 0) answers = delays p (start p) answers) ∧
      Monotone p.interval ∧
      (∀ k d, pauses[k]? = some d → d = min (p.interval k) (p.ceiling - (pauses.take k).sum)) ∧
      run.starts.reverse = pauses.scanl (· + ·) 0 ∧ run.starts.head? = some p.ceiling ∧ run.clock = p.ceiling ∧
      run.wait.outcome? = some (.ceilingReached (.ofNat run.starts.length)) := by
  intro run pauses
  obtain ⟨starts, hstarts, hclock, outcome⟩ := last_unready hpos hfuel
  have begun : IdealRun.start p = ⟨ask p 0 (p.backoffAfter 0) 0, 0, []⟩ := by
    rw [p.backoffAfter_zero]
    rfl
  -- The attempts fail at once, so they are made where the delays have summed up to.
  have spaced : SpacedBy p [] 0 pauses run := by
    have ended : run.wait.outcome? ≠ none := by
      rw [outcome]
      exact Option.some_ne_none _
    simp only [run, pauses, begun] at ended ⊢
    exact spacedBy_unready ended
  refine ⟨fun _ _ _ => getElem?_delays_start, fun _ hlimit _ => delays_limit hlimit,
    monotone_nat_of_le_succ p.interval_le_succ, ?_, spaced.attempts, ?_, hclock, ?_⟩
  · intro k d hd
    rw [spaced.delays k d hd, List.length_nil, Nat.zero_add, Nat.zero_add, ReadinessPolicy.delay,
      p.backoffAfter_current]
  · rw [hstarts]
    rfl
  · rw [outcome, hstarts]
    rfl

/-- In two seconds, with intervals of 300 ms and at most 500 ms, the last delay is cut off at 200 ms. -/
theorem delays_double_up_to_ceiling_capped :
    let p : ReadinessPolicy := ⟨seconds 2, millis 300, millis 500, .fail⟩
    let run := runIdeal p .unready id 16 (IdealRun.start p)
    let pauses := slept p .unready id 16 (IdealRun.start p)
    0 < p.initialInterval ∧ 2 * (p.ceiling ⌈/⌉ p.initialInterval + 1) ≤ 16 ∧
      pauses = [millis 300, millis 500, millis 500, millis 500, millis 200] ∧
      run.starts.reverse = [0, millis 300, millis 800, millis 1300, millis 1800, seconds 2] ∧ run.clock = seconds 2 ∧
      (delays p (start p) [(false, millis 20), (true, millis 320), (false, millis 1900)])[1]? = some (millis 100) := by
  intro p run pauses
  have hpos : 0 < p.initialInterval := by decide
  have hfuel : 2 * (p.ceiling ⌈/⌉ p.initialInterval + 1) ≤ 16 := by decide
  have hpauses : pauses = [millis 300, millis 500, millis 500, millis 500, millis 200] := by decide
  obtain ⟨given, -, -, -, attempts, -, clock, -⟩ := delays_double_up_to_ceiling p 16 hpos hfuel
  refine ⟨hpos, hfuel, hpauses, ?_, clock, ?_⟩
  · rw [attempts]
    exact congrArg (List.scanl (· + ·) 0) hpauses
  · refine (given _ 1 _).mpr ⟨?_, millis 1900, rfl, by decide⟩
    intro j hj
    match j with
    | 0 => exact ⟨millis 20, rfl, by decide⟩
    | 1 => exact ⟨millis 1900, rfl, by decide⟩

end Wait
end Shakedown

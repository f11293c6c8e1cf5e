import Shakedown.Readiness.Policy
import Shakedown.Session.Expectation

/-!
# Judging the run of a client

What a session makes of a client whose events it has seen: a run past its deadline and one whose output
cannot be read are failures whatever is expected, and every other is held against the expectation
(`judge_error`). A client that ends against the expectation makes a failure with its own exit code or an
assertion, and nothing else (`check_error`).
-/

namespace Shakedown

variable {name : String} {expect : Option Expectation} {i : Invocation} {f : Failure}

/-- An invocation is as expected if it succeeds as it should and its output holds the wanted text. -/
theorem Invocation.check_ok_iff :
    i.check name expect = .ok () ↔
      i.ending.succeeded = Expectation.wantsSuccess expect ∧
        ∀ needle, Expectation.wantedText expect = some needle → Text.contains i.stdout needle = true := by
  unfold Invocation.check
  -- Only where the client has ended as it should, its output is looked at.
  cases hw : Expectation.wantsSuccess expect <;> cases hs : i.ending.succeeded
  case false.true => simp
  case true.false => simp
  all_goals
    cases ht : Expectation.wantedText expect with
    | none => simp
    | some needle => by_cases hc : Text.contains i.stdout needle = true <;> simp [hc]

/-- A client that should have succeeded and has not makes a failure with its exit code. -/
theorem Invocation.check_unsucceeded (hw : Expectation.wantsSuccess expect = true) (hs : i.ending.succeeded = false) :
    i.check name expect = .error (.invocation name i.ending.code? (Text.tailLines i.stderr quotedTail)) := by
  simp [Invocation.check, hw, hs]

theorem Invocation.check_error (h : i.check name expect = .error f) :
    (∃ tail, f = .invocation name i.ending.code? tail ∧ i.ending.succeeded = false) ∨ ∃ text, f = .assertion text := by
  unfold Invocation.check at h
  cases hw : Expectation.wantsSuccess expect <;> cases hs : i.ending.succeeded
  case true.false =>
    simp only [hw, hs] at h
    cases h
    exact Or.inl ⟨_, rfl, rfl⟩
  case false.true =>
    simp only [hw, hs] at h
    cases h
    exact Or.inr ⟨_, rfl⟩
  all_goals
    simp only [hw, hs] at h
    cases ht : Expectation.wantedText expect with
    | none =>
      simp only [ht] at h
      cases h
    | some needle =>
      cases hc : Text.contains i.stdout needle with
      | true =>
        simp only [ht, hc] at h
        cases h
      | false =>
        simp only [ht, hc] at h
        cases h
        exact Or.inr ⟨_, rfl⟩

/-- Without an expectation there is no assertion to fail. -/
theorem Invocation.check_unexpected (h : i.check name none = .error f) :
    ∃ tail, f = .invocation name i.ending.code? tail := by
  cases hs : i.ending.succeeded with
  | false =>
    rw [Invocation.check_unsucceeded rfl hs] at h
    cases h
    exact ⟨_, rfl⟩
  | true =>
    rw [Invocation.check_ok_iff.mpr ⟨hs, by simp [Expectation.wantedText]⟩] at h
    cases h

namespace Session

/-- What is made of the run of a client whose events were seen. -/
def judge (name : String) (timeout : Nanos) (expect : Option Expectation) (seen : List Invocation.Event) :
    Except Failure Invocation :=
  match Invocation.ofEvents seen with
  | .timedOut => .error (.invocationTimeout name timeout.wholeSeconds)
  | .faulty reason => .error (.inputOutput reason)
  | .finished invocation => (invocation.check name expect).map fun _ => invocation

variable {timeout : Nanos} {seen : List Invocation.Event}

theorem judge_error (h : judge name timeout expect seen = .error f) :
    (Invocation.ofEvents seen = .timedOut ∧ f = .invocationTimeout name timeout.wholeSeconds) ∨
      (∃ reason, Invocation.ofEvents seen = .faulty reason ∧ f = .inputOutput reason) ∨
      ∃ i, Invocation.ofEvents seen = .finished i ∧ i.check name expect = .error f := by
  unfold judge at h
  cases hv : Invocation.ofEvents seen with
  | timedOut =>
    simp only [hv] at h
    cases h
    exact Or.inl ⟨rfl, rfl⟩
  | faulty reason =>
    simp only [hv] at h
    cases h
    exact Or.inr (Or.inl ⟨reason, rfl, rfl⟩)
  | finished i =>
    simp only [hv] at h
    refine Or.inr (Or.inr ⟨i, rfl, ?_⟩)
    cases hc : i.check name expect with
    | ok _ =>
      rw [hc] at h
      cases h
    | error e =>
      rw [hc] at h
      cases h
      rfl

theorem judge_ok (h : judge name timeout expect seen = .ok i) :
    Invocation.ofEvents seen = .finished i ∧ i.check name expect = .ok () := by
  unfold judge at h
  cases hv : Invocation.ofEvents seen with
  | timedOut =>
    simp only [hv] at h
    cases h
  | faulty reason =>
    simp only [hv] at h
    cases h
  | finished j =>
    simp only [hv] at h
    cases hc : j.check name expect with
    | ok _ =>
      rw [hc] at h
      cases h
      exact ⟨rfl, hc⟩
    | error e =>
      rw [hc] at h
      cases h

end Session
end Shakedown

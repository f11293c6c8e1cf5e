import Shakedown.Proofs.Session.Judgement
import Shakedown.Proofs.Text.Lines

/-!
# What does not fit an expectation

In which ways a finished client can be against what is expected of it, each with the failure it makes (`Misfit`): it
ended otherwise than it should, or it ended as it should and its output lacks a text. The check of an invocation fails
with exactly these failures, and an end that is not as expected goes first whatever the output is
(`Invocation.check_tells`).
-/

namespace Shakedown

variable {expect : Option Expectation} {needle : String}

/-- The client should fail. Success is expected where nothing is said. -/
def Expectation.OfFailure (expect : Option Expectation) : Prop := ∃ e, expect = some e ∧ e.success = some false

/-- The output should hold a text. -/
def Expectation.OfText (expect : Option Expectation) (needle : String) : Prop :=
  ∃ e, expect = some e ∧ e.outputContains = some needle

theorem Expectation.wantsSuccess_iff : wantsSuccess expect = true ↔ ¬ OfFailure expect := by
  unfold wantsSuccess OfFailure
  cases expect with
  | none => simp
  | some e =>
    rcases e with ⟨success, text⟩
    cases success with
    | none => simp
    | some b => simp

theorem Expectation.wantedText_iff : wantedText expect = some needle ↔ OfText expect needle :=
  Option.bind_eq_some_iff

theorem Ending.succeeded_iff {e : Ending} : e.succeeded = true ↔ e = .exited 0 := by
  cases e with
  | exited code => simp [succeeded]
  | signalled n => simp [succeeded]

theorem Text.contains_iff {text : String} : contains text needle = true ↔ needle.toList <:+: text.toList :=
  containsChars_iff

namespace Invocation

variable {name : String} {i : Invocation} {f : Failure}

/-- The client ended as expected: with exit code zero, unless it should fail. -/
def StatusFits (expect : Option Expectation) (i : Invocation) : Prop :=
  i.ending = .exited 0 ↔ ¬ Expectation.OfFailure expect

/-- What is against an expectation, as the failure it makes. The output only counts where the client ended as
expected. -/
inductive Misfit (name : String) (expect : Option Expectation) (i : Invocation) : Failure → Prop
  | failed {code : Int} {tail : String} (ending : i.ending = .exited code) (nonzero : code ≠ 0)
      (wanted : ¬ Expectation.OfFailure expect) (quoted : Text.IsTail 10 i.stderr tail) :
      Misfit name expect i (.invocation name (some code) tail)
  | killed {signal : Nat} {tail : String} (ending : i.ending = .signalled signal)
      (wanted : ¬ Expectation.OfFailure expect) (quoted : Text.IsTail 10 i.stderr tail) :
      Misfit name expect i (.invocation name none tail)
  | succeeded (ending : i.ending = .exited 0) (unwanted : Expectation.OfFailure expect) :
      Misfit name expect i (.assertion s!"{name}: expected the client to fail, but it exited 0")
  | lacking {needle tail : String} (fits : i.StatusFits expect) (wanted : Expectation.OfText expect needle)
      (absent : ¬ needle.toList <:+: i.stdout.toList) (quoted : Text.IsTail 10 i.stdout tail) :
      Misfit name expect i (.assertion s!"{name}: expected output to contain '{needle}', got:\n{tail}")

theorem statusFits_iff : i.StatusFits expect ↔ i.ending.succeeded = Expectation.wantsSuccess expect := by
  rw [StatusFits, ← Ending.succeeded_iff, ← Expectation.wantsSuccess_iff, ← Bool.eq_iff_iff]

/-- A client that should succeed and does not makes a failure of its own, with its exit code if it has one. -/
theorem check_failed (wanted : ¬ Expectation.OfFailure expect) (unfit : ¬ i.StatusFits expect) :
    i.check name expect = .error f ↔ i.Misfit name expect f := by
  have hwants := Expectation.wantsSuccess_iff.mpr wanted
  have hending : i.ending.succeeded = false := by
    rw [statusFits_iff, hwants] at unfit
    simpa using unfit
  rw [check_unsucceeded hwants hending]
  constructor
  · rintro ⟨⟩
    have quoted : Text.IsTail 10 i.stderr (Text.tailLines i.stderr quotedTail) := Text.isTail_iff.mpr rfl
    cases hend : i.ending with
    | exited code =>
      refine .failed hend ?_ wanted quoted
      rintro rfl
      rw [hend] at hending
      cases hending
    | signalled n => exact .killed hend wanted quoted
  · rintro (⟨ending, -, -, quoted⟩ | ⟨ending, -, quoted⟩ | ⟨-, unwanted⟩ | ⟨fits, -, -, -⟩)
    · rw [ending, ← Text.isTail_iff.mp quoted]
      rfl
    · rw [ending, ← Text.isTail_iff.mp quoted]
      rfl
    · exact absurd unwanted wanted
    · exact absurd fits unfit

/-- A client that succeeds where it should fail makes an assertion fail. -/
theorem check_succeeded (unwanted : Expectation.OfFailure expect) (unfit : ¬ i.StatusFits expect) :
    i.check name expect = .error f ↔ i.Misfit name expect f := by
  have hwants : Expectation.wantsSuccess expect = false :=
    Bool.eq_false_iff.mpr fun h => Expectation.wantsSuccess_iff.mp h unwanted
  have hending : i.ending.succeeded = true := by
    rw [statusFits_iff, hwants] at unfit
    simpa using unfit
  have hcheck : i.check name expect =
      .error (.assertion s!"{name}: expected the client to fail, but it exited 0") := by
    simp [check, hwants, hending]
  rw [hcheck]
  constructor
  · rintro ⟨⟩
    exact .succeeded (Ending.succeeded_iff.mp hending) unwanted
  · rintro (⟨-, -, wanted, -⟩ | ⟨-, wanted, -⟩ | ⟨-, -⟩ | ⟨fits, -, -, -⟩)
    · exact absurd unwanted wanted
    · exact absurd unwanted wanted
    · rfl
    · exact absurd fits unfit

/-- Of a client that ended as expected only the output is looked at. -/
theorem check_fitting (fits : i.StatusFits expect) :
    i.check name expect =
      match Expectation.wantedText expect with
      | none => .ok ()
      | some needle =>
        if Text.contains i.stdout needle then .ok ()
        else .error (.assertion
          s!"{name}: expected output to contain '{needle}', got:\n{Text.tailLines i.stdout quotedTail}") := by
  rw [statusFits_iff] at fits
  rw [check, fits]
  cases Expectation.wantsSuccess expect <;> rfl

theorem check_lacking (fits : i.StatusFits expect) :
    i.check name expect = .error f ↔ i.Misfit name expect f := by
  rw [check_fitting fits]
  constructor
  · intro h
    cases hwanted : Expectation.wantedText expect with
    | none =>
      rw [hwanted] at h
      cases h
    | some needle =>
      have wanted := Expectation.wantedText_iff.mp hwanted
      rw [hwanted] at h
      by_cases hc : Text.contains i.stdout needle = true
      · simp only [hc, if_true] at h
        cases h
      · simp only [hc] at h
        cases h
        exact .lacking fits wanted (fun hi => hc (Text.contains_iff.mpr hi)) (Text.isTail_iff.mpr rfl)
  · intro h
    -- A misfit of the end is none here, so only the one of the output is left.
    cases h with
    | failed ending nonzero wanted =>
      have hzero := fits.mpr wanted
      rw [ending] at hzero
      cases hzero
      exact absurd rfl nonzero
    | killed ending wanted =>
      have hzero := fits.mpr wanted
      rw [ending] at hzero
      cases hzero
    | succeeded ending unwanted => exact absurd unwanted (fits.mp ending)
    | @lacking needle tail _ wanted absent quoted =>
      have hc : Text.contains i.stdout needle = false :=
        Bool.eq_false_iff.mpr fun h => absent (Text.contains_iff.mp h)
      simp only [Expectation.wantedText_iff.mpr wanted, hc, ← Text.isTail_iff.mp quoted]
      rfl

/-- The check of an invocation fails with exactly what is against the expectation. -/
theorem check_error_iff : i.check name expect = .error f ↔ i.Misfit name expect f := by
  -- The end is looked at first, and the output only if the end is as expected.
  by_cases fits : i.StatusFits expect
  · exact check_lacking fits
  · by_cases unwanted : Expectation.OfFailure expect
    · exact check_succeeded unwanted fits
    · exact check_failed unwanted fits

/-- For every finished client and every expectation: the check accepts exactly the clients that ended as expected and
whose output holds the wanted text, if there is one. It fails with what is against the expectation, an unexpected failure
with the exit code of the client and the last ten lines of its error stream, anything else as an assertion, which quotes
the last ten lines of the output if these lack the text. If the end is not as expected, the output makes no
difference. -/
theorem check_tells (name : String) (expect : Option Expectation) (i : Invocation) :
    (i.check name expect = .ok () ↔
        (i.ending = .exited 0 ↔ ¬ Expectation.OfFailure expect) ∧
        ∀ needle, Expectation.OfText expect needle → needle.toList <:+: i.stdout.toList) ∧
      (∀ f, i.check name expect = .error f ↔ i.Misfit name expect f) ∧
      (¬ i.StatusFits expect → ∀ out, ({ i with stdout := out } : Invocation).check name expect = i.check name expect) := by
  refine ⟨?_, fun f => check_error_iff, ?_⟩
  · rw [check_ok_iff, ← statusFits_iff, StatusFits]
    simp only [Expectation.wantedText_iff, Text.contains_iff]
  · intro unfit out
    cases hcheck : i.check name expect with
    | ok _ => exact absurd (statusFits_iff.mpr (check_ok_iff.mp hcheck).1) unfit
    | error f =>
      rw [check_error_iff] at hcheck ⊢
      cases hcheck with
      | failed ending nonzero wanted quoted => exact .failed ending nonzero wanted quoted
      | killed ending wanted quoted => exact .killed ending wanted quoted
      | succeeded ending unwanted => exact .succeeded ending unwanted
      | lacking fits => exact absurd fits unfit

/-- A client that fails with a message and prints nothing, where it should succeed and print something: whatever it
printed, the failure is its own. -/
theorem check_tells_failed :
    ¬ StatusFits (some { outputContains := some "likes" }) ⟨.exited 5, "", "boom\n"⟩ ∧
      ∀ out, (⟨.exited 5, out, "boom\n"⟩ : Invocation).check "second" (some { outputContains := some "likes" }) =
        .error (.invocation "second" (some 5) "boom") := by
  have unfit : ¬ StatusFits (some { outputContains := some "likes" }) ⟨.exited 5, "", "boom\n"⟩ := by
    rw [statusFits_iff]
    decide
  obtain ⟨-, -, whatever⟩ := check_tells "second" (some { outputContains := some "likes" }) ⟨.exited 5, "", "boom\n"⟩
  have quoted : Text.tailLines "boom\n" quotedTail = "boom" := by decide +kernel
  refine ⟨unfit, ?_⟩
  intro out
  rw [whatever unfit out, check_unsucceeded rfl rfl, quoted]
  rfl

end Invocation
end Shakedown

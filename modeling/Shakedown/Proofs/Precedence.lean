/-!
# The first of several faults

Checks stand in a row and the first one that fails ends the row. What can be wrong is said apart from the checks, as a
relation between places in the row and faults. `Reports faults place x` says that `x` is what the row comes to from a
place on: it fails with the fault at the first place that has one, and else it succeeds. A check that tells its own
faults may be put in front of a row (`Reports.andThen`), and what a whole row comes to is decided by the faults
(`Reports.error_iff`, `Reports.ok_iff`).
-/

namespace Shakedown

variable {ε α β : Type} {faults : Nat → ε → Prop} {place : Nat} {x : Except ε α} {f g : ε}

/-- There is a fault at a place from another one on, and none between them. -/
structure IsFirstFault (faults : Nat → ε → Prop) (start place : Nat) (f : ε) : Prop where
  reached : start ≤ place
  here : faults place f
  earlier : ∀ k, start ≤ k → k < place → ∀ g, ¬ faults k g

/-- A result is what checks from a place on come to: the first fault, which is the only one at its place, or success if
there is none. -/
inductive Reports (faults : Nat → ε → Prop) (start : Nat) : Except ε α → Prop
  | fine {a : α} (none : ∀ k, start ≤ k → ∀ g, ¬ faults k g) : Reports faults start (.ok a)
  | fault {place : Nat} {f : ε} (first : IsFirstFault faults start place f) (only : ∀ g, faults place g → g = f) :
      Reports faults start (.error f)

namespace Reports

/-- A check that fails with the fault at its place, if there is one, goes before the checks of the places after it. -/
theorem andThen {k : α → Except ε β} (check : ∀ f, x = .error f ↔ faults place f)
    (rest : ∀ a, x = .ok a → Reports faults (place + 1) (k a)) : Reports faults place (x >>= k) := by
  cases x with
  | error f =>
    have here : faults place f := (check f).mp rfl
    refine .fault ⟨Nat.le_refl _, here, ?_⟩ ?_
    · intro k hk hlt
      omega
    · intro g hg
      exact (Except.error.inj ((check g).mpr hg)).symm
  | ok a =>
    -- The check has passed, so its place is clear, and so is what stands before the next one.
    have clear : ∀ k, place ≤ k → ¬ place + 1 ≤ k → ∀ g, ¬ faults k g := by
      intro k hle hnot g hg
      obtain rfl : k = place := by omega
      cases (check g).mpr hg
    change Reports faults place (k a)
    generalize hy : k a = y
    have tail := rest a rfl
    rw [hy] at tail
    cases tail with
    | fine none =>
      refine .fine fun k hk => ?_
      by_cases hn : place + 1 ≤ k
      · exact none k hn
      · exact clear k hk hn
    | fault first only =>
      refine .fault ⟨Nat.le_of_succ_le first.reached, first.here, fun k hk hlt => ?_⟩ only
      by_cases hn : place + 1 ≤ k
      · exact first.earlier k hn hlt
      · exact clear k hk hn

/-- A row without checks. -/
theorem done {a : α} (none : ∀ k, place ≤ k → ∀ g, ¬ faults k g) : Reports faults place (pure a : Except ε α) :=
  .fine none

/-- What checks come to is a failure exactly with the first fault. -/
theorem error_iff (h : Reports faults 0 x) :
    x = .error f ↔ ∃ place, faults place f ∧ ∀ earlier, earlier < place → ∀ g, ¬ faults earlier g := by
  cases h with
  | fine none =>
    constructor
    · intro h
      cases h
    · rintro ⟨place, here, -⟩
      exact absurd here (none place (Nat.zero_le _) f)
  | @fault place g first only =>
    constructor
    · rintro ⟨⟩
      exact ⟨place, first.here, fun k hk => first.earlier k (Nat.zero_le _) hk⟩
    · rintro ⟨other, here, earlier⟩
      -- Neither of two first places comes before the other.
      obtain rfl : other = place := by
        apply Nat.le_antisymm
        · exact Nat.le_of_not_lt fun hlt => earlier place hlt g first.here
        · exact Nat.le_of_not_lt fun hlt => first.earlier other (Nat.zero_le _) hlt f here
      rw [only f here]

/-- Checks succeed exactly if there is no fault. -/
theorem ok_iff (h : Reports faults 0 x) : (∃ a, x = .ok a) ↔ ∀ place f, ¬ faults place f := by
  cases h with
  | fine none => exact iff_of_true ⟨_, rfl⟩ fun place f => none place (Nat.zero_le _) f
  | fault first only =>
    apply iff_of_false
    · rintro ⟨a, h⟩
      cases h
    · intro clear
      exact clear _ _ first.here

end Reports
end Shakedown

import Shakedown.Plan.Decode
import Shakedown.Settings.Decode

/-!
# What validation ensures

A plan passes validation exactly if it is `Plan.Valid` (`Plan.validate_ok_iff`), and settings pass theirs exactly if
none of those that must be positive is zero and there is a build program (`Settings.validate_ok_iff`). Reading from a
text ends with validation, so what was read is valid.
-/

namespace Shakedown

/-! ## Checks in a row -/

/-- A condition is checked, and what follows is only done if it does not hold. -/
theorem Except.check_ok_iff {ε : Type} {c : Prop} [Decidable c] {e : ε} {k : Unit → Except ε Unit} :
    (if c then throw e >>= k else k ()) = .ok () ↔ ¬ c ∧ k () = .ok () := by
  by_cases hc : c
  · rw [if_pos hc]
    exact iff_of_false (fun h => nomatch h) fun h => h.1 hc
  · rw [if_neg hc]
    exact ⟨fun h => ⟨hc, h⟩, fun h => h.2⟩

/-- Two checks in turn succeed if both do. -/
theorem Except.bind_ok_iff {ε α β : Type} {x : Except ε α} {f : α → Except ε β} {b : β} :
    (x >>= f) = .ok b ↔ ∃ a, x = .ok a ∧ f a = .ok b := by
  cases x with
  | error e => exact iff_of_false (fun h => nomatch h) fun ⟨_, h, _⟩ => nomatch h
  | ok a => exact ⟨fun h => ⟨a, rfl, h⟩, fun ⟨_, h, h'⟩ => Except.ok.inj h ▸ h'⟩

theorem Except.andThen_ok_iff {ε : Type} {x y : Except ε Unit} :
    (x >>= fun _ => y) = .ok () ↔ x = .ok () ∧ y = .ok () :=
  Except.bind_ok_iff.trans ⟨fun ⟨_, hx, hy⟩ => ⟨hx, hy⟩, fun ⟨hx, hy⟩ => ⟨(), hx, hy⟩⟩

/-- A fault that is told in other words is still none when there is none. -/
theorem Except.mapError_ok_iff {ε ε' α : Type} {f : ε → ε'} {x : Except ε α} {a : α} :
    x.mapError f = .ok a ↔ x = .ok a := by
  cases x with
  | error e => exact iff_of_false (fun h => nomatch h) fun h => nomatch h
  | ok a => exact ⟨fun h => Except.ok.inj h ▸ rfl, fun h => Except.ok.inj h ▸ rfl⟩

/-! ## Plans -/

/-- A probe that has what it takes to make an attempt: an address of the right form, or a program. -/
def Probe.IsUsable : Probe → Prop
  | .tcp address => (tcpAddress? address).isSome = true
  | .command argv => argv ≠ []

/-- What validation ensures of a plan. -/
structure Plan.Valid (p : Plan) : Prop where
  named : Text.allBlank p.name = false
  asks : p.queries ≠ []
  server : p.server.target.isBlank = false
  client : p.client.target.isBlank = false
  ceiling : p.server.readiness.ceilingSecs ≠ some 0
  initialInterval : p.server.readiness.initialIntervalMs ≠ some 0
  maxInterval : p.server.readiness.maxIntervalMs ≠ some 0
  probe : ∀ probe, p.server.readiness.probe = some probe → probe.IsUsable
  clientTimeout : p.client.timeoutSecs ≠ some 0
  queryTimeouts : ∀ q ∈ p.queries, q.timeoutSecs ≠ some 0

namespace Plan

/-- A target is accepted if it names something. -/
theorem checkTarget_ok_iff {role : Role} {t : Target} : checkTarget role t = .ok () ↔ t.isBlank = false := by
  cases h : t.isBlank <;> simp [checkTarget, h]

/-- A readiness probe is accepted if it is left out or can be made. -/
theorem checkProbe_ok_iff {probe : Option Probe} :
    checkProbe probe = .ok () ↔ ∀ p, probe = some p → p.IsUsable := by
  match probe with
  | none => simp [checkProbe]
  | some (.tcp address) => cases h : (tcpAddress? address).isSome <;> simp [checkProbe, Probe.IsUsable, h]
  | some (.command []) => simp [checkProbe, Probe.IsUsable]
  | some (.command (program :: args)) => simp [checkProbe, Probe.IsUsable]

/-- Queries are accepted if none of them has a timeout of zero. -/
theorem checkQueries_ok_iff {qs : List QueryStep} {i : Nat} :
    checkQueries i qs = .ok () ↔ ∀ q ∈ qs, q.timeoutSecs ≠ some 0 := by
  induction qs generalizing i with
  | nil => simp [checkQueries]
  | cons q rest ih => by_cases h : q.timeoutSecs = some 0 <;> simp [checkQueries, h, ih]

/-- Validation accepts exactly the plans of which all of this holds. -/
theorem validate_ok_iff {p : Plan} : p.validate = .ok () ↔ p.Valid := by
  simp only [validate, Except.check_ok_iff, Except.andThen_ok_iff, checkTarget_ok_iff, checkProbe_ok_iff,
    checkQueries_ok_iff, Bool.not_eq_true, Bool.or_eq_true, decide_eq_true_eq, not_or, List.isEmpty_eq_false_iff]
  constructor
  · rintro ⟨named, asks, server, client, ceiling, ⟨initial, max⟩, probe, clientTimeout, queryTimeouts⟩
    exact ⟨named, asks, server, client, ceiling, initial, max, probe, clientTimeout, queryTimeouts⟩
  · rintro ⟨named, asks, server, client, ceiling, initial, max, probe, clientTimeout, queryTimeouts⟩
    exact ⟨named, asks, server, client, ceiling, ⟨initial, max⟩, probe, clientTimeout, queryTimeouts⟩

/-- A document is accepted as a plan if it describes the plan, and the plan is valid. -/
theorem accept_ok_iff {d : Yaml.Document} {p : Plan} : accept d = .ok p ↔ ofDocument d = .ok p ∧ p.Valid := by
  simp only [accept, Except.bind_ok_iff, Except.mapError_ok_iff, ← validate_ok_iff]
  constructor
  · rintro ⟨q, hq, ⟨⟩, hv, ⟨⟩⟩
    exact ⟨hq, hv⟩
  · rintro ⟨hp, hv⟩
    exact ⟨p, hp, (), hv, rfl⟩

/-- A text is read as a plan if it holds a document that is accepted. -/
theorem parse_ok_iff {text : String} {p : Plan} :
    parse text = .ok p ↔ ∃ d, Yaml.Document.ofString text = .ok d ∧ accept d = .ok p := by
  simp only [parse, Except.bind_ok_iff, Except.mapError_ok_iff]

/-- A text that is read as a plan holds a valid one. -/
theorem parse_valid {text : String} {p : Plan} (h : parse text = .ok p) : p.Valid := by
  obtain ⟨d, -, accepted⟩ := parse_ok_iff.mp h
  exact (accept_ok_iff.mp accepted).2

end Plan

/-! ## Settings -/

namespace Settings

/-- Validation accepts exactly the settings that are positive where they have to be and name a build program. -/
theorem validate_ok_iff {s : Settings} :
    s.validate = .ok () ↔ (∀ setting : Positive, 0 < setting.value s) ∧ Text.allBlank s.buildProgram = false := by
  unfold validate
  cases hfind : [Positive.readinessCeiling, .invocation, .initialInterval, .maxInterval].find? fun p => p.value s = 0 with
  | some setting =>
    have zero : setting.value s = 0 := by simpa using List.find?_some hfind
    exact iff_of_false (fun h => nomatch h) fun h => Nat.ne_of_gt (h.1 setting) zero
  | none =>
    -- Every setting that must be positive is among those that are looked at.
    have pos : ∀ setting : Positive, 0 < setting.value s := fun setting =>
      Nat.pos_of_ne_zero (by simpa using List.find?_eq_none.mp hfind setting (by cases setting <;> decide))
    cases hblank : Text.allBlank s.buildProgram <;> simp [pos]

/-- A text that is read as settings holds valid ones. -/
theorem parse_valid {text : String} {s : Settings} (h : parse text = .ok s) : s.validate = .ok () := by
  unfold parse at h
  cases hd : Toml.parse? text with
  | none =>
    rw [hd] at h
    cases h
  | some doc =>
    rw [hd] at h
    simp only [Except.bind_ok_iff, Except.mapError_ok_iff] at h
    obtain ⟨read, -, ⟨⟩, hv, ⟨⟩⟩ := h
    exact hv

/-- Settings that a run may have: the defaults, or what was read from a text. -/
def Accepted (s : Settings) : Prop := s = {} ∨ ∃ text, parse text = .ok s

/-- Settings that were accepted are positive where they have to be. -/
theorem Accepted.pos {s : Settings} (h : s.Accepted) (setting : Positive) : 0 < setting.value s := by
  rcases h with rfl | ⟨text, h⟩
  · cases setting <;> decide
  · exact (validate_ok_iff.mp (parse_valid h)).1 setting

end Settings
end Shakedown

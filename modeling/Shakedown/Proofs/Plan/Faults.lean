import Shakedown.Proofs.Plan.Validity
import Shakedown.Proofs.Precedence

/-!
# The faults of a plan

What can be wrong with a plan, and in which order it is looked at: its name and its queries, the targets of its server
and its client, how readiness is awaited, and at last the time limits of the client and of each query in turn
(`Plan.HasFault`). Validation accepts a plan that has no fault, and of one that has several it reports the first
(`Plan.validate_reports_first`).
-/

namespace Shakedown

/-- A target that names nothing: a compiled one by a text of blanks, or a program by the empty path. -/
inductive Target.Nameless : Target → Prop
  | example {name : String} (blank : ∀ c ∈ name.toList, Text.isBlank c = true) : Nameless (.example name)
  | bin {name : String} (blank : ∀ c ∈ name.toList, Text.isBlank c = true) : Nameless (.bin name)
  | program : Nameless (.program ⟨""⟩)

theorem Text.allBlank_iff {s : String} : Text.allBlank s = true ↔ ∀ c ∈ s.toList, Text.isBlank c = true :=
  List.all_eq_true

/-- A target is blank if what it names is: white space for a name, nothing at all for a path. -/
theorem Target.isBlank_iff {t : Target} : t.isBlank = true ↔ t.Nameless := by
  cases t with
  | «example» name =>
    refine Text.allBlank_iff.trans ⟨.example, ?_⟩
    rintro ⟨blank⟩
    exact blank
  | bin name =>
    refine Text.allBlank_iff.trans ⟨.bin, ?_⟩
    rintro (⟨⟩ | ⟨blank⟩)
    exact blank
  | program path =>
    rcases path with ⟨text⟩
    refine String.isEmpty_iff.trans ⟨?_, ?_⟩
    · rintro rfl
      exact .program
    · rintro ⟨⟩
      rfl

namespace Plan

variable {p : Plan} {f : Fault}

/-- A plan has a fault, at a place among all that can be wrong with it. The queries come last, in the order in which
they are listed. -/
inductive HasFault (p : Plan) : Nat → Fault → Prop
  | name (blank : ∀ c ∈ p.name.toList, Text.isBlank c = true) : HasFault p 0 .blankName
  | queries (none : p.queries = []) : HasFault p 1 .noQueries
  | server (nameless : p.server.target.Nameless) : HasFault p 2 (.blankTarget .server)
  | client (nameless : p.client.target.Nameless) : HasFault p 3 (.blankTarget .client)
  | ceiling (zero : p.server.readiness.ceilingSecs = some 0) : HasFault p 4 .zeroCeiling
  | interval (zero : p.server.readiness.initialIntervalMs = some 0 ∨ p.server.readiness.maxIntervalMs = some 0) :
      HasFault p 5 .zeroInterval
  | address {address : String} (probe : p.server.readiness.probe = some (.tcp address))
      (refused : tcpAddress? address = none) : HasFault p 6 (.badAddress address)
  | command (probe : p.server.readiness.probe = some (.command [])) : HasFault p 6 .emptyCommand
  | clientTimeout (zero : p.client.timeoutSecs = some 0) : HasFault p 7 .zeroClientTimeout
  | queryTimeout {i : Nat} {q : QueryStep} (listed : p.queries[i]? = some q) (zero : q.timeoutSecs = some 0) :
      HasFault p (i + 8) (.zeroQueryTimeout (q.displayName i))

/-! ## Each check tells the faults at its place -/

/-- A condition that is checked in passing, as a check of its own. -/
theorem check_eq_andThen {c : Prop} [Decidable c] {e : Fault} {k : Unit → Except Fault Unit} :
    (if c then throw e >>= k else k ()) = (if c then Except.error e else .ok ()) >>= k := by
  split
  · rfl
  · rfl

/-- A check tells its fault exactly if its condition holds. -/
theorem check_error_iff {c : Prop} [Decidable c] {e : Fault} :
    (if c then Except.error e else .ok () : Except Fault Unit) = .error f ↔ c ∧ e = f := by
  by_cases hc : c <;> simp [hc]

/-- The first check is that of the name. -/
theorem hasFault_name_iff : p.HasFault 0 f ↔ Text.allBlank p.name = true ∧ .blankName = f := by
  rw [Text.allBlank_iff]
  constructor
  · rintro ⟨blank⟩
    exact ⟨blank, rfl⟩
  · rintro ⟨blank, rfl⟩
    exact .name blank

/-- The second check is that there are queries. -/
theorem hasFault_queries_iff : p.HasFault 1 f ↔ p.queries.isEmpty = true ∧ .noQueries = f := by
  rw [List.isEmpty_iff]
  constructor
  · rintro ⟨⟩
    exact ⟨‹_›, rfl⟩
  · rintro ⟨none, rfl⟩
    exact .queries none

/-- The third check is that of the target of the server. -/
theorem hasFault_server_iff : p.HasFault 2 f ↔ checkTarget .server p.server.target = .error f := by
  rw [checkTarget, check_error_iff, Target.isBlank_iff]
  constructor
  · rintro ⟨⟩
    exact ⟨‹_›, rfl⟩
  · rintro ⟨nameless, rfl⟩
    exact .server nameless

/-- The fourth check is that of the target of the client. -/
theorem hasFault_client_iff : p.HasFault 3 f ↔ checkTarget .client p.client.target = .error f := by
  rw [checkTarget, check_error_iff, Target.isBlank_iff]
  constructor
  · rintro ⟨⟩
    exact ⟨‹_›, rfl⟩
  · rintro ⟨nameless, rfl⟩
    exact .client nameless

/-- The fifth check is that of the ceiling. -/
theorem hasFault_ceiling_iff : p.HasFault 4 f ↔ p.server.readiness.ceilingSecs = some 0 ∧ .zeroCeiling = f := by
  constructor
  · rintro ⟨⟩
    exact ⟨‹_›, rfl⟩
  · rintro ⟨zero, rfl⟩
    exact .ceiling zero

/-- The sixth check is that of both intervals. -/
theorem hasFault_interval_iff :
    p.HasFault 5 f ↔
      (p.server.readiness.initialIntervalMs = some 0 ∨ p.server.readiness.maxIntervalMs = some 0) ∧
        .zeroInterval = f := by
  constructor
  · rintro ⟨⟩
    exact ⟨‹_›, rfl⟩
  · rintro ⟨zero, rfl⟩
    exact .interval zero

/-- The seventh check is that of the probe, which is blamed for its address or for having no words. -/
theorem hasFault_probe_iff : p.HasFault 6 f ↔ checkProbe p.server.readiness.probe = .error f := by
  constructor
  · intro h
    cases h with
    | address probe refused => simp [checkProbe, probe, refused]
    | command probe => simp [checkProbe, probe]
  · intro h
    unfold checkProbe at h
    split at h
    · rename_i address probe
      split at h
      · cases h
      · rename_i refused
        cases h
        exact .address probe (by simpa using refused)
    · rename_i probe
      cases h
      exact .command probe
    · cases h

/-- The eighth check is that of the timeout of the client. -/
theorem hasFault_clientTimeout_iff : p.HasFault 7 f ↔ p.client.timeoutSecs = some 0 ∧ .zeroClientTimeout = f := by
  constructor
  · rintro ⟨⟩
    exact ⟨‹_›, rfl⟩
  · rintro ⟨zero, rfl⟩
    exact .clientTimeout zero

/-- From the ninth check on it is the queries that are checked, one after the other. -/
theorem hasFault_query_iff {i : Nat} :
    p.HasFault (i + 8) f ↔
      ∃ q, p.queries[i]? = some q ∧ q.timeoutSecs = some 0 ∧ .zeroQueryTimeout (q.displayName i) = f := by
  constructor
  · intro h
    cases h with
    | queryTimeout listed zero => exact ⟨_, listed, zero, rfl⟩
  · rintro ⟨q, listed, zero, rfl⟩
    exact .queryTimeout listed zero

/-! ## The checks in a row -/

/-- The queries are checked one after the other, each at its own place. -/
theorem checkQueries_reports (before : List QueryStep) {rest : List QueryStep} (listed : p.queries = before ++ rest) :
    Reports p.HasFault (before.length + 8) (checkQueries before.length rest) := by
  -- The induction is on the queries that are left. Those before them are given, as they are what places are counted from.
  induction rest generalizing before with
  | nil =>
    -- A fault from here on would be one of a query that is not listed.
    refine .fine fun k hk g hg => ?_
    obtain ⟨i, rfl⟩ : ∃ i, k = i + 8 := ⟨k - 8, by omega⟩
    obtain ⟨q, hq, -⟩ := hasFault_query_iff.mp hg
    have hlt := (List.getElem?_eq_some_iff.mp hq).1
    rw [listed, List.append_nil] at hlt
    omega
  | cons q rest ih =>
    have next : p.queries[before.length]? = some q := by simp [listed]
    have split : checkQueries before.length (q :: rest) =
        (if q.timeoutSecs = some 0 then Except.error (.zeroQueryTimeout (q.displayName before.length)) else .ok ()) >>=
          fun _ => checkQueries (before.length + 1) rest := by
      rw [checkQueries]
      split
      · rfl
      · rfl
    rw [split]
    apply Reports.andThen
    · intro f
      rw [check_error_iff, hasFault_query_iff]
      simp [next]
    · intro _ _
      have tail := ih (before ++ [q]) (by simp [listed])
      rwa [List.length_append, List.length_singleton, Nat.add_right_comm] at tail

/-- Validation comes to the first fault of a plan. -/
theorem validate_reports (p : Plan) : Reports p.HasFault 0 p.validate := by
  simp only [validate, check_eq_andThen, Bool.or_eq_true, decide_eq_true_eq]
  -- The checks are gone through in their order: one `HasFault` case for each.
  apply Reports.andThen
  · exact fun f => check_error_iff.trans hasFault_name_iff.symm
  intro _ _
  apply Reports.andThen
  · exact fun f => check_error_iff.trans hasFault_queries_iff.symm
  intro _ _
  apply Reports.andThen
  · exact fun f => hasFault_server_iff.symm
  intro _ _
  apply Reports.andThen
  · exact fun f => hasFault_client_iff.symm
  intro _ _
  apply Reports.andThen
  · exact fun f => check_error_iff.trans hasFault_ceiling_iff.symm
  intro _ _
  apply Reports.andThen
  · exact fun f => check_error_iff.trans hasFault_interval_iff.symm
  intro _ _
  apply Reports.andThen
  · exact fun f => hasFault_probe_iff.symm
  intro _ _
  apply Reports.andThen
  · exact fun f => check_error_iff.trans hasFault_clientTimeout_iff.symm
  intro _ _
  exact checkQueries_reports [] rfl

/-- A plan is valid if nothing is wrong with it. -/
theorem valid_iff : p.Valid ↔ ∀ place f, ¬ p.HasFault place f := by
  rw [← validate_ok_iff, ← (validate_reports p).ok_iff]
  exact ⟨fun h => ⟨(), h⟩, fun ⟨_, h⟩ => h⟩

/-- Validation accepts exactly the plans in which nothing is wrong. Of any other plan it reports the first fault, as an
error of the configuration that ends the program with status 2. A query whose time limit is zero is named as it is
displayed, and it is the first such query if the fault is reported. -/
theorem validate_reports_first (p : Plan) :
    (p.validate = .ok () ↔ p.Valid) ∧
    (p.Valid ↔ ∀ place f, ¬ p.HasFault place f) ∧
    ∀ f, (p.validate = .error f ↔
        ∃ place, p.HasFault place f ∧ ∀ earlier, earlier < place → ∀ g, ¬ p.HasFault earlier g) ∧
      (ParseError.invalid f).toFailure = .configuration f.message ∧
      (ParseError.invalid f).toFailure.exitCode = 2 :=
  ⟨validate_ok_iff, valid_iff, fun _ => ⟨(validate_reports p).error_iff, rfl, rfl⟩⟩

/-- Of two queries that may take no time the first is named, by its number as it has no name. -/
example :
    validate
      { name := "p", server := { target := .bin "s" }, client := { target := .bin "c" }
        queries := [{ query := "a" }, { query := "b", timeoutSecs := some 0 },
          { query := "c", name := some "last", timeoutSecs := some 0 }] } =
      .error (.zeroQueryTimeout "query 2") := rfl

end Plan
end Shakedown

import Shakedown.Proofs.Session.Verdict

/-!
# The clients of a session

The clients that a session starts are those of its queries, one for each and in their order, and none starts
before the client of the query before it has ended and that query has passed (`clients_follow_queries`). The
facts are about the events before a start: `Paves` says of the events before the start of a client which
queries are done with. A step of a query starts at most one client (`QueryCourse.opened`), and an induction
on the queries puts the steps together (`QueriesCourse.paves`).
-/

namespace Shakedown.Session

/-! ## Starts of clients in a journal -/

/-- The client that an event tells was started, and its time limit. -/
def Event.clientStarted? : Event → Option (ClientRequest × Nanos)
  | .clientStarted request timeout => some (request, timeout)
  | _ => none

/-- The clients that were started, with their time limits. -/
def clients (es : List Event) : List (ClientRequest × Nanos) := es.filterMap Event.clientStarted?

section Journal

variable {es es' : List Event} {topics : List Topic}

@[simp] theorem clients_append : clients (es ++ es') = clients es ++ clients es' :=
  List.filterMap_append ..

theorem Event.clientStarted?_none {e : Event} (h : e.topic ≠ .client) : e.clientStarted? = none := by
  cases e <;> first | rfl | exact absurd rfl h

theorem About.clients_nil (h : About topics es) (ht : .client ∉ topics) : clients es = [] :=
  filterMap_of_about (fun _ => Event.clientStarted?_none) h ht

@[simp] theorem clients_milestones {c : Bool} (js : List Event) : clients (milestones c js) = clients js :=
  filterMap_milestones (fun _ he => Event.clientStarted?_none (by rw [he]; decide)) js

@[simp] theorem records_milestones {c : Bool} (js : List Event) : records (milestones c js) = records js :=
  filterMap_milestones (fun _ he => Event.record?_none (by rw [he]; decide)) js

theorem clients_ne_nil {request : ClientRequest} {timeout : Nanos} {pre post : List Event}
    (h : es = pre ++ .clientStarted request timeout :: post) : clients es ≠ [] := by
  intro hnil
  have hm : .clientStarted request timeout ∈ es := h ▸ List.mem_append_right _ (List.mem_cons_self ..)
  cases List.filterMap_eq_nil_iff.mp hnil _ hm

/-- A client that was started has a place in the journal, after the starts of those before it. -/
theorem clients_split {i : Nat} {client : ClientRequest × Nanos} (h : (clients es)[i]? = some client) :
    ∃ pre post, es = pre ++ .clientStarted client.1 client.2 :: post ∧ (clients pre).length = i := by
  induction es generalizing i with
  | nil => cases h
  | cons e es ih =>
    -- Only the start of a client uses up a position.
    cases he : e.clientStarted? with
    | none =>
      have hskip : clients (e :: es) = clients es := List.filterMap_cons_none he
      rw [hskip] at h
      obtain ⟨pre, post, rfl, hlen⟩ := ih h
      refine ⟨e :: pre, post, rfl, ?_⟩
      rw [clients, List.filterMap_cons_none he]
      exact hlen
    | some first =>
      have htake : clients (e :: es) = first :: clients es := List.filterMap_cons_some he
      rw [htake] at h
      cases i with
      | zero =>
        cases h
        cases e with
        | clientStarted request timeout =>
          cases he
          exact ⟨[], es, rfl, rfl⟩
        | _ => cases he
      | succ i =>
        obtain ⟨pre, post, rfl, hlen⟩ := ih h
        refine ⟨e :: pre, post, rfl, ?_⟩
        rw [clients, List.filterMap_cons_some he, List.length_cons]
        exact congrArg Nat.succ hlen

end Journal

/-! ## Which client a query has -/

/-- The client is that of a query: its arguments, the directory that it runs in and its time limit. -/
structure Serves (plan : Plan) (options : RunOptions) (settings : Settings) (q : QueryStep)
    (client : ClientRequest × Nanos) : Prop where
  args : client.1.args = plan.client.args ++ q.args ++ [q.query]
  cwd : client.1.cwd = options.root
  timeout : client.2 = seconds ((q.timeoutSecs.or plan.client.timeoutSecs).getD settings.invocationSecs)

/-- A client has ended by itself, with both its streams closed. -/
def HasExited (seen : Option (List Invocation.Event)) : Prop :=
  ∃ shown invocation, seen = some shown ∧ Invocation.ofEvents shown = .finished invocation ∧
    .exited invocation.ending ∈ shown

/-- The kind, name and status of the records of queries that have passed, the first of them at a position. -/
def passedQueries (i : Nat) (qs : List QueryStep) : List (StepKind × String × StepStatus) :=
  qs.mapIdx fun k q => (.query, q.displayName (i + k), .passed)

theorem passedQueries_cons (i : Nat) (q : QueryStep) (qs : List QueryStep) :
    passedQueries i (q :: qs) = (.query, q.displayName i, .passed) :: passedQueries (i + 1) qs := by
  have shift : (fun k (q : QueryStep) => (StepKind.query, q.displayName (i + (k + 1)), StepStatus.passed)) =
      fun k q => (.query, q.displayName (i + 1 + k), .passed) := by
    funext k q
    rw [Nat.add_right_comm, Nat.add_assoc]
  rw [passedQueries, List.mapIdx_cons, shift]
  rfl

/-- The events `pre` of the steps of queries, the first at position `i`, lead to the start of a client: it is
that of the first query not yet done with, and those before it have passed, each after its client has
ended. -/
structure Paves (plan : Plan) (options : RunOptions) (settings : Settings) (i : Nat) (qs : List QueryStep)
    (pre : List Event) (client : ClientRequest × Nanos) : Prop where
  query : ∃ q, qs[(clients pre).length]? = some q ∧ Serves plan options settings q client
  passed : (records pre).map outline = passedQueries i (qs.take (clients pre).length)
  ended : (overs pre).length = (clients pre).length
  exited : ∀ seen ∈ overs pre, HasExited seen

variable {σ : Type} {o : Outside σ} {plan : Plan} {options : RunOptions} {settings : Settings}
  {es pre post : List Event} {m m' : Option Managed} {request : ClientRequest} {timeout : Nanos}

/-- The client of the first query starts before anything else has happened. -/
theorem Paves.first {i : Nat} {q : QueryStep} {rest : List QueryStep}
    (serves : Serves plan options settings q (request, timeout)) (hc : clients pre = []) (hr : records pre = [])
    (ho : overs pre = []) :
    Paves plan options settings i (q :: rest) pre (request, timeout) where
  query := ⟨q, by rw [hc]; rfl, serves⟩
  passed := by rw [hc, hr]; rfl
  ended := by rw [hc, ho]; rfl
  exited := by
    intro seen hseen
    rw [ho] at hseen
    cases hseen

/-- A query that has passed, with its client, may come before. -/
theorem Paves.after {i : Nat} {q : QueryStep} {rest : List QueryStep} {es' : List Event}
    {first client : ClientRequest × Nanos} {record : StepRecord} {seen : Option (List Invocation.Event)}
    (h : Paves plan options settings (i + 1) rest pre client) (hc : clients es' = [first])
    (hr : records es' = [record]) (hshape : outline record = (.query, q.displayName i, .passed))
    (ho : overs es' = [seen]) (hseen : HasExited seen) :
    Paves plan options settings i (q :: rest) (es' ++ pre) client := by
  have hlen : (clients (es' ++ pre)).length = (clients pre).length + 1 := by
    rw [clients_append, hc, List.singleton_append, List.length_cons]
  constructor
  · rw [hlen]
    exact h.query
  · rw [hlen, records_append, hr, List.take_succ_cons, passedQueries_cons, List.singleton_append, List.map_cons, hshape,
      h.passed]
  · rw [hlen, overs_append, ho, List.singleton_append, List.length_cons, h.ended]
  · intro other hother
    rw [overs_append, ho] at hother
    rcases List.mem_cons.mp hother with rfl | hother
    · exact hseen
    · exact h.exited other hother

/-! ## The steps of the queries -/

/-- The step of a query starts its client and no other, right after it has begun, or none. -/
theorem QueryCourse.opened {i : Nat} {q : QueryStep} {r : Except Stop Unit}
    (h : QueryCourse o plan options settings i q m es r m') :
    clients es = [] ∨ ∃ client rest, es = .entered (.querying (i + 1)) :: .clientStarted client.1 client.2 :: rest ∧
      clients rest = [] ∧ Serves plan options settings q client := by
  -- However the step goes on, its events are those of its body and a record.
  obtain ⟨ends, r', body, tail, rfl, ht⟩ : ∃ ends r',
      QueryEnds o plan options settings q (q.displayName i) m ends r' m' ∧
        ∃ tail, es = .entered (.querying (i + 1)) :: (ends ++ tail) ∧ About [.step] tail := by
    cases h with
    | passed step =>
      obtain ⟨ends, r', tail, body, rfl, ht⟩ := step.events
      exact ⟨ends, r', body, tail, rfl, ht⟩
    | stopped step =>
      obtain ⟨ends, r', tail, body, rfl, ht⟩ := step.events
      exact ⟨ends, r', body, tail, rfl, ht⟩
  have hnone : clients tail = [] := ht.clients_nil (by simp)
  cases body with
  | unstarted reason => exact Or.inl hnone
  | unpiped program hidden => exact Or.inr ⟨(_, _), _, rfl, hnone, ⟨rfl, rfl, rfl⟩⟩
  | interrupted program requested => exact Or.inr ⟨(_, _), _, rfl, hnone, ⟨rfl, rfl, rfl⟩⟩
  | ended program answer judged => exact Or.inr ⟨(_, _), _, rfl, hnone, ⟨rfl, rfl, rfl⟩⟩

theorem QueryCourse.paves {i : Nat} {q : QueryStep} {rest : List QueryStep} {r : Except Stop Unit}
    (h : QueryCourse o plan options settings i q m es r m') (hs : es = pre ++ .clientStarted request timeout :: post) :
    Paves plan options settings i (q :: rest) pre (request, timeout) := by
  rcases h.opened with hnone | ⟨client, tail, rfl, hnone, serves⟩
  · exact absurd hnone (clients_ne_nil hs)
  -- The start is the second event of the step, and there is no other.
  · match pre, hs with
    | [], hs => cases hs
    | [_], hs =>
      cases hs
      exact .first serves rfl rfl rfl
    | _ :: _ :: pre, hs =>
      simp only [List.cons_append, List.cons.injEq] at hs
      exact absurd hnone (clients_ne_nil hs.2.2)

/-- A query that has passed has had its client, which has ended. -/
theorem QueryCourse.passed_client {i : Nat} {q : QueryStep}
    (h : QueryCourse o plan options settings i q m es (.ok ()) m') :
    ∃ client seen, clients es = [client] ∧ overs es = [seen] ∧ HasExited seen := by
  rcases h.judged with ⟨e, he, -⟩ | ⟨shown, record, ho, -, judged⟩
  · cases he
  · have exits : HasExited (some shown) := by
      rcases judged.verdict with ⟨run, hj, -⟩ | ⟨f, -, -, -, hf⟩
      · obtain ⟨hv, -⟩ := judge_ok hj
        exact ⟨shown, run, rfl, hv, Invocation.finished_end hv⟩
      · cases hf
    rcases h.opened with hnone | ⟨client, tail, rfl, hnone, -⟩
    · -- Without a start there would be no client that is over.
      cases h with
      | passed step =>
        cases step with
        | passed startedMs finishedMs body =>
          cases body with
          | ended program answer judged => cases hnone
    · refine ⟨client, some shown, ?_, ho, exits⟩
      show client :: clients tail = [client]
      rw [hnone]

/-- The clients of queries come one after the other: the induction is on the queries, and each that has passed
takes one client from the front. -/
theorem QueriesCourse.paves {i : Nat} {qs : List QueryStep} {r : Except Stop Unit}
    (h : QueriesCourse o plan options settings i qs m es r m')
    (hs : es = pre ++ .clientStarted request timeout :: post) :
    Paves plan options settings i qs pre (request, timeout) := by
  induction h generalizing pre with
  | done i m =>
    have hnil : clients ([] : List Event) = [] := rfl
    exact absurd hnil (clients_ne_nil hs)
  | @next i q rest _ _ _ es es' r first others ih =>
    rcases append_split hs with ⟨tail, here, -⟩ | ⟨tail, rfl, later⟩
    · exact first.paves here
    · obtain ⟨client, seen, hc, ho, exits⟩ := first.passed_client
      obtain ⟨record, hr, hshape⟩ := first.passed_slot.record
      exact (ih later).after hc hr hshape ho exits
  | stopped first => exact first.paves hs

/-- Every query whose session goes on to the end has had its client. -/
theorem QueriesCourse.all_started {i : Nat} {qs : List QueryStep}
    (h : QueriesCourse o plan options settings i qs m es (.ok ()) m') : (clients es).length = qs.length := by
  generalize hr : (.ok () : Except Stop Unit) = r at h
  induction h with
  | done i m => rfl
  | next first others ih =>
    obtain ⟨client, seen, hc, -, -⟩ := first.passed_client
    rw [clients_append, hc, List.length_append, ih hr, List.length_cons, Nat.add_comm]
    rfl
  | stopped first => cases hr

/-! ## Whole runs -/

/-- A run that nothing stops has had a client for every query. -/
theorem DriveCourse.all_started (h : DriveCourse o plan options settings m es (.ok ()) m') :
    (clients es).length = plan.queries.length := by
  cases h with
  | queried build launch await queries =>
    rw [clients_append, clients_append, clients_append, build.about.2.clients_nil (by simp),
      launch.launched_inv.2.2.clients_nil (by simp), await.about.2.clients_nil (by simp)]
    exact queries.all_started

/-- A client starts after the build, the launch and the await step have passed, the first of them possibly as
skipped, and a server was started. -/
theorem DriveCourse.paves {r : Except Stop Unit} (h : DriveCourse o plan options settings m es r m')
    (hs : es = pre ++ .clientStarted request timeout :: post) :
    ∃ before inner server,
      pre = before ++ inner ∧ clients before = [] ∧ overs before = [] ∧ launches before = [server] ∧
      (records before).map outline =
        [(buildSlot plan options settings).shape, (launchSlot plan).shape, (awaitSlot plan settings).shape] ∧
      launches inner = [] ∧ Paves plan options settings 0 plan.queries inner (request, timeout) := by
  have absent : ∀ {es : List Event} {topics : List Topic} {tail : List Event}, About topics es → .client ∉ topics →
      es ≠ pre ++ .clientStarted request timeout :: tail := by
    intro es topics tail about ht he
    exact clients_ne_nil he (about.clients_nil ht)
  cases h with
  | @unbegun i requested =>
    have stop : About [.request] [.interrupted i] := about_singleton (by simp)
    exact absurd hs (absent stop (by simp))
  | unbuilt build => exact absurd hs (absent build.about.2 (by simp))
  | unlaunched build launch =>
    exact absurd hs (absent (build.about.2.append (launch.stopped_inv.2.mono (by simp))) (by simp))
  | unready build launch await =>
    have built : About [.step, .build, .launch, .exit, .request] _ := build.about.2.mono (by simp)
    have about := built.append ((launch.launched_inv.2.2.mono (by simp)).append (await.about.2.mono (by simp)))
    exact absurd hs (absent about (by simp))
  | @queried es es' es'' qs r server _ _ _ _ build launch await queries =>
    have built := build.about.2
    obtain ⟨-, hserver, launched⟩ := launch.launched_inv
    have awaited := await.about.2
    have about : About [.step, .build, .launch, .exit, .request] (es ++ (es' ++ es'')) :=
      (built.mono (by simp)).append ((launched.mono (by simp)).append (awaited.mono (by simp)))
    rw [← List.append_assoc es' es'' qs, ← List.append_assoc es (es' ++ es'') qs] at hs
    -- No client starts in the first three steps, so the start is among the queries.
    rcases append_split hs with ⟨tail, here, -⟩ | ⟨inner, rfl, later⟩
    · exact absurd here (absent about (by simp))
    · obtain ⟨rb, hb, hbs⟩ := build.passed_slot.record
      obtain ⟨rl, hl, hls⟩ := launch.passed_slot.record
      obtain ⟨ra, ha, has⟩ := await.passed_slot.record
      have quiet : launches qs = [] := queries.about.2.2.launches_nil (by simp)
      have silent : launches inner = [] := by
        rw [later, launches_append] at quiet
        exact (List.append_eq_nil_iff.mp quiet).1
      refine ⟨_, inner, server.pid, rfl, about.clients_nil (by simp), about.overs_nil (by simp), ?_, ?_, silent,
        queries.paves later⟩
      · rw [launches_append, launches_append, built.launches_nil (by simp), hserver, awaited.launches_nil (by simp)]
        rfl
      · rw [records_append, records_append, hb, hl, ha]
        simp [hbs, hls, has]

/-- Whatever the world outside answers and whenever a request ends the run: the clients that are started are
those of the first queries, one for each and in their order, with the arguments of the plan's client, those of
the query and the query itself, in the root of the run, and with the time limit of the query, or else of the
client, or else of the settings; and in a run that passes every query has its client. Before each of them starts, the build step has passed or been skipped, the
launch and the await step have passed, one server was started, and every earlier query has passed after its
client had ended. -/
theorem clients_follow_queries (o : Outside σ) (plan : Plan) (options : RunOptions) (settings : Settings) (s : σ) :
    let journal := (runPlan o plan options settings s).2.journal
    (clients journal).length ≤ plan.queries.length ∧
      ((runPlan o plan options settings s).1.report.passed = true → (clients journal).length = plan.queries.length) ∧
      (∀ (i : Nat) (client : ClientRequest × Nanos), (clients journal)[i]? = some client →
        ∃ q : QueryStep, plan.queries[i]? = some q ∧
        client.1.args = plan.client.args ++ q.args ++ [q.query] ∧ client.1.cwd = options.root ∧
        client.2 = seconds ((q.timeoutSecs.or plan.client.timeoutSecs).getD settings.invocationSecs)) ∧
      ∀ pre post request timeout, journal = pre ++ .clientStarted request timeout :: post →
        let started := (clients pre).length
        (records pre).map (fun r => (r.kind, r.name, r.status)) =
            (.build, buildName plan options settings,
              if (buildCommand? plan options settings).isSome then .passed else .skipped) ::
            (.launch, plan.server.target.name, .passed) :: (.await, awaitName plan settings, .passed) ::
            (plan.queries.take started).mapIdx (fun k q => (.query, q.displayName k, .passed)) ∧
          (∃ server, launches pre = [server]) ∧
          (overs pre).length = started ∧
          ∀ seen ∈ overs pre, ∃ shown invocation, seen = some shown ∧
            Invocation.ofEvents shown = .finished invocation ∧ .exited invocation.ending ∈ shown := by
  intro journal
  have course := runPlan_takes plan options settings o s
  obtain ⟨driven, r, m, drive, tells⟩ := course.tells
  obtain ⟨rest, told, about⟩ := tells.told
  -- What is said of a start in the milestones of the steps holds of it in the journal.
  have start : ∀ {pre post request timeout}, journal = pre ++ .clientStarted request timeout :: post →
      ∃ before inner server, milestones options.colours pre = before ++ inner ∧ clients before = [] ∧
        overs before = [] ∧ launches before = [server] ∧
        (records before).map outline =
          [(buildSlot plan options settings).shape, (launchSlot plan).shape, (awaitSlot plan settings).shape] ∧
        launches inner = [] ∧ Paves plan options settings 0 plan.queries inner (request, timeout) := by
    intro pre post request timeout hj
    have hm := milestones_split (c := options.colours) rfl hj
    rw [told] at hm
    rcases append_split hm with ⟨tail, here, -⟩ | ⟨tail, -, later⟩
    · exact drive.paves here
    · exact absurd (about.clients_nil (by simp)) (clients_ne_nil later)
  have serves : ∀ (i : Nat) (client : ClientRequest × Nanos), (clients journal)[i]? = some client →
      ∃ q, plan.queries[i]? = some q ∧ Serves plan options settings q client := by
    intro i client hi
    obtain ⟨pre, post, hj, hlen⟩ := clients_split hi
    obtain ⟨before, inner, server, hpre, hc, -, -, -, -, paves⟩ := start hj
    obtain ⟨q, hq, hserves⟩ := paves.query
    have hcount : (clients inner).length = i := by
      rw [← hlen, ← clients_milestones (c := options.colours) pre, hpre, clients_append, hc, List.nil_append]
    rw [hcount] at hq
    exact ⟨q, hq, hserves⟩
  refine ⟨?_, ?_, ?_, ?_⟩
  · by_contra hlong
    have hlt : plan.queries.length < (clients journal).length := Nat.lt_of_not_le hlong
    obtain ⟨q, hq, -⟩ := serves _ _ (List.getElem?_eq_getElem hlt)
    rw [List.getElem?_eq_none (Nat.le_refl _)] at hq
    cases hq
  · intro hpassed
    rw [course.consistent.1, Option.isNone_iff_eq_none, tells.cause] at hpassed
    have hclients : clients journal = clients driven := by
      rw [← clients_milestones (c := options.colours) journal, told, clients_append, about.clients_nil (by simp),
        List.append_nil]
    cases r with
    | ok _ => rw [hclients, drive.all_started]
    | error e => cases e <;> cases hpassed
  · intro i client hi
    obtain ⟨q, hq, hserves⟩ := serves i client hi
    exact ⟨q, hq, hserves.args, hserves.cwd, hserves.timeout⟩
  · intro pre post request timeout hj started
    obtain ⟨before, inner, server, hpre, hc, ho, hl, hr, hli, paves⟩ := start hj
    have hstarted : started = (clients inner).length := by
      show (clients pre).length = _
      rw [← clients_milestones (c := options.colours) pre, hpre, clients_append, hc, List.nil_append]
    have hovers : overs pre = overs inner := by
      rw [← overs_milestones (c := options.colours) pre, hpre, overs_append, ho, List.nil_append]
    refine ⟨?_, ⟨server, ?_⟩, ?_, ?_⟩
    · have hrecords : (records pre).map outline =
          [(buildSlot plan options settings).shape, (launchSlot plan).shape, (awaitSlot plan settings).shape] ++
            passedQueries 0 (plan.queries.take started) := by
        rw [← records_milestones (c := options.colours) pre, hpre, records_append, List.map_append, hr, paves.passed,
          ← hstarted]
      show (records pre).map outline = _
      simpa [passedQueries, Slot.shape, buildSlot, launchSlot, awaitSlot] using hrecords
    · rw [← launches_milestones (c := options.colours) pre, hpre, launches_append, hl, hli]
      rfl
    · rw [hovers, paves.ended, hstarted]
    · intro seen hseen
      rw [hovers] at hseen
      exact paves.exited seen hseen

end Shakedown.Session

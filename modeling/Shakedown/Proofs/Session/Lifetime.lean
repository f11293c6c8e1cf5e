import Shakedown.Proofs.Session.CleanUp
import Shakedown.Proofs.Session.Verdict

/-!
# The lifetime of a server

A server that was started is looked at, waited for and terminated in any order and any number of times, and is let go
of in the end. Signals are counted where they are sent: `Outside.recorded` is a given world with a record of the
signals to process groups, and the journal agrees with that record (`Accounts`). One use of a server sends what is due
for its answer (`perform_inv`), and a server that is no longer taken to run stays so (`visits_gone`). So over a
lifetime a server is stopped at most once, and its group is not signalled after it (`lifetime_signals`).
-/

namespace Shakedown

variable {σ : Type} {α β : Type}

/-- Signals to process groups, in the order in which they were sent. -/
abbrev Signals := List (Nat × GroupSignal)

/-- A world with a record of the signals that are sent to process groups in it. -/
def Outside.recorded (o : Outside σ) : Outside (σ × Signals) where
  now w := o.now w.1
  files w := o.files w.1
  start := noted [] o.start
  install := noted [] o.install
  print text w := (o.print text w.1, w.2)
  log e w := (o.log e w.1, w.2)
  build p args root := (o.build p args root).noting []
  spawn r := noted [] (o.spawn r)
  awaitProbe n p root policy := (o.awaitProbe n p root policy).noting []
  awaitDelay n d := (o.awaitDelay n d).noting []
  startClient r := noted [] (o.startClient r)
  piped n stream w := o.piped n stream w.1
  awaitClient n d echo := (o.awaitClient n d echo).noting []
  killClient n := (o.killClient n).noting []
  dropClient n w := (o.dropClient n w.1, w.2)
  viewServer n := noted [] (o.viewServer n)
  awaitServer n := noted [] (o.awaitServer n)
  awaitGrace n d := noted [] (o.awaitGrace n d)
  signalGroup n g w := (o.signalGroup n g w.1, w.2 ++ [(n, g)])
  killLeader n := noted [] (o.killLeader n)

namespace Session

/-! ## Uses of a server -/

/-- A use of a server that was started. Nothing uses a server that was dropped, but no result depends on that. -/
inductive Use where
  | isLive
  | waitExit
  | terminate (grace : Nanos)
  | drop
deriving DecidableEq, Repr

/-- What a use of a server answers. -/
inductive Answer where
  | live (running : Bool)
  | over (how : ServerEnd)
  | terminated (stopped : Bool)
  | dropped
deriving DecidableEq, Repr

/-- A use of a server: its answer, and the server after it. -/
def perform (o : Outside σ) (m : Managed) : Use → Act σ (Answer × Managed)
  | .isLive => do
    let (running, m) ← m.isLive o
    return (.live running, m)
  | .waitExit => do
    let (how, m) ← m.waitExit o
    return (.over how, m)
  | .terminate grace => do
    let (stopped, m) ← m.terminate o grace
    return (.terminated stopped, m)
  | .drop => do
    m.drop o
    return (.dropped, m)

/-- What was seen of a use of a server: the server before and after it, its answer, and the signals that were sent
meanwhile. -/
structure Visit where
  before : Managed
  answer : Answer
  after : Managed
  sent : Signals

/-- A use of a server in a world that records the signals. -/
def visit (o : Outside σ) (m : Managed) (use : Use) (s : State (σ × Signals)) : Visit × State (σ × Signals) :=
  let r := perform o.recorded m use s
  (⟨m, r.1.1, r.1.2, r.2.outside.2.drop s.outside.2.length⟩, r.2)

/-- Uses of a server, one after the other. -/
def visits (o : Outside σ) (m : Managed) (s : State (σ × Signals)) : List Use → List Visit
  | [] => []
  | use :: uses =>
    let v := visit o m use s
    v.1 :: visits o v.1.after v.2 uses

/-- A server is used in some ways and then let go of. -/
def lifetime (o : Outside σ) (m : Managed) (s : State (σ × Signals)) (uses : List Use) : List Visit :=
  visits o m s (uses ++ [.drop])

/-- The signals that an answer of a server comes with. -/
def due (m : Managed) : Answer → Signals
  | .terminated true => [(m.pid, .terminate), (m.pid, .kill)]
  | .dropped => if m.live then [(m.pid, .kill)] else []
  | _ => []

/-! ## The journal and the record -/

/-- The signal that an event of the journal tells. -/
def Event.signalled? : Event → Option (Nat × GroupSignal)
  | .signalled pid g => some (pid, g)
  | _ => none

/-- The journal tells the signals that an action sends. -/
def Accounts (x : Act (σ × Signals) α) : Prop :=
  ∀ s, ∃ js, (x s).2.journal = s.journal ++ js ∧
    (x s).2.outside.2 = s.outside.2 ++ js.filterMap Event.signalled?

variable {o : Outside σ} {m m' : Managed} {c : Bool} {s t : State (σ × Signals)} {use : Use} {uses : List Use}
  {answer : Answer}

/-- An action that does nothing sends nothing. -/
theorem accounts_pure (a : α) : Accounts (pure a : Act (σ × Signals) α) :=
  fun _ => ⟨[], (List.append_nil _).symm, (List.append_nil _).symm⟩

/-- Two actions in turn, and their signals in turn. -/
theorem Accounts.bind {x : Act (σ × Signals) α} {f : α → Act (σ × Signals) β} (hx : Accounts x)
    (hf : ∀ a, Accounts (f a)) : Accounts (x >>= f) := by
  intro s
  obtain ⟨js, hj, ho⟩ := hx s
  obtain ⟨js', hj', ho'⟩ := hf (x s).1 (x s).2
  refine ⟨js ++ js', ?_, ?_⟩
  · exact hj'.trans (by rw [hj, List.append_assoc])
  · exact ho'.trans (by rw [ho, List.filterMap_append, List.append_assoc])

/-- An event that tells no signal may be noted at any time. -/
theorem accounts_note {e : Event} (he : e.signalled? = none) : Accounts (note e : Act (σ × Signals) Unit) := by
  intro s
  refine ⟨[e], rfl, ?_⟩
  rw [List.filterMap_cons_none he]
  exact (List.append_nil _).symm

/-- Of what is asked of the world nothing is noted but signals. -/
theorem accounts_ask (f : σ → α × σ) : Accounts (ask (noted [] f) : Act (σ × Signals) α) :=
  fun _ => ⟨[], (List.append_nil _).symm, rfl⟩

theorem accounts_log (e : Log.Event) : Accounts (log o.recorded e) :=
  fun _ => ⟨[], (List.append_nil _).symm, (List.append_nil _).symm⟩

/-- A signal is told where it is sent. -/
theorem accounts_signal (g : GroupSignal) : Accounts (m.signal o.recorded g) :=
  fun _ => ⟨[.signalled m.pid g], rfl, rfl⟩

theorem accounts_look : Accounts (m.look o.recorded) := by
  unfold Managed.look
  split
  · refine (accounts_ask _).bind fun view => ?_
    cases view with
    | running => exact accounts_pure _
    | ended ending => exact (accounts_note rfl).bind fun _ => accounts_pure _
    | unknown reason => exact (accounts_note rfl).bind fun _ => accounts_pure _
  · exact accounts_pure _

theorem accounts_isLive : Accounts (m.isLive o.recorded) :=
  accounts_look.bind fun _ => (accounts_note rfl).bind fun _ => accounts_pure _

theorem accounts_waitExit : Accounts (m.waitExit o.recorded) := by
  refine (accounts_ask _).bind fun how => ?_
  cases how with
  | exited ending => exact (accounts_note rfl).bind fun _ => accounts_pure _
  | lost reason => exact (accounts_note rfl).bind fun _ => accounts_pure _

theorem accounts_killLeader : Accounts (m.killLeader o.recorded) := by
  refine (accounts_note rfl).bind fun _ => (accounts_ask _).bind fun answer => ?_
  cases answer with
  | none => exact accounts_pure _
  | some reason => exact accounts_pure _

theorem accounts_reap : Accounts (m.reap o.recorded) := by
  refine accounts_killLeader.bind fun killed => ?_
  obtain ⟨fault, m'⟩ := killed
  cases fault with
  | some reason => exact accounts_pure _
  | none =>
    refine (accounts_ask _).bind fun how => ?_
    cases how with
    | exited ending => exact accounts_pure _
    | lost reason => exact accounts_pure _

/-- A kill tells the signal that it sends to the group. -/
theorem accounts_kill : Accounts (m.kill o.recorded) := by
  refine (accounts_signal _).bind fun _ => accounts_reap.bind fun reaped => ?_
  obtain ⟨fault, m'⟩ := reaped
  cases fault with
  | none => exact accounts_pure _
  | some reason => exact (accounts_log _).bind fun _ => accounts_pure _

theorem accounts_killLive : Accounts (m.killLive o.recorded) := by
  unfold Managed.killLive
  split
  · exact (accounts_log _).bind fun _ => (accounts_signal _).bind fun _ => accounts_killLeader.bind fun _ => accounts_pure _
  · exact accounts_pure _

/-- A termination tells all that it sends. -/
theorem accounts_terminate (grace : Nanos) : Accounts (m.terminate o.recorded grace) := by
  refine (accounts_note rfl).bind fun _ => accounts_isLive.bind fun found => ?_
  obtain ⟨live, m'⟩ := found
  cases live with
  | false => exact (accounts_log _).bind fun _ => accounts_pure _
  | true =>
    -- The ways part at what becomes of the grace period.
    refine (accounts_log _).bind fun _ => (accounts_signal _).bind fun _ => (accounts_ask _).bind fun grant => ?_
    cases grant with
    | ended ending =>
      exact (accounts_note rfl).bind fun _ => (accounts_log _).bind fun _ => (accounts_signal _).bind fun _ =>
        accounts_pure _
    | unknown reason => exact (accounts_log _).bind fun _ => accounts_kill.bind fun _ => accounts_pure _
    | expired => exact (accounts_log _).bind fun _ => accounts_kill.bind fun _ => accounts_pure _

/-- A guard that is dropped tells all that it sends. -/
theorem accounts_drop : Accounts (m.drop o.recorded) := by
  refine (accounts_note rfl).bind fun _ => accounts_killLive.bind fun left => ?_
  split
  · exact accounts_killLeader.bind fun _ => accounts_pure _
  · exact accounts_pure _

/-- The signals that an action sends are those among its milestones. -/
theorem Accounts.sends {x : Act (σ × Signals) α} {a : α} {es : List Event} (h : Accounts x) (hx : x s = (a, t))
    (f : Follows c s es t) : t.outside.2.drop s.outside.2.length = es.filterMap Event.signalled? := by
  obtain ⟨js, hj, hsent⟩ := h s
  obtain ⟨js', hj', rfl⟩ := f.journal
  rw [hx] at hj hsent
  obtain rfl := List.append_cancel_left (hj.symm.trans hj')
  -- What the milestones leave out of the journal is printed, and no signal.
  have hconsole : ∀ e : Event, e.topic = .console → e.signalled? = none := by
    intro e he
    cases e <;> first | rfl | cases he
  rw [filterMap_milestones hconsole, hsent, List.drop_left]

/-! ## One use -/

/-- A wait for the exit of a server sends it nothing. -/
theorem waitExit_inv {o : Outside σ} {s t : State σ} {how : ServerEnd} (h : m.waitExit o s = ((how, m'), t)) :
    ∃ es, Follows c s es t ∧ es.filterMap Event.signalled? = [] ∧ m' = m.after how := by
  obtain ⟨answer, u, ha, h⟩ := Act.bind_inv h
  obtain ⟨fa, -⟩ := follows_ask (c := c) ha
  cases answer with
  | exited ending =>
    obtain ⟨_, v, hn, h⟩ := Act.bind_inv h
    cases h
    exact ⟨_, fa.trans (follows_mark (fun _ => rfl) rfl hn), rfl, rfl⟩
  | lost reason =>
    obtain ⟨_, v, hn, h⟩ := Act.bind_inv h
    cases h
    exact ⟨_, fa.trans (follows_mark (fun _ => rfl) rfl hn), rfl, rfl⟩

/-- The guard of a server that is taken to run is dropped. -/
theorem drop_live_inv {o : Outside σ} {s t : State σ} (live : m.live = true) (h : m.drop o s = ((), t)) :
    ∃ rest, Follows c s ([.guardDropped m.pid true, .signalled m.pid .kill] ++ rest) t ∧
      rest.filterMap Event.signalled? = [] := by
  obtain ⟨_, u, hn, h⟩ := Act.bind_inv h
  obtain ⟨m', v, hk, h⟩ := Act.bind_inv h
  simp only [live, Managed.killLive] at hn hk
  obtain ⟨_, w, hl, hk⟩ := Act.bind_inv hk
  obtain ⟨_, x, hs, hk⟩ := Act.bind_inv hk
  obtain ⟨⟨fault, m₁⟩, y, hleader, hk⟩ := Act.bind_inv hk
  cases hk
  have f := ((follows_mark (c := c) (fun _ => rfl) rfl hn).andThen (follows_log hl)).trans (follows_signal hs)
  obtain ⟨fl, held, rfl⟩ := follows_killLeader (c := c) hleader
  -- A leader that could not be killed is killed once more.
  cases held with
  | false =>
    cases h
    exact ⟨[.leaderKilled m.pid], f.trans fl, rfl⟩
  | true =>
    obtain ⟨⟨fault', m'⟩, z, hagain, h⟩ := Act.bind_inv h
    cases h
    have f' := (f.trans fl).trans (follows_killLeader hagain).1
    exact ⟨[.leaderKilled m.pid, .leaderKilled m.pid], by simpa using f', rfl⟩

/-- The drop of a guard is not told as a signal to the group. -/
theorem guardDrop_unsignalled (m : Managed) : (guardDrop m).filterMap Event.signalled? = [] := by
  cases hm : m.held <;> simp [guardDrop, hm, Event.signalled?]

/-- A look sends nothing. -/
theorem CheckCourse.unsignalled {es : List Event} {live : Bool} {o : Outside α} (h : CheckCourse o m es live m') :
    es.filterMap Event.signalled? = [] := by
  cases h <;> rfl

/-- A termination begins with a look, which sends nothing. -/
theorem CheckCourse.signals_after {es : List Event} {live : Bool} {o : Outside α} (h : CheckCourse o m es live m')
    (rest : List Event) :
    (Event.terminating m.pid :: es ++ rest).filterMap Event.signalled? = rest.filterMap Event.signalled? := by
  calc (Event.terminating m.pid :: es ++ rest).filterMap Event.signalled?
      = es.filterMap Event.signalled? ++ rest.filterMap Event.signalled? := List.filterMap_append
    _ = rest.filterMap Event.signalled? := by rw [h.unsignalled, List.nil_append]

/-- A termination sends both signals if it stops the server, and none otherwise. -/
theorem TerminateCourse.signals {es : List Event} {stopped : Bool} {o : Outside α}
    (h : TerminateCourse o m es stopped m') : es.filterMap Event.signalled? = due m (.terminated stopped) := by
  cases h with
  | ended check => exact check.signals_after _
  | killed held check => exact check.signals_after _
  | gone check => exact check.unsignalled

/-- A server that is not taken to run is not looked at. -/
theorem CheckCourse.stays_gone {es : List Event} {live : Bool} {o : Outside α} (h : CheckCourse o m es live m')
    (gone : m.live = false) : m' = m ∧ live = false := by
  cases h with
  | running taken => rw [gone] at taken; cases taken
  | exited taken => rw [gone] at taken; cases taken
  | unknown taken => rw [gone] at taken; cases taken
  | known => exact ⟨rfl, rfl⟩

/-- A server that is not taken to run is not stopped again. -/
theorem TerminateCourse.not_again {es : List Event} {stopped : Bool} {o : Outside α}
    (h : TerminateCourse o m es stopped m') (gone : m.live = false) : stopped = false := by
  cases h with
  | ended check => exact absurd (check.stays_gone gone).2 (by simp)
  | killed held check => exact absurd (check.stays_gone gone).2 (by simp)
  | gone check => rfl

/-- What a use of a server can do: it sends what is due for its answer, it does not bring back a server that is no
longer taken to run, and a server that it stops is no longer taken to run. -/
structure Used (m : Managed) (answer : Answer) (m' : Managed) (sent : Signals) : Prop where
  sent : sent = due m answer
  same_pid : m'.pid = m.pid
  gone : m.live = false → m'.live = false ∧ answer ≠ .terminated true
  stopped : answer = .terminated true → m'.live = false

/-- Each use of a server does what a use can do. -/
theorem perform_used (h : perform o.recorded m use s = ((answer, m'), t)) :
    Used m answer m' (t.outside.2.drop s.outside.2.length) := by
  -- What each use can do is known by its milestones, and they tell the signals.
  cases use with
  | isLive =>
    obtain ⟨⟨running, w⟩, u, hc, h⟩ := Act.bind_inv h
    cases h
    obtain ⟨es, f, check⟩ := isLive_inv (c := false) hc
    exact
      { sent := (accounts_isLive.sends hc f).trans check.unsignalled
        same_pid := check.same_pid
        gone := fun gone => ⟨by rw [(check.stays_gone gone).1, gone], by simp⟩
        stopped := by simp }
  | waitExit =>
    obtain ⟨⟨how, w⟩, u, hw, h⟩ := Act.bind_inv h
    cases h
    obtain ⟨es, f, quiet, rfl⟩ := waitExit_inv (c := false) hw
    exact
      { sent := (accounts_waitExit.sends hw f).trans quiet
        same_pid := by cases how <;> rfl
        gone := fun _ => ⟨by cases how <;> rfl, by simp⟩
        stopped := by simp }
  | terminate grace =>
    obtain ⟨⟨stopped, w⟩, u, ht, h⟩ := Act.bind_inv h
    cases h
    obtain ⟨es, f, ending⟩ := terminate_inv (c := false) ht
    exact
      { sent := ((accounts_terminate grace).sends ht f).trans ending.signals
        same_pid := ending.same_pid
        gone := fun gone => ⟨ending.not_live, by simp [ending.not_again gone]⟩
        stopped := fun _ => ending.not_live }
  | drop =>
    obtain ⟨_, u, hd, h⟩ := Act.bind_inv h
    cases h
    cases live : m.live with
    | true =>
      obtain ⟨rest, f, quiet⟩ := drop_live_inv (c := false) live hd
      exact
        { sent := (accounts_drop.sends hd f).trans (by rw [due, if_pos live, List.filterMap_append, quiet]; rfl)
          same_pid := rfl
          gone := by simp [live]
          stopped := by simp }
    | false =>
      exact
        { sent := (accounts_drop.sends hd (drop_inv (c := false) live hd)).trans 
            (by rw [due, if_neg (by simp [live]), guardDrop_unsignalled])
          same_pid := rfl
          gone := fun _ => ⟨live, by simp⟩
          stopped := by simp }

/-! ## Uses one after the other -/

/-- A visit is the use of a server, with what is sent in it. -/
theorem visit_used (o : Outside σ) (m : Managed) (use : Use) (s : State (σ × Signals)) :
    Used m (visit o m use s).1.answer (visit o m use s).1.after (visit o m use s).1.sent :=
  perform_used rfl

/-- Every use is one of the server that was started, and sends what is due for its answer. -/
theorem visits_used : ∀ v ∈ visits o m s uses, v.before.pid = m.pid ∧ Used v.before v.answer v.after v.sent := by
  induction uses generalizing m s with
  | nil => simp [visits]
  | cons use uses ih =>
    have used := visit_used o m use s
    intro v hv
    rw [visits, List.mem_cons] at hv
    rcases hv with rfl | hv
    · exact ⟨rfl, used⟩
    · obtain ⟨hpid, hused⟩ := ih v hv
      exact ⟨hpid.trans used.same_pid, hused⟩

/-- A server that is no longer taken to run stays so. -/
theorem visits_gone (gone : m.live = false) : ∀ v ∈ visits o m s uses, v.before.live = false ∧ v.after.live = false := by
  induction uses generalizing m s with
  | nil => simp [visits]
  | cons use uses ih =>
    have after := ((visit_used o m use s).gone gone).1
    intro v hv
    rw [visits, List.mem_cons] at hv
    rcases hv with rfl | hv
    · exact ⟨gone, after⟩
    · exact ih after v hv

/-- Nothing is sent to a server that is no longer taken to run. -/
theorem Used.unsignalled {sent : Signals} (h : Used m answer m' sent) (gone : m.live = false) : sent = [] := by
  rw [h.sent]
  have again := (h.gone gone).2
  cases answer with
  | terminated stopped =>
    cases stopped with
    | true => exact absurd rfl again
    | false => rfl
  | dropped => simp [due, gone]
  | _ => rfl

/-- After that no visit sends anything. -/
theorem visits_unsignalled (gone : m.live = false) : ∀ v ∈ visits o m s uses, v.sent = [] := by
  intro v hv
  exact (visits_used v hv).2.unsignalled (visits_gone gone v hv).1

theorem length_visits : (visits o m s uses).length = uses.length := by
  induction uses generalizing m s with
  | nil => rfl
  | cons use uses ih => rw [visits, List.length_cons, ih, List.length_cons]

/-- The flag is cleared once and for all. -/
theorem visits_flags :
    (m.live :: (visits o m s uses).map (·.after.live)).Pairwise fun earlier later => later = true → earlier = true := by
  induction uses generalizing m s with
  | nil => simp [visits]
  | cons use uses ih =>
    refine List.pairwise_cons.mpr ⟨?_, by simpa [visits, visit] using ih⟩
    -- A flag that stands later is not set unless this one is.
    intro flag hflag live
    obtain ⟨v, hv, rfl⟩ := List.mem_map.mp hflag
    cases taken : m.live with
    | true => rfl
    | false =>
      rw [(visits_gone taken v hv).2] at live
      cases live

/-- Of any uses one at most stops the server. -/
theorem visits_stopped_once : (visits o m s uses).countP (·.answer = .terminated true) ≤ 1 := by
  induction uses generalizing m s with
  | nil => simp [visits]
  | cons use uses ih =>
    rw [visits, List.countP_cons]
    split
    case isTrue hstop =>
      -- The server that was stopped is not taken to run, and so is not stopped again.
      have gone := (visit_used o m use s).stopped (by simpa using hstop)
      have rest : (visits o (visit o m use s).1.after (visit o m use s).2 uses).countP (·.answer = .terminated true) = 0 := by
        refine List.countP_eq_zero.mpr fun v hv => ?_
        simpa using ((visits_used v hv).2.gone (visits_gone gone v hv).1).2
      omega
    case isFalse => exact ih

/-- After a use that leaves the server no longer taken to run nothing is sent. -/
theorem visits_silent : (visits o m s uses).Pairwise fun v w => v.after.live = false → w.sent = [] := by
  induction uses generalizing m s with
  | nil => exact .nil
  | cons use uses ih => exact .cons (fun w hw gone => visits_unsignalled gone w hw) ih

/-- A server that was started is taken to run. -/
theorem spawn_live {o : Outside σ} {name : String} {request : SpawnRequest} {s t : State σ}
    (h : Managed.spawn o name request s = (.ok m, t)) : m.live = true := by
  obtain ⟨answer, u, ha, h⟩ := Act.bind_inv h
  cases answer with
  | error reason => cases h
  | ok pid =>
    cases h
    rfl

/-- Over the lifetime of a server that was started, used in any way and let go of in the end, and whatever is seen of
it: once it is no longer taken to run it is never taken to run again; at most one termination stops it, and that one
sends its group the signal to end and after it the one that kills; and once it is no longer taken to run, no use of it
signals its group. -/
theorem lifetime_signals (o : Outside σ) (name : String) (request : SpawnRequest) (s₀ s : State (σ × Signals))
    (m : Managed) (uses : List Use) (spawned : Managed.spawn o.recorded name request s₀ = (.ok m, s)) :
    let seen := lifetime o m s uses
    seen.length = uses.length + 1 ∧ m.live = true ∧
      (m.live :: seen.map (·.after.live)).Pairwise (fun earlier later => later = true → earlier = true) ∧
      seen.countP (·.answer = .terminated true) ≤ 1 ∧
      (∀ v ∈ seen, v.answer = .terminated true → v.sent = [(m.pid, .terminate), (m.pid, .kill)]) ∧
      (∀ v ∈ seen, v.before.live = false → v.sent = []) ∧
      seen.Pairwise fun v w => v.after.live = false → w.sent = [] := by
  intro seen
  refine ⟨?_, spawn_live spawned, visits_flags, visits_stopped_once, ?_, ?_, visits_silent⟩
  · exact length_visits.trans List.length_append
  · intro v hv stopped
    obtain ⟨hpid, used⟩ := visits_used v hv
    rw [used.sent, stopped, due, hpid]
  · intro v hv gone
    exact (visits_used v hv).2.unsignalled gone

/-- A server that was started in a steady world from which nothing was sent to a group yet. -/
def steadyServer : Except Failure Managed × State (Unit × Signals) :=
  Managed.spawn (steadyWorld []).recorded "server" ⟨⟨"/server"⟩, [], [], ⟨"/"⟩, true⟩ (.start (steadyWorld []).recorded ((), []))

/-- The server is terminated twice, its exit is awaited, and it is let go of. -/
def terminatedTwice : List Visit :=
  lifetime (steadyWorld []) ⟨"server", 7, true, true⟩ steadyServer.2 [.terminate 5000000000, .terminate 5000000000, .waitExit]

/-- The first termination stops the server and the second finds it stopped, and its group is signalled by the first
one only. -/
theorem lifetime_signals_terminated_twice :
    steadyServer.1.toOption = some ⟨"server", 7, true, true⟩ ∧
      terminatedTwice.map (·.answer) = [.terminated true, .terminated false, .over (.lost ""), .dropped] ∧
      (∀ v ∈ terminatedTwice, v.answer = .terminated true → v.sent = [(7, .terminate), (7, .kill)]) ∧
      terminatedTwice.Pairwise fun v w => v.after.live = false → w.sent = [] := by
  obtain ⟨-, -, -, -, stopped, -, silent⟩ := lifetime_signals (steadyWorld []) "server"
    ⟨⟨"/server"⟩, [], [], ⟨"/"⟩, true⟩ (.start (steadyWorld []).recorded ((), [])) steadyServer.2 ⟨"server", 7, true, true⟩
    [.terminate 5000000000, .terminate 5000000000, .waitExit] rfl
  exact ⟨rfl, rfl, stopped, silent⟩

end Session
end Shakedown

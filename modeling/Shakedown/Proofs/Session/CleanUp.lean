import Shakedown.Proofs.Session.Action

/-!
# Letting go of the server

What a look at a server, its termination and the clean-up of a session can do. A server is known to be
over only after a look at it or after its group was killed, and the clean-up lets go of a server that is
no longer taken to run (`TerminateCourse.not_live`).
-/

namespace Shakedown.Session

variable {σ : Type} (o : Outside σ)

/-- How a look at a server goes: whether it runs, and the server with that noted. -/
inductive CheckCourse (m : Managed) : List Event → Bool → Managed → Prop
  | running (live : m.live = true) : CheckCourse m [.checked m.pid true] true m
  | exited (live : m.live = true) : CheckCourse m [.exitObserved m.pid, .checked m.pid false] false m.ended
  | unknown {v : σ} {reason : String} (live : m.live = true) (answer : (o.viewServer m.pid v).1 = .unknown reason) :
      CheckCourse m [.sightLost m.pid, .checked m.pid false] false m.stopped
  | known (gone : m.live = false) : CheckCourse m [.checked m.pid false] false m

/-- How a server is terminated: a server that still runs is asked to end, and its group is killed after
that, its leader once more by itself unless its exit was seen; to one that does not run nothing is done. -/
inductive TerminateCourse (m : Managed) : List Event → Bool → Managed → Prop
  | ended {es : List Event} {m' : Managed} (check : CheckCourse o m es true m') :
      TerminateCourse m
        (.terminating m.pid :: es ++
          [.signalled m.pid .terminate, .exitObserved m.pid, .signalled m.pid .kill]) true m.ended
  | killed {es : List Event} {m' : Managed} (held : Bool) (check : CheckCourse o m es true m') :
      TerminateCourse m
        (.terminating m.pid :: es ++ [.signalled m.pid .terminate, .signalled m.pid .kill, .leaderKilled m.pid]) true
        { m with live := false, held := held }
  | gone {es : List Event} {m' : Managed} (check : CheckCourse o m es false m') :
      TerminateCourse m (.terminating m.pid :: es) false m'

/-- What is done when a server that is not taken to run is let go of: its process is killed if it can be. -/
def guardDrop (m : Managed) : List Event :=
  .guardDropped m.pid false :: if m.held then [.leaderKilled m.pid] else []

/-- How the clean-up of a session goes: with a server there is a look at it, its termination, and the
guard of the server is dropped. -/
inductive CleanCourse : Option Managed → List Event → Bool → Prop
  | nothing : CleanCourse none [] false
  | server {m m' m'' : Managed} {es es' : List Event} {live terminated : Bool} (look : CheckCourse o m es live m')
      (ending : TerminateCourse o m' es' terminated m'') :
      CleanCourse (some m) (es ++ es' ++ guardDrop m'') terminated

variable {o} {c : Bool} {s t : State σ} {m m' : Managed} {es : List Event} {live : Bool}

/-- A look leaves the server the process that it is. -/
theorem CheckCourse.same_pid (h : CheckCourse o m es live m') : m'.pid = m.pid := by
  cases h <;> rfl

/-- A server that is found not to run is no longer taken to run. -/
theorem CheckCourse.not_live (h : CheckCourse o m es false m') : m'.live = false := by
  cases h with
  | exited => rfl
  | unknown => rfl
  | known gone => exact gone

/-- A server that is found to run stays as it is. -/
theorem CheckCourse.unchanged (h : CheckCourse o m es true m') : m' = m := by
  cases h
  rfl

/-- A termination leaves the server the process that it is. -/
theorem TerminateCourse.same_pid (h : TerminateCourse o m es live m') : m'.pid = m.pid := by
  cases h with
  | ended => rfl
  | killed => rfl
  | gone check => exact check.same_pid

/-- A server that was terminated is no longer taken to run. -/
theorem TerminateCourse.not_live (h : TerminateCourse o m es live m') : m'.live = false := by
  cases h with
  | ended => rfl
  | killed => rfl
  | gone check => exact check.not_live

/-- A look is about the exit of the server and the clean-up. -/
theorem CheckCourse.about (h : CheckCourse o m es live m') : About [.exit, .cleanUp] es := by
  cases h <;> simp [About]

theorem guardDrop_about (m : Managed) : About [.exit, .cleanUp] (guardDrop m) := by
  cases hm : m.held <;> simp [guardDrop, hm, About]

/-- A termination is about the exit of the server and the clean-up. -/
theorem TerminateCourse.about (h : TerminateCourse o m es live m') : About [.exit, .cleanUp] es := by
  cases h with
  | ended check => simpa [About, or_imp, forall_and] using check.about
  | killed held check => simpa [About, or_imp, forall_and] using check.about
  | gone check => simpa [About, or_imp, forall_and] using check.about

/-- The clean-up does nothing but let go of the server. -/
theorem CleanCourse.about {server : Option Managed} (h : CleanCourse o server es live) : About [.exit, .cleanUp] es := by
  cases h with
  | nothing => exact about_nil
  | server look ending => exact (look.about.append ending.about).append (guardDrop_about _)

/-- A signal to the group is told, and changes nothing that the session knows. -/
theorem follows_signal {g : GroupSignal} (h : m.signal o g s = ((), t)) :
    Follows c s [.signalled m.pid g] t := by
  obtain ⟨_, u, hn, ht⟩ := Act.bind_inv h
  exact (follows_mark (fun _ => rfl) rfl hn).andThen (follows_tell ht)

/-- The leader is killed, which changes at most whether it is held. -/
theorem follows_killLeader {fault : Option String} (h : m.killLeader o s = ((fault, m'), t)) :
    Follows c s [.leaderKilled m.pid] t ∧ ∃ held, m' = { m with held := held } := by
  obtain ⟨_, u, hn, h⟩ := Act.bind_inv h
  obtain ⟨answer, v, ha, h⟩ := Act.bind_inv h
  have f := (follows_mark (c := c) (fun _ => rfl) rfl hn).andThen (follows_ask ha).1
  cases answer with
  | none =>
    cases h
    exact ⟨f, false, rfl⟩
  | some reason =>
    cases h
    exact ⟨f, m.held, rfl⟩

theorem follows_reap {fault : Option String} (h : m.reap o s = ((fault, m'), t)) :
    Follows c s [.leaderKilled m.pid] t ∧ ∃ held, m' = { m with held := held } := by
  obtain ⟨⟨answer, m₁⟩, u, hk, h⟩ := Act.bind_inv h
  obtain ⟨fk, held, rfl⟩ := follows_killLeader (c := c) hk
  cases answer with
  | some reason =>
    cases h
    exact ⟨fk, held, rfl⟩
  | none =>
    obtain ⟨how, v, ha, h⟩ := Act.bind_inv h
    have f := fk.andThen (follows_ask ha).1
    cases how with
    | exited ending =>
      cases h
      exact ⟨f, held, rfl⟩
    | lost reason =>
      cases h
      exact ⟨f, held, rfl⟩

/-- The group is signalled first, then the leader is killed; the server is no longer taken to run. -/
theorem follows_kill (h : m.kill o s = (m', t)) :
    Follows c s [.signalled m.pid .kill, .leaderKilled m.pid] t ∧ ∃ held, m' = { m with live := false, held := held } := by
  obtain ⟨_, u, hs, h⟩ := Act.bind_inv h
  obtain ⟨⟨fault, m₁⟩, v, hr, h⟩ := Act.bind_inv h
  obtain ⟨fr, held, rfl⟩ := follows_reap (c := c) hr
  have f := (follows_signal hs).trans fr
  cases fault with
  | none =>
    cases h
    exact ⟨f, held, rfl⟩
  | some reason =>
    obtain ⟨_, w, hl, h⟩ := Act.bind_inv h
    cases h
    exact ⟨f.andThen (follows_log hl), held, rfl⟩

/-- A look goes one of its courses. -/
theorem isLive_inv (h : m.isLive o s = ((live, m'), t)) :
    ∃ es, Follows c s es t ∧ CheckCourse o m es live m' := by
  obtain ⟨⟨seen, w⟩, u, hl, h⟩ := Act.bind_inv h
  obtain ⟨_, v, hn, h⟩ := Act.bind_inv h
  cases h
  have fn := follows_mark (c := c) (fun _ => rfl) rfl hn
  -- A server that is taken to be over is not asked about again.
  cases hm : m.live with
  | false =>
    simp only [Managed.look, hm] at hl
    cases hl
    exact ⟨_, fn, .known hm⟩
  | true =>
    simp only [Managed.look, hm] at hl
    obtain ⟨view, x, ha, hl⟩ := Act.bind_inv hl
    obtain ⟨fa, answer⟩ := follows_ask (c := c) ha
    cases view with
    | running =>
      cases hl
      exact ⟨_, fa.trans fn, .running hm⟩
    | ended ending =>
      obtain ⟨_, y, he, hl⟩ := Act.bind_inv hl
      cases hl
      exact ⟨_, (fa.trans (follows_mark (fun _ => rfl) rfl he)).trans fn, .exited hm⟩
    | unknown reason =>
      obtain ⟨_, y, he, hl⟩ := Act.bind_inv hl
      cases hl
      exact ⟨_, (fa.trans (follows_mark (fun _ => rfl) rfl he)).trans fn, .unknown hm answer⟩

/-- A termination goes one of its courses. -/
theorem terminate_inv {grace : Nanos} {terminated : Bool} (h : m.terminate o grace s = ((terminated, m'), t)) :
    ∃ es, Follows c s es t ∧ TerminateCourse o m es terminated m' := by
  obtain ⟨_, s₁, hn, h⟩ := Act.bind_inv h
  obtain ⟨⟨live, w⟩, s₂, hc, h⟩ := Act.bind_inv h
  obtain ⟨es, fc, check⟩ := isLive_inv (c := c) hc
  have f := (follows_mark (c := c) (fun _ => rfl) rfl hn).trans fc
  cases live with
  | false =>
    obtain ⟨_, s₃, hl, h⟩ := Act.bind_inv h
    cases h
    exact ⟨_, f.andThen (follows_log hl), .gone check⟩
  | true =>
    -- Every way on from here ends with the group being killed.
    cases check.unchanged
    obtain ⟨_, s₃, hl, h⟩ := Act.bind_inv h
    obtain ⟨_, s₄, hs, h⟩ := Act.bind_inv h
    obtain ⟨grant, s₅, ha, h⟩ := Act.bind_inv h
    obtain ⟨fa, -⟩ := follows_ask (c := c) ha
    have f := ((f.andThen (follows_log hl)).trans (follows_signal hs)).andThen fa
    cases grant with
    | ended ending =>
      obtain ⟨_, s₆, he, h⟩ := Act.bind_inv h
      obtain ⟨_, s₇, hd, h⟩ := Act.bind_inv h
      obtain ⟨_, s₈, hk, h⟩ := Act.bind_inv h
      cases h
      have f := ((f.trans (follows_mark (fun _ => rfl) rfl he)).andThen (follows_log hd)).trans (follows_signal hk)
      refine ⟨_, f, ?_⟩
      simpa using TerminateCourse.ended check
    | unknown reason =>
      obtain ⟨_, s₆, hd, h⟩ := Act.bind_inv h
      obtain ⟨_, s₇, hk, h⟩ := Act.bind_inv h
      cases h
      obtain ⟨fk, held, rfl⟩ := follows_kill (c := c) hk
      refine ⟨_, (f.andThen (follows_log hd)).trans fk, ?_⟩
      simpa using TerminateCourse.killed held check
    | expired =>
      obtain ⟨_, s₆, hd, h⟩ := Act.bind_inv h
      obtain ⟨_, s₇, hk, h⟩ := Act.bind_inv h
      cases h
      obtain ⟨fk, held, rfl⟩ := follows_kill (c := c) hk
      refine ⟨_, (f.andThen (follows_log hd)).trans fk, ?_⟩
      simpa using TerminateCourse.killed held check

/-- The guard of a server that is not taken to run is dropped. -/
theorem drop_inv (gone : m.live = false) (h : m.drop o s = ((), t)) : Follows c s (guardDrop m) t := by
  obtain ⟨_, u, hn, h⟩ := Act.bind_inv h
  obtain ⟨m₁, v, hk, h⟩ := Act.bind_inv h
  rw [gone] at hn
  have f := follows_mark (c := c) (fun _ => rfl) rfl hn
  simp only [Managed.killLive, gone] at hk
  cases hk
  cases hm : m.held with
  | false =>
    simp only [hm] at h
    cases h
    simpa [guardDrop, hm] using f
  | true =>
    simp only [hm] at h
    obtain ⟨⟨fault, m'⟩, w, hl, h⟩ := Act.bind_inv h
    cases h
    simpa [guardDrop, hm] using f.trans (follows_killLeader hl).1

/-- A server is terminated, and then its guard is dropped. -/
theorem letGo_inv {grace : Nanos} {terminated : Bool}
    (h : (do
      let r ← m.terminate o grace
      r.2.drop o
      return r.1 : Act σ Bool) s = (terminated, t)) :
    ∃ es m', Follows c s (es ++ guardDrop m') t ∧ TerminateCourse o m es terminated m' := by
  obtain ⟨⟨stopped, m'⟩, u, ht, h⟩ := Act.bind_inv h
  obtain ⟨_, v, hd, h⟩ := Act.bind_inv h
  cases h
  obtain ⟨es, ft, ending⟩ := terminate_inv (c := c) ht
  exact ⟨es, m', ft.trans (drop_inv ending.not_live hd), ending⟩

/-- Cleaning up goes one of its courses: there is a server to terminate or there is none. -/
theorem cleanUp_inv {options : RunOptions} {grace : Nanos} {terminated : Bool}
    (h : cleanUp o options grace s = (terminated, t)) :
    ∃ es, Logs options.colours s es t ∧ CleanCourse o s.server es terminated := by
  obtain ⟨_, _, hg, h⟩ := Act.bind_inv h
  cases hg
  cases hs : s.server with
  | none =>
    simp only [hs] at h
    obtain ⟨_, u, hl, h⟩ := Act.bind_inv h
    cases h
    exact ⟨[], (follows_log hl).toLogs, .nothing⟩
  | some m =>
    simp only [hs] at h
    obtain ⟨_, s₁, hm, h⟩ := Act.bind_inv h
    obtain ⟨⟨live, m₁⟩, s₂, hc, h⟩ := Act.bind_inv h
    obtain ⟨lm, -⟩ := logs_server (c := options.colours) hm
    obtain ⟨es, fc, look⟩ := isLive_inv (c := options.colours) hc
    have l := lm.trans fc.toLogs
    -- What the look finds decides only whether the stop is announced.
    cases live with
    | true =>
      obtain ⟨_, s₃, hp, h⟩ := Act.bind_inv h
      have fp := follows_say_plain (c := options.colours) (by simp) hp
      obtain ⟨es', m₂, ft, ending⟩ := letGo_inv (c := options.colours) h
      refine ⟨_, (l.andThen fp.toLogs).trans ft.toLogs, ?_⟩
      simpa using CleanCourse.server look ending
    | false =>
      obtain ⟨es', m₂, ft, ending⟩ := letGo_inv (c := options.colours) h
      refine ⟨_, l.trans ft.toLogs, ?_⟩
      simpa using CleanCourse.server look ending

end Shakedown.Session

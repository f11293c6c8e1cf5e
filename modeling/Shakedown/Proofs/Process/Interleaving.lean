import Shakedown.Proofs.Process.Completion
import Shakedown.Proofs.Process.Transcript

/-!
# Runs whose events come in any order

The events of two streams, of the end of a program and of its deadline come in any order, and only what happens
before the deadline counts (`ofEvents_eq`). A stream is over once it is closed or a line of it was no text
(`isDone_iff`), and what is then known of it is decided by the bytes written to it (`StreamOver.result`). So the
outcome of a run is decided by the bytes of each stream and the end of the program, whatever came first
(`finished_iff`, `faulty_iff`, `timedOut_iff`).
-/

namespace Shakedown

namespace Capture

open Text.Utf8 (WellFormed IsText decode)

variable {c : Capture}

/-- A capture that goes on from an unfinished line comes to no fault while its stream goes on if the line is well
formed up to each line feed that comes. -/
theorem feed_fault_none_from (hf : c.fault = none) (he : c.ended = false) (bytes : List UInt8) :
    (c.feed bytes).fault = none ↔
      ∀ front rest, bytes = front ++ 10 :: rest → WellFormed (c.pendingRev.reverse ++ front) := by
  induction bytes generalizing c with
  | nil => simp [hf]
  | cons b bytes ih =>
    rw [feed_cons, feedByte, if_neg (by simp [hf, he])]
    split
    case isTrue hb =>
      subst hb
      -- At a line feed the unfinished line has to be well formed itself, and the next one starts afresh.
      have hsplit : (∀ front rest, (10 : UInt8) :: bytes = front ++ 10 :: rest → WellFormed (c.pendingRev.reverse ++ front)) ↔
          WellFormed c.pendingRev.reverse ∧ ∀ front rest, bytes = front ++ 10 :: rest → WellFormed front := by
        constructor
        · intro h
          refine ⟨by simpa using h [] bytes rfl, ?_⟩
          rintro front rest rfl
          exact ((Text.Utf8.wellFormed_append_ascii (by decide)).mp (h (10 :: front) rest rfl)).2
        · rintro ⟨hline, hrest⟩ front rest hb
          cases front with
          | nil => simpa using hline
          | cons x front =>
            rw [List.cons_append, List.cons.injEq] at hb
            obtain ⟨rfl, hb⟩ := hb
            exact (Text.Utf8.wellFormed_append_ascii (by decide)).mpr ⟨hline, hrest front rest hb⟩
      rw [hsplit, ← wellFormed_withoutReturn, ← Text.Utf8.decode_ok_iff]
      cases hd : decode (withoutReturn c.pendingRev).reverse with
      | ok line =>
        rw [addLine_ok hd]
        exact (ih (c := { c with linesRev := line :: c.linesRev, pendingRev := [] }) hf he).trans (by simp)
      | error fault =>
        have hdone : ({ c with fault := some fault, pendingRev := [] } : Capture).isDone = true := by simp [isDone]
        rw [addLine_error hd, feed_of_isDone hdone]
        simp
    case isFalse hb =>
      refine (ih (c := { c with pendingRev := b :: c.pendingRev }) hf he).trans ?_
      constructor
      · rintro h front rest hsplit
        cases front with
        | nil =>
          rw [List.nil_append, List.cons.injEq] at hsplit
          exact absurd hsplit.1 hb
        | cons x front =>
          rw [List.cons_append, List.cons.injEq] at hsplit
          obtain ⟨rfl, hsplit⟩ := hsplit
          simpa using h front rest hsplit
      · rintro h front rest rfl
        simpa using h (b :: front) rest rfl

theorem feed_ended (c : Capture) (bytes : List UInt8) : (c.feed bytes).ended = c.ended := by
  induction bytes generalizing c with
  | nil => rfl
  | cons b bytes ih =>
    rw [feed_cons, ih, feedByte]
    split
    · rfl
    split
    · unfold addLine
      split
      · rfl
      · rfl
    · rfl

/-- A capture is done before its stream has ended if a complete line of it is no text. -/
theorem feed_isDone_iff (bytes : List UInt8) :
    (({} : Capture).feed bytes).isDone = true ↔ ∃ front rest, bytes = front ++ 10 :: rest ∧ ¬ IsText front := by
  have hnone := feed_fault_none_from (c := {}) rfl rfl bytes
  rw [isDone, feed_ended, Bool.false_or, Option.isSome_iff_ne_none, ne_eq, hnone]
  simp [Text.Utf8.isText_iff]

end Capture

namespace Invocation

open Text (evened)
open Text.Utf8 (IsText decode encode)

/-! ## What the outcome is decided by -/

/-- What happens before the deadline. -/
def untilDeadline (events : List Event) : List Event := events.takeWhile (· ≠ .deadline)

/-- Nothing more is read of a stream: it is closed, or a complete line of it is no text. -/
def StreamOver (seen : List Event) (stream : Stream) : Prop :=
  .closed stream ∈ seen ∨ ∃ front rest, written stream seen = front ++ 10 :: rest ∧ ¬ IsText front

/-- There is nothing left to wait for: both streams are over, and the end of the program is known or was lost. -/
def AllOver (seen : List Event) : Prop :=
  (∀ stream, StreamOver seen stream) ∧ (seen.findSome? Event.end?).isSome = true

/-- The invocation of a program that has written given bytes to its streams and has ended; none if they are no
texts. -/
def ofWritten (out err : List UInt8) (ending : Ending) : Option Invocation :=
  match decode out, decode err with
  | .ok out, .ok err => some ⟨ending, evened out, evened err⟩
  | _, _ => none

/-- What is captured of a stream with given bytes to its end. -/
def captured (bytes : List UInt8) : Except Text.Utf8.Fault String := (({} : Capture).feed bytes).finish.result

variable {p : Progress} {seen events : List Event} {stream : Stream}

theorem captured_ok_iff {bytes : List UInt8} {out : String} :
    captured bytes = .ok out ↔ ∃ text, decode bytes = .ok text ∧ out = evened text := by
  constructor
  · intro h
    obtain ⟨text, ht⟩ := Capture.isText_of_result h
    refine ⟨text, Text.Utf8.decode_eq_iff.mpr ht, ?_⟩
    exact Except.ok.inj (h.symm.trans (Capture.result_text ht))
  · rintro ⟨text, ht, rfl⟩
    exact Capture.result_text (Text.Utf8.decode_eq_iff.mp ht)

theorem ofWritten_eq_some_iff {out err : List UInt8} {ending : Ending} {i : Invocation} :
    ofWritten out err ending = some i ↔
      i.ending = ending ∧ captured out = .ok i.stdout ∧ captured err = .ok i.stderr := by
  obtain ⟨e, so, se⟩ := i
  simp only [captured_ok_iff, ofWritten]
  cases decode out <;> cases decode err <;> simp [eq_comm]

/-! ## Streams -/

theorem foldl_of_open (h : .closed stream ∉ seen) (c : Capture) :
    seen.foldl (captureStep stream) c = c.feed (written stream seen) := by
  induction seen generalizing c with
  | nil => rfl
  | cons e es ih =>
    have hrest : .closed stream ∉ es := fun hm => h (List.mem_cons_of_mem _ hm)
    rw [List.foldl_cons, ih hrest]
    cases e with
    | output s bytes =>
      by_cases hs : s = stream
      · rw [captureStep, if_pos hs, written, if_pos hs, Capture.feed_append]
      · rw [captureStep, if_neg hs, written, if_neg hs]
    | closed s =>
      have hs : s ≠ stream := by
        rintro rfl
        exact h (List.mem_cons_self ..)
      rw [captureStep, if_neg hs, written, if_neg hs]
    | _ => rfl

theorem capture_reached (seen : List Event) (stream : Stream) :
    (reached seen).capture stream = seen.foldl (captureStep stream) {} := by
  rw [reached, capture_foldl]
  cases stream <;> rfl

theorem isDone_iff : ((reached seen).capture stream).isDone = true ↔ StreamOver seen stream := by
  rw [capture_reached, StreamOver]
  by_cases hc : .closed stream ∈ seen
  · rw [foldl_of_closed hc]
    simp [Capture.isDone_finish, hc]
  · rw [foldl_of_open hc, Capture.feed_isDone_iff]
    simp [hc]

/-- What is known of a stream that is over is decided by the bytes written to it. -/
theorem StreamOver.result (h : StreamOver seen stream) :
    ((reached seen).capture stream).result = captured (written stream seen) := by
  have hdone := isDone_iff.mpr h
  rw [capture_reached] at hdone ⊢
  by_cases hc : .closed stream ∈ seen
  · rw [foldl_of_closed hc, captured]
  · rw [foldl_of_open hc] at hdone ⊢
    rw [captured, Capture.finish_of_isDone hdone]

/-- A stream that is over and was text throughout is closed. -/
theorem StreamOver.closed {out : String} (h : StreamOver seen stream) (hout : captured (written stream seen) = .ok out) :
    .closed stream ∈ seen := by
  rcases h with hc | ⟨front, rest, hw, hbad⟩
  · exact hc
  · have htext := Text.Utf8.isText_iff.mp (Capture.isText_of_result hout)
    rw [hw, Text.Utf8.wellFormed_append_ascii (by decide), ← Text.Utf8.isText_iff] at htext
    exact absurd htext.1 hbad

/-! ## Outcomes -/

theorem isComplete_iff : (reached seen).isComplete = true ↔ AllOver seen := by
  have hend : (reached seen).ending = seen.findSome? Event.end? := by simp [reached, ending_foldl]
  rw [Progress.isComplete, Bool.and_eq_true, Bool.and_eq_true, hend, AllOver]
  constructor
  · rintro ⟨⟨hout, herr⟩, hsome⟩
    refine ⟨?_, hsome⟩
    rintro (_ | _)
    · exact isDone_iff.mp hout
    · exact isDone_iff.mp herr
  · rintro ⟨hover, hsome⟩
    exact ⟨⟨isDone_iff.mpr (hover .stdout), isDone_iff.mpr (hover .stderr)⟩, hsome⟩

/-- What comes after the deadline does not count, and up to there only whether the run is complete. -/
theorem follow_eq (p : Progress) (events : List Event) :
    follow p events =
      if ((untilDeadline events).foldl Progress.step p).isComplete then
        conclude ((untilDeadline events).foldl Progress.step p)
      else .timedOut := by
  induction events generalizing p with
  | nil => rfl
  | cons e es ih =>
    rw [follow]
    by_cases hp : p.isComplete = true
    · rw [if_pos hp, foldl_of_isComplete hp, if_pos hp]
    · rw [if_neg hp]
      by_cases he : e = .deadline
      · subst he
        simp [untilDeadline, hp]
      · have hcons : untilDeadline (e :: es) = e :: untilDeadline es := by simp [untilDeadline, he]
        rw [if_neg he, hcons, List.foldl_cons, ih]

theorem ofEvents_eq (events : List Event) :
    ofEvents events =
      if (reached (untilDeadline events)).isComplete then conclude (reached (untilDeadline events)) else .timedOut :=
  follow_eq {} events

/-- What is wrong with a run that is over. A fault of the output goes first, then one of the error stream, and then
that the end of the program is not known. -/
inductive Faults (seen : List Event) : String → Prop
  | stdout {fault : Text.Utf8.Fault} (bad : captured (written .stdout seen) = .error fault) : Faults seen fault.message
  | stderr {out : String} {fault : Text.Utf8.Fault} (good : captured (written .stdout seen) = .ok out)
      (bad : captured (written .stderr seen) = .error fault) : Faults seen fault.message
  | lost {out err reason : String} (good : captured (written .stdout seen) = .ok out)
      (good' : captured (written .stderr seen) = .ok err) (gone : seen.findSome? Event.end? = some (.error reason)) :
      Faults seen reason

/-- A run that is over has an invocation to show or a fault. -/
theorem AllOver.conclude (h : AllOver seen) :
    (∃ i ending, conclude (reached seen) = .finished i ∧ seen.findSome? Event.end? = some (.ok ending) ∧
        ofWritten (written .stdout seen) (written .stderr seen) ending = some i) ∨
      ∃ reason, conclude (reached seen) = .faulty reason ∧ Faults seen reason := by
  have hout : (reached seen).stdout.result = captured (written .stdout seen) := (h.1 .stdout).result
  have herr : (reached seen).stderr.result = captured (written .stderr seen) := (h.1 .stderr).result
  have hend : (reached seen).ending = seen.findSome? Event.end? := by simp [reached, ending_foldl]
  obtain ⟨how, hhow⟩ := Option.isSome_iff_exists.mp h.2
  rw [Invocation.conclude, hout, herr, hend, hhow]
  cases ho : captured (written .stdout seen) with
  | error fault => exact Or.inr ⟨_, rfl, .stdout ho⟩
  | ok out =>
    cases he : captured (written .stderr seen) with
    | error fault => exact Or.inr ⟨_, rfl, .stderr ho he⟩
    | ok err =>
      cases how with
      | error reason => exact Or.inr ⟨_, rfl, .lost ho he hhow⟩
      | ok ending => exact Or.inl ⟨_, ending, rfl, rfl, ofWritten_eq_some_iff.mpr ⟨rfl, ho, he⟩⟩

/-- The outcome of a run: past its deadline, or what it has to show. -/
theorem ofEvents_cases (events : List Event) :
    let seen := untilDeadline events
    (¬ AllOver seen ∧ ofEvents events = .timedOut) ∨
      (∃ i ending, AllOver seen ∧ ofEvents events = .finished i ∧ seen.findSome? Event.end? = some (.ok ending) ∧
        ofWritten (written .stdout seen) (written .stderr seen) ending = some i) ∨
      ∃ reason, AllOver seen ∧ ofEvents events = .faulty reason ∧ Faults seen reason := by
  intro seen
  by_cases h : AllOver seen
  · rw [ofEvents_eq, if_pos (isComplete_iff.mpr h)]
    rcases h.conclude with ⟨i, ending, hc, hend, hi⟩ | ⟨reason, hc, hf⟩
    · exact Or.inr (Or.inl ⟨i, ending, h, hc, hend, hi⟩)
    · exact Or.inr (Or.inr ⟨reason, h, hc, hf⟩)
  · rw [ofEvents_eq, if_neg (mt isComplete_iff.mp h)]
    exact Or.inl ⟨h, rfl⟩

theorem Faults.unique {reason reason' : String} (h : Faults seen reason) (h' : Faults seen reason') :
    reason = reason' := by
  cases h <;> cases h' <;> simp_all

theorem Faults.not_ofWritten {reason : String} {ending : Ending} {i : Invocation} (h : Faults seen reason)
    (hend : seen.findSome? Event.end? = some (.ok ending)) :
    ofWritten (written .stdout seen) (written .stderr seen) ending ≠ some i := by
  intro hi
  obtain ⟨-, hout, herr⟩ := ofWritten_eq_some_iff.mp hi
  cases h <;> simp_all

theorem timedOut_iff : ofEvents events = .timedOut ↔ ¬ AllOver (untilDeadline events) := by
  rcases ofEvents_cases events with ⟨h, hv⟩ | ⟨i, ending, h, hv, -⟩ | ⟨reason, h, hv, -⟩
  · exact iff_of_true hv h
  · exact iff_of_false (by simp [hv]) (not_not_intro h)
  · exact iff_of_false (by simp [hv]) (not_not_intro h)

/-- An invocation is decided by the bytes of each stream and the end of the program. -/
theorem finished_iff {i : Invocation} :
    ofEvents events = .finished i ↔
      (∀ stream, .closed stream ∈ untilDeadline events) ∧
        ∃ ending, (untilDeadline events).findSome? Event.end? = some (.ok ending) ∧
          ofWritten (written .stdout (untilDeadline events)) (written .stderr (untilDeadline events)) ending = some i := by
  constructor
  · intro h
    rcases ofEvents_cases events with ⟨-, hv⟩ | ⟨i', ending, hover, hv, hend, hi⟩ | ⟨reason, -, hv, -⟩
    · rw [hv] at h
      cases h
    · rw [hv] at h
      cases h
      obtain ⟨-, hout, herr⟩ := ofWritten_eq_some_iff.mp hi
      refine ⟨?_, ending, hend, hi⟩
      rintro (_ | _)
      · exact (hover.1 .stdout).closed hout
      · exact (hover.1 .stderr).closed herr
    · rw [hv] at h
      cases h
  · rintro ⟨hclosed, ending, hend, hi⟩
    have hover : AllOver (untilDeadline events) := ⟨fun stream => Or.inl (hclosed stream), by simp [hend]⟩
    rcases ofEvents_cases events with ⟨h, -⟩ | ⟨i', ending', -, hv, hend', hi'⟩ | ⟨reason, -, -, hf⟩
    · exact absurd hover h
    · rw [hend] at hend'
      cases hend'
      rw [hi] at hi'
      cases hi'
      exact hv
    · exact absurd hi (hf.not_ofWritten hend)

theorem faulty_iff {reason : String} :
    ofEvents events = .faulty reason ↔ AllOver (untilDeadline events) ∧ Faults (untilDeadline events) reason := by
  rcases ofEvents_cases events with ⟨h, hv⟩ | ⟨i, ending, h, hv, hend, hi⟩ | ⟨reason', h, hv, hf⟩
  · exact iff_of_false (by simp [hv]) (fun hr => h hr.1)
  · exact iff_of_false (by simp [hv]) (fun hr => hr.2.not_ofWritten hend hi)
  · rw [hv]
    constructor
    · rintro ⟨⟩
      exact ⟨h, hf⟩
    · rintro ⟨-, hf'⟩
      rw [hf.unique hf']

/-! ## Processes that are left -/

/-- What comes after a run is over changes nothing. -/
theorem reached_untilDeadline (h : AllOver (untilDeadline events)) : reached events = reached (untilDeadline events) := by
  have hsplit : events = untilDeadline events ++ events.dropWhile (· ≠ .deadline) := List.takeWhile_append_dropWhile.symm
  have hall : reached events = (events.dropWhile (· ≠ .deadline)).foldl Progress.step (reached (untilDeadline events)) := by
    rw [reached, reached, ← List.foldl_append, ← hsplit]
  rw [hall, foldl_of_isComplete (isComplete_iff.mpr h)]

/-- An end that is known was seen. -/
theorem exited_of_end {ending : Ending} (h : seen.findSome? Event.end? = some (.ok ending)) : .exited ending ∈ seen := by
  obtain ⟨e, hmem, he⟩ := List.exists_of_findSome?_eq_some h
  cases e <;> cases he
  exact hmem

/-- A run that is over leaves no process whose end was seen. -/
theorem leavesProcess_eq_false (h : AllOver (untilDeadline events)) (hkept : leavesProcess (reached events) = false) :
    ∃ ending, .exited ending ∈ untilDeadline events := by
  have hend : (reached (untilDeadline events)).ending = (untilDeadline events).findSome? Event.end? := by
    simp [reached, ending_foldl]
  rw [reached_untilDeadline h, leavesProcess, hend] at hkept
  split at hkept
  case h_1 ending hfound => exact ⟨ending, exited_of_end hfound⟩
  case h_2 => cases hkept

end Invocation
end Shakedown

import Shakedown.Process.Invocation
import Shakedown.Proofs.Process.Capture
import Shakedown.Proofs.Text.Encoding

/-!
# Programs that run to completion

A run is complete once both streams and the end of the program are known, and from then on no event changes
it (`step_of_isComplete`), so its outcome is that of the events up to there (`follow_complete`). If a program
closes both its streams and ends before its deadline, what it has written decides only whether the run has
an invocation to show or a fault: the difference is whether both are texts (`ofEvents_completes`).
-/

namespace Shakedown.Invocation

open Text.Utf8 (IsText)

/-! ## What a program has done -/

/-- The bytes that a program writes to a stream before it closes it. -/
def written (stream : Stream) : List Event → List UInt8
  | [] => []
  | .output s bytes :: rest => if s = stream then bytes ++ written stream rest else written stream rest
  | .closed s :: rest => if s = stream then [] else written stream rest
  | _ :: rest => written stream rest

/-- The end of a program, or why it is not known, in an event. -/
def Event.end? : Event → Option (Except String Ending)
  | .exited ending => some (.ok ending)
  | .lost reason => some (.error reason)
  | _ => none

/-- By the events, a program closes both its streams and ends before its deadline, with the given ending. -/
def Completes (seen : List Event) (ending : Ending) : Prop :=
  ∃ before after, seen = before ++ after ∧ .deadline ∉ before ∧
    .closed .stdout ∈ before ∧ .closed .stderr ∈ before ∧ before.findSome? Event.end? = some (.ok ending)

/-- The capture of one stream of a run. -/
def Progress.capture (p : Progress) : Stream → Capture
  | .stdout => p.stdout
  | .stderr => p.stderr

/-- The capture of a stream after an event. -/
def captureStep (stream : Stream) (c : Capture) : Event → Capture
  | .output s bytes => if s = stream then c.feed bytes else c
  | .closed s => if s = stream then c.finish else c
  | _ => c

variable {p : Progress} {c : Capture} {e : Event} {es before after : List Event} {stream : Stream}

/-! ## Runs of events -/

/-- A capture of a stream takes from an event what belongs to its stream. -/
theorem capture_step (p : Progress) (e : Event) (stream : Stream) :
    (p.step e).capture stream = captureStep stream (p.capture stream) e := by
  cases e with
  | output s bytes => cases s <;> cases stream <;> rfl
  | closed s => cases s <;> cases stream <;> rfl
  | _ => cases stream <;> rfl

/-- The captures of both streams go on by themselves. -/
theorem capture_foldl (p : Progress) (es : List Event) (stream : Stream) :
    (es.foldl Progress.step p).capture stream = es.foldl (captureStep stream) (p.capture stream) := by
  induction es generalizing p with
  | nil => rfl
  | cons e es ih => rw [List.foldl_cons, List.foldl_cons, ih, capture_step]

/-- A capture that is done takes nothing more. -/
theorem captureStep_of_isDone (h : c.isDone = true) (e : Event) : captureStep stream c e = c := by
  cases e with
  | output s bytes => simp [captureStep, Capture.feed_of_isDone h]
  | closed s => simp [captureStep, Capture.finish_of_isDone h]
  | _ => rfl

theorem foldl_of_isDone (h : c.isDone = true) (es : List Event) : es.foldl (captureStep stream) c = c := by
  induction es with
  | nil => rfl
  | cons e es ih => rw [List.foldl_cons, captureStep_of_isDone h, ih]

/-- The capture of a stream that is closed has taken what was written to it, and has ended. -/
theorem foldl_of_closed (h : .closed stream ∈ es) (c : Capture) :
    es.foldl (captureStep stream) c = (c.feed (written stream es)).finish := by
  induction es generalizing c with
  | nil => cases h
  | cons e es ih =>
    rw [List.foldl_cons]
    -- What comes after the first close of the stream changes nothing.
    by_cases he : e = .closed stream
    · subst he
      rw [captureStep, if_pos rfl, foldl_of_isDone (Capture.isDone_finish c), written, if_pos rfl, Capture.feed_nil]
    · have hrest : .closed stream ∈ es := (List.mem_cons.mp h).resolve_left (Ne.symm he)
      rw [ih hrest]
      cases e with
      | output s bytes =>
        by_cases hs : s = stream
        · rw [captureStep, if_pos hs, written, if_pos hs, Capture.feed_append]
        · rw [captureStep, if_neg hs, written, if_neg hs]
      | closed s =>
        have hs : s ≠ stream := fun hs => he (congrArg _ hs)
        rw [captureStep, if_neg hs, written, if_neg hs]
      | _ => rfl

/-- The first exit counts. -/
theorem ending_foldl (p : Progress) (es : List Event) :
    (es.foldl Progress.step p).ending = p.ending.or (es.findSome? Event.end?) := by
  induction es generalizing p with
  | nil => simp
  | cons e es ih =>
    rw [List.foldl_cons, ih, List.findSome?_cons]
    -- Of several ends the first one counts, on both sides.
    cases e with
    | output s bytes => cases s <;> rfl
    | closed s => cases s <;> rfl
    | exited ending => cases hp : p.ending <;> simp [Progress.step, Event.end?, hp]
    | lost reason => cases hp : p.ending <;> simp [Progress.step, Event.end?, hp]
    | deadline => rfl

/-- What was written before a stream was closed is all that was written to it. -/
theorem written_append (h : .closed stream ∈ before) (after : List Event) :
    written stream (before ++ after) = written stream before := by
  induction before with
  | nil => cases h
  | cons e es ih =>
    by_cases he : e = .closed stream
    · subst he
      simp [written]
    · have hrest := ih ((List.mem_cons.mp h).resolve_left (Ne.symm he))
      cases e with
      | output s bytes => simp [written, hrest]
      | closed s => simp [written, hrest]
      | _ => simpa [written] using hrest

/-! ## Completion -/

/-- No event changes a run that is complete. -/
theorem step_of_isComplete (h : p.isComplete = true) (e : Event) : p.step e = p := by
  simp only [Progress.isComplete, Bool.and_eq_true] at h
  obtain ⟨⟨hout, herr⟩, hend⟩ := h
  obtain ⟨how, hhow⟩ := Option.isSome_iff_exists.mp hend
  cases e with
  | output s bytes => cases s <;> simp [Progress.step, Capture.feed_of_isDone, hout, herr]
  | closed s => cases s <;> simp [Progress.step, Capture.finish_of_isDone, hout, herr]
  | exited ending => cases p; simp_all [Progress.step]
  | lost reason => cases p; simp_all [Progress.step]
  | deadline => rfl

/-- Nothing more happens to an invocation that is complete. -/
theorem foldl_of_isComplete (h : p.isComplete = true) (es : List Event) : es.foldl Progress.step p = p := by
  induction es with
  | nil => rfl
  | cons e es ih => rw [List.foldl_cons, step_of_isComplete h, ih]

/-- A run that is complete before its deadline has the outcome that it has then. -/
theorem follow_complete (hd : .deadline ∉ before) (h : (before.foldl Progress.step p).isComplete = true)
    (after : List Event) : follow p (before ++ after) = conclude (before.foldl Progress.step p) := by
  -- The run may be complete before all of `before` is seen; the rest of it then changes nothing.
  induction before generalizing p with
  | nil =>
    have hp : p.isComplete = true := h
    cases after with
    | nil => simp [follow, hp]
    | cons e after => simp [follow, hp]
  | cons e es ih =>
    rw [List.cons_append, follow]
    split
    case isTrue hp => rw [foldl_of_isComplete hp]
    case isFalse =>
      have he : e ≠ .deadline := fun he => hd (he ▸ List.mem_cons_self ..)
      rw [if_neg he]
      exact ih (fun hm => hd (List.mem_cons_of_mem _ hm)) h

/-- Without a fault the text is the result. -/
theorem result_of_fault_none (h : c.fault = none) : c.result = .ok c.text := by
  rw [Capture.result, h]

/-- With a fault it is the fault. -/
theorem result_of_fault (h : c.fault ≠ none) : ∃ fault, c.result = .error fault := by
  obtain ⟨fault, hf⟩ := Option.ne_none_iff_exists'.mp h
  exact ⟨fault, by rw [Capture.result, hf]⟩

/-- A program that closes both its streams and ends in time leaves an invocation, unless what it has written
to one of them is no text. -/
theorem ofEvents_completes {seen : List Event} {ending : Ending} (h : Completes seen ending) :
    (IsText (written .stdout seen) ∧ IsText (written .stderr seen) →
      ∃ out err, ofEvents seen = .finished ⟨ending, out, err⟩) ∧
    (¬ (IsText (written .stdout seen) ∧ IsText (written .stderr seen)) →
      ∃ reason, ofEvents seen = .faulty reason) := by
  obtain ⟨before, after, rfl, hd, hout, herr, hend⟩ := h
  -- After the events of `before` both captures have ended and the end of the program is known.
  have hp : ∀ stream, .closed stream ∈ before → (before.foldl Progress.step {}).capture stream =
      (({} : Capture).feed (written stream before)).finish := by
    intro stream hc
    rw [capture_foldl, foldl_of_closed hc]
    cases stream <;> rfl
  have hpout : (before.foldl Progress.step {}).stdout = _ := hp .stdout hout
  have hperr : (before.foldl Progress.step {}).stderr = _ := hp .stderr herr
  have hpend : (before.foldl Progress.step {}).ending = some (.ok ending) := by
    rw [ending_foldl, hend]
    rfl
  have hcomplete : (before.foldl Progress.step {}).isComplete = true := by
    rw [Progress.isComplete, hpout, hperr, hpend, Capture.isDone_finish, Capture.isDone_finish]
    rfl
  have hv : ofEvents (before ++ after) = conclude (before.foldl Progress.step {}) := follow_complete hd hcomplete after
  rw [hv, conclude, hpout, hperr, hpend, written_append hout, written_append herr, Text.Utf8.isText_iff,
    Text.Utf8.isText_iff, ← Capture.fault_none_iff, ← Capture.fault_none_iff]
  constructor
  · rintro ⟨hfo, hfe⟩
    rw [result_of_fault_none hfo, result_of_fault_none hfe]
    exact ⟨_, _, rfl⟩
  · intro hbad
    -- The output is looked at first, and a fault in it hides one in the errors.
    by_cases hfo : (({} : Capture).feed (written .stdout before)).finish.fault = none
    · obtain ⟨fault, hfe⟩ := result_of_fault fun hfe => hbad ⟨hfo, hfe⟩
      rw [result_of_fault_none hfo, hfe]
      exact ⟨_, rfl⟩
    · obtain ⟨fault, hfo⟩ := result_of_fault hfo
      rw [hfo]
      exact ⟨_, rfl⟩

/-- Only a client whose exit was seen is finished. -/
theorem conclude_finished {i : Invocation} (h : conclude p = .finished i) : p.ending = some (.ok i.ending) := by
  unfold conclude at h
  split at h
  case h_4 hend =>
    cases h
    exact hend
  all_goals cases h

/-- The exit was seen before, or is among the events. -/
theorem follow_finished {i : Invocation} (h : follow p es = .finished i) :
    p.ending = some (.ok i.ending) ∨ .exited i.ending ∈ es := by
  induction es generalizing p with
  | nil =>
    rw [follow] at h
    split at h
    case isTrue => exact Or.inl (conclude_finished h)
    case isFalse => cases h
  | cons e es ih =>
    rw [follow] at h
    split at h
    case isTrue => exact Or.inl (conclude_finished h)
    case isFalse =>
      split at h
      case isTrue => cases h
      case isFalse =>
        -- The first end of the program counts: it is in the run already, or the event brings it.
        rcases ih h with hp | hm
        · have hfold := ending_foldl p [e]
          rw [List.foldl_cons, List.foldl_nil, hp] at hfold
          cases hq : p.ending with
          | some how =>
            rw [hq] at hfold
            exact Or.inl hfold.symm
          | none =>
            rw [hq] at hfold
            cases e with
            | exited ending =>
              cases hfold
              exact Or.inr (List.mem_cons_self ..)
            | _ => cases hfold
        · exact Or.inr (List.mem_cons_of_mem _ hm)

/-- An invocation shows how its program has ended. -/
theorem finished_end {i : Invocation} {seen : List Event} (h : ofEvents seen = .finished i) : .exited i.ending ∈ seen := by
  rcases follow_finished h with hp | hm
  · cases hp
  · exact hm

end Shakedown.Invocation

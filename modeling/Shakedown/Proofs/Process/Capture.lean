import Shakedown.Process.Capture
import Shakedown.Proofs.Text.Utf8

/-!
# What a capture accepts

A capture reads its bytes line by line, and yet it comes to no fault exactly if the bytes as a whole are
well formed (`fault_none_iff`): a line end is ASCII, so no character reaches over it.
-/

namespace Shakedown.Capture

open Text.Utf8 (WellFormed decode)

variable {c : Capture}

@[simp] theorem feed_nil (c : Capture) : c.feed [] = c := rfl

@[simp] theorem feed_cons (c : Capture) (b : UInt8) (bytes : List UInt8) :
    c.feed (b :: bytes) = (c.feedByte b).feed bytes := rfl

theorem feed_append (c : Capture) (bytes bytes' : List UInt8) : c.feed (bytes ++ bytes') = (c.feed bytes).feed bytes' :=
  List.foldl_append ..

/-- A capture that is done takes no more bytes. -/
theorem feed_of_isDone (h : c.isDone = true) (bytes : List UInt8) : c.feed bytes = c := by
  induction bytes with
  | nil => rfl
  | cons b bytes ih =>
    have hd : (c.fault.isSome || c.ended) = true := by rwa [isDone, Bool.or_comm] at h
    rw [feed_cons, feedByte, if_pos hd, ih]

theorem finish_of_isDone (h : c.isDone = true) : c.finish = c := by
  have hd : (c.fault.isSome || c.ended) = true := by rwa [isDone, Bool.or_comm] at h
  rw [finish, if_pos hd]

/-- A capture is done once its stream has ended. -/
theorem isDone_finish (c : Capture) : c.finish.isDone = true := by
  unfold finish
  split
  case isTrue h => rwa [isDone, Bool.or_comm]
  case isFalse =>
    split
    · rfl
    · rfl

theorem addLine_ok {bytes : List UInt8} {line : String} (h : decode bytes = .ok line) :
    c.addLine bytes = { c with linesRev := line :: c.linesRev, pendingRev := [] } := by
  rw [addLine, h]

theorem addLine_error {bytes : List UInt8} {fault : Text.Utf8.Fault} (h : decode bytes = .error fault) :
    c.addLine bytes = { c with fault := some fault, pendingRev := [] } := by
  rw [addLine, h]

/-- A line is taken without a fault if it is well formed. -/
theorem addLine_fault_none (hf : c.fault = none) (bytes : List UInt8) :
    (c.addLine bytes).fault = none ↔ WellFormed bytes := by
  rw [← Text.Utf8.decode_ok_iff]
  cases hd : decode bytes with
  | ok line => simp [addLine_ok hd, hf]
  | error fault => simp [addLine_error hd]

/-- Without its carriage return a line is well formed if it is so with it. -/
theorem wellFormed_withoutReturn (rev : List UInt8) :
    WellFormed (withoutReturn rev).reverse ↔ WellFormed rev.reverse := by
  unfold withoutReturn
  split
  case h_1 rev =>
    rw [List.reverse_cons, Text.Utf8.wellFormed_append_ascii (by decide)]
    exact ⟨fun h => ⟨h, .nil⟩, And.left⟩
  case h_2 => rfl

/-- A capture that has taken an unfinished line and takes more bytes to the end of its stream comes to no
fault if the line and the bytes are well formed together. -/
theorem fault_none_iff_from (hf : c.fault = none) (he : c.ended = false) (bytes : List UInt8) :
    (c.feed bytes).finish.fault = none ↔ WellFormed (c.pendingRev.reverse ++ bytes) := by
  -- The pending line grows at its end while the bytes to come shrink, so their concatenation is what stays.
  induction bytes generalizing c with
  | nil =>
    rw [feed_nil, finish, if_neg (by simp [hf, he]), List.append_nil]
    cases hp : c.pendingRev with
    | nil => simpa [hf] using WellFormed.nil
    | cons b rev => exact addLine_fault_none hf _
  | cons b bytes ih =>
    rw [feed_cons, feedByte, if_neg (by simp [hf, he])]
    split
    case isTrue hb =>
      -- At a line end the pending line stands or falls by itself.
      subst hb
      rw [Text.Utf8.wellFormed_append_ascii (by decide), ← wellFormed_withoutReturn, ← Text.Utf8.decode_ok_iff]
      cases hd : decode (withoutReturn c.pendingRev).reverse with
      | ok line =>
        rw [addLine_ok hd]
        exact (ih (c := { c with linesRev := line :: c.linesRev, pendingRev := [] }) hf he).trans (by simp)
      | error fault =>
        have hdone : ({ c with fault := some fault, pendingRev := [] } : Capture).isDone = true := by simp [isDone]
        rw [addLine_error hd, feed_of_isDone hdone, finish_of_isDone hdone]
        simp
    case isFalse => exact (ih (c := { c with pendingRev := b :: c.pendingRev }) hf he).trans (by simp)

/-- A capture of a whole stream comes to no fault if its bytes are well formed. -/
theorem fault_none_iff (bytes : List UInt8) : (({} : Capture).feed bytes).finish.fault = none ↔ WellFormed bytes :=
  fault_none_iff_from rfl rfl bytes

-- A line is decoded without its end, so a character that a line feed cuts short is incomplete.
example : (({} : Capture).feed [0xE2, 0x82, 10]).finish.fault = some ⟨0, none⟩ := by decide +kernel

end Shakedown.Capture

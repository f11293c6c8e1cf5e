import Shakedown.Text.Utf8

/-!
# Capturing a stream of lines

A capture takes the bytes of a stream one by one and keeps its complete lines. A line ends at a line
feed, and one carriage return right before it belongs to the line end; what follows the last line
feed is a line too. A line is decoded without its end, so a sequence that the line feed cuts short is
incomplete; the first line that is no valid UTF-8 ends the capture with a fault.
-/

namespace Shakedown

/-- What has been captured of a stream: its lines, last first, the bytes of the unfinished line,
last first, the fault that ended the capture, and whether the stream has ended. -/
structure Capture where
  linesRev : List String := []
  pendingRev : List UInt8 := []
  fault : Option Text.Utf8.Fault := none
  ended : Bool := false
deriving DecidableEq, Repr

namespace Capture

/-- The bytes of a line that a line feed ends, last first, without the carriage return before that. -/
def withoutReturn : List UInt8 → List UInt8
  | 13 :: rev => rev
  | rev => rev

/-- The capture with a line added, if its bytes are valid. -/
def addLine (c : Capture) (bytes : List UInt8) : Capture :=
  match Text.Utf8.decode bytes with
  | .ok line => { c with linesRev := line :: c.linesRev, pendingRev := [] }
  | .error fault => { c with fault := some fault, pendingRev := [] }

/-- One more byte of the stream. -/
def feedByte (c : Capture) (b : UInt8) : Capture :=
  if c.fault.isSome || c.ended then c
  -- The line feed is not decoded with its line, and neither is the carriage return before it.
  else if b = 10 then c.addLine (withoutReturn c.pendingRev).reverse
  else { c with pendingRev := b :: c.pendingRev }

/-- More bytes of the stream. -/
def feed (c : Capture) (bytes : List UInt8) : Capture := bytes.foldl feedByte c

/-- The stream ends. -/
def finish (c : Capture) : Capture :=
  if c.fault.isSome || c.ended then c
  else if c.pendingRev.isEmpty then { c with ended := true }
  else { c.addLine c.pendingRev.reverse with ended := true }

/-- Whether no more bytes are taken. -/
def isDone (c : Capture) : Bool := c.ended || c.fault.isSome

/-- The complete lines in order. -/
def lines (c : Capture) : List String := c.linesRev.reverse

/-- The captured text: every line with a line feed. -/
def text (c : Capture) : String := String.join (c.lines.map fun line => line ++ "\n")

/-- The captured text, or the fault that ended the capture. -/
def result (c : Capture) : Except Text.Utf8.Fault String :=
  match c.fault with
  | some fault => .error fault
  | none => .ok c.text

end Capture
end Shakedown

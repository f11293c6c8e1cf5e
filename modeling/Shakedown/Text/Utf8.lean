/-!
# UTF-8

Bytes and characters. `Utf8.decode` accepts well-formed sequences only and says where a text stops
being one; `Utf8.decodeLossy` puts the replacement character in place of each ill-formed piece.
-/

namespace Shakedown.Text

/-- Where bytes stop being UTF-8: the offset of the faulty piece and its length, or no length if
the bytes end inside a sequence that was well formed so far. -/
structure Utf8.Fault where
  offset : Nat
  length : Option Nat
deriving DecidableEq, Repr

/-- What starts at a byte: a character with the number of bytes that follow its first, or a
faulty piece. -/
inductive Utf8.Head where
  | char (c : Char) (more : Nat)
  | faulty (length : Option Nat)
deriving DecidableEq, Repr

namespace Utf8

/-- Continuation bytes. -/
def isTail (b : UInt8) : Bool := 0x80 ≤ b && b ≤ 0xBF

/-- The range of the second byte after a given first byte of a longer sequence. -/
def secondRange (b : UInt8) : UInt8 × UInt8 :=
  if b == 0xE0 then (0xA0, 0xBF)
  else if b == 0xED then (0x80, 0x9F)
  else if b == 0xF0 then (0x90, 0xBF)
  else if b == 0xF4 then (0x80, 0x8F)
  else (0x80, 0xBF)

/-- The number of continuation bytes that a first byte announces; none for a byte that starts no
sequence. -/
def tailCount (b : UInt8) : Option Nat :=
  if b < 0x80 then some 0
  else if 0xC2 ≤ b && b ≤ 0xDF then some 1
  else if 0xE0 ≤ b && b ≤ 0xEF then some 2
  else if 0xF0 ≤ b && b ≤ 0xF4 then some 3
  else none

/-- The continuation bytes `k` to the last of a sequence with the payload `value` so far. -/
def tails (value : Nat) (more : Nat) : Nat → Nat → List UInt8 → Head
  | 0, _, _ => .char (Char.ofNat value) more
  | _ + 1, _, [] => .faulty none
  | left + 1, seen, b :: rest =>
    if isTail b then tails (value * 64 + (b.toNat - 0x80)) more left (seen + 1) rest
    else .faulty (some seen)

/-- What starts at the byte `b`, given the bytes after it. -/
def head (b : UInt8) (rest : List UInt8) : Head :=
  match tailCount b with
  | none => .faulty (some 1)
  | some 0 => .char (Char.ofNat b.toNat) 0
  | some (more + 1) =>
    match rest with
    | [] => .faulty none
    | s :: rest =>
      let payload := if more = 0 then b.toNat - 0xC0 else if more = 1 then b.toNat - 0xE0 else b.toNat - 0xF0
      if (secondRange b).1 ≤ s && s ≤ (secondRange b).2 then
        tails (payload * 64 + (s.toNat - 0x80)) (more + 1) more 2 rest
      else .faulty (some 1)

/-- The characters of bytes whose first stands at `offset`. -/
def decodeFrom (offset : Nat) : List UInt8 → Except Fault (List Char)
  | [] => .ok []
  | b :: rest =>
    match head b rest with
    | .char c more => (decodeFrom (offset + more + 1) (rest.drop more)).map (c :: ·)
    | .faulty length => .error ⟨offset, length⟩
termination_by bytes => bytes.length
decreasing_by simp only [List.length_drop, List.length_cons]; omega

/-- The text of well-formed bytes. -/
def decode (bytes : List UInt8) : Except Fault String := (decodeFrom 0 bytes).map String.ofList

/-- The characters of any bytes, with U+FFFD for each faulty piece. -/
def decodeLossyChars : List UInt8 → List Char
  | [] => []
  | b :: rest =>
    match head b rest with
    | .char c more => c :: decodeLossyChars (rest.drop more)
    | .faulty (some length) => '\uFFFD' :: decodeLossyChars (rest.drop (length - 1))
    | .faulty none => ['\uFFFD']
termination_by bytes => bytes.length
decreasing_by all_goals simp only [List.length_drop, List.length_cons]; omega

/-- The text of any bytes, with U+FFFD for each faulty piece. -/
def decodeLossy (bytes : List UInt8) : String := String.ofList (decodeLossyChars bytes)

/-- The bytes of a text. -/
def encode (s : String) : List UInt8 := s.toUTF8.data.toList

/-- The fault of a line or file in words. -/
def Fault.message (f : Fault) : String :=
  match f.length with
  | some n => s!"invalid utf-8 sequence of {n} bytes from index {f.offset}"
  | none => s!"incomplete utf-8 byte sequence from index {f.offset}"

end Utf8
end Shakedown.Text

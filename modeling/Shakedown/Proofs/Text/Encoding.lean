import Shakedown.Proofs.Text.Utf8

/-!
# The decoder and the encoding of texts

`Utf8.decode` undoes the encoding of texts and accepts nothing else (`decode_eq_iff`). Both are compared with
`Encoded`, the table of the byte sequences that stand for a character: the decoder reads off exactly the
sequences of the table, and each character is encoded by the one sequence that stands for its number.
-/

namespace Shakedown.Text.Utf8

/-- The bytes that stand for a character, and its number. -/
inductive Encoded : List UInt8 → Nat → Prop
  | one (b : UInt8) (hb : b.toNat < 0x80) : Encoded [b] b.toNat
  | two (b s : UInt8) (hb : 0xC2 ≤ b.toNat ∧ b.toNat ≤ 0xDF) (hs : 0x80 ≤ s.toNat ∧ s.toNat ≤ 0xBF) :
      Encoded [b, s] ((b.toNat - 0xC0) * 64 + (s.toNat - 0x80))
  | three (b s t : UInt8) (hb : 0xE0 ≤ b.toNat ∧ b.toNat ≤ 0xEF) (hs : 0x80 ≤ s.toNat ∧ s.toNat ≤ 0xBF)
      (low : b.toNat = 0xE0 → 0xA0 ≤ s.toNat) (high : b.toNat = 0xED → s.toNat ≤ 0x9F)
      (ht : 0x80 ≤ t.toNat ∧ t.toNat ≤ 0xBF) :
      Encoded [b, s, t] (((b.toNat - 0xE0) * 64 + (s.toNat - 0x80)) * 64 + (t.toNat - 0x80))
  | four (b s t u : UInt8) (hb : 0xF0 ≤ b.toNat ∧ b.toNat ≤ 0xF4) (hs : 0x80 ≤ s.toNat ∧ s.toNat ≤ 0xBF)
      (low : b.toNat = 0xF0 → 0x90 ≤ s.toNat) (high : b.toNat = 0xF4 → s.toNat ≤ 0x8F)
      (ht : 0x80 ≤ t.toNat ∧ t.toNat ≤ 0xBF) (hu : 0x80 ≤ u.toNat ∧ u.toNat ≤ 0xBF) :
      Encoded [b, s, t, u]
        ((((b.toNat - 0xF0) * 64 + (s.toNat - 0x80)) * 64 + (t.toNat - 0x80)) * 64 + (u.toNat - 0x80))

theorem isTail_iff {b : UInt8} : isTail b = true ↔ 0x80 ≤ b.toNat ∧ b.toNat ≤ 0xBF := by
  simp [isTail, UInt8.le_iff_toNat_le]

/-- After some leading bytes the second byte has fewer values, so that no character is written too long, in halves, or
beyond the last one. -/
theorem second_iff {b s : UInt8} :
    (secondRange b).1 ≤ s ∧ s ≤ (secondRange b).2 ↔
      (0x80 ≤ s.toNat ∧ s.toNat ≤ 0xBF) ∧ (b.toNat = 0xE0 → 0xA0 ≤ s.toNat) ∧ (b.toNat = 0xED → s.toNat ≤ 0x9F) ∧
        (b.toNat = 0xF0 → 0x90 ≤ s.toNat) ∧ (b.toNat = 0xF4 → s.toNat ≤ 0x8F) := by
  simp only [secondRange, beq_iff_eq, ← UInt8.toNat_inj, UInt8.le_iff_toNat_le]
  repeat' split
  all_goals
    simp at *
    omega

/-- The leading byte tells how many bytes follow. -/
theorem tailCount_eq (b : UInt8) : tailCount b =
    if b.toNat < 0x80 then some 0 else if 0xC2 ≤ b.toNat ∧ b.toNat ≤ 0xDF then some 1
    else if 0xE0 ≤ b.toNat ∧ b.toNat ≤ 0xEF then some 2 else if 0xF0 ≤ b.toNat ∧ b.toNat ≤ 0xF4 then some 3 else none := by
  simp [tailCount, UInt8.le_iff_toNat_le, UInt8.lt_iff_toNat_lt]

/-- The decoder reads a character off its bytes. -/
theorem head_of_encoded {b : UInt8} {tail : List UInt8} {n : Nat} (h : Encoded (b :: tail) n) (rest : List UInt8) :
    head b (tail ++ rest) = .char (Char.ofNat n) tail.length := by
  cases h with
  | one b hb => simp [head, tailCount_eq, hb]
  | two b s hb hs =>
    have hc : tailCount b = some 1 := by rw [tailCount_eq, if_neg (by omega), if_pos hb]
    have hr := (second_iff (b := b)).mpr ⟨hs, by omega, by omega, by omega, by omega⟩
    simp [head, hc, hr, tails]
  | three b s t hb hs low high ht =>
    have hc : tailCount b = some 2 := by rw [tailCount_eq, if_neg (by omega), if_neg (by omega), if_pos hb]
    have hr := (second_iff (b := b)).mpr ⟨hs, low, high, by omega, by omega⟩
    simp [head, hc, hr, tails, isTail_iff, ht]
  | four b s t u hb hs low high ht hu =>
    have hc : tailCount b = some 3 := by
      rw [tailCount_eq, if_neg (by omega), if_neg (by omega), if_neg (by omega), if_pos hb]
    have hr := (second_iff (b := b)).mpr ⟨hs, by omega, by omega, low, high⟩
    simp [head, hc, hr, tails, isTail_iff, ht, hu]

/-- A character that is not complete goes on with a tail byte. -/
theorem tails_succ_inv {value more left seen k : Nat} {bytes : List UInt8} {c : Char}
    (h : tails value more (left + 1) seen bytes = .char c k) :
    ∃ t others, bytes = t :: others ∧ (0x80 ≤ t.toNat ∧ t.toNat ≤ 0xBF) ∧
      tails (value * 64 + (t.toNat - 0x80)) more left (seen + 1) others = .char c k := by
  cases bytes with
  | nil => cases h
  | cons t others =>
    rw [tails] at h
    split at h
    case isTrue ht => exact ⟨t, others, rfl, isTail_iff.mp ht, h⟩
    case isFalse => cases h

/-- A character of several bytes goes on with a second byte in its range. -/
theorem head_long_inv {b : UInt8} {rest : List UInt8} {c : Char} {more k : Nat} (hc : tailCount b = some (more + 1))
    (h : head b rest = .char c k) :
    ∃ s others, rest = s :: others ∧ ((secondRange b).1 ≤ s ∧ s ≤ (secondRange b).2) ∧
      tails ((if more = 0 then b.toNat - 0xC0 else if more = 1 then b.toNat - 0xE0 else b.toNat - 0xF0) * 64 +
        (s.toNat - 0x80)) (more + 1) more 2 others = .char c k := by
  rw [head, hc] at h
  cases rest with
  | nil => cases h
  | cons s others =>
    dsimp only at h
    split at h
    case isTrue hr => exact ⟨s, others, rfl, by simpa using hr, h⟩
    case isFalse => cases h

/-- What the decoder reads off are the bytes of a character. -/
theorem encoded_of_head {b : UInt8} {rest : List UInt8} {c : Char} {more : Nat} (h : head b rest = .char c more) :
    ∃ tail n, Encoded (b :: tail) n ∧ c = Char.ofNat n ∧ rest = tail ++ rest.drop more ∧ tail.length = more := by
  have hcount := tailCount_eq b
  -- The range of the first byte tells how many bytes follow it.
  by_cases h₀ : b.toNat < 0x80
  · rw [if_pos h₀] at hcount
    rw [head, hcount] at h
    cases h
    exact ⟨[], _, .one b h₀, rfl, rfl, rfl⟩
  by_cases h₁ : 0xC2 ≤ b.toNat ∧ b.toNat ≤ 0xDF
  · rw [if_neg h₀, if_pos h₁] at hcount
    obtain ⟨s, others, rfl, hr, h⟩ := head_long_inv hcount h
    simp only [tails, Head.char.injEq, reduceIte] at h
    obtain ⟨rfl, rfl⟩ := h
    exact ⟨[s], _, .two b s h₁ (second_iff.mp hr).1, rfl, rfl, rfl⟩
  by_cases h₂ : 0xE0 ≤ b.toNat ∧ b.toNat ≤ 0xEF
  · rw [if_neg h₀, if_neg h₁, if_pos h₂] at hcount
    obtain ⟨s, others, rfl, hr, h⟩ := head_long_inv hcount h
    obtain ⟨t, others, rfl, ht, h⟩ := tails_succ_inv h
    simp only [tails, Head.char.injEq, reduceIte, Nat.one_ne_zero] at h
    obtain ⟨rfl, rfl⟩ := h
    obtain ⟨hs, low, high, -, -⟩ := second_iff.mp hr
    exact ⟨[s, t], _, .three b s t h₂ hs low high ht, rfl, rfl, rfl⟩
  by_cases h₃ : 0xF0 ≤ b.toNat ∧ b.toNat ≤ 0xF4
  · rw [if_neg h₀, if_neg h₁, if_neg h₂, if_pos h₃] at hcount
    obtain ⟨s, others, rfl, hr, h⟩ := head_long_inv hcount h
    obtain ⟨t, others, rfl, ht, h⟩ := tails_succ_inv h
    obtain ⟨u, others, rfl, hu, h⟩ := tails_succ_inv h
    simp only [tails, Head.char.injEq, reduceIte, Nat.reduceEqDiff] at h
    obtain ⟨rfl, rfl⟩ := h
    obtain ⟨hs, -, -, low, high⟩ := second_iff.mp hr
    exact ⟨[s, t, u], _, .four b s t u h₃ hs low high ht hu, rfl, rfl, rfl⟩
  · rw [if_neg h₀, if_neg h₁, if_neg h₂, if_neg h₃] at hcount
    rw [head, hcount] at h
    cases h

/-- The bytes of a character stand for its number. -/
theorem encoded_char (c : Char) : Encoded (String.utf8EncodeChar c) c.toNat := by
  have valid : c.toNat < 0xD800 ∨ 0xDFFF < c.toNat ∧ c.toNat < 0x110000 := c.valid
  have byte : ∀ n, n < 256 → (UInt8.ofNat n).toNat = n := fun n h => UInt8.toNat_ofNat_of_lt' h
  have number : ∀ {bytes n}, Encoded bytes n → n = c.toNat → Encoded bytes c.toNat := fun h hn => hn ▸ h
  -- The bytes hold the digits of the number to base 64, and the first byte the leading digit as well.
  unfold String.utf8EncodeChar
  dsimp only
  rw [show c.val.toNat = c.toNat from rfl]
  split
  · refine number (.one _ ?_) ?_
    all_goals rw [byte _ (by omega)]
    omega
  split
  · refine number (.two _ _ ?_ ?_) ?_
    all_goals simp only [byte (c.toNat / 64 % 0x20 + 0xc0) (by omega), byte (c.toNat % 0x40 + 0x80) (by omega)]
    all_goals omega
  split
  · refine number (.three _ _ _ ?_ ?_ ?_ ?_ ?_) ?_
    all_goals simp only [byte (c.toNat / 4096 % 0x10 + 0xe0) (by omega), byte (c.toNat / 64 % 0x40 + 0x80) (by omega),
      byte (c.toNat % 0x40 + 0x80) (by omega)]
    all_goals omega
  · refine number (.four _ _ _ _ ?_ ?_ ?_ ?_ ?_ ?_) ?_
    all_goals simp only [byte (c.toNat / 262144 % 0x08 + 0xf0) (by omega), byte (c.toNat / 4096 % 0x40 + 0x80) (by omega),
      byte (c.toNat / 64 % 0x40 + 0x80) (by omega), byte (c.toNat % 0x40 + 0x80) (by omega)]
    all_goals omega

/-- No number has two encodings. -/
theorem Encoded.unique {bytes bytes' : List UInt8} {n n' : Nat} (h : Encoded bytes n) (h' : Encoded bytes' n')
    (hn : n = n') : bytes = bytes' := by
  -- Sequences of different lengths stand for different ranges; in one length each byte is a digit.
  cases h <;> cases h'
  case one.one => simp only [List.cons.injEq, and_true, ← UInt8.toNat_inj]; omega
  case two.two => simp only [List.cons.injEq, and_true, ← UInt8.toNat_inj]; omega
  case three.three => simp only [List.cons.injEq, and_true, ← UInt8.toNat_inj]; omega
  case four.four => simp only [List.cons.injEq, and_true, ← UInt8.toNat_inj]; omega
  all_goals omega

/-- The bytes that encode a number are those of its character. -/
theorem encode_of_encoded {bytes : List UInt8} {n : Nat} (h : Encoded bytes n) :
    String.utf8EncodeChar (Char.ofNat n) = bytes := by
  have valid : n.isValidChar := by
    cases h
    all_goals
      rw [Nat.isValidChar]
      omega
  have number : (Char.ofNat n).toNat = n := by
    rw [Char.ofNat, dif_pos valid]
    rfl
  exact (encoded_char (Char.ofNat n)).unique h number

/-! ## Texts -/

/-- The bytes of a text are those of its characters in turn. -/
theorem encode_ofList (cs : List Char) : encode (String.ofList cs) = cs.flatMap String.utf8EncodeChar := by
  rw [encode, String.toUTF8_eq_toByteArray, String.toByteArray_ofList]
  exact List.toList_data_toByteArray

/-- The decoder takes bytes for the characters whose encodings they are. -/
theorem decodeFrom_eq_iff {offset : Nat} {bytes : List UInt8} {cs : List Char} :
    decodeFrom offset bytes = .ok cs ↔ cs.flatMap String.utf8EncodeChar = bytes := by
  constructor
  · intro h
    induction offset, bytes using decodeFrom.induct generalizing cs with
    | case1 offset =>
      rw [decodeFrom] at h
      cases h
      rfl
    | case2 offset b rest c more hh ih =>
      rw [decodeFrom_char hh] at h
      cases hd : decodeFrom (offset + more + 1) (rest.drop more) with
      | error f =>
        rw [hd] at h
        cases h
      | ok others =>
        rw [hd] at h
        cases h
        -- A character that was decoded was encoded by the bytes that were taken for it.
        obtain ⟨tail, n, encoded, rfl, hrest, -⟩ := encoded_of_head hh
        rw [List.flatMap_cons, encode_of_encoded encoded, ih hd, List.cons_append, ← hrest]
    | case3 offset b rest length hh =>
      rw [decodeFrom_faulty hh] at h
      cases h
  · rintro rfl
    induction cs generalizing offset with
    | nil => rw [List.flatMap_nil, decodeFrom]
    | cons c cs ih =>
      have encoded := encoded_char c
      rw [List.flatMap_cons]
      cases hc : String.utf8EncodeChar c with
      | nil =>
        rw [hc] at encoded
        cases encoded
      | cons b tail =>
        rw [hc] at encoded
        -- And bytes that encode a character decode to it, whatever comes after them.
        have hh := head_of_encoded encoded (cs.flatMap String.utf8EncodeChar)
        rw [Char.ofNat_toNat] at hh
        rw [List.cons_append, decodeFrom_char hh, List.drop_left, ih]
        rfl

/-- The decoder undoes the encoding of texts, and accepts nothing else. -/
theorem decode_eq_iff {bytes : List UInt8} {text : String} : decode bytes = .ok text ↔ encode text = bytes := by
  have chars : decode bytes = .ok text ↔ decodeFrom 0 bytes = .ok text.toList := by
    rw [decode]
    cases decodeFrom 0 bytes with
    | error f =>
      constructor
      · intro h
        cases h
      · intro h
        cases h
    | ok cs =>
      constructor
      · intro h
        cases h
        rw [String.toList_ofList]
      · intro h
        cases h
        exact congrArg Except.ok String.ofList_toList
  rw [chars, decodeFrom_eq_iff, ← encode_ofList, String.ofList_toList]

/-- The bytes are those of a text. -/
def IsText (bytes : List UInt8) : Prop := ∃ text, encode text = bytes

/-- The bytes of a text are those that are well formed. -/
theorem isText_iff {bytes : List UInt8} : IsText bytes ↔ WellFormed bytes := by
  rw [← decode_ok_iff]
  constructor
  · rintro ⟨text, h⟩
    exact ⟨text, decode_eq_iff.mpr h⟩
  · rintro ⟨text, h⟩
    exact ⟨text, decode_eq_iff.mp h⟩

/-! ## Bytes of characters -/

/-- The bytes of characters. -/
def bytesOf (cs : List Char) : List UInt8 := cs.flatMap String.utf8EncodeChar

theorem encode_eq_bytesOf (s : String) : encode s = bytesOf s.toList := by
  rw [bytesOf, ← encode_ofList, String.ofList_toList]

/-- The bytes of some characters decode to them. -/
theorem decode_bytesOf (cs : List Char) : decode (bytesOf cs) = .ok (String.ofList cs) :=
  decode_eq_iff.mpr (encode_ofList cs)

theorem bytesOf_eq_nil_iff {cs : List Char} : bytesOf cs = [] ↔ cs = [] := by
  cases cs with
  | nil => simp [bytesOf]
  | cons x cs => simp [bytesOf]

@[simp] theorem bytesOf_append (cs ds : List Char) : bytesOf (cs ++ ds) = bytesOf cs ++ bytesOf ds :=
  List.flatMap_append

/-- The byte of an ASCII character is in the encoding of that character only. -/
theorem mem_encoding {b : UInt8} {x : Char} (hb : b < 0x80) (h : b ∈ String.utf8EncodeChar x) : x.toNat = b.toNat := by
  have encoded := encoded_char x
  generalize String.utf8EncodeChar x = bytes at encoded h
  generalize x.toNat = n at encoded ⊢
  rw [UInt8.lt_iff_toNat_lt] at hb
  cases encoded
  all_goals
    simp only [List.mem_cons, List.not_mem_nil, or_false, ← UInt8.toNat_inj] at h
    have h80 : (0x80 : UInt8).toNat = 0x80 := rfl
    omega

/-- Characters without a line feed have no byte that is one. -/
theorem lf_not_mem_bytesOf {cs : List Char} (h : '\n' ∉ cs) : 10 ∉ bytesOf cs := by
  intro hm
  obtain ⟨x, hx, hb⟩ := List.mem_flatMap.mp hm
  have hn : x.toNat = '\n'.toNat := mem_encoding (by decide) hb
  exact h (Char.toNat_inj.mp hn ▸ hx)

end Shakedown.Text.Utf8

import Shakedown.Text.Utf8

/-!
# Well-formed bytes

Which bytes `Utf8.decode` accepts: those that are characters one after the other (`decode_ok_iff`). An ASCII
byte stands for itself, so bytes around one are well formed if both sides are (`wellFormed_append_ascii`).
-/

namespace Shakedown.Text.Utf8

/-- Bytes that are characters one after the other. -/
inductive WellFormed : List UInt8 → Prop
  | nil : WellFormed []
  | char {b : UInt8} {rest : List UInt8} {c : Char} {more : Nat} (first : head b rest = .char c more)
      (others : WellFormed (rest.drop more)) : WellFormed (b :: rest)

variable {a b : UInt8} {bytes rest rest' : List UInt8} {c : Char} {k value more left seen : Nat}

/-- Bytes are well formed if they start with a character and what follows it is well formed. -/
theorem wellFormed_cons_iff :
    WellFormed (b :: rest) ↔ ∃ c more, head b rest = .char c more ∧ WellFormed (rest.drop more) := by
  constructor
  · intro h
    cases h with
    | char first others => exact ⟨_, _, first, others⟩
  · rintro ⟨c, more, first, others⟩
    exact .char first others

theorem decodeFrom_char (first : head b rest = .char c more) (offset : Nat) :
    decodeFrom offset (b :: rest) = (decodeFrom (offset + more + 1) (rest.drop more)).map (c :: ·) := by
  rw [decodeFrom, first]

theorem decodeFrom_faulty {length : Option Nat} (first : head b rest = .faulty length) (offset : Nat) :
    decodeFrom offset (b :: rest) = .error ⟨offset, length⟩ := by
  rw [decodeFrom, first]

theorem decodeFrom_ok_iff (offset : Nat) (bytes : List UInt8) :
    (∃ cs, decodeFrom offset bytes = .ok cs) ↔ WellFormed bytes := by
  -- The induction follows the decoder, which goes on after each character and stops at a fault.
  induction offset, bytes using decodeFrom.induct with
  | case1 offset => exact ⟨fun _ => .nil, fun _ => ⟨[], by rw [decodeFrom]⟩⟩
  | case2 offset b rest c more hh ih =>
    rw [decodeFrom_char hh]
    constructor
    · rintro ⟨cs, hcs⟩
      cases hd : decodeFrom (offset + more + 1) (rest.drop more) with
      | ok tail => exact .char hh (ih.mp ⟨tail, hd⟩)
      | error f =>
        rw [hd] at hcs
        cases hcs
    · intro h
      obtain ⟨c', more', hh', others⟩ := wellFormed_cons_iff.mp h
      rw [hh] at hh'
      cases hh'
      obtain ⟨tail, hd⟩ := ih.mpr others
      exact ⟨c :: tail, by rw [hd]; rfl⟩
  | case3 offset b rest length hh =>
    rw [decodeFrom_faulty hh]
    constructor
    · rintro ⟨cs, hcs⟩
      cases hcs
    · intro h
      obtain ⟨c', more', hh', -⟩ := wellFormed_cons_iff.mp h
      rw [hh] at hh'
      cases hh'

/-- Well-formed bytes are those that decode to a text. -/
theorem decode_ok_iff (bytes : List UInt8) : (∃ text, decode bytes = .ok text) ↔ WellFormed bytes := by
  rw [← decodeFrom_ok_iff 0 bytes, decode]
  cases decodeFrom 0 bytes with
  | ok cs => exact ⟨fun _ => ⟨cs, rfl⟩, fun _ => ⟨String.ofList cs, rfl⟩⟩
  | error f =>
    constructor
    · rintro ⟨text, h⟩
      cases h
    · rintro ⟨cs, h⟩
      cases h

/-! ## What a character needs -/

theorem isTail_of_ascii (ha : a < 0x80) : isTail a = false := by
  have h : ¬ (0x80 : UInt8) ≤ a := UInt8.not_le.mpr ha
  simp [isTail, h]

theorem second_of_ascii (ha : a < 0x80) (b : UInt8) : ¬ (secondRange b).1 ≤ a := by
  rw [UInt8.not_le]
  have low : (0x80 : UInt8) ≤ (secondRange b).1 := by
    unfold secondRange
    repeat' split
    all_goals decide
  exact UInt8.lt_of_lt_of_le ha low

/-- The tails of a sequence that is complete are the same whatever follows. -/
theorem tails_append (h : tails value more left seen bytes = .char c k) (others : List UInt8) :
    tails value more left seen (bytes ++ others) = .char c k ∧ left ≤ bytes.length := by
  induction left generalizing value seen bytes with
  | zero => exact ⟨h, Nat.zero_le _⟩
  | succ left ih =>
    cases bytes with
    | nil => cases h
    | cons b rest =>
      rw [tails] at h
      split at h
      case isTrue hb =>
        obtain ⟨he, hl⟩ := ih h
        refine ⟨?_, Nat.succ_le_succ hl⟩
        rw [List.cons_append, tails, if_pos hb]
        exact he
      case isFalse => cases h

/-- No tail of a sequence is an ASCII byte. -/
theorem tails_of_ascii (ha : a < 0x80) (h : tails value more left seen (bytes ++ a :: rest) = .char c k) :
    tails value more left seen bytes = .char c k := by
  induction left generalizing value seen bytes with
  | zero => exact h
  | succ left ih =>
    cases bytes with
    | nil =>
      rw [List.nil_append, tails, if_neg (by simp [isTail_of_ascii ha])] at h
      cases h
    | cons b bytes =>
      rw [List.cons_append, tails] at h
      split at h
      case isTrue hb =>
        rw [tails, if_pos hb]
        exact ih h
      case isFalse => cases h

theorem tails_more (h : tails value more left seen bytes = .char c k) : k = more := by
  induction left generalizing value seen bytes with
  | zero =>
    cases h
    rfl
  | succ left ih =>
    cases bytes with
    | nil => cases h
    | cons b rest =>
      rw [tails] at h
      split at h
      case isTrue => exact ih h
      case isFalse => cases h

/-- A character is the same whatever follows it. -/
theorem head_append (h : head b rest = .char c more) (others : List UInt8) :
    head b (rest ++ others) = .char c more ∧ more ≤ rest.length := by
  unfold head at h ⊢
  cases hn : tailCount b with
  | none =>
    simp only [hn] at h
    cases h
  | some n =>
    cases n with
    | zero =>
      simp only [hn] at h ⊢
      cases h
      exact ⟨rfl, Nat.zero_le _⟩
    | succ n =>
      -- A tail that is there stays where it is, whatever comes behind it.
      cases rest with
      | nil =>
        simp only [hn] at h
        cases h
      | cons s rest =>
        simp only [hn, List.cons_append] at h ⊢
        split at h
        case isTrue hs =>
          obtain ⟨he, hl⟩ := tails_append h others
          refine ⟨?_, ?_⟩
          · rw [if_pos hs]
            exact he
          · rw [tails_more h]
            exact Nat.succ_le_succ hl
        case isFalse => cases h

/-- A character that stands before an ASCII byte does not reach over it. -/
theorem head_of_ascii (ha : a < 0x80) (h : head b (rest ++ a :: rest') = .char c more) :
    head b rest = .char c more := by
  unfold head at h ⊢
  cases hn : tailCount b with
  | none =>
    simp only [hn] at h
    cases h
  | some n =>
    cases n with
    | zero =>
      simp only [hn] at h ⊢
      exact h
    | succ n =>
      cases rest with
      | nil =>
        simp only [hn, List.nil_append] at h
        split at h
        case isTrue hs =>
          simp only [Bool.and_eq_true, decide_eq_true_eq] at hs
          exact absurd hs.1 (second_of_ascii ha b)
        case isFalse => cases h
      | cons s rest =>
        simp only [hn, List.cons_append] at h ⊢
        split at h
        case isTrue hs =>
          rw [if_pos hs]
          exact tails_of_ascii ha h
        case isFalse => cases h

theorem head_ascii (ha : a < 0x80) (rest : List UInt8) : head a rest = .char (Char.ofNat a.toNat) 0 := by
  simp [head, tailCount, ha]

theorem wellFormed_ascii_cons (ha : a < 0x80) : WellFormed (a :: rest) ↔ WellFormed rest := by
  rw [wellFormed_cons_iff, head_ascii ha]
  constructor
  · rintro ⟨c, more, h, others⟩
    cases h
    exact others
  · intro h
    exact ⟨_, 0, rfl, h⟩

/-- Bytes around an ASCII byte are well formed if both sides are. -/
theorem wellFormed_append_ascii (ha : a < 0x80) :
    WellFormed (bytes ++ a :: rest) ↔ WellFormed bytes ∧ WellFormed rest := by
  constructor
  · intro h
    generalize hall : bytes ++ a :: rest = all at h
    -- The induction is on the characters of the whole, the first of which lies in the left part or is `a` itself.
    induction h generalizing bytes with
    | nil => simp at hall
    | @char b tail c more first others ih =>
      cases bytes with
      | nil =>
        cases hall
        rw [head_ascii ha] at first
        cases first
        exact ⟨.nil, others⟩
      | cons b' bytes =>
        rw [List.cons_append, List.cons.injEq] at hall
        obtain ⟨rfl, rfl⟩ := hall
        have first' := head_of_ascii ha first
        have hl := (head_append first' []).2
        rw [List.drop_append_of_le_length hl] at ih
        obtain ⟨hb, hr⟩ := ih rfl
        exact ⟨.char first' hb, hr⟩
  · rintro ⟨hb, hr⟩
    induction hb with
    | nil => exact (wellFormed_ascii_cons ha).mpr hr
    | char first others ih =>
      obtain ⟨first', hl⟩ := head_append first (a :: rest)
      rw [← List.drop_append_of_le_length hl] at ih
      exact .char first' ih

end Shakedown.Text.Utf8

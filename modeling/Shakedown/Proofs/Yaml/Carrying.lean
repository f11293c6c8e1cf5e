import Shakedown.Yaml.Decode

/-!
# Decoding two documents

What is decoded from a document depends on the count of followed references only through the limit on it. `Yields`
says what a computation comes to while that limit is not reached, and `Carries` that what one computation comes to in
one document carries over, through a function of the value, to another computation in another document. Both are
closed under the ways in which decoders are put together, so that a decoder is compared with itself on an edited
document piece by piece.
-/

namespace Shakedown.Yaml

/-- How often references may be followed in a document. -/
def Document.limit (d : Document) : Nat := (d.root.map Node.size).getD 1 * 100

variable {α β γ δ : Type} {d d' : Document} {f : α → β} {g : γ → δ} {x : DecodeM α} {y : DecodeM β} {a : α} {b : β}
  {k k' : Nat}

/-! ## What a computation comes to -/

/-- The computation comes to a value and follows `k` references for it, as long as the limit allows them. -/
def Yields (d : Document) (x : DecodeM α) (a : α) (k : Nat) : Prop := ∀ c, c + k ≤ d.limit → x d c = .ok (a, c + k)

/-- A value at hand is yielded without following a reference. -/
theorem Yields.pure (d : Document) (a : α) : Yields d (Pure.pure a) a 0 := fun _ _ => rfl

theorem DecodeM.bind_apply (x : DecodeM α) (h : α → DecodeM γ) (d : Document) (c : Nat) :
    (x >>= h) d c = x d c >>= fun r => h r.1 d r.2 := rfl

/-- Two decoders in turn succeed if both do, and the second counts on from the first. -/
theorem DecodeM.bind_ok_iff {h : α → DecodeM γ} {e : γ} {c c' : Nat} :
    (x >>= h) d c = .ok (e, c') ↔ ∃ a c₁, x d c = .ok (a, c₁) ∧ h a d c₁ = .ok (e, c') := by
  rw [DecodeM.bind_apply]
  cases x d c with
  | error p => exact iff_of_false (fun h => nomatch h) fun ⟨_, _, h, _⟩ => nomatch h
  | ok r => exact ⟨fun h => ⟨r.1, r.2, rfl, h⟩, fun ⟨_, _, h, h'⟩ => by cases h; exact h'⟩

/-- The references that two decoders follow add up. -/
theorem Yields.bind {h : α → DecodeM γ} {e : γ} (hx : Yields d x a k) (hh : Yields d (h a) e k') :
    Yields d (x >>= h) e (k + k') := by
  intro c hc
  rw [← Nat.add_assoc] at hc ⊢
  exact DecodeM.bind_ok_iff.mpr ⟨a, c + k, hx c (Nat.le_of_add_right_le hc), hh (c + k) hc⟩

theorem Yields.map {h : α → γ} (hx : Yields d x a k) : Yields d (h <$> x) (h a) k := by
  rw [← bind_pure_comp, ← Nat.add_zero k]
  exact hx.bind (Yields.pure d (h a))

/-- A place is given to a fault only: what succeeds is not changed. -/
theorem located_ok_iff {trail : Trail} {mark : Mark} {c c' : Nat} :
    Decode.located trail mark x d c = .ok (a, c') ↔ x d c = .ok (a, c') := by
  unfold Decode.located
  cases x d c with
  | error p => exact iff_of_false (fun h => nomatch h) fun h => nomatch h
  | ok r => exact Iff.rfl

theorem Yields.located {trail : Trail} {mark : Mark} (hx : Yields d x a k) :
    Yields d (Decode.located trail mark x) a k :=
  fun c hc => located_ok_iff.mpr (hx c hc)

/-! ## What carries over -/

/-- What `x` comes to in `d` carries over to `y` in `d'`, which follows as many references for it. -/
def Carries (d d' : Document) (f : α → β) (x : DecodeM α) (y : DecodeM β) : Prop :=
  ∀ ⦃c a c'⦄, x d c = .ok (a, c') →
    c ≤ c' ∧ (c ≤ d.limit → c' ≤ d.limit) ∧ Yields d' y (f a) (c' - c)

namespace Carries

/-- A value at hand carries over to its image. -/
theorem pure (d d' : Document) (f : α → β) (a : α) : Carries d d' f (Pure.pure a) (Pure.pure (f a)) := by
  intro c a' c' h
  cases h
  rw [Nat.sub_self]
  exact ⟨Nat.le_refl _, id, .pure d' (f a)⟩

/-- Decoders in turn carry over if each does, whatever the first one reads. -/
theorem bind {h : α → DecodeM γ} {h' : β → DecodeM δ} (hx : Carries d d' f x y)
    (hh : ∀ a, Carries d d' g (h a) (h' (f a))) : Carries d d' g (x >>= h) (y >>= h') := by
  intro c e c' hxe
  obtain ⟨a, c₁, ha, he⟩ := DecodeM.bind_ok_iff.mp hxe
  obtain ⟨le₁, limit₁, yields₁⟩ := hx ha
  obtain ⟨le₂, limit₂, yields₂⟩ := hh a he
  refine ⟨Nat.le_trans le₁ le₂, fun hc => limit₂ (limit₁ hc), ?_⟩
  have hk : c' - c = c₁ - c + (c' - c₁) := by omega
  rw [hk]
  exact yields₁.bind yields₂

/-- What is made of the value that was read carries over if it is made alike on both sides. -/
theorem map {h : α → γ} {h' : β → δ} (hx : Carries d d' f x y) (hf : ∀ a, g (h a) = h' (f a)) :
    Carries d d' g (h <$> x) (h' <$> y) := by
  rw [← bind_pure_comp, ← bind_pure_comp]
  refine hx.bind fun a => ?_
  rw [← hf]
  exact .pure d d' g (h a)

/-- The places that the faults get may differ. -/
theorem located {trail trail' : Trail} {mark mark' : Mark} (hx : Carries d d' f x y) :
    Carries d d' f (Decode.located trail mark x) (Decode.located trail' mark' y) := by
  intro c a c' h
  obtain ⟨le, limit, yields⟩ := hx (located_ok_iff.mp h)
  exact ⟨le, limit, yields.located⟩

theorem read {h : Document → DecodeM α} {h' : Document → DecodeM β} (hh : Carries d d' f (h d) (h' d')) :
    Carries d d' f (MonadReader.read >>= h) (MonadReader.read >>= h') := hh

/-- A computation that fails carries nothing over. -/
theorem fail {cause : Cause} : Carries d d' f (Decode.fail cause) y := fun _ _ _ h => nomatch h

/-- Nothing carries over from where a condition makes a computation fail. -/
theorem check {c : Prop} [Decidable c] {cause : Cause} {h : PUnit → DecodeM α} {h' : PUnit → DecodeM β}
    (hc : ¬ c → Carries d d' f x y) :
    Carries d d' f (if c then Decode.fail cause >>= h else x) (if c then Decode.fail cause >>= h' else y) := by
  by_cases hcond : c
  · rw [if_pos hcond]
    exact fun _ _ _ h => nomatch h
  · rw [if_neg hcond, if_neg hcond]
    exact hc hcond

/-- A node of a wrong type reads as nothing, so that there is nothing to carry over. -/
theorem wrongType {n : Node} {wanted : String} : Carries d d' f (Decode.wrongType n wanted) y := by
  unfold Decode.wrongType
  split
  · split <;> exact fail
  all_goals exact fail

end Carries

end Shakedown.Yaml

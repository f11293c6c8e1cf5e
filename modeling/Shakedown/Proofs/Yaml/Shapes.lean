import Shakedown.Proofs.Yaml.Carrying
import Shakedown.Proofs.Yaml.Edits

/-!
# Shapes and edits

What the decoders of single shapes read carries over an edit of the document: scalars as they are (`Edited.textAs`),
options (`Edited.option`), and sequences item by item, in the new order (`SequenceEdit.list`). A decoder is `Stable`
if nodes that are alike carry over, and all decoders without records are.
-/

namespace Shakedown.Yaml

open Decode (resolve textAs located itemsFrom foldEntries)

variable {α β γ : Type} {d d' : Document} {S : List Node → List Node → Prop}
  {E : List (Node × Node) → List (Node × Node) → Prop} {n n' : Node} {f : α → β} {trail trail' : Trail} {wanted : String}

/-! ## References -/

/-- Following a reference counts, up to the limit of the document. -/
theorem resolve_reference (m : Mark) (anchor : Nat) (d : Document) (c : Nat) :
    resolve (.reference m anchor) d c =
      if d.limit < c + 1 then .error ⟨.tooManyRepetitions, none⟩
      else .ok ((d.target? anchor).getD (.reference m anchor), c + 1) := by
  show (if d.limit < c + 1 then Decode.fail .tooManyRepetitions else pure _ : DecodeM Node) d (c + 1) = _
  split <;> rfl

/-- A reference is followed in both documents, to nodes that are related as it is. -/
theorem Edited.resolve (h : Edited d d' S E n n') {r : Node → DecodeM α} {r' : Node → DecodeM β}
    (hr : ∀ t t', Edited d d' S E t t' → Carries d d' f (r t) (r' t')) :
    Carries d d' f (resolve n >>= r) (resolve n' >>= r') := by
  cases h with
  | scalar => exact hr _ _ .scalar
  | sequence h => exact hr _ _ (.sequence h)
  | mapping h => exact hr _ _ (.mapping h)
  | @reference m m' a a' t t' here there h =>
    intro c v c' hc
    obtain ⟨u, c₁, hu, hv⟩ := DecodeM.bind_ok_iff.mp hc
    rw [resolve_reference, here] at hu
    split at hu
    · cases hu
    case isFalse within =>
      cases hu
      obtain ⟨le, limit, yields⟩ := hr t t' h hv
      refine ⟨Nat.le_of_succ_le le, fun _ => limit (Nat.not_lt.mp within), ?_⟩
      have hk : c' - c = 1 + (c' - (c + 1)) := by omega
      rw [hk]
      refine Yields.bind (a := t') (fun e he => ?_) yields
      rw [resolve_reference, there, if_neg (Nat.not_lt.mpr he)]
      rfl

/-! ## Scalars -/

/-- A node that is edited reads as the same text. -/
theorem Edited.textAs (h : Edited d d' S E n n') :
    Carries d d' id (Decode.textAs wanted trail n) (Decode.textAs wanted trail' n') := by
  refine h.resolve fun t t' ht => .located ?_
  cases ht with
  | scalar => exact .pure d d' id _
  | _ => exact .wrongType

/-- A node that is edited reads as the same truth value. -/
theorem Edited.bool (h : Edited d d' S E n n') : Carries d d' id (Decode.bool trail n) (Decode.bool trail' n') := by
  refine h.resolve fun t t' ht => .located ?_
  cases ht with
  | @scalar m m' tag style s =>
    cases hv : (if Decode.isTypedScalar .bool tag style then truth? s else none) with
    | some b =>
      simp only [hv]
      exact .pure d d' id b
    | none =>
      simp only [hv]
      exact .wrongType
  | _ => exact .wrongType

/-- A node that is edited reads as the same number. -/
theorem Edited.nat64 (h : Edited d d' S E n n') : Carries d d' id (Decode.nat64 trail n) (Decode.nat64 trail' n') := by
  refine h.resolve fun t t' ht => .located ?_
  cases ht with
  | @scalar m m' tag style s =>
    cases hv : (if Decode.isTypedScalar .int tag style then (natural? s).filter (· < Nat.pow 2 64) else none) with
    | some k =>
      simp only [hv]
      exact .pure d d' id k
    | none =>
      simp only [hv]
      exact .wrongType
  | _ => exact .wrongType

/-- An option carries over if its value does: whether there is one is up to a scalar. -/
theorem Edited.option {dec : Decoder α} {f : α → α} (h : Edited d d' S E n n')
    (value : ∀ t t', Edited d d' S E t t' → Carries d d' f (dec trail t) (dec trail' t')) :
    Carries d d' (Option.map f) (Decode.option dec trail n) (Decode.option dec trail' n') := by
  refine h.resolve fun t t' ht => ?_
  have given : Carries d d' (Option.map f) (some <$> dec trail t) (some <$> dec trail' t') :=
    (value t t' ht).map fun _ => rfl
  cases ht with
  | @scalar m m' tag style s =>
    cases style with
    | plain =>
      dsimp only
      split
      · split
        · exact .pure d d' (Option.map f) none
        · exact .fail
      · exact given
      · split
        · exact .pure d d' (Option.map f) none
        · exact given
    | _ => exact given
  | _ => exact given

/-- A null reads as a value that is not given. -/
theorem option_null {dec : Decoder α} {v : Node} (h : IsNull v) (trail : Trail) :
    Yields d (Decode.option dec trail v) none 0 := by
  match v, h with
  | .scalar m none .plain text, h =>
    have null : (text.isEmpty || isNullWord text) = true := Bool.or_eq_true_iff.mpr h
    have read : Decode.option dec trail (.scalar m none .plain text) = pure none := by
      simp only [Decode.option, resolve, pure_bind, Option.map_none, null, if_true]
    rw [read]
    exact .pure d none

/-! ## Sequences -/

/-- Edits do not turn an empty scalar into another node, nor another into one. -/
theorem Edited.isEmptyScalar (h : Edited d d' S E n n') : Decode.isEmptyScalar n' = Decode.isEmptyScalar n := by
  cases h with
  | scalar =>
    unfold Decode.isEmptyScalar
    split <;> split <;> simp_all
  | _ => rfl

/-- Where a collection is read, an empty scalar stands for an empty one. -/
theorem Edited.emptyScalar (h : Edited d d' S E n n') {x : DecodeM α} {y : DecodeM β} (hx : Carries d d' f x y)
    (wanted : String) :
    Carries d d' f (if Decode.isEmptyScalar n then x else Decode.wrongType n wanted)
      (if Decode.isEmptyScalar n' then y else Decode.wrongType n' wanted) := by
  rw [h.isEmptyScalar]
  split
  · exact hx
  · exact .wrongType

/-- A node, what is read from it, and how many references that follows. -/
structure Reading (α : Type) where
  node : Node
  value : α
  cost : Nat

/-- The reading is what a decoder comes to, whatever the trail. -/
def Reading.Holds (d : Document) (dec : Decoder α) (r : Reading α) : Prop :=
  ∀ trail, Yields d (dec trail r.node) r.value r.cost

/-- The items of a sequence yield their values, and the references that they follow add up. -/
theorem itemsFrom_yields {dec : Decoder α} {rs : List (Reading α)} (h : ∀ r ∈ rs, r.Holds d dec) (i : Nat) :
    Yields d (itemsFrom dec trail i (rs.map Reading.node)) (rs.map Reading.value) (rs.map Reading.cost).sum := by
  induction rs generalizing i with
  | nil => exact Yields.pure d []
  | cons r rest ih =>
    have first := h r (List.mem_cons_self ..) (.item i :: trail)
    have others := ih (fun r hr => h r (List.mem_cons_of_mem _ hr)) (i + 1)
    have listed : Yields d (itemsFrom dec trail (i + 1) (rest.map Reading.node) >>= fun as => pure (r.value :: as))
        (r.value :: rest.map Reading.value) ((rest.map Reading.cost).sum + 0) := others.bind (.pure d _)
    exact first.bind listed

/-- The items of a sequence that was read are read one by one in the edited sequence. -/
theorem itemsFrom_readings {dec : Decoder α} {R : Nat → Node → Node → Prop} {f : Nat → α → α} {i : Nat}
    {items kept : List Node} (hR : ∀ i n n', R i n n' → ∀ trail trail', Carries d d' (f i) (dec trail n) (dec trail' n'))
    (h : Pointwise R i items kept) {c c' : Nat} {as : List α} (read : itemsFrom dec trail i items d c = .ok (as, c')) :
    c ≤ c' ∧ (c ≤ d.limit → c' ≤ d.limit) ∧ ∃ rs : List (Reading α), rs.map Reading.node = kept ∧
      rs.map Reading.value = as.mapIdx (fun j => f (i + j)) ∧ (rs.map Reading.cost).sum = c' - c ∧
      ∀ r ∈ rs, r.Holds d' dec := by
  induction h generalizing c as with
  | nil =>
    cases read
    exact ⟨Nat.le_refl _, id, [], rfl, rfl, (Nat.sub_self _).symm, fun _ hr => (List.not_mem_nil hr).elim⟩
  | @cons i n n' items kept head tail ih =>
    obtain ⟨a, c₁, ha, read⟩ := DecodeM.bind_ok_iff.mp read
    obtain ⟨as, _, has, hdone⟩ := DecodeM.bind_ok_iff.mp read
    cases hdone
    obtain ⟨le, limit, -⟩ := hR i n n' head _ trail ha
    obtain ⟨le', limit', rs, rfl, hvalues, hcost, holds⟩ := ih has
    -- The first item is read behind the index `i`, so the indices of the rest are shifted by one.
    refine ⟨Nat.le_trans le le', limit' ∘ limit, ⟨n', f i a, c₁ - c⟩ :: rs, rfl, ?_, ?_, ?_⟩
    · rw [List.map_cons, List.mapIdx_cons, hvalues]
      refine congrArg _ (congrArg (List.mapIdx · as) (funext fun j => ?_))
      rw [Nat.add_right_comm, Nat.add_assoc]
    · rw [List.map_cons, List.sum_cons, hcost]
      dsimp only
      omega
    · rintro r (_ | ⟨_, hr⟩)
      · exact fun trail' => (hR i n n' head _ trail' ha).2.2
      · exact holds r hr

/-- A sequence carries over an edit of its items and a new order. -/
theorem Edited.list {dec : Decoder α} {R : Nat → Node → Node → Prop} {π : Reordering} {f : Nat → α → α}
    (h : Edited d d' S E n n')
    (hR : ∀ i n n', R i n n' → ∀ trail trail', Carries d d' (f i) (dec trail n) (dec trail' n'))
    (hS : ∀ items items', S items items' → ∃ kept, Pointwise R 0 items kept ∧ items' = π.apply kept) :
    Carries d d' (fun as => π.apply (as.mapIdx f)) (Decode.list dec trail n) (Decode.list dec trail' n') := by
  refine h.resolve fun t t' ht => .located ?_
  have nothing : Carries d d' (fun as => π.apply (as.mapIdx f)) (pure []) (pure []) := by
    have h := Carries.pure d d' (fun as => π.apply (as.mapIdx f)) []
    rwa [List.mapIdx_nil, π.apply_nil] at h
  have collected := ht.emptyScalar nothing "a sequence"
  cases ht with
  | sequence hitems =>
    obtain ⟨kept, hkept, rfl⟩ := hS _ _ hitems
    intro c as c' read
    obtain ⟨le, limit, rs, rfl, hvalues, hcost, holds⟩ := itemsFrom_readings hR hkept read
    refine ⟨le, limit, ?_⟩
    simp only [Nat.zero_add] at hvalues
    -- What was read of the items goes with them into the new order, and costs the same in any order.
    show Yields d' (itemsFrom dec trail' 0 (π.apply (rs.map Reading.node))) (π.apply (as.mapIdx f)) (c' - c)
    rw [← hvalues, ← hcost, π.apply_map, π.apply_map, ← ((π.apply_perm rs).map Reading.cost).sum_nat]
    exact itemsFrom_yields (fun r hr => holds r ((π.apply_perm rs).mem_iff.mp hr)) 0
  | _ => exact collected

/-- A sequence that is edited and reordered reads as the list of what becomes of its items, in the new order. -/
theorem SequenceEdit.list {dec : Decoder α} {R : Nat → Node → Node → Prop} {π : Reordering} {f : Nat → α → α}
    (h : SequenceEdit d d' R π n n')
    (hR : ∀ i n n', R i n n' → ∀ trail trail', Carries d d' (f i) (dec trail n) (dec trail' n')) :
    Carries d d' (fun as => π.apply (as.mapIdx f)) (Decode.list dec trail n) (Decode.list dec trail' n') :=
  Edited.list h hR fun _ _ hs => hs

/-! ## Stable decoders -/

/-- Nodes that are alike are decoded alike. -/
def Stable (dec : Decoder α) : Prop :=
  ∀ ⦃d d' n n'⦄, Alike d d' n n' → ∀ trail trail', Carries d d' id (dec trail n) (dec trail' n')

theorem stable_textAs (wanted : String) : Stable (Decode.textAs wanted) := fun _ _ _ _ ⟨h⟩ _ _ => h.textAs

theorem stable_bool : Stable Decode.bool := fun _ _ _ _ ⟨h⟩ _ _ => h.bool

theorem stable_nat64 : Stable Decode.nat64 := fun _ _ _ _ ⟨h⟩ _ _ => h.nat64

/-- What is made of a value is read alike if the value is. -/
theorem Stable.map {dec : Decoder α} (h : Stable dec) (g : α → γ) : Stable fun trail n => g <$> dec trail n :=
  fun _ _ _ _ hn trail trail' => (h hn trail trail').map fun _ => rfl

/-- A value that may be null is read alike if the value is. -/
theorem Stable.option {dec : Decoder α} (h : Stable dec) : Stable (Decode.option dec) := by
  intro d d' n n' ⟨hn⟩ trail trail'
  have hc := hn.option (f := id) fun t t' ht => h ⟨ht⟩ trail trail'
  rwa [Option.map_id] at hc

theorem mapIdx_id (as : List α) : as.mapIdx (fun _ => id) = as := List.ext_getElem (by simp) (by simp)

/-- Items that are alike stay as they are in a new order of the sequence. -/
theorem Edited.reordered {dec : Decoder α} {π : Reordering} (h : Edited d d' S E n n') (stable : Stable dec)
    (hS : ∀ items items', S items items' → ∃ kept, Pointwise (fun _ => Alike d d') 0 items kept ∧ items' = π.apply kept) :
    Carries d d' π.apply (Decode.list dec trail n) (Decode.list dec trail' n') := by
  have hc : Carries d d' (fun as => π.apply (as.mapIdx fun _ => id)) (Decode.list dec trail n)
      (Decode.list dec trail' n') := h.list (fun _ _ _ hi => stable hi) hS
  simpa only [mapIdx_id] using hc

/-- A sequence that is reordered reads as the list in its new order. -/
theorem SequenceEdit.reordered {dec : Decoder α} {π : Reordering} (h : SequenceEdit d d' (fun _ => Alike d d') π n n')
    (stable : Stable dec) : Carries d d' π.apply (Decode.list dec trail n) (Decode.list dec trail' n') :=
  Edited.reordered h stable fun _ _ hs => hs

/-- A sequence of values is read alike if each of them is. -/
theorem Stable.list {dec : Decoder α} (h : Stable dec) : Stable (Decode.list dec) := by
  intro d d' n n' ⟨hn⟩ trail trail'
  have hc : Carries d d' Reordering.same.apply (Decode.list dec trail n) (Decode.list dec trail' n') :=
    hn.reordered h fun items items' hs => ⟨items', .of_forall₂ hs 0, (Reordering.same_apply items').symm⟩
  rwa [Reordering.apply_same] at hc

/-! ## Mappings and variants -/

/-- Entries that are spelt anew, in the order that they had, are read alike. -/
theorem foldEntries_alike {σ : Type} {step : σ → String → Trail → Node → DecodeM σ} {es es' : List (Node × Node)}
    (hstep : ∀ s key v v', Alike d d' v v' → ∀ trail trail', Carries d d' id (step s key trail v) (step s key trail' v'))
    (h : List.Forall₂ (Both (Alike d d')) es es') (s : σ) :
    Carries d d' id (foldEntries wanted trail step s es) (foldEntries wanted trail' step s es') := by
  induction h generalizing s with
  | nil => exact .pure d d' id s
  | cons head tail ih =>
    obtain ⟨key, value⟩ := head
    exact (stable_textAs wanted key _ _).bind fun key => (hstep s key _ _ value _ _).bind fun s => ih s

/-- A mapping from texts to texts is read alike. -/
theorem stable_textMapping {σ : Type} (start : σ) (insert : String → String → σ → σ) :
    Stable (Decode.textMapping start insert) := by
  intro d d' n n' ⟨hn⟩ trail trail'
  refine hn.resolve fun t t' ht => .located ?_
  have collected := ht.emptyScalar (.pure d d' id start) "a map"
  cases ht with
  | mapping hes =>
    refine foldEntries_alike (fun s key v v' hv trail trail' => ?_) hes start
    exact (stable_textAs "a string" hv trail trail').bind fun _ => .pure d d' id _
  | _ => exact collected

/-- The decoders of the contents of variants are stable. -/
def StableVariants (variants : List (Decode.Variant α)) : Prop :=
  ∀ v ∈ variants, ∀ name dec, v = .content name dec → Stable dec

/-- A name stands for one of the variants, or for none and is refused. -/
theorem findVariant_cases (variants : List (Decode.Variant α)) (name : String) :
    (∃ v ∈ variants, Decode.findVariant variants name = pure v) ∨
      ∃ cause, Decode.findVariant variants name = Decode.fail cause := by
  unfold Decode.findVariant
  cases hv : variants.find? fun v => v.name == name with
  | some v => exact Or.inl ⟨v, List.mem_of_find?_eq_some hv, rfl⟩
  | none => exact Or.inr ⟨_, rfl⟩

/-- Where a variant is found, what depends on it carries over if it does for each of the variants. -/
theorem carries_findVariant {variants : List (Decode.Variant α)} {name : String} {r r' : Decode.Variant α → DecodeM α}
    (hr : ∀ v ∈ variants, Carries d d' id (r v) (r' v)) :
    Carries d d' id (Decode.findVariant variants name >>= r) (Decode.findVariant variants name >>= r') := by
  obtain ⟨v, hv, h⟩ | ⟨cause, h⟩ := findVariant_cases variants name
  · rw [h]
    exact hr v hv
  · rw [h]
    exact fun _ _ _ h => nomatch h

/-- A variant is found by the same name on both sides. -/
theorem carries_located_findVariant {variants : List (Decode.Variant α)} {name : String} {mark mark' : Mark}
    {r r' : Decode.Variant α → DecodeM α} (hr : ∀ v ∈ variants, Carries d d' id (r v) (r' v)) :
    Carries d d' id (located trail mark (Decode.findVariant variants name) >>= r)
      (located trail' mark' (Decode.findVariant variants name) >>= r') := by
  obtain ⟨v, hv, h⟩ | ⟨cause, h⟩ := findVariant_cases variants name
  · rw [h]
    exact hr v hv
  · rw [h]
    exact fun _ _ _ h => nomatch h

/-- A choice is read alike if what each variant holds is. -/
theorem stable_choice {name : String} {variants : List (Decode.Variant α)} (hv : StableVariants variants) :
    Stable (Decode.choice name variants) := by
  intro d d' n n' ⟨hn⟩ trail trail'
  refine hn.resolve fun t t' ht => .located ?_
  cases ht with
  | @mapping m m' tag es es' hes =>
    refine .check fun _ => ?_
    cases hes with
    | nil => exact .fail
    | @cons e e' rest rest' head tail =>
      obtain @⟨k, k', w, w', key, value⟩ := head
      have single : rest'.isEmpty = rest.isEmpty := by cases tail <;> rfl
      have content : ∀ name dec, .content name dec ∈ variants → ∀ cause : Cause, Carries d d' id
          (dec (Decode.valueTrail trail k) w >>= fun a => if rest.isEmpty then pure a else Decode.fail cause)
          (dec (Decode.valueTrail trail' k') w' >>= fun a => if rest'.isEmpty then pure a else Decode.fail cause) := by
        intro name dec hmem cause
        refine (hv _ hmem name dec rfl value _ _).bind fun a => ?_
        rw [single]
        split
        · exact .pure d d' id a
        · exact .fail
      refine (stable_textAs _ key trail trail').bind fun variant => ?_
      -- A key that is a reference is looked up once more, for the place of a problem.
      obtain ⟨hk⟩ := key
      cases hk with
      | reference =>
        refine .read ((Carries.pure d d' (fun _ => _) _).bind fun _ => carries_located_findVariant fun v hmem => ?_)
        cases v with
        | unit name a => exact .fail
        | content name dec => exact content name dec hmem _
      | _ =>
        refine (Carries.pure d d' (fun _ => _) _).bind fun _ => carries_located_findVariant fun v hmem => ?_
        cases v with
        | unit name a => exact .fail
        | content name dec => exact content name dec hmem _
  | @scalar m m' tag style s =>
    refine .check fun _ => ?_
    dsimp only
    cases Decode.describeScalar tag style s with
    | error cause => exact .fail
    | ok found =>
      cases found with
      | text s =>
        dsimp only
        refine carries_findVariant fun v _ => ?_
        cases v with
        | unit name a => exact .pure d d' id a
        | content name dec => exact .fail
      | _ => exact .fail
  | sequence => exact .check fun _ => .wrongType
  | reference => exact .wrongType

end Shakedown.Yaml

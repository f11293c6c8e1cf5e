import Mathlib
import Shakedown.Yaml.Decode

/-!
# Edits of a document

Two nodes of two documents are `Alike` if they are the same tree, whatever their positions are and however anchors
are numbered. An edit lets the entries of a mapping differ: they may be reordered, entries with other keys may be
added, and so may fields with a null (`RecordEdit`); and it lets the items of a sequence be reordered
(`SequenceEdit`), into any order there is (`Reordering.exists_apply`). How the values of fields may differ is a
parameter, so that edits nest like the records of a schema. No edit makes a node smaller.
-/

namespace Shakedown

/-! ## Reordering lists -/

/-- A way to reorder lists: for each length the positions in their new order. -/
structure Reordering where
  places : Nat → List Nat
  isPerm : ∀ n, (places n).Perm (List.range n)

namespace Reordering

variable {α β : Type}

/-- The list reordered. -/
def apply (π : Reordering) (l : List α) : List α := (π.places l.length).filterMap (l[·]?)

/-- The order as it is. -/
def same : Reordering := ⟨List.range, fun _ => .refl _⟩

/-- Every place of a list in turn gives the list. -/
theorem range_filterMap (l : List α) : (List.range l.length).filterMap (l[·]?) = l := by
  induction l with
  | nil => rfl
  | cons a l ih =>
    rw [List.length_cons, List.range_succ_eq_map, List.filterMap_cons, List.filterMap_map]
    exact congrArg (a :: ·) ih

@[simp] theorem same_apply (l : List α) : same.apply l = l := range_filterMap l

theorem apply_same : (same.apply : List α → List α) = id := funext same_apply

/-- A new order keeps the items, each as often as it stood there. -/
theorem apply_perm (π : Reordering) (l : List α) : (π.apply l).Perm l := by
  have h := (π.isPerm l.length).filterMap (l[·]?)
  rwa [range_filterMap] at h

/-- It does not matter whether items are changed before or after they are put in a new order. -/
theorem apply_map (π : Reordering) (f : α → β) (l : List α) : π.apply (l.map f) = (π.apply l).map f := by
  rw [apply, apply, List.length_map, List.map_filterMap]
  exact congrArg (List.filterMap · _) (funext fun i => List.getElem?_map)

@[simp] theorem apply_nil (π : Reordering) : π.apply ([] : List α) = [] :=
  List.perm_nil.mp (π.apply_perm [])

/-- Where nothing is given, nothing is reordered. -/
theorem getD_map_apply (π : Reordering) (given : Option (List α)) :
    (given.map π.apply).getD [] = π.apply (given.getD []) := by
  cases given with
  | none => exact π.apply_nil.symm
  | some l => rfl

/-- Only of no items is there nothing left. -/
theorem apply_eq_nil_iff (π : Reordering) {l : List α} : π.apply l = [] ↔ l = [] :=
  ⟨fun h => ((h ▸ π.apply_perm l : [].Perm l)).nil_eq.symm, fun h => List.perm_nil.mp (h ▸ π.apply_perm l)⟩

end Reordering

/-- Every new order of a list is one that a reordering makes. -/
theorem Reordering.exists_apply {α : Type} {l l' : List α} (h : l'.Perm l) : ∃ π : Reordering, π.apply l = l' := by
  have numbered : List.Forall₂ (fun a i => l[i]? = some a) l (List.range l.length) :=
    List.forall₂_iff_get.mpr ⟨by simp, fun i hi _ => by simp⟩
  obtain ⟨places, hplaces, isPerm⟩ := List.perm_comp_forall₂ h numbered
  refine ⟨⟨fun n => if n = l.length then places else List.range n, fun n => ?_⟩, ?_⟩
  · split
    case isTrue hn => exact hn ▸ isPerm
    case isFalse => exact .refl _
  · show (if l.length = l.length then places else List.range l.length).filterMap (l[·]?) = l'
    rw [if_pos rfl]
    clear numbered isPerm h
    induction hplaces with
    | nil => rfl
    | cons head tail ih => rw [List.filterMap_cons_some head, ih]

/-- Lists that are related item by item, the positions counted from one on. -/
inductive Pointwise {α β : Type} (R : Nat → α → β → Prop) : Nat → List α → List β → Prop
  | nil {i : Nat} : Pointwise R i [] []
  | cons {i : Nat} {a : α} {b : β} {as : List α} {bs : List β} (head : R i a b) (tail : Pointwise R (i + 1) as bs) :
      Pointwise R i (a :: as) (b :: bs)

/-- What holds of all places alike holds of each. -/
theorem Pointwise.of_forall₂ {α β : Type} {R : α → β → Prop} {as : List α} {bs : List β} (h : List.Forall₂ R as bs)
    (i : Nat) : Pointwise (fun _ => R) i as bs := by
  induction h generalizing i with
  | nil => exact .nil
  | cons head tail ih => exact .cons head (ih _)

namespace Yaml

/-! ## Nodes of two documents -/

variable (d d' : Document)

/-- A node and what it has become: a scalar is the same, the items of a sequence and the entries of a mapping are
related, and what references stand for is related in the same way. -/
inductive Edited (S : List Node → List Node → Prop) (E : List (Node × Node) → List (Node × Node) → Prop) :
    Node → Node → Prop
  | scalar {m m' : Mark} {tag : Option Tag} {style : ScalarStyle} {text : String} :
      Edited S E (.scalar m tag style text) (.scalar m' tag style text)
  | sequence {m m' : Mark} {tag : Option Tag} {items items' : List Node} (h : S items items') :
      Edited S E (.sequence m tag items) (.sequence m' tag items')
  | mapping {m m' : Mark} {tag : Option Tag} {es es' : List (Node × Node)} (h : E es es') :
      Edited S E (.mapping m tag es) (.mapping m' tag es')
  | reference {m m' : Mark} {a a' : Nat} {t t' : Node} (here : d.target? a = some t) (there : d'.target? a' = some t')
      (h : Edited S E t t') : Edited S E (.reference m a) (.reference m' a')

/-- Entries whose keys and values are related. -/
inductive Both (R : Node → Node → Prop) : Node × Node → Node × Node → Prop
  | intro {k k' v v' : Node} (key : R k k') (value : R v v') : Both R (k, v) (k', v')

/-- Nodes that are the same tree. -/
inductive Alike : Node → Node → Prop
  | intro {n n' : Node} (h : Edited d d' (List.Forall₂ (Alike)) (List.Forall₂ (Both Alike)) n n') : Alike n n'

/-- The items of a sequence are edited where they stand, each by an edit of its position, and then reordered. -/
def SequenceEdit (R : Nat → Node → Node → Prop) (π : Reordering) : Node → Node → Prop :=
  Edited d d' (fun items items' => ∃ kept, Pointwise R 0 items kept ∧ items' = π.apply kept) (fun _ _ => False)

/-- The text of a scalar, or of the scalar that a reference stands for. -/
def Document.textOf? (d : Document) : Node → Option String
  | .scalar _ _ _ text => some text
  | .reference _ anchor =>
    match d.target? anchor with
    | some (.scalar _ _ _ text) => some text
    | _ => none
  | _ => none

/-- An entry that is kept. Its key is the same; the value of a field is edited. The value of any other key is not
read, and only its size counts, since references may be followed more often in a larger document. -/
inductive Kept (known : List String) (V : String → Node → Node → Prop) : Node × Node → Node × Node → Prop
  | field {name : String} {k k' v v' : Node} (isField : name ∈ known) (named : d.textOf? k = some name)
      (key : Alike d d' k k') (value : V name v v') : Kept known V (k, v) (k', v')
  | other {k k' v v' : Node} (named : ∀ name ∈ known, d.textOf? k ≠ some name) (key : Alike d d' k k')
      (size : v.size ≤ v'.size) : Kept known V (k, v) (k', v')

/-- Whether a node is a plain null: an empty plain scalar, or a null word. -/
def IsNull : Node → Prop
  | .scalar _ none .plain text => text.isEmpty = true ∨ isNullWord text = true
  | _ => False

/-- Entries with more put in front of them: with keys that are no fields and any values, or absent optional fields with
a null. -/
inductive Grown (known optional : List String) : List (Node × Node) → List (Node × Node) → Prop
  | kept (es : List (Node × Node)) : Grown known optional es es
  | other {es es' : List (Node × Node)} {m : Mark} {tag : Option Tag} {style : ScalarStyle} {name : String} {v : Node}
      (strange : name ∉ known) (rest : Grown known optional es es') :
      Grown known optional es ((.scalar m tag style name, v) :: es')
  | null {es es' : List (Node × Node)} {m : Mark} {tag : Option Tag} {style : ScalarStyle} {name : String} {v : Node}
      (isOptional : name ∈ optional) (absent : ∀ e ∈ es', d'.textOf? e.1 ≠ some name) (isNull : IsNull v)
      (rest : Grown known optional es es') :
      Grown known optional es ((.scalar m tag style name, v) :: es')

/-- The entries of a record are kept, with edited values, more are added, and all are reordered. -/
def EntriesEdit (known optional : List String) (V : String → Node → Node → Prop) (es es' : List (Node × Node)) : Prop :=
  ∃ kept grown, List.Forall₂ (Kept d d' known V) es kept ∧ Grown d' known optional kept grown ∧ grown.Perm es'

/-- A node that is read as a record with the known fields, some of them optional, is edited. -/
def RecordEdit (known optional : List String) (V : String → Node → Node → Prop) : Node → Node → Prop :=
  Edited d d' (fun _ _ => False) (EntriesEdit d d' known optional V)

variable {d d'}

/-! ## Sizes -/

/-- The size of some items is the sum of their sizes. -/
theorem sizeOfItems_eq (items : List Node) : sizeOfItems items = (items.map Node.size).sum := by
  induction items with
  | nil => rfl
  | cons n rest ih => simp [sizeOfItems, ih]

/-- The size of some entries is the sum of what their keys and values take. -/
theorem sizeOfEntries_eq (es : List (Node × Node)) :
    sizeOfEntries es = (es.map fun e => e.1.size + e.2.size).sum := by
  induction es with
  | nil => rfl
  | cons e rest ih => simp [sizeOfEntries, ih]

/-- An edit makes no node smaller if it makes neither sequences nor mappings smaller. -/
theorem Edited.size_le {S : List Node → List Node → Prop} {E : List (Node × Node) → List (Node × Node) → Prop}
    {n n' : Node} (hS : ∀ items items', S items items' → sizeOfItems items ≤ sizeOfItems items')
    (hE : ∀ es es', E es es' → sizeOfEntries es ≤ sizeOfEntries es') (h : Edited d d' S E n n') : n.size ≤ n'.size := by
  cases h with
  | scalar => exact Nat.le_refl _
  | sequence h => exact Nat.add_le_add_left (hS _ _ h) 2
  | mapping h => exact Nat.add_le_add_left (hE _ _ h) 2
  | reference => exact Nat.le_refl _

mutual
/-- Nodes that are alike have the same size: the induction is on the tree, since references are leaves of it. -/
theorem Alike.size_le : ∀ {n n' : Node}, Alike d d' n n' → n.size ≤ n'.size
  | .scalar .., _, .intro h => by
    cases h
    exact Nat.le_refl _
  | .reference .., _, .intro h => by
    cases h
    exact Nat.le_refl _
  | .sequence .., _, .intro h => by
    cases h with
    | sequence h => exact Nat.add_le_add_left (alike_items_size_le h) 2
  | .mapping .., _, .intro h => by
    cases h with
    | mapping h => exact Nat.add_le_add_left (alike_entries_size_le h) 2

theorem alike_items_size_le : ∀ {items items' : List Node}, List.Forall₂ (Alike d d') items items' →
    sizeOfItems items ≤ sizeOfItems items'
  | [], _, .nil => Nat.le_refl _
  | _ :: _, _, .cons h hs => Nat.add_le_add h.size_le (alike_items_size_le hs)

theorem alike_entries_size_le : ∀ {es es' : List (Node × Node)}, List.Forall₂ (Both (Alike d d')) es es' →
    sizeOfEntries es ≤ sizeOfEntries es'
  | [], _, .nil => Nat.le_refl _
  | _ :: _, _, .cons (.intro hk hv) hs =>
    Nat.add_le_add (Nat.add_le_add hk.size_le hv.size_le) (alike_entries_size_le hs)
end

/-- Items of which none becomes smaller. -/
theorem sizeOfItems_le {R : Nat → Node → Node → Prop} {i : Nat} {items items' : List Node}
    (hR : ∀ i n n', R i n n' → n.size ≤ n'.size) (h : Pointwise R i items items') :
    sizeOfItems items ≤ sizeOfItems items' := by
  induction h with
  | nil => exact Nat.le_refl _
  | cons head tail ih => exact Nat.add_le_add (hR _ _ _ head) ih

/-- A sequence whose items are edited and reordered is no smaller: a new order keeps the sum. -/
theorem SequenceEdit.size_le {R : Nat → Node → Node → Prop} {π : Reordering} {n n' : Node}
    (hR : ∀ i n n', R i n n' → n.size ≤ n'.size) (h : SequenceEdit d d' R π n n') : n.size ≤ n'.size := by
  refine Edited.size_le ?_ (fun _ _ h => h.elim) h
  rintro items _ ⟨kept, hkept, rfl⟩
  have hperm : sizeOfItems (π.apply kept) = sizeOfItems kept := by
    rw [sizeOfItems_eq, sizeOfItems_eq]
    exact ((π.apply_perm kept).map Node.size).sum_nat
  rw [hperm]
  exact sizeOfItems_le hR hkept

/-- Entries that are put in front of others only add to the size. -/
theorem Grown.size_le {known optional : List String} {es es' : List (Node × Node)}
    (h : Grown d' known optional es es') : sizeOfEntries es ≤ sizeOfEntries es' := by
  induction h with
  | kept => exact Nat.le_refl _
  | other strange rest ih => exact Nat.le_trans ih (Nat.le_add_left ..)
  | null isOptional absent isNull rest ih => exact Nat.le_trans ih (Nat.le_add_left ..)

/-- A record is no smaller when its entries are edited, joined by others and reordered. -/
theorem RecordEdit.size_le {known optional : List String} {V : String → Node → Node → Prop} {n n' : Node}
    (hV : ∀ name v v', V name v v' → v.size ≤ v'.size) (h : RecordEdit d d' known optional V n n') :
    n.size ≤ n'.size := by
  refine Edited.size_le (fun _ _ h => h.elim) ?_ h
  rintro es es' ⟨kept, grown, hkept, hgrown, hperm⟩
  have entries : sizeOfEntries es ≤ sizeOfEntries kept := by
    clear hgrown h
    induction hkept with
    | nil => exact Nat.le_refl _
    | cons head tail ih =>
      refine Nat.add_le_add ?_ ih
      cases head with
      | field isField named key value => exact Nat.add_le_add key.size_le (hV _ _ _ value)
      | other named key size => exact Nat.add_le_add key.size_le size
  have same : sizeOfEntries grown = sizeOfEntries es' := by
    rw [sizeOfEntries_eq, sizeOfEntries_eq]
    exact (hperm.map _).sum_nat
  exact same ▸ Nat.le_trans entries hgrown.size_le

end Yaml
end Shakedown

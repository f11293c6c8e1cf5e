import Shakedown.Proofs.Yaml.Shapes

/-!
# Records and edits

A record as a table of its fields (`RecordForm`). An entry of a mapping sets the field of its key or is passed over,
and entries that set different fields commute; so what the entries gather into the state of the record
(`Gathers`) does not depend on their order, is not changed by more entries with other keys, and is changed by a null
for an absent field only where the record does not tell it from none. With that what a record holds carries over any
edit of it (`RecordForm.carries`).
-/

namespace Shakedown.Yaml

open Decode (resolve textAs located foldEntries once)

/-- A field of a record: its key, the decoder of its value, its place in the state of the record, what an edit makes
of the value, and the value that a null is read as, if it may be one. -/
structure Field (σ : Type) where
  {Value : Type}
  key : String
  decoder : Decoder Value
  get : σ → Option Value
  set : Option Value → σ → σ
  map : Value → Value := id
  null : Option Value := none
  get_set : ∀ a s, get (set a s) = a := by intros; rfl
  reads_null : ∀ a, null = some a → ∀ d v, IsNull v → ∀ trail, Yields d (decoder trail v) a 0 := by simp

variable {σ α : Type}

/-- A field with an option, which is none for a null. -/
def Field.nullable {β : Type} (key : String) (decoder : Decoder β) (get : σ → Option (Option β))
    (set : Option (Option β) → σ → σ) (map : Option β → Option β := id)
    (get_set : ∀ a s, get (set a s) = a := by intros; rfl) : Field σ where
  key := key
  decoder := Decode.option decoder
  get := get
  set := set
  map := map
  null := some none
  get_set := get_set
  reads_null := fun
    | _, rfl, _, _, h, trail => option_null h trail

/-- An entry is read into the state of a record. -/
def readInto (fields : List (Field σ)) (s : σ) (key : String) (trail : Trail) (v : Node) : DecodeM σ :=
  match fields.find? fun f => f.key == key with
  | some f => do return f.set (← once f.key (f.get s) (f.decoder trail v)) s
  | none => pure s

/-- Of two states of a record one holds what an edit makes of the other. -/
def Agrees (fields : List (Field σ)) (s t : σ) : Prop := ∀ f ∈ fields, f.get t = (f.get s).map f.map

/-- A record: its fields, the state that they start from, and what the state makes in the end. Fields have different
keys and places, a null counts as no value in the end, and what an edit makes of the fields it makes of the record. -/
structure RecordForm (σ α : Type) where
  fields : List (Field σ)
  start : σ
  finish : σ → DecodeM α
  map : α → α
  distinct : (fields.map Field.key).Nodup := by simp [Field.nullable]
  free : ∀ f ∈ fields, f.get start = none := by simp [Field.nullable]
  get_apart : ∀ f ∈ fields, ∀ g ∈ fields, f.key ≠ g.key → ∀ a s, g.get (f.set a s) = g.get s := by
    simp [Field.nullable]
  set_apart : ∀ f ∈ fields, ∀ g ∈ fields, f.key ≠ g.key → ∀ a b s, g.set b (f.set a s) = f.set a (g.set b s) := by
    simp [Field.nullable]
  finish_null : ∀ f ∈ fields, ∀ a, f.null = some a → ∀ s, f.get s = none → finish (f.set (some a) s) = finish s
  finish_map : ∀ d d' s t, Agrees fields s t → Carries d d' map (finish s) (finish t)

namespace RecordForm

variable (form : RecordForm σ α)

/-- The keys of the fields. -/
def keys : List String := form.fields.map Field.key

/-- The keys of the fields that may be null. -/
def optional : List String := (form.fields.filter fun f => f.null.isSome).map Field.key

/-- The decoder of the record. -/
def decoder (name : String) : Decoder α := Decode.record name form.start (readInto form.fields) form.finish

variable {form} {d d' : Document} {f g : Field σ} {es es' : List (Node × Node)} {s t : σ} {c : Nat}

theorem field_unique (hf : f ∈ form.fields) (hg : g ∈ form.fields) (h : f.key = g.key) : f = g :=
  List.inj_on_of_nodup_map form.distinct hf hg h

theorem find_field (hf : f ∈ form.fields) : (form.fields.find? fun g => g.key == f.key) = some f := by
  cases h : form.fields.find? fun g => g.key == f.key with
  | none => simpa using List.find?_eq_none.mp h f hf
  | some g =>
    have hkey : g.key = f.key := by simpa using List.find?_some h
    rw [form.field_unique (List.mem_of_find?_eq_some h) hf hkey]

theorem find_other {key : String} (h : key ∉ form.keys) : (form.fields.find? fun g => g.key == key) = none :=
  List.find?_eq_none.mpr fun g hg hkey => h (List.mem_map.mpr ⟨g, hg, by simpa using hkey⟩)

theorem readInto_other {key : String} (h : key ∉ form.keys) (s : σ) (trail : Trail) (v : Node) :
    readInto form.fields s key trail v = pure s := by
  simp only [readInto, form.find_other h]

theorem readInto_unset (hf : f ∈ form.fields) (unset : f.get s = none) (trail : Trail) (v : Node) :
    readInto form.fields s f.key trail v =
      (some <$> f.decoder trail v >>= fun given => pure (f.set given s)) := by
  simp only [readInto, form.find_field hf, once, unset]

/-- An entry with the key of a field was read: the field was not given before, and now it is. -/
theorem readInto_ok (hf : f ∈ form.fields) {trail : Trail} {v : Node} {s' : σ} {c' : Nat}
    (read : readInto form.fields s f.key trail v d c = .ok (s', c')) :
    f.get s = none ∧ ∃ a, f.decoder trail v d c = .ok (a, c') ∧ s' = f.set (some a) s := by
  cases unset : f.get s with
  | some a =>
    simp only [readInto, form.find_field hf, once, unset] at read
    cases read
  | none =>
    rw [form.readInto_unset hf unset] at read
    obtain ⟨given, c₁, hgiven, hset⟩ := DecodeM.bind_ok_iff.mp read
    rw [← bind_pure_comp] at hgiven
    obtain ⟨a, c₂, ha, hsome⟩ := DecodeM.bind_ok_iff.mp hgiven
    cases hsome
    cases hset
    exact ⟨rfl, a, ha, rfl⟩

theorem agrees_set (hf : f ∈ form.fields) (h : Agrees form.fields s t) (a : f.Value) :
    Agrees form.fields (f.set (some a) s) (f.set (some (f.map a)) t) := by
  intro g hg
  by_cases same : f.key = g.key
  · cases form.field_unique hf hg same
    rw [f.get_set, f.get_set]
    rfl
  · rw [form.get_apart f hf g hg same, form.get_apart f hf g hg same]
    exact h g hg

/-! ## Gathering entries -/

/-- The entries take the state of a record from one to another, following a number of references: an entry with the key
of a field that is not given yet sets the field, and one with any other key is passed over. -/
inductive Gathers (form : RecordForm σ α) (d : Document) : List (Node × Node) → σ → σ → Nat → Prop
  | done {s : σ} : Gathers form d [] s s 0
  | field {f : Field σ} {k v : Node} {es : List (Node × Node)} {s t : σ} {a : f.Value} {c₁ c₂ c₃ : Nat}
      (isField : f ∈ form.fields) (named : d.textOf? k = some f.key)
      (key : ∀ trail, Yields d (textAs "field identifier" trail k) f.key c₁) (unset : f.get s = none)
      (value : ∀ trail, Yields d (f.decoder trail v) a c₂) (rest : Gathers form d es (f.set (some a) s) t c₃) :
      Gathers form d ((k, v) :: es) s t (c₁ + c₂ + c₃)
  | other {k v : Node} {es : List (Node × Node)} {s t : σ} {name : String} {c₁ c₂ : Nat} (strange : name ∉ form.keys)
      (named : d.textOf? k = some name) (key : ∀ trail, Yields d (textAs "field identifier" trail k) name c₁)
      (rest : Gathers form d es s t c₂) :
      Gathers form d ((k, v) :: es) s t (c₁ + c₂)

theorem Gathers.yields (h : Gathers form d es s t c) (trail : Trail) :
    Yields d (foldEntries "field identifier" trail (readInto form.fields) s es) t c := by
  induction h with
  | done => exact .pure d _
  | @field f k v es s t a c₁ c₂ c₃ isField named key unset value rest ih =>
    have step : Yields d (readInto form.fields s f.key (Decode.valueTrail trail k) v) (f.set (some a) s) c₂ := by
      rw [form.readInto_unset isField unset]
      have given : Yields d (some <$> f.decoder (Decode.valueTrail trail k) v) (some a) c₂ := (value _).map
      exact given.bind (h := fun given => pure (f.set given s)) (.pure d _)
    rw [Nat.add_assoc]
    exact (key trail).bind (step.bind ih)
  | @other k v es s t name c₁ c₂ strange named key rest ih =>
    have step : Yields d (readInto form.fields s name (Decode.valueTrail trail k) v) s 0 := by
      rw [form.readInto_other strange]
      exact .pure d s
    exact (key trail).bind (Nat.zero_add c₂ ▸ step.bind ih)

theorem Gathers.of_cost {c' : Nat} (h : Gathers form d es s t c) (hc : c = c') : Gathers form d es s t c' := hc ▸ h

/-- Two entries may change places: if both are of fields they set different ones. -/
theorem Gathers.swap {e e' : Node × Node} (h : Gathers form d (e :: e' :: es) s t c) :
    Gathers form d (e' :: e :: es) s t c := by
  cases h with
  | other strange named key rest =>
    cases rest with
    | other strange' named' key' rest =>
      exact (other strange' named' key' (other strange named key rest)).of_cost (by omega)
    | field isField named' key' unset value rest =>
      exact (field isField named' key' unset value (other strange named key rest)).of_cost (by omega)
  | @field f k v _ _ _ a c₁ c₂ c₃ isField named key unset value rest =>
    cases rest with
    | other strange' named' key' rest =>
      exact (other strange' named' key' (field isField named key unset value rest)).of_cost (by omega)
    | @field g k' v' _ _ _ b c₁' c₂' c₃' isField' named' key' unset' value' rest =>
      -- The second field was not given when the first had been, so it is another one.
      have different : f.key ≠ g.key := by
        intro hkey
        cases form.field_unique isField isField' hkey
        rw [f.get_set] at unset'
        cases unset'
      rw [form.get_apart f isField g isField' different] at unset'
      have unset'' : f.get (g.set (some b) s) = none := by
        rw [form.get_apart g isField' f isField different.symm]
        exact unset
      rw [form.set_apart f isField g isField' different] at rest
      exact (field isField' named' key' unset' value' (field isField named key unset'' value rest)).of_cost (by omega)

theorem Gathers.perm (h : Gathers form d es s t c) (p : es.Perm es') : Gathers form d es' s t c := by
  induction p generalizing s c with
  | nil => exact h
  | cons e p ih =>
    cases h with
    | field isField named key unset value rest => exact .field isField named key unset value (ih rest)
    | other strange named key rest => exact .other strange named key (ih rest)
  | swap e e' es => exact h.swap
  | trans p p' ih ih' => exact ih' (ih h)

/-- A field of which there is no entry is left alone, and may as well be set before. -/
theorem Gathers.absent (h : Gathers form d es s t c) (hf : f ∈ form.fields)
    (absent : ∀ e ∈ es, d.textOf? e.1 ≠ some f.key) (a : Option f.Value) :
    f.get t = f.get s ∧ Gathers form d es (f.set a s) (f.set a t) c := by
  induction h with
  | done => exact ⟨rfl, .done⟩
  | @field g k v es s t b c₁ c₂ c₃ isField named key unset value rest ih =>
    obtain ⟨kept, set⟩ := ih fun e he => absent e (List.mem_cons_of_mem _ he)
    have different : g.key ≠ f.key := fun h => absent (k, v) (List.mem_cons_self ..) (h ▸ named)
    rw [form.get_apart g isField f hf different] at kept
    rw [form.set_apart g isField f hf different] at set
    refine ⟨kept, .field isField named key ?_ value set⟩
    rw [form.get_apart f hf g isField different.symm]
    exact unset
  | other strange named key rest ih =>
    obtain ⟨kept, set⟩ := ih fun e he => absent e (List.mem_cons_of_mem _ he)
    exact ⟨kept, .other strange named key set⟩

/-! ## Edits -/

theorem textAs_scalar {m : Mark} {tag : Option Tag} {style : ScalarStyle} {name wanted : String} (trail : Trail) :
    Yields d (textAs wanted trail (.scalar m tag style name)) name 0 := by
  have h : Yields d (located trail m (pure name)) name 0 := .located (.pure d name)
  exact h

/-- Entries that were put in front of others change nothing that the record tells. -/
theorem Gathers.grown (h : Gathers form d es form.start t c) (grown : Grown d form.keys form.optional es es') :
    ∃ t', Gathers form d es' form.start t' c ∧ form.finish t' = form.finish t := by
  induction grown with
  | kept => exact ⟨t, h, rfl⟩
  | other strange rest ih =>
    obtain ⟨t', gathered, same⟩ := ih
    exact ⟨t', (other strange rfl textAs_scalar gathered).of_cost (Nat.zero_add c), same⟩
  | @null es' m tag style name v isOptional absent isNull rest ih =>
    obtain ⟨t', gathered, same⟩ := ih
    obtain ⟨f, hf, rfl⟩ := List.mem_map.mp isOptional
    obtain ⟨hf, hnull⟩ := List.mem_filter.mp hf
    obtain ⟨a, ha⟩ := Option.isSome_iff_exists.mp hnull
    -- No other entry is of the field, so it may as well be null before all of them.
    obtain ⟨kept, set⟩ := gathered.absent hf absent (some a)
    rw [form.free f hf] at kept
    refine ⟨f.set (some a) t', ?_, (form.finish_null f hf a ha t' kept).trans same⟩
    exact (field hf rfl textAs_scalar (form.free f hf) (f.reads_null a ha d v isNull) set).of_cost (by omega)

/-- A text that was read is the text of the node. -/
theorem textOf_of_textAs {wanted : String} {trail : Trail} {k : Node} {name : String} {c c' : Nat}
    (h : textAs wanted trail k d c = .ok (name, c')) : d.textOf? k = some name := by
  obtain ⟨t, c₁, resolved, h⟩ := DecodeM.bind_ok_iff.mp h
  have isText : ∃ m tag style, t = .scalar m tag style name := by
    have h := located_ok_iff.mp h
    cases t with
    | scalar m tag style text =>
      cases h
      exact ⟨m, tag, style, rfl⟩
    | _ => exact nomatch h
  obtain ⟨m, tag, style, rfl⟩ := isText
  cases k with
  | reference m' anchor =>
    rw [resolve_reference] at resolved
    split at resolved
    · cases resolved
    · cases target : d.target? anchor with
      | none =>
        rw [target] at resolved
        cases resolved
      | some t =>
        rw [target] at resolved
        cases resolved
        simp only [Document.textOf?, target]
  | scalar =>
    cases resolved
    rfl
  | _ => exact nomatch resolved

theorem textOf_alike {k k' : Node} (h : Alike d d' k k') : d'.textOf? k' = d.textOf? k := by
  obtain ⟨h⟩ := h
  cases h with
  | reference here there h =>
    simp only [Document.textOf?, here, there]
    cases h <;> rfl
  | _ => rfl

/-- The entries that were read one after another are gathered where they are kept. -/
theorem foldEntries_gathers {V : String → Node → Node → Prop} {kept : List (Node × Node)} {trail : Trail}
    (hV : ∀ f ∈ form.fields, ∀ v v', V f.key v v' → ∀ trail trail',
      Carries d d' f.map (f.decoder trail v) (f.decoder trail' v'))
    (h : List.Forall₂ (Kept d d' form.keys V) es kept) {s s' t : σ} {c c' : Nat} (agrees : Agrees form.fields s t)
    (read : foldEntries "field identifier" trail (readInto form.fields) s es d c = .ok (s', c')) :
    c ≤ c' ∧ (c ≤ d.limit → c' ≤ d.limit) ∧
      ∃ t', Agrees form.fields s' t' ∧ Gathers form d' kept t t' (c' - c) := by
  -- By induction on the entries: what has been gathered from them in the edited document agrees with the state.
  induction h generalizing s t c with
  | nil =>
    cases read
    exact ⟨Nat.le_refl _, id, t, agrees, Gathers.done.of_cost (Nat.sub_self _).symm⟩
  | @cons e e' es kept head tail ih =>
    obtain ⟨k, v⟩ := e
    obtain ⟨name, c₁, hname, read⟩ := DecodeM.bind_ok_iff.mp read
    obtain ⟨s₁, c₂, hstep, read⟩ := DecodeM.bind_ok_iff.mp read
    have named := textOf_of_textAs hname
    -- Whether the entry is of a field or not, its key is read again.
    have keyed : ∀ {k'}, Alike d d' k k' → (c ≤ c₁ ∧ (c ≤ d.limit → c₁ ≤ d.limit)) ∧
        ∀ trail', Yields d' (textAs "field identifier" trail' k') name (c₁ - c) := fun key =>
      have again := fun trail' => stable_textAs "field identifier" key trail trail' hname
      ⟨⟨(again trail).1, (again trail).2.1⟩, fun trail' => (again trail').2.2⟩
    cases head with
    | @field _ _ k' _ v' isField named' key value =>
      obtain ⟨⟨le₁, limit₁⟩, hkey⟩ := keyed key
      obtain ⟨f, hf, rfl⟩ := List.mem_map.mp isField
      cases named'.symm.trans named
      obtain ⟨unset, a, ha, rfl⟩ := form.readInto_ok hf hstep
      obtain ⟨le₂, limit₂, -⟩ := hV f hf v v' value _ trail ha
      obtain ⟨le₃, limit₃, t', agrees', rest⟩ := ih (form.agrees_set hf agrees a) read
      have unset' : f.get t = none := by
        rw [agrees f hf, unset]
        rfl
      refine ⟨by omega, limit₃ ∘ limit₂ ∘ limit₁, t', agrees', ?_⟩
      have hvalue := fun trail' => (hV f hf v v' value _ trail' ha).2.2
      exact (Gathers.field hf ((textOf_alike key).trans named) hkey unset' hvalue rest).of_cost (by omega)
    | @other _ k' _ v' named' key size =>
      obtain ⟨⟨le₁, limit₁⟩, hkey⟩ := keyed key
      have strange : name ∉ form.keys := fun isField => named' name isField named
      rw [form.readInto_other strange] at hstep
      cases hstep
      obtain ⟨le₃, limit₃, t', agrees', rest⟩ := ih agrees read
      refine ⟨by omega, limit₃ ∘ limit₁, t', agrees', ?_⟩
      exact (Gathers.other strange ((textOf_alike key).trans named) hkey rest).of_cost (by omega)

/-- What a record holds carries over an edit of it. -/
theorem carries {V : String → Node → Node → Prop}
    (hV : ∀ f ∈ form.fields, ∀ v v', V f.key v v' → ∀ trail trail',
      Carries d d' f.map (f.decoder trail v) (f.decoder trail' v'))
    {name : String} {trail trail' : Trail} {n n' : Node} (h : RecordEdit d d' form.keys form.optional V n n') :
    Carries d d' form.map (form.decoder name trail n) (form.decoder name trail' n') := by
  have fresh : Agrees form.fields form.start form.start := fun f hf => by rw [form.free f hf]; rfl
  refine h.resolve fun t t' ht => .located ?_
  have collected := ht.emptyScalar (form.finish_map d d' _ _ fresh) ("struct " ++ name)
  cases ht with
  | mapping hes =>
    -- The entries are gathered where they stand, then the added ones join them, and only then all change places.
    obtain ⟨kept, grown, hkept, hgrown, hperm⟩ := hes
    intro c a c' read
    obtain ⟨s, c₁, hfold, hfinish⟩ := DecodeM.bind_ok_iff.mp read
    obtain ⟨le₁, limit₁, t, agrees, gathered⟩ := foldEntries_gathers hV hkept fresh hfold
    obtain ⟨t', gathered, same⟩ := gathered.grown hgrown
    obtain ⟨le₂, limit₂, finished⟩ := form.finish_map d d' s t agrees hfinish
    refine ⟨Nat.le_trans le₁ le₂, limit₂ ∘ limit₁, ?_⟩
    have hk : c' - c = c₁ - c + (c' - c₁) := by omega
    rw [hk]
    exact ((gathered.perm hperm).yields trail').bind (same ▸ finished)
  | _ => exact collected

end RecordForm
end Shakedown.Yaml

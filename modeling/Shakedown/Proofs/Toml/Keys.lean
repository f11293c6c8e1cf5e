import Shakedown.Toml.Document

/-!
# No key twice

In a document that a text writes no table has two entries of one name, however the table was put together: by entries,
dotted keys and headers, which may come back to a table that is there already, or between braces (`parse?_isKeyed`). The
invariant is `Value.IsKeyed`. Everything that changes a document adds an entry only where there is none of its name, or
puts another value in the place of one, and that is the step (`Value.modifyAt_isKeyed`); the readers of a text keep it
from one line to the next (`Reader.Gives`).
-/

namespace Shakedown.Toml

/-- In no table of a value do two entries have one name. -/
inductive Value.IsKeyed : Value → Prop
  | string (span : Span) (s : String) : IsKeyed (.string span s)
  | integer (span : Span) (n : Int) : IsKeyed (.integer span n)
  | float (span : Span) (x : Decimal.Binary64) : IsKeyed (.float span x)
  | boolean (span : Span) (b : Bool) : IsKeyed (.boolean span b)
  | dateTime (span : Span) : IsKeyed (.dateTime span)
  | array {span : Span} {items : List Value} (inner : ∀ v ∈ items, v.IsKeyed) : IsKeyed (.array span items)
  | tables {items : List Value} (inner : ∀ v ∈ items, v.IsKeyed) : IsKeyed (.tables items)
  | table {origin : Origin} {span : Option Span} {entries : List (Key × Value)}
      (distinct : (entries.map (·.1.name)).Nodup) (inner : ∀ e ∈ entries, e.2.IsKeyed) :
      IsKeyed (.table origin span entries)

variable {name : String} {key : Key} {u v w : Value} {entries : List (Key × Value)} {origin : Origin} {span : Option Span}

/-! ## Entries of a table -/

/-- Nothing is found under a name that no entry has. -/
theorem find?_eq_none_iff : find? name entries = none ↔ name ∉ entries.map (·.1.name) := by
  simp only [find?, Option.map_eq_none_iff, List.find?_eq_none, beq_iff_eq, List.mem_map, not_exists, not_and]

/-- What is found is the value of an entry. -/
theorem mem_of_find? (h : find? name entries = some v) : ∃ e ∈ entries, e.1.name = name ∧ e.2 = v := by
  obtain ⟨e, he, rfl⟩ := Option.map_eq_some_iff.mp h
  exact ⟨e, List.mem_of_find?_eq_some he, by simpa using List.find?_some he, rfl⟩

/-- An entry whose name no other one has is the one of its name. -/
theorem find?_of_mem (distinct : (entries.map (·.1.name)).Nodup) (h : (key, v) ∈ entries) :
    find? key.name entries = some v := by
  induction entries with
  | nil => cases h
  | cons e entries ih =>
    obtain ⟨fresh, distinct⟩ := List.nodup_cons.mp distinct
    rcases List.mem_cons.mp h with rfl | h
    · simp [find?]
    · have other : e.1.name ≠ key.name := by
        intro same
        apply fresh
        exact List.mem_map.mpr ⟨(key, v), h, same.symm⟩
      rw [← ih distinct h]
      simp [find?, other]

/-- Another value for a name leaves the names as they are. -/
theorem names_replace : (replace name v entries).map (·.1.name) = entries.map (·.1.name) := by
  rw [replace, List.map_map]
  apply List.map_congr_left
  intro e _
  by_cases he : e.1.name = name
  · simp [he]
  · simp [he]

/-- The entries of a table with a new value are that value and old ones. -/
theorem mem_replace {e : Key × Value} (h : e ∈ replace name v entries) : e.2 = v ∨ e ∈ entries := by
  obtain ⟨d, hd, rfl⟩ := List.mem_map.mp h
  by_cases he : d.1.name == name
  · exact Or.inl (by simp [he])
  · exact Or.inr (by simpa [he] using hd)

namespace Value

/-- The names in a keyed table are distinct. -/
theorem IsKeyed.names (h : (Value.table origin span entries).IsKeyed) : (entries.map (·.1.name)).Nodup := by
  cases h with
  | table distinct inner => exact distinct

/-- A value in a keyed table is keyed. -/
theorem IsKeyed.entry (h : (Value.table origin span entries).IsKeyed) {e : Key × Value} (he : e ∈ entries) :
    e.2.IsKeyed := by
  cases h with
  | table distinct inner => exact inner e he

/-- A table in a keyed list of tables is keyed. -/
theorem IsKeyed.item {items : List Value} (h : (Value.tables items).IsKeyed) (hv : v ∈ items) : v.IsKeyed := by
  cases h with
  | tables inner => exact inner v hv

/-- What is found in a keyed table is keyed. -/
theorem IsKeyed.find (h : (Value.table origin span entries).IsKeyed) (hf : find? name entries = some v) :
    v.IsKeyed := by
  obtain ⟨e, he, -, rfl⟩ := mem_of_find? hf
  exact h.entry he

theorem isKeyed_empty : (Value.table origin span []).IsKeyed :=
  .table .nil fun _ he => nomatch he

/-- An entry is added under a name that no other one has. -/
theorem IsKeyed.add {o : Origin} {s : Option Span} (h : (Value.table o s entries).IsKeyed)
    (fresh : find? key.name entries = none) (hv : v.IsKeyed) :
    (Value.table origin span (entries ++ [(key, v)])).IsKeyed := by
  apply IsKeyed.table
  · rw [List.map_append, List.nodup_append]
    refine ⟨h.names, by simp, ?_⟩
    rintro a ha b hb rfl
    rw [List.mem_singleton.mp hb] at ha
    exact find?_eq_none_iff.mp fresh ha
  · intro e he
    rcases List.mem_append.mp he with he | he
    · exact h.entry he
    · rw [List.mem_singleton.mp he]
      exact hv

/-- An entry gets another value. -/
theorem IsKeyed.replaced {o : Origin} {s : Option Span} (h : (Value.table o s entries).IsKeyed) (hv : v.IsKeyed) :
    (Value.table origin span (replace name v entries)).IsKeyed := by
  apply IsKeyed.table
  · rw [names_replace]
    exact h.names
  · intro e he
    rcases mem_replace he with rfl | he
    · exact hv
    · exact h.entry he

/-- The last table of a list gives way to another keyed one. -/
theorem IsKeyed.replace_last {items : List Value} (h : (Value.tables items).IsKeyed) (hv : v.IsKeyed) :
    (Value.tables (items.dropLast ++ [v])).IsKeyed := by
  apply IsKeyed.tables
  intro w hw
  rcases List.mem_append.mp hw with hw | hw
  · exact h.item ((List.dropLast_sublist items).mem hw)
  · rw [List.mem_singleton.mp hw]
    exact hv

/-! ## Changes of a document -/

variable {change : Value → Option Value} {path : List Key} {byDottedKey : Bool}

/-- A change that keeps the names of tables apart keeps them apart wherever in a document it is made. -/
theorem modifyAt_isKeyed (hc : ∀ ⦃v w⦄, change v = some w → v.IsKeyed → w.IsKeyed)
    (h : modifyAt byDottedKey change path v = some w) (hv : v.IsKeyed) : w.IsKeyed := by
  -- By induction on the way to the place: each table on it gets back what its part has become.
  induction path generalizing v w with
  | nil => exact hc h hv
  | cons key path ih =>
    cases v with
    | table origin span entries =>
      rw [modifyAt] at h
      split at h
      · -- The table that is missing is made, and changed on the rest of the way.
        rename_i fresh
        obtain ⟨made, hm, h⟩ := Option.bind_eq_some_iff.mp h
        cases h
        exact hv.add fresh (ih hm isKeyed_empty)
      · rename_i found
        split at h
        · obtain ⟨changed, hm, h⟩ := Option.bind_eq_some_iff.mp h
          cases h
          exact hv.replaced (ih hm (hv.find found))
        · cases h
      · rename_i items found
        have listed := hv.find found
        split at h
        · rename_i last hlast
          obtain ⟨changed, hm, h⟩ := Option.bind_eq_some_iff.mp h
          cases h
          exact hv.replaced (listed.replace_last (ih hm (listed.item (List.mem_of_getLast? hlast))))
        · cases h
      · cases h
    | _ =>
      rw [modifyAt] at h
      · cases h
      all_goals
        intros
        contradiction

/-- A table takes a value under a new name only. -/
theorem insert_isKeyed (h : v.insert key w = some u) (hv : v.IsKeyed) (hw : w.IsKeyed) : u.IsKeyed := by
  cases v with
  | table origin span entries =>
    cases hf : find? key.name entries with
    | none =>
      simp only [insert, hf] at h
      cases h
      exact hv.add hf hw
    | some found =>
      simp only [insert, hf] at h
      cases h
  | _ => cases h

/-- A dotted key goes through the tables on its way, or makes them. -/
theorem insertDotted_isKeyed (h : v.insertDotted path key w = some u) (hv : v.IsKeyed) (hw : w.IsKeyed) : u.IsKeyed := by
  refine modifyAt_isKeyed ?_ h hv
  intro inner u h hinner
  split at h
  · exact insert_isKeyed h hinner hw
  · split at h
    · exact insert_isKeyed h hinner hw
    · cases h
  · cases h

/-- An end that moves does not change what a table holds. -/
theorem IsKeyed.extendTo (h : v.IsKeyed) : (v.extendTo w).IsKeyed := by
  cases h with
  | table distinct inner =>
    rename_i span entries
    cases span with
    | none => exact .table distinct inner
    | some span => exact .table distinct inner
  | string span s => exact .string span s
  | integer span n => exact .integer span n
  | float span x => exact .float span x
  | boolean span b => exact .boolean span b
  | dateTime span => exact .dateTime span
  | array inner => exact .array inner
  | tables inner => exact .tables inner

/-- An entry is put into the table that its header opened. -/
theorem addEntry_isKeyed {header : List Key} (h : v.addEntry header path key w = some u) (hv : v.IsKeyed)
    (hw : w.IsKeyed) : u.IsKeyed := by
  refine modifyAt_isKeyed ?_ h hv
  intro inner u h hinner
  obtain ⟨t, ht, rfl⟩ := Option.map_eq_some_iff.mp h
  exact (insertDotted_isKeyed ht hinner hw).extendTo

/-- A table that was only implied is taken out before it stands under its name again. -/
theorem openTable_isKeyed {place : Span} (h : v.openTable path key place = some u) (hv : v.IsKeyed) : u.IsKeyed := by
  refine modifyAt_isKeyed ?_ h hv
  intro parent u h hparent
  split at h
  · rename_i origin span entries
    split at h
    · rename_i fresh
      cases h
      exact hparent.add fresh isKeyed_empty
    · rename_i s inner found
      cases h
      have others : (Value.table origin span (entries.filter fun e => e.1.name != key.name)).IsKeyed :=
        .table (hparent.names.sublist (List.filter_sublist.map _)) fun e he =>
          hparent.entry (List.mem_filter.mp he).1
      have fresh : find? key.name (entries.filter fun e => e.1.name != key.name) = none := by
        simp [find?, List.find?_filter]
      have opened := hparent.find found
      exact others.add fresh (.table opened.names fun e he => opened.entry he)
    · cases h
  · cases h

/-- A header in double brackets adds an empty table to a list. -/
theorem openListTable_isKeyed {place : Span} (h : v.openListTable path key place = some u) (hv : v.IsKeyed) :
    u.IsKeyed := by
  refine modifyAt_isKeyed ?_ h hv
  intro parent u h hparent
  split at h
  · rename_i origin span entries
    split at h
    · rename_i fresh
      cases h
      apply hparent.add fresh
      apply IsKeyed.tables
      intro v hv
      rw [List.mem_singleton.mp hv]
      exact isKeyed_empty
    · rename_i items found
      cases h
      apply hparent.replaced
      apply IsKeyed.tables
      intro v hv
      rcases List.mem_append.mp hv with hv | hv
      · exact (hparent.find found).item hv
      · rw [List.mem_singleton.mp hv]
        exact isKeyed_empty
    · cases h
  · cases h

end Value

/-! ## Readers -/

namespace Reader

variable {α β : Type} {x : Reader α} {f : α → Reader β} {P : α → Prop} {Q : β → Prop}

/-- What a reader reads has a property. -/
def Gives (x : Reader α) (P : α → Prop) : Prop := ∀ ⦃c a c'⦄, x c = some (a, c') → P a

/-- What is read with a property is read on with it. -/
theorem Gives.bind (hx : Gives x P) (hf : ∀ a, P a → Gives (f a) Q) : Gives (x >>= f) Q := by
  intro c b c' h
  obtain ⟨⟨a, c₁⟩, ha, hb⟩ := Option.bind_eq_some_iff.mp h
  exact hf a (hx ha) hb

/-- Of what was read before nothing need be known. -/
theorem Gives.after (hf : ∀ a, Gives (f a) Q) : Gives (x >>= f) Q := by
  intro c b c' h
  obtain ⟨⟨a, c₁⟩, -, hb⟩ := Option.bind_eq_some_iff.mp h
  exact hf a hb

/-- A value at hand has the property that it has. -/
theorem gives_pure {a : α} (ha : P a) : Gives (pure a) P := by
  intro c b c' h
  cases h
  exact ha

theorem gives_fail : Gives (fail : Reader α) P :=
  fun _ _ _ h => nomatch h

/-- A list that is read item by item. -/
theorem gives_separated {separator : Char} (hx : Gives x P) : Gives (separated x separator) fun as => ∀ a ∈ as, P a := by
  apply Gives.after
  intro cs
  -- The loop is bounded by what is left to read; the induction is on that bound.
  generalize cs.length + 1 = fuel
  induction fuel with
  | zero => exact gives_fail
  | succ fuel ih =>
    rw [separatedLoop]
    refine hx.bind ?_
    intro a ha
    refine Gives.after ?_
    intro more
    cases more with
    | false =>
      refine gives_pure ?_
      intro b hb
      rw [List.mem_singleton.mp hb]
      exact ha
    | true =>
      refine ih.bind ?_
      intro as has
      refine gives_pure ?_
      intro b hb
      rcases List.mem_cons.mp hb with rfl | hb
      · exact ha
      · exact has b hb

end Reader

open Reader

/-! ## Values -/

/-- A number to a base is no table. -/
theorem gives_based (base : Nat) (isDigit : Char → Bool) (start : Nat) :
    Gives (based base isDigit start) Value.IsKeyed := by
  refine Gives.after fun _ => Gives.after fun _ => Gives.after fun digits => Gives.after fun n => ?_
  exact Gives.after fun stop => gives_pure (.integer _ _)

theorem gives_specialFloat (start : Nat) : Gives (specialFloat start) Value.IsKeyed := by
  unfold specialFloat
  refine Gives.after fun negative => Gives.after fun infinite => ?_
  dsimp only
  split
  · exact Gives.after fun x => Gives.after fun stop => gives_pure (.float _ _)
  · exact Gives.after fun _ => Gives.after fun x => Gives.after fun stop => gives_pure (.float _ _)

theorem gives_decimal (start : Nat) : Gives (decimal start) Value.IsKeyed := by
  unfold decimal
  refine Gives.after fun negative => Gives.after fun whole => Gives.after fun dotted => ?_
  dsimp only
  -- With a fraction or without one, the number is an integer or not by what has been read.
  split
  all_goals
    refine Gives.after fun fraction => Gives.after fun exponent => Gives.after fun stop => ?_
    split
    · exact Gives.after fun n => gives_pure (.integer _ _)
    · split
      · exact gives_fail
      · exact gives_pure (.float _ _)

theorem gives_numberOrTime : Gives numberOrTime Value.IsKeyed := by
  refine Gives.after fun start => Gives.after fun cs => ?_
  split
  · exact Gives.after fun _ => Gives.after fun stop => gives_pure (.dateTime _)
  split
  · exact Gives.after fun _ => Gives.after fun stop => gives_pure (.dateTime _)
  split
  case h_1 => exact gives_based 16 _ start
  case h_2 => exact gives_based 8 _ start
  case h_3 => exact gives_based 2 _ start
  case h_8 => exact gives_decimal start
  all_goals exact gives_specialFloat start

/-- A scalar is no table. -/
theorem gives_scalar : Gives scalar Value.IsKeyed := by
  refine Gives.after fun start => Gives.after fun first => ?_
  split
  · exact gives_fail
  split
  · exact Gives.after fun s => Gives.after fun stop => gives_pure (.string _ _)
  split
  · exact Gives.after fun _ => Gives.after fun stop => gives_pure (.boolean _ _)
  split
  · exact Gives.after fun _ => Gives.after fun stop => gives_pure (.boolean _ _)
  split
  · exact gives_specialFloat start
  split
  · exact gives_numberOrTime
  · exact gives_fail

variable {item : Reader Value}

/-- An array holds keyed values if each of its items is read as one. -/
theorem gives_arrayItems (hitem : Gives item Value.IsKeyed) : Gives (arrayItems item) fun vs => ∀ v ∈ vs, v.IsKeyed := by
  refine Gives.after fun cs => ?_
  generalize cs.length + 1 = fuel
  induction fuel with
  | zero => exact gives_fail
  | succ fuel ih =>
    rw [arrayLoop]
    refine Gives.after fun _ => Gives.after fun closed => ?_
    cases closed with
    | true => exact gives_pure fun v hv => nomatch hv
    | false =>
      refine hitem.bind fun v hv => Gives.after fun _ => Gives.after fun more => ?_
      cases more with
      | false =>
        refine Gives.after fun _ => gives_pure ?_
        intro w hw
        rw [List.mem_singleton.mp hw]
        exact hv
      | true =>
        refine ih.bind fun vs hvs => gives_pure ?_
        intro w hw
        rcases List.mem_cons.mp hw with rfl | hw
        · exact hv
        · exact hvs w hw

/-- The entries of an inline table hold keyed values if each is read as one. -/
theorem gives_inlineEntries (hitem : Gives item Value.IsKeyed) :
    Gives (inlineEntries item) fun es => ∀ e ∈ es, e.2.2.IsKeyed := by
  have entry : Gives (inlineEntry item) fun e => e.2.2.IsKeyed := by
    refine Gives.after fun names => Gives.after fun _ => Gives.after fun _ => ?_
    exact hitem.bind fun v hv => Gives.after fun _ => gives_pure hv
  refine Gives.after fun _ => Gives.after fun empty => ?_
  cases empty with
  | true => exact gives_pure fun e he => nomatch he
  | false => exact (gives_separated entry).bind fun es hes => Gives.after fun _ => gives_pure hes

/-- An inline table takes its entries one by one, each under a new name. -/
theorem inlineTable_isKeyed {place : Span} {es : List (List Key × Key × Value)} (h : inlineTable place es = some v)
    (hes : ∀ e ∈ es, e.2.2.IsKeyed) : v.IsKeyed := by
  have fold : ∀ (es : List (List Key × Key × Value)) (t u : Value), (∀ e ∈ es, e.2.2.IsKeyed) → t.IsKeyed →
      es.foldlM (fun (t : Value) e => t.insertDotted e.1 e.2.1 e.2.2) t = some u → u.IsKeyed := by
    intro es
    induction es with
    | nil =>
      intro t u _ ht h
      cases h
      exact ht
    | cons e es ih =>
      intro t u hes ht h
      rw [List.foldlM_cons] at h
      obtain ⟨t', ht', h⟩ := Option.bind_eq_some_iff.mp h
      have inserted := Value.insertDotted_isKeyed ht' ht (hes e (List.mem_cons_self ..))
      exact ih t' u (fun e he => hes e (List.mem_cons_of_mem _ he)) inserted h
  obtain ⟨t, ht, h⟩ := Option.bind_eq_some_iff.mp h
  have keyed := fold es _ t hes Value.isKeyed_empty ht
  cases t with
  | table origin span entries =>
    cases h
    exact .table keyed.names fun e he => keyed.entry he
  | _ => cases h

/-- Values are keyed however deep they nest. -/
theorem gives_value (depth : Nat) : Gives (value depth) Value.IsKeyed := by
  induction depth with
  | zero => exact gives_scalar
  | succ depth ih =>
    rw [value]
    refine Gives.after fun start => Gives.after fun first => ?_
    split
    · refine Gives.after fun _ => (gives_arrayItems ih).bind fun vs hvs => ?_
      exact Gives.after fun stop => gives_pure (.array hvs)
    · refine Gives.after fun _ => (gives_inlineEntries ih).bind fun es hes => Gives.after fun stop => ?_
      split
      · rename_i t ht
        exact gives_pure (inlineTable_isKeyed ht hes)
      · exact gives_fail
    · exact gives_scalar

/-! ## Lines -/

variable {s : State}

/-- A header opens a table in a keyed document. -/
theorem gives_header (hs : s.root.IsKeyed) : Gives (header s) fun t => t.root.IsKeyed := by
  refine Gives.after fun start => Gives.after fun isList => ?_
  cases isList with
  | true =>
    refine Gives.after fun names => Gives.after fun _ => Gives.after fun stop => Gives.after fun _ => ?_
    dsimp only
    split
    · rename_i root hroot
      exact gives_pure (Value.openListTable_isKeyed hroot hs)
    · exact gives_fail
  | false =>
    refine Gives.after fun _ => Gives.after fun names => Gives.after fun _ => ?_
    refine Gives.after fun stop => Gives.after fun _ => ?_
    dsimp only
    split
    · rename_i root hroot
      exact gives_pure (Value.openTable_isKeyed hroot hs)
    · exact gives_fail

/-- An entry is put into a keyed document. -/
theorem gives_entry (hs : s.root.IsKeyed) : Gives (entry s) fun t => t.root.IsKeyed := by
  refine Gives.after fun names => Gives.after fun _ => Gives.after fun _ => ?_
  refine (gives_value _).bind fun v hv => Gives.after fun _ => ?_
  split
  · rename_i root hroot
    exact gives_pure (Value.addEntry_isKeyed hroot hs hv)
  · exact gives_fail

/-- A document stays keyed line by line. -/
theorem gives_lines (fuel : Nat) (hs : s.root.IsKeyed) : Gives (lines fuel s) fun t => t.root.IsKeyed := by
  -- Each line leads to a document of the same kind, from which the others go on.
  induction fuel generalizing s with
  | zero => exact gives_fail
  | succ fuel ih =>
    rw [lines]
    refine Gives.after fun _ => Gives.after fun next => ?_
    split
    · exact gives_pure hs
    split
    · exact Gives.after fun _ => ih hs
    split
    · exact (gives_header hs).bind fun t ht => ih ht
    · exact (gives_entry hs).bind fun t ht => ih ht

/-- In a document that a text writes no table has two entries of one name. -/
theorem parse?_isKeyed {text : String} {doc : Value} (h : parse? text = some doc) : doc.IsKeyed := by
  obtain ⟨⟨t, c⟩, ht, rfl⟩ := Option.map_eq_some_iff.mp h
  have read : Gives (do
      let _ ← skipIf ['\uFEFF']
      lines (text.length + 1) {} : Reader State) fun t => t.root.IsKeyed :=
    Gives.after fun _ => gives_lines _ Value.isKeyed_empty
  exact read ht

end Shakedown.Toml

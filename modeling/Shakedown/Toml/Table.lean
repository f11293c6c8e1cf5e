import Shakedown.Toml.Value

/-!
# Building tables

Where entries may be added. A header may lead through tables of any kind but those between braces,
and a dotted key only through tables that no header and no braces have made; either leads into the
last table of a list of tables. No key may be given twice, and no header may open a table twice.
-/

namespace Shakedown.Toml

/-- The entry of a name. -/
def find? (name : String) (entries : List (Key × Value)) : Option Value :=
  (entries.find? fun e => e.1.name == name).map (·.2)

/-- The entries with another value for a name that is present. -/
def replace (name : String) (v : Value) (entries : List (Key × Value)) : List (Key × Value) :=
  entries.map fun e => if e.1.name == name then (e.1, v) else e

/-- Whether keys of a kind may lead through a table. -/
def Origin.admits (o : Origin) (byDottedKey : Bool) : Bool :=
  match o with
  | .inline => false
  | .header => !byDottedKey
  | .implied | .dotted => true

namespace Value

/-- The value with the table changed to which keys lead; tables that are missing on the way are
made. -/
def modifyAt (byDottedKey : Bool) (change : Value → Option Value) : List Key → Value → Option Value
  | [], v => change v
  | key :: path, .table origin span entries =>
    match find? key.name entries with
    | none => do
      -- A table that a header goes through may be defined later on, one that a dotted key made may not.
      let made ← modifyAt byDottedKey change path
        (.table (if byDottedKey then .dotted else .implied) none [])
      some (.table origin span (entries ++ [(key, made)]))
    | some (.table o s es) =>
      if o.admits byDottedKey then do
        let changed ← modifyAt byDottedKey change path (.table o s es)
        some (.table origin span (replace key.name changed entries))
      else none
    | some (.tables items) =>
      -- A list of tables stands for the last of its tables.
      match items.getLast? with
      | some last => do
        let changed ← modifyAt byDottedKey change path last
        some (.table origin span (replace key.name (.tables (items.dropLast ++ [changed])) entries))
      | none => none
    | some _ => none
  | _ :: _, _ => none

/-- The table with a new entry. -/
def insert (t : Value) (key : Key) (v : Value) : Option Value :=
  match t with
  | .table origin span entries =>
    if (find? key.name entries).isSome then none else some (.table origin span (entries ++ [(key, v)]))
  | _ => none

/-- The table with the entry of a key and value inside an open table. A key of several parts ends in
a table that dotted keys have made. -/
def insertDotted (t : Value) (path : List Key) (key : Key) (v : Value) : Option Value :=
  t.modifyAt true (fun inner =>
    match inner with
    | .table .dotted _ _ => inner.insert key v
    | .table .. => if path.isEmpty then inner.insert key v else none
    | _ => none) path

/-- The table with its place extended to the end of a value. -/
def extendTo (t v : Value) : Value :=
  match t with
  | .table origin (some s) entries => .table origin (some ⟨s.start, (v.span?.map (·.stop)).getD s.stop⟩) entries
  | t => t

/-- The document with a table opened by a header at a place. A table that was only implied is moved
to the end of its parent. -/
def openTable (root : Value) (path : List Key) (key : Key) (span : Span) : Option Value :=
  root.modifyAt false (fun parent =>
    match parent with
    | .table origin s entries =>
      match find? key.name entries with
      | none => some (.table origin s (entries ++ [(key, .table .header (some span) [])]))
      | some (.table .implied _ inner) =>
        some (.table origin s (entries.filter (fun e => e.1.name != key.name) ++
          [(key, .table .header (some span) inner)]))
      | some _ => none
    | _ => none) path

/-- The document with a table added to a list of tables by a header at a place. -/
def openListTable (root : Value) (path : List Key) (key : Key) (span : Span) : Option Value :=
  root.modifyAt false (fun parent =>
    match parent with
    | .table origin s entries =>
      let added := Value.table .header (some span) []
      match find? key.name entries with
      | none => some (.table origin s (entries ++ [(key, .tables [added])]))
      | some (.tables items) => some (.table origin s (replace key.name (.tables (items ++ [added])) entries))
      | some _ => none
    | _ => none) path

/-- The document with an entry in the table that the last header opened. -/
def addEntry (root : Value) (header path : List Key) (key : Key) (v : Value) : Option Value :=
  root.modifyAt false (fun t => (t.insertDotted path key v).map fun t => t.extendTo v) header

end Value
end Shakedown.Toml

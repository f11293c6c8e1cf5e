import Shakedown.Proofs.Plan.Sections
import Shakedown.Proofs.Plan.Validity

/-!
# Restyled plan files

A plan file may be written in other ways that say the same: the fields of every section in another order, with fields
that no section has, or with a null for an optional field that is not there. Where it was accepted it still is, as the
same plan (`accepted_restyled`). Only the order of sequences counts: if queries or arguments are reordered, the plan has
them in the new order.
-/

namespace Shakedown.Plan

open Yaml (Node Document SequenceEdit Kept Alike)

/-- One plan file is another one restyled, with its sequences rearranged. -/
def Restyled (d d' : Document) (ω : Rearrangement) : Prop :=
  ∃ n n', d.root = some n ∧ d'.root = some n' ∧ PlanEdit d d' ω n n'

variable {d d' : Document} {n n' : Node} {ω : Rearrangement} {p : Plan}

/-- References may be followed no less often in a restyled file, as it is no smaller. -/
theorem Restyled.limit_le (h : Restyled d d' ω) : d.limit ≤ d'.limit := by
  obtain ⟨n, n', here, there, edit⟩ := h
  rw [Document.limit, Document.limit, here, there]
  exact Nat.mul_le_mul_right 100 edit.size_le

/-- A document is read by its root. -/
theorem ofDocument_ok_iff (here : d.root = some n) : ofDocument d = .ok p ↔ ∃ c, plan [] n d 0 = .ok (p, c) := by
  have decoded : ofDocument d = (plan [] n d 0).map (·.1) := by
    rw [ofDocument, Yaml.decode, here]
    rfl
  rw [decoded]
  cases plan [] n d 0 with
  | error problem => exact iff_of_false (fun h => nomatch h) fun ⟨_, h⟩ => nomatch h
  | ok r => exact ⟨fun h => ⟨r.2, Except.ok.inj h ▸ rfl⟩, fun ⟨_, h⟩ => Except.ok.inj h ▸ rfl⟩

/-- A restyled file reads as the plan in its new order. -/
theorem ofDocument_restyled (h : Restyled d d' ω) (read : ofDocument d = .ok p) : ofDocument d' = .ok (p.arrange ω) := by
  have larger := h.limit_le
  obtain ⟨n, n', here, there, edit⟩ := h
  obtain ⟨c, read⟩ := (ofDocument_ok_iff here).mp read
  -- The same references are followed in both, and the larger document allows no fewer of them.
  obtain ⟨-, limit, yields⟩ := edit.carries read
  have within : 0 + (c - 0) ≤ d'.limit := by
    rw [Nat.zero_add]
    exact Nat.le_trans (limit (Nat.zero_le _)) larger
  exact (ofDocument_ok_iff there).mpr ⟨0 + (c - 0), yields 0 within⟩

/-- Nothing that is asked of a plan depends on an order. -/
theorem Valid.arrange (h : p.Valid) (ω : Rearrangement) : (p.arrange ω).Valid where
  named := h.named
  asks := by
    rw [Plan.arrange, ne_eq, ω.queries.apply_eq_nil_iff, List.mapIdx_eq_nil_iff]
    exact h.asks
  server := h.server
  client := h.client
  ceiling := h.ceiling
  initialInterval := h.initialInterval
  maxInterval := h.maxInterval
  probe := h.probe
  clientTimeout := h.clientTimeout
  queryTimeouts := by
    intro q hq
    obtain ⟨i, hi, rfl⟩ := List.mem_mapIdx.mp ((ω.queries.apply_perm _).mem_iff.mp hq)
    have positive : p.queries[i].timeoutSecs ≠ some 0 := h.queryTimeouts _ (List.getElem_mem hi)
    exact positive

/-- A restyled plan file is accepted if the file was, as the same plan but for the sequences that were rearranged; so
are all texts of it. -/
theorem accepted_restyled (restyled : Restyled d d' ω) (accepted : accept d = .ok p) :
    accept d' = .ok (p.arrange ω) ∧ (∀ text, Document.ofString text = .ok d' → parse text = .ok (p.arrange ω)) ∧
      p.arrange .same = p := by
  obtain ⟨read, valid⟩ := accept_ok_iff.mp accepted
  have restyled := accept_ok_iff.mpr ⟨ofDocument_restyled restyled read, valid.arrange ω⟩
  exact ⟨restyled, fun text h => parse_ok_iff.mpr ⟨d', h, restyled⟩, p.arrange_same⟩

/-! A plan file, and the same in reverse, with a note, a null for the description, and its queries and the arguments of
the client turned around. -/

/-- A plain scalar. -/
def word (text : String) : Node := .scalar .zero none .plain text

/-- A sequence of plain scalars. -/
def words (texts : List String) : Node := .sequence .zero none (texts.map word)

/-- A mapping with plain keys. -/
def fields (entries : List (String × Node)) : Node := .mapping .zero none (entries.map fun e => (word e.1, e.2))

/-- A plan that gives no more than it must, and two arguments of the client. -/
def terseFile : Document :=
  ⟨some (fields [
    ("name", word "demo"),
    ("server", fields [("target", fields [("bin", word "s")])]),
    ("client", fields [("target", fields [("bin", word "c")]), ("args", words ["a", "b"])]),
    ("queries", .sequence .zero none [fields [("query", word "x")], fields [("query", word "y")]])]), .zero, []⟩

/-- The plan in reverse, with a field that no section has and a null. -/
def chattyFile : Document :=
  ⟨some (fields [
    ("queries", .sequence .zero none [fields [("query", word "y")], fields [("query", word "x")]]),
    ("client", fields [("target", fields [("bin", word "c")]), ("args", words ["b", "a"])]),
    ("server", fields [("target", fields [("bin", word "s")])]),
    ("name", word "demo"),
    ("notes", fields [("seen", words ["once", "twice"])]),
    ("description", word "~")]), .zero, []⟩

/-- Sequences are turned around. -/
def reversed : Reordering := ⟨fun n => (List.range n).reverse, fun _ => List.reverse_perm _⟩

/-- The arguments of the client and the queries are turned around, and nothing else. -/
def turned : Rearrangement := { client := reversed, queries := reversed }

/-- A plain word is spelt like itself. -/
theorem alike_word (text : String) : Alike d d' (word text) (word text) := ⟨.scalar⟩

theorem alike_bin (name : String) : Alike d d' (fields [("bin", word name)]) (fields [("bin", word name)]) :=
  ⟨.mapping (.cons (.intro (alike_word "bin") (alike_word name)) .nil)⟩

/-- A field under a plain word is kept under that word. -/
theorem kept_word {known : List String} {V : String → Node → Node → Prop} {name : String} {v v' : Node}
    (isField : name ∈ known) (value : V name v v') : Kept d d' known V (word name, v) (word name, v') :=
  .field isField rfl (alike_word name) value

/-- A query of one field may be left as it is. -/
theorem queryEdit_text {args : Reordering} (text : String) :
    QueryEdit d d' args (fields [("query", word text)]) (fields [("query", word text)]) :=
  .mapping ⟨_, _, .cons (kept_word (by simp) (alike_word text)) .nil, .kept _, .refl _⟩

/-- The second file is a restyling of the first: its fields are reordered and spelt anew, with others in between. -/
theorem chattyFile_restyles : Restyled terseFile chattyFile turned := by
  have server : ServerEdit terseFile chattyFile .same (fields [("target", fields [("bin", word "s")])])
      (fields [("target", fields [("bin", word "s")])]) :=
    .mapping ⟨_, _, .cons (kept_word (by decide) (alike_bin "s")) .nil, .kept _, .refl _⟩
  have args : SequenceEdit terseFile chattyFile (fun _ => Alike terseFile chattyFile) reversed (words ["a", "b"])
      (words ["b", "a"]) :=
    .sequence ⟨_, .cons (alike_word "a") (.cons (alike_word "b") .nil), rfl⟩
  have client : ClientEdit terseFile chattyFile reversed
      (fields [("target", fields [("bin", word "c")]), ("args", words ["a", "b"])])
      (fields [("target", fields [("bin", word "c")]), ("args", words ["b", "a"])]) :=
    .mapping ⟨_, _, .cons (kept_word (by decide) (alike_bin "c")) (.cons (kept_word (by decide) args) .nil), .kept _,
      .refl _⟩
  have queries : SequenceEdit terseFile chattyFile (fun i => QueryEdit terseFile chattyFile (turned.queryArgs i)) reversed
      (.sequence .zero none [fields [("query", word "x")], fields [("query", word "y")]])
      (.sequence .zero none [fields [("query", word "y")], fields [("query", word "x")]]) :=
    .sequence ⟨_, .cons (queryEdit_text "x") (.cons (queryEdit_text "y") .nil), rfl⟩
  refine ⟨_, _, rfl, rfl, .mapping ⟨_, _, .cons (kept_word (by decide) (alike_word "demo"))
    (.cons (kept_word (by decide) server) (.cons (kept_word (by decide) client)
      (.cons (kept_word (by decide) queries) .nil))), ?_, (List.reverse_perm [
        (word "description", word "~"), (word "notes", fields [("seen", words ["once", "twice"])]),
        (word "name", word "demo"), (word "server", fields [("target", fields [("bin", word "s")])]),
        (word "client", fields [("target", fields [("bin", word "c")]), ("args", words ["b", "a"])]),
        (word "queries", .sequence .zero none [fields [("query", word "y")], fields [("query", word "x")]])]).symm⟩⟩
  exact .null (by decide) (by decide) (Or.inr (by decide +kernel)) (.other (by decide) (.kept _))

/-- Both are accepted, and the queries and arguments of the one are those of the other in reverse. -/
theorem chattyFile_accepted :
    Restyled terseFile chattyFile turned ∧
      accept terseFile = .ok {
        name := "demo", server := { target := .bin "s" }, client := { target := .bin "c", args := ["a", "b"] },
        queries := [{ query := "x" }, { query := "y" }] } ∧
      accept chattyFile = .ok {
        name := "demo", server := { target := .bin "s" }, client := { target := .bin "c", args := ["b", "a"] },
        queries := [{ query := "y" }, { query := "x" }] } := by
  have accepted : accept terseFile = .ok {
      name := "demo", server := { target := .bin "s" }, client := { target := .bin "c", args := ["a", "b"] },
      queries := [{ query := "x" }, { query := "y" }] } := by decide +kernel
  exact ⟨chattyFile_restyles, accepted, (accepted_restyled chattyFile_restyles accepted).1⟩

end Shakedown.Plan

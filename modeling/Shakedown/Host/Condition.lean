import Shakedown.Host.Files

/-!
# Conditions

The expressions that `test` and `[` decide, over texts, numbers and files. A word is an operator only
where one can stand: a test of one operand needs its operand, and yields to a test of two operands
whose operator comes next.
-/

namespace Shakedown.Host.Condition

/-- What a condition may look at, and whether `==` compares texts. -/
structure Scope where
  files : Files
  here : Place
  doubleEquals : Bool := false

/-- What is wrong with a condition. -/
inductive Fault where
  | number (text : String)
  | unexpected (text : String)
  | missing (operator : String)
  | unclosed
deriving DecidableEq, Repr

/-- Kinds of operator. -/
inductive Kind where
  | unary
  | binary
  | negation
  | conjunction
  | disjunction
  | opening
  | closing
deriving DecidableEq, Repr

/-- The tests of one operand. -/
def unaryOperators : List String :=
  ["-r", "-w", "-x", "-e", "-f", "-d", "-c", "-b", "-p", "-u", "-g", "-k", "-s", "-t", "-z", "-n", "-h", "-O", "-G",
    "-L", "-S"]

/-- The tests of two operands. -/
def binaryOperators : List String :=
  ["=", "!=", "<", ">", "-eq", "-ne", "-ge", "-gt", "-le", "-lt", "-nt", "-ot", "-ef"]

/-- The kind of an operator. -/
def kindOf? (sc : Scope) (word : String) : Option Kind :=
  if unaryOperators.contains word then some .unary
  else if binaryOperators.contains word || (sc.doubleEquals && word == "==") then some .binary
  else match word with
    | "!" => some .negation
    | "-a" => some .conjunction
    | "-o" => some .disjunction
    | "(" => some .opening
    | ")" => some .closing
    | _ => none

/-- What the first of some words is: an operator, an operand, or nothing. -/
inductive Lexeme where
  | nothing
  | operand
  | operator (k : Kind)
deriving DecidableEq, Repr

/-- Whether a test of one operand is an operand itself, given the words after it. -/
def standsAlone (sc : Scope) : List String → Bool
  | [] => true
  | [_] => false
  | word :: _ => kindOf? sc word == some .binary

/-- What the first of some words is. -/
def lexeme (sc : Scope) : List String → Lexeme
  | [] => .nothing
  | word :: rest =>
    match kindOf? sc word with
    | some .unary => if standsAlone sc rest then .operand else .operator .unary
    | some .opening => if rest.isEmpty then .operand else .operator .opening
    | some k => .operator k
    | none => .operand

/-! ## Tests -/

/-- The number that a text writes between blanks, within 64 bits. -/
def number (s : String) : Except Fault Int :=
  let isSpace (c : Char) : Bool := c == ' ' || (9 ≤ c.toNat && c.toNat ≤ 13)
  let cs := (s.toList.dropWhile isSpace).reverse.dropWhile isSpace |>.reverse
  let body := match cs with
    | '-' :: rest | '+' :: rest => rest
    | all => all
  let n := body.foldl (fun n c => n * 10 + (c.toNat - 48)) 0
  let isNegative := cs.head? == some '-'
  let limit := if isNegative then Nat.pow 2 63 else Nat.pow 2 63 - 1
  if !body.isEmpty && body.all Char.isDigit && decide (n ≤ limit) then .ok (if isNegative then -(n : Int) else n)
  else .error (.number s)

/-- A test of one operand. -/
def unary (sc : Scope) (op operand : String) : Except Fault Bool :=
  let node := match sc.files.lookUp sc.here operand with
    | .ok n => some n
    | .error _ => none
  let size := match sc.files.find sc.here operand with
    | .ok place => sc.files.size (place.headD 0)
    | .error _ => 0
  let hasBit (bit : Nat) : Bool := node.any fun n => n.mode / bit % 2 == 1
  let isNull (n : Node) : Bool := match n.content with
    | .null => true
    | _ => false
  match op with
  | "-n" => .ok (!operand.isEmpty)
  | "-z" => .ok operand.isEmpty
  | "-e" | "-O" | "-G" => .ok node.isSome
  | "-f" => .ok (node.any Node.isFile)
  | "-d" => .ok (node.any Node.isDirectory)
  | "-s" => .ok (node.any Node.isDirectory || 0 < size)
  | "-r" => .ok (node.any Node.isReadable)
  | "-w" => .ok (node.any Node.isWritable)
  | "-x" => .ok (node.any Node.isExecutable)
  | "-u" => .ok (hasBit 0o4000)
  | "-g" => .ok (hasBit 0o2000)
  | "-k" => .ok (hasBit 0o1000)
  | "-c" => .ok (node.any isNull)
  | "-t" => do
    let _ ← number operand
    return false
  | _ => .ok false

/-- A test of two operands. Of two files the one that was made later is the newer one. -/
def binary (sc : Scope) (op a b : String) : Except Fault Bool :=
  let compare (f : Int → Int → Bool) : Except Fault Bool := do return f (← number a) (← number b)
  let nodes (f : Nat → Nat → Bool) : Except Fault Bool :=
    match sc.files.find sc.here a, sc.files.find sc.here b with
    | .ok p, .ok q => .ok (f (p.headD 0) (q.headD 0))
    | _, _ => .ok false
  match op with
  | "!=" => .ok (a != b)
  | "<" => .ok (decide (a < b))
  | ">" => .ok (decide (b < a))
  | "-eq" => compare (· == ·)
  | "-ne" => compare (· != ·)
  | "-lt" => compare fun x y => decide (x < y)
  | "-le" => compare fun x y => decide (x ≤ y)
  | "-gt" => compare fun x y => decide (y < x)
  | "-ge" => compare fun x y => decide (y ≤ x)
  | "-nt" => nodes fun x y => decide (y < x)
  | "-ot" => nodes fun x y => decide (x < y)
  | "-ef" => nodes (· == ·)
  | _ => .ok (a == b)

/-! ## Expressions

Each reader takes the words from its first one on, with what that is taken for, and leaves the words
from its last one on. -/

mutual
/-- Conditions joined by `-o`. All of them are decided. -/
def any (sc : Scope) : Nat → Lexeme → List String → Except Fault (Bool × List String)
  | 0, _, _ => .error .unclosed
  | fuel + 1, l, words => do
    let (first, last) ← all sc fuel l words
    if lexeme sc (last.drop 1) = .operator .disjunction then
      let (second, last) ← any sc fuel (lexeme sc (last.drop 2)) (last.drop 2)
      return (first || second, last)
    else return (first, last)

/-- Conditions joined by `-a`. All of them are decided. -/
def all (sc : Scope) : Nat → Lexeme → List String → Except Fault (Bool × List String)
  | 0, _, _ => .error .unclosed
  | fuel + 1, l, words => do
    let (first, last) ← negated sc fuel l words
    if lexeme sc (last.drop 1) = .operator .conjunction then
      let (second, last) ← all sc fuel (lexeme sc (last.drop 2)) (last.drop 2)
      return (first && second, last)
    else return (first, last)

/-- A condition, or a negated one. -/
def negated (sc : Scope) : Nat → Lexeme → List String → Except Fault (Bool × List String)
  | 0, _, _ => .error .unclosed
  | fuel + 1, l, words =>
    if l = .operator .negation then do
      let next := lexeme sc (words.drop 1)
      let (b, last) ← negated sc fuel next (if next = .nothing then words else words.drop 1)
      return (!b, last)
    else primary sc fuel l words

/-- A test, a condition in parentheses, or a text, which holds unless it is empty. -/
def primary (sc : Scope) : Nat → Lexeme → List String → Except Fault (Bool × List String)
  | 0, _, _ => .error .unclosed
  | fuel + 1, l, words =>
    let after := words.drop 1
    match l with
    | .nothing => .ok (false, words)
    | .operator .opening =>
      if lexeme sc after = .operator .closing then .ok (false, after)
      else do
        let (b, last) ← any sc fuel (lexeme sc after) after
        if lexeme sc (last.drop 1) = .operator .closing then return (b, last.drop 1) else throw .unclosed
    | .operator .unary =>
      match after with
      | [] => .error (.missing (words.headD ""))
      | operand :: _ => (unary sc (words.headD "") operand).map fun b => (b, after)
    | _ =>
      if lexeme sc after = .operator .binary then
        match words with
        | a :: op :: b :: rest => (binary sc op a b).map fun r => (r, b :: rest)
        | _ => .error (.missing (after.headD ""))
      else .ok (!(words.headD "").isEmpty, words)
end

/-- Whether the condition of words holds, where the first one is taken for something. -/
def decideFrom (sc : Scope) (l : Lexeme) (words : List String) : Except Fault Bool := do
  let (b, last) ← any sc (8 * words.length + 16) l words
  match last with
  | word :: _ :: _ => throw (.unexpected word)
  | _ => return b

/-- Whether the condition that arguments write holds; no arguments never hold. Of three arguments, an
operator in the middle makes a test of two operands whatever the first one is; three or four may be a
negation of the others, or stand in parentheses. -/
def decide? (sc : Scope) : List String → Except Fault Bool
  | [] => .ok false
  | [a, op, b] =>
    if kindOf? sc op = some .binary then decideFrom sc .operand [a, op, b]
    else if a == "(" && b == ")" then decideFrom sc (lexeme sc [op]) [op]
    else if a == "!" then (decide? sc [op, b]).map (!·)
    else decideFrom sc (lexeme sc [a, op, b]) [a, op, b]
  | [a, b, c, d] =>
    if a == "(" && d == ")" then decideFrom sc (lexeme sc [b, c]) [b, c]
    else if a == "!" then (decide? sc [b, c, d]).map (!·)
    else decideFrom sc (lexeme sc [a, b, c, d]) [a, b, c, d]
  | words => decideFrom sc (lexeme sc words) words

end Shakedown.Host.Condition

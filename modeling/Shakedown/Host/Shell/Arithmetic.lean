/-!
# Shell arithmetic

Integer expressions with variables, the operators of the C language by their usual precedence, and
assignments, on integers of 64 bits that wrap around. A variable without a value counts as zero.
What a condition leaves out is read but not evaluated: it cannot fail and assigns nothing.
-/

namespace Shakedown.Host.Shell

/-- A token of an expression; `bad` is a character that no token starts with. -/
inductive ArithToken where
  | number (n : Int)
  | name (s : String)
  | symbol (s : String)
  | bad
deriving DecidableEq, Repr

/-- Why an expression has no value. -/
inductive ArithFault where
  | expecting (what : String)
  | divisionByZero
  | illegalNumber (text : String)
deriving DecidableEq, Repr

/-- A fault in words, with the expression where the words quote it. -/
def ArithFault.message (expression : String) : ArithFault → String
  | .expecting what => s!"arithmetic expression: expecting {what}: \"{expression}\""
  | .divisionByZero => s!"arithmetic expression: division by zero: \"{expression}\""
  | .illegalNumber text => s!"Illegal number: {text}"

/-- The symbols, the longer ones first. -/
def arithSymbols : List String :=
  ["<<=", ">>=", "==", "!=", "<=", ">=", "&&", "||", "<<", ">>", "+=", "-=", "*=", "/=", "%=", "&=", "|=", "^=",
    "+", "-", "*", "/", "%", "<", ">", "=", "(", ")", "!", "~", "&", "|", "^", "?", ":"]

/-- An integer brought into the range of 64 bits. -/
def wrapped (n : Int) : Int := Int.bmod n (Nat.pow 2 64)

/-- The highest integer of 64 bits. -/
def highest : Int := (Nat.pow 2 63 : Int) - 1

/-- The value of a digit, letters being the digits from ten on. -/
def digitValue? (c : Char) : Option Nat :=
  if c.isDigit then some (c.toNat - 48)
  else if 'a' ≤ c ∧ c ≤ 'f' then some (c.toNat - 87)
  else if 'A' ≤ c ∧ c ≤ 'F' then some (c.toNat - 55)
  else none

/-- The digits of a base at the start of a text, as a number with its length. -/
def digitsOf (base : Nat) (cs : List Char) : Nat × Nat :=
  let isDigit (c : Char) : Bool := (digitValue? c).any (· < base)
  let digits := cs.takeWhile isDigit
  (digits.foldl (fun n c => n * base + (digitValue? c).getD 0) 0, digits.length)

/-- The number at the start of a text with its length: hexadecimal after `0x`, binary after `0b`, octal
after a zero, else decimal. -/
def arithNumber (cs : List Char) : Nat × Nat :=
  let marked (base : Nat) (rest : List Char) : Nat × Nat :=
    match digitsOf base rest with
    | (_, 0) => (0, 1)
    | (n, taken) => (n, taken + 2)
  match cs with
  | '0' :: 'x' :: rest | '0' :: 'X' :: rest => marked 16 rest
  | '0' :: 'b' :: rest | '0' :: 'B' :: rest => marked 2 rest
  | '0' :: _ => digitsOf 8 cs
  | _ => digitsOf 10 cs

/-- Whether a character is a blank of an expression. -/
def isArithBlank (c : Char) : Bool := c == ' ' || c == '\t' || c == '\n'

/-- The tokens of an expression. -/
def arithTokens : Nat → List Char → List ArithToken
  | 0, _ => []
  | _ + 1, [] => []
  | fuel + 1, c :: rest =>
    if isArithBlank c then arithTokens fuel rest
    else if c.isDigit then
      let (n, taken) := arithNumber (c :: rest)
      .number (min (n : Int) highest) :: arithTokens fuel (rest.drop (taken - 1))
    else if c.isAlpha || c == '_' then
      let name := (c :: rest).takeWhile fun x => x.isAlphanum || x == '_'
      .name (String.ofList name) :: arithTokens fuel ((c :: rest).drop name.length)
    else
      match arithSymbols.find? fun s => s.toList.isPrefixOf (c :: rest) with
      | some s => .symbol s :: arithTokens fuel ((c :: rest).drop s.length)
      | none => [.bad]

/-- Variables of an expression, and what is left of its tokens. -/
structure ArithState where
  vars : List (String × String)
  tokens : List ArithToken

/-- Evaluation. -/
abbrev Arith := StateT ArithState (Except ArithFault)

namespace Arith

/-- The next token is a symbol and is read, or it is not. -/
def skipIf (s : String) : Arith Bool := do
  match (← get).tokens with
  | .symbol x :: rest =>
    if x == s then
      modify fun st => { st with tokens := rest }
      return true
    else return false
  | _ => return false

/-- The number that the value of a variable writes, with blanks around it or without; an empty one
writes zero. -/
def numberOf? (text : String) : Option Int :=
  let cs := text.toList.dropWhile isArithBlank
  let negative := cs.head? == some '-'
  let body := if negative || cs.head? == some '+' then cs.drop 1 else cs
  let (n, taken) := arithNumber body
  let ends := (body.drop taken).all isArithBlank
  if cs.isEmpty then some 0
  else if taken = 0 || !ends then none
  else some (if negative then max (-(n : Int)) (-highest - 1) else min (n : Int) highest)

/-- The number of a variable. -/
def variableValue (name : String) : Arith Int := do
  let text := ((← get).vars.lookup name).getD ""
  match numberOf? text with
  | some n => return n
  | none => throw (.illegalNumber text)

/-- A variable is set. -/
def assign (name : String) (n : Int) : Arith Int := do
  modify fun st => { st with vars := (name, toString n) :: st.vars.filter (·.1 != name) }
  return n

/-- Truth as a number. -/
def truth (b : Bool) : Int := if b then 1 else 0

/-- An operation on the bits of two integers. -/
def bitwise (f : BitVec 64 → BitVec 64 → BitVec 64) (a b : Int) : Int :=
  (f (BitVec.ofInt 64 a) (BitVec.ofInt 64 b)).toInt

/-- The places that a shift goes: only the lower six bits of the amount count. -/
def shiftAmount (b : Int) : Nat := (b.emod 64).toNat

/-- What a binary operator makes of two numbers; none if it divides by zero or is no operator. -/
def apply (op : String) (a b : Int) : Option Int :=
  match op with
  | "+" => some (wrapped (a + b))
  | "-" => some (wrapped (a - b))
  | "*" => some (wrapped (a * b))
  | "/" => if b = 0 then none else some (wrapped (a.tdiv b))
  | "%" => if b = 0 then none else some (a.tmod b)
  | "<<" => some (wrapped (a * (Nat.pow 2 (shiftAmount b) : Nat)))
  | ">>" => some (a.fdiv (Nat.pow 2 (shiftAmount b) : Nat))
  | "<" => some (truth (decide (a < b)))
  | ">" => some (truth (decide (b < a)))
  | "<=" => some (truth (decide (a ≤ b)))
  | ">=" => some (truth (decide (b ≤ a)))
  | "==" => some (truth (a == b))
  | "!=" => some (truth (a != b))
  | "&" => some (bitwise (· &&& ·) a b)
  | "^" => some (bitwise (· ^^^ ·) a b)
  | "|" => some (bitwise (· ||| ·) a b)
  | _ => none

/-- What a binary operator makes of two numbers that are wanted, or nothing in particular. -/
def combine (wanted : Bool) (op : String) (a b : Int) : Arith Int :=
  if wanted then
    match apply op a b with
    | some n => return n
    | none => throw .divisionByZero
  else return b

/-- The binary operators that evaluate both operands, by precedence, the weakest first. -/
def levels : List (List String) :=
  [["|"], ["^"], ["&"], ["==", "!="], ["<=", ">=", "<", ">"], ["<<", ">>"], ["+", "-"], ["*", "/", "%"]]

/-- The operators that assign what another operator makes of a variable. -/
def compoundAssignments : List String := ["<<=", ">>=", "+=", "-=", "*=", "/=", "%=", "&=", "|=", "^="]

/-- The operator among some that is next, which is read. -/
def operator? : List String → Arith (Option String)
  | [] => return none
  | op :: rest => do
    if ← skipIf op then return some op else operator? rest

/-- What evaluation does without fuel. -/
def exhausted {α : Type} : Arith α := throw (.expecting "primary")

mutual
/-- An expression whose operators are of the given levels or stronger. -/
def binary (wanted : Bool) : Nat → List (List String) → Arith Int
  | 0, _ => exhausted
  | fuel + 1, [] => unary wanted fuel
  | fuel + 1, ops :: stronger => do
    let first ← binary wanted fuel stronger
    binaryTail wanted fuel ops stronger first

/-- The operands after a first one. -/
def binaryTail (wanted : Bool) : Nat → List String → List (List String) → Int → Arith Int
  | 0, _, _, _ => exhausted
  | fuel + 1, ops, stronger, first => do
    match ← operator? ops with
    | none => return first
    | some op =>
      let second ← binary wanted fuel stronger
      binaryTail wanted fuel ops stronger (← combine wanted op first second)

/-- A signed or negated operand, a variable, a number, or an expression in parentheses. -/
def unary (wanted : Bool) : Nat → Arith Int
  | 0 => exhausted
  | fuel + 1 => do
    match (← get).tokens with
    | .number n :: rest =>
      modify fun st => { st with tokens := rest }
      return n
    | .name name :: rest =>
      modify fun st => { st with tokens := rest }
      if wanted then variableValue name else return 0
    | .symbol s :: rest =>
      modify fun st => { st with tokens := rest }
      match s with
      | "-" => return wrapped (-(← unary wanted fuel))
      | "+" => unary wanted fuel
      | "!" => return truth ((← unary wanted fuel) == 0)
      | "~" => return -(← unary wanted fuel) - 1
      | "(" =>
        let n ← assignment wanted fuel
        if ← skipIf ")" then return n else throw (.expecting "')'")
      | _ => throw (.expecting "primary")
    | _ => throw (.expecting "primary")

/-- Operands joined by `&&`. -/
def both (wanted : Bool) : Nat → Arith Int
  | 0 => exhausted
  | fuel + 1 => do
    let first ← binary wanted fuel levels
    if ← skipIf "&&" then
      let second ← both (wanted && first != 0) fuel
      return truth (first != 0 && second != 0)
    else return first

/-- Operands joined by `||`. -/
def either (wanted : Bool) : Nat → Arith Int
  | 0 => exhausted
  | fuel + 1 => do
    let first ← both wanted fuel
    if ← skipIf "||" then
      let second ← either (wanted && first == 0) fuel
      return truth (first != 0 || second != 0)
    else return first

/-- An expression with a choice between two if it has one. -/
def choice (wanted : Bool) : Nat → Arith Int
  | 0 => exhausted
  | fuel + 1 => do
    let test ← either wanted fuel
    if ← skipIf "?" then
      let yes ← assignment (wanted && test != 0) fuel
      if !(← skipIf ":") then throw (.expecting "':'")
      let no ← choice (wanted && test == 0) fuel
      return if test != 0 then yes else no
    else return test

/-- A whole expression: an assignment, or a value. -/
def assignment (wanted : Bool) : Nat → Arith Int
  | 0 => exhausted
  | fuel + 1 => do
    match (← get).tokens with
    | .name name :: .symbol op :: rest =>
      if op == "=" then
        modify fun st => { st with tokens := rest }
        let n ← assignment wanted fuel
        if wanted then assign name n else return n
      else if compoundAssignments.contains op then
        modify fun st => { st with tokens := rest }
        let operand ← assignment wanted fuel
        if wanted then
          let old ← variableValue name
          assign name (← combine true (op.dropEnd 1).toString old operand)
        else return operand
      else choice wanted fuel
    | _ => choice wanted fuel
end

end Arith

/-- The value of an expression and the variables after it, or the fault in words. -/
def evaluate (vars : List (String × String)) (text : List Char) : Except String (Int × List (String × String)) :=
  let tokens := arithTokens (text.length + 1) text
  match (Arith.assignment true (16 * tokens.length + 64)).run ⟨vars, tokens⟩ with
  | .error fault => .error (fault.message (String.ofList text))
  | .ok (n, st) =>
    if st.tokens.isEmpty then .ok (n, st.vars)
    else .error ((ArithFault.expecting "EOF").message (String.ofList text))

end Shakedown.Host.Shell

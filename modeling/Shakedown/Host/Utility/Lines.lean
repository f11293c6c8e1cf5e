import Shakedown.Host.Utility.Basic

/-!
# Programs over lines

The programs that pass lines on: all of them, the first or last ones, in reverse, joined, or counted.
-/

namespace Shakedown.Host.Utility

/-- A text at the right of a number of columns. -/
def padded (width : Nat) (s : String) : String := String.ofList (List.replicate (width - s.length) ' ') ++ s

/-- A text in the quotes of complaints. -/
def inQuotes (s : String) : String := "'" ++ s ++ "'"

/-! ## All lines -/

/-- A byte as visible characters: a control with a caret, and one of the upper half after `M-`. -/
def visible (tabs : Bool) (b : UInt8) : List UInt8 :=
  let low (b : UInt8) : List UInt8 := if b < 32 then [94, b + 64] else if b == 127 then [94, 63] else [b]
  if b == 9 && !tabs then [9] else if b < 128 then low b else [77, 45] ++ low (b - 128)

/-- Lines of which no two blank ones follow each other. -/
def squeezed : Bool → List (List UInt8) → List (List UInt8)
  | _, [] => []
  | wasBlank, l :: rest =>
    let isBlank := l == [10]
    if isBlank && wasBlank then squeezed true rest else l :: squeezed isBlank rest

/-- Lines with their numbers; where `blanks`, blank lines have numbers too. -/
def numbered (blanks : Bool) : Nat → List (List UInt8) → List (List UInt8)
  | _, [] => []
  | n, l :: rest =>
    if l == [10] && !blanks then l :: numbered blanks n rest
    else (bytesOf (padded 6 (toString n) ++ "\t") ++ l) :: numbered blanks (n + 1) rest

/-- The options of `cat`. -/
def concatenateOptions : OptionTable :=
  { plain := "AbeEnstTuv",
    long := [("show-all", 'A'), ("number-nonblank", 'b'), ("show-ends", 'E'), ("number", 'n'),
      ("squeeze-blank", 's'), ("show-tabs", 'T'), ("show-nonprinting", 'v')] }

/-- The program that puts files one after the other. -/
def concatenate (sc : Scope) : Result :=
  sc.withOptions concatenateOptions 1 fun o =>
    let ends := "AeE".toList.any o.has
    let tabs := "AtT".toList.any o.has
    let marks := "Aetv".toList.any o.has
    sc.overAll o.operands plainComplaint fun bytes =>
      if o.given.isEmpty then bytes
      else
        let ls := lines bytes
        let ls := if o.has 's' then squeezed false ls else ls
        let shown (l : List UInt8) : List UInt8 :=
          let body := chomp l
          let body := if marks then body.flatMap (visible tabs)
            else if tabs then body.flatMap fun b => if b == 9 then [94, 73] else [b] else body
          if l.getLast? == some 10 then body ++ (if ends then [36, 10] else [10]) else body
        let ls := if o.has 'b' then numbered false 1 ls else if o.has 'n' then numbered true 1 ls else ls
        let prefixLength := if o.has 'b' || o.has 'n' then 7 else 0
        ls.flatMap fun l =>
          let number := if prefixLength == 7 && l != [10] then l.take 7 else []
          number ++ shown (l.drop number.length)

/-- The program that puts lines in reverse order. -/
def reversedLines (sc : Scope) : Result :=
  sc.withOptions {} 1 fun o =>
    sc.overFiles o.operands 1 (fun n e => s!"failed to open '{n}' for reading: {e.words}") fun _ bytes =>
      (lines bytes).reverse.flatten

/-- The program that puts the characters of each line in reverse order. -/
def reversedCharacters (sc : Scope) : Result :=
  sc.withOptions {} 1 fun o =>
    sc.overFiles o.operands 1 (fun n e => s!"cannot open {n}: {e.words}") fun _ bytes =>
      (lines bytes).flatMap fun l =>
        (chomp l).reverse ++ if l.getLast? == some 10 then [10] else []

/-! ## First and last lines -/

/-- The factor that a unit after a number stands for. -/
def unitFactor? (unit : String) : Option Nat :=
  [("", 1), ("b", 512), ("k", 1024), ("K", 1024), ("KiB", 1024), ("kB", 1000), ("KB", 1000), ("M", 1048576),
    ("MiB", 1048576), ("MB", 1000000)].lookup unit

/-- A number with a unit. -/
def quantity? (cs : List Char) : Option Nat :=
  let digits := cs.takeWhile Char.isDigit
  match (String.ofList digits).toNat?, unitFactor? (String.ofList (cs.drop digits.length)) with
  | some n, some u => if digits.isEmpty then none else some (n * u)
  | _, _ => none

/-- How much of a file is wanted: a number with a sign or none, of lines or of bytes. -/
structure Extent where
  sign : Option Char := none
  count : Nat := 10
  isBytes : Bool := false

/-- The extent that a value writes. -/
def extent? (isBytes : Bool) (value : String) : Option Extent :=
  match value.toList with
  | c :: rest =>
    if c == '-' || c == '+' then (quantity? rest).map fun n => ⟨some c, n, isBytes⟩
    else (quantity? (c :: rest)).map fun n => ⟨none, n, isBytes⟩
  | [] => none

/-- The options of `head` and `tail`. -/
def extentOptions : OptionTable :=
  { plain := "qvz", valued := "nc",
    long := [("lines", 'n'), ("bytes", 'c'), ("quiet", 'q'), ("silent", 'q'), ("verbose", 'v')] }

/-- Arguments with a first one such as `-5` written as an option. -/
def modernExtent (args : List String) : List String :=
  match args with
  | a :: rest =>
    match a.toList with
    | '-' :: c :: cs => if c.isDigit && (c :: cs).all Char.isDigit then "-n" :: String.ofList (c :: cs) :: rest else args
    | _ => args
  | [] => []

/-- The extent that options ask for, or the complaint. -/
def Options.extent (o : Options) : Except String Extent :=
  match o.last? ['n', 'c'] with
  | none => Except.ok {}
  | some (c, value) =>
    match extent? (c == 'c') value with
    | some e => Except.ok e
    | none =>
      let bare := String.ofList (value.toList.dropWhile fun c => c == '-' || c == '+')
      let pieces := if c == 'c' then "bytes" else "lines"
      Except.error s!"invalid number of {pieces}: {inQuotes bare}"

/-- The first part of bytes: a number of pieces, or all but the last ones. -/
def Extent.first (e : Extent) (bytes : List UInt8) : List UInt8 :=
  let cut {α : Type} (all : List α) : List α :=
    if e.sign == some '-' then all.take (all.length - e.count) else all.take e.count
  if e.isBytes then cut bytes else (cut (lines bytes)).flatten

/-- The last part of bytes: a number of pieces, or all from a number on. -/
def Extent.last (e : Extent) (bytes : List UInt8) : List UInt8 :=
  let cut {α : Type} (all : List α) : List α :=
    if e.sign == some '+' then all.drop (e.count - 1) else all.drop (all.length - e.count)
  if e.isBytes then cut bytes else (cut (lines bytes)).flatten

/-- A program that shows a part of each file, under its name if there are several. -/
def partOfFiles (sc : Scope) (f : Extent → List UInt8 → List UInt8) : Result :=
  let sc : Scope := { sc with args := modernExtent sc.args }
  sc.withOptions extentOptions 1 fun o =>
    match o.extent with
    | .error message => sc.complain message 1
    | .ok e =>
      let titles := o.has 'v' || (1 < o.operands.length && !o.has 'q')
      let title (out : List UInt8) (n : String) : List UInt8 :=
        if titles then
          bytesOf ((if out.isEmpty then "" else "\n") ++ "==> " ++ (if n == "-" then "standard input" else n) ++
            " <==\n")
        else []
      (sc.contents o.operands).foldl (fun (r : Result) (n, found) =>
        match found with
        | .ok bytes => { r with out := r.out ++ title r.out n ++ f e bytes }
        | .error .isDirectory =>
          { r.complaining (sc.complaint (openingComplaint n .isDirectory)) 1 with out := r.out ++ title r.out n }
        | .error e => r.complaining (sc.complaint (openingComplaint n e)) 1) (sc.done 0)

/-- Whether the first lines are there already, so that nothing more is read. -/
def hasFirstLines (args : List String) (input : List UInt8) : Bool :=
  match extentOptions.read (modernExtent args) with
  | .error _ => true
  | .ok o =>
    match o.extent with
    | .error _ => true
    | .ok e =>
      e.sign != some '-' &&
        (if e.isBytes then decide (e.count ≤ input.length) else decide (e.count ≤ (input.filter (· == 10)).length))

/-! ## Counting -/

/-- Blank bytes. -/
def isBlankByte (b : UInt8) : Bool := b == 32 || (9 ≤ b && b ≤ 13)

/-- The number of words after a byte that is part of a word or not. -/
def wordCount : Bool → List UInt8 → Nat
  | _, [] => 0
  | inWord, b :: rest =>
    if isBlankByte b then wordCount false rest
    else (if inWord then 0 else 1) + wordCount true rest

/-- The width of the widest line, with tabs up to every eighth column. -/
def widestLine (bytes : List UInt8) : Nat :=
  let step (s : Nat × Nat) (b : UInt8) : Nat × Nat :=
    if b == 10 || b == 12 || b == 13 then (0, max s.1 s.2)
    else if b == 9 then (s.1 + 8 - s.1 % 8, s.2)
    else if 32 ≤ b && b < 127 then (s.1 + 1, s.2) else s
  let (column, widest) := bytes.foldl step (0, 0)
  max column widest

/-- The options of `wc`. -/
def countOptions : OptionTable :=
  { plain := "clLmw",
    long := [("bytes", 'c'), ("chars", 'm'), ("lines", 'l'), ("words", 'w'), ("max-line-length", 'L')] }

/-- The counts that options ask for, in the order in which they are shown. -/
def countsFor (o : Options) (bytes : List UInt8) : List Nat :=
  let some_ := "lwmcL".toList.filter o.has
  (if some_.isEmpty then "lwc".toList else some_).map fun c =>
    if c == 'l' then (bytes.filter (· == 10)).length
    else if c == 'w' then wordCount false bytes
    else if c == 'L' then widestLine bytes
    else bytes.length

/-- The columns of a count: enough for the size of all files together, and seven if one of them is no
regular file. A single count of a single file has no columns. -/
def countWidth (sc : Scope) (o : Options) : Nat :=
  let names := if o.operands.isEmpty then ["-"] else o.operands
  let sizes := names.map fun n =>
    if n == "-" then sc.inputSize.map some
    else
      match sc.files.find sc.here n with
      | .ok place =>
        match sc.files.node? (place.headD 0) with
        | some ⟨.file bytes, _⟩ => some (some bytes.length)
        | _ => none
      | .error _ => some none
  if names.length == 1 && ("lwmcL".toList.filter o.has).length == 1 then 1
  else
    let total := sizes.foldl (fun n s => n + (s.bind id).getD 0) 0
    max (toString total).length (if sizes.contains none then 7 else 1)

/-- The program that counts lines, words and bytes. -/
def count (sc : Scope) : Result :=
  sc.withOptions countOptions 1 fun o =>
    let width := countWidth sc o
    let row (counts : List Nat) (name : Option String) : List UInt8 :=
      bytesOf (" ".intercalate (counts.map fun n => padded width (toString n)) ++
        (match name with | some n => " " ++ n | none => "") ++ "\n")
    let add (a b : List Nat) : List Nat := (a.zip b).map fun (x, y) => x + y
    let zero := (countsFor o []).map fun _ => 0
    let (r, total) := (sc.contents o.operands).foldl (fun (r, total) (n, found) =>
      let name := if o.operands.isEmpty then none else some n
      match found with
      | .ok bytes => ({ r with out := r.out ++ row (countsFor o bytes) name }, add total (countsFor o bytes))
      | .error e =>
        let r : Result := r.complaining (sc.complaint (plainComplaint n e)) 1
        (if e == .isDirectory then { r with out := r.out ++ row zero name } else r, total)) (sc.done 0, zero)
    if 1 < o.operands.length then { r with out := r.out ++ row total (some "total") } else r

/-! ## Joining and copying -/

/-- The delimiters of `paste`, of which escapes write some. -/
def delimiters : List Char → List (List UInt8)
  | [] => []
  | '\\' :: 'n' :: rest => [10] :: delimiters rest
  | '\\' :: 't' :: rest => [9] :: delimiters rest
  | '\\' :: '0' :: rest => [] :: delimiters rest
  | '\\' :: c :: rest => ofChars [c] :: delimiters rest
  | c :: rest => ofChars [c] :: delimiters rest

/-- Pieces with delimiters between them, taken in turn. -/
def joinedInTurn (delims : List (List UInt8)) : Nat → List (List UInt8) → List UInt8
  | _, [] => []
  | _, [l] => l
  | i, l :: rest => l ++ (delims[i % delims.length]?).getD [] ++ joinedInTurn delims (i + 1) rest

/-- The program that joins the lines of files, or of each file. -/
def paste (sc : Scope) : Result :=
  sc.withOptions { plain := "sz", valued := "d", long := [("serial", 's'), ("delimiters", 'd')] } 1 fun o =>
    let delims := delimiters (charsOfText ((o.value? 'd').getD "\t"))
    let delims := if delims.isEmpty then [[]] else delims
    let found := sc.contents o.operands
    match found.find? fun f => !f.2.isOk with
    | some (n, .error e) => sc.complain (plainComplaint n e) 1
    | _ =>
      let names := found.map (·.1)
      let files := found.zipIdx.map fun (f, i) =>
        let all := bareLines (f.2.toOption.getD [])
        if f.1 == "-" then
          let inputs := names.count "-"
          let place := (names.take i).count "-"
          if o.has 's' then if place == 0 then all else []
          else (all.zipIdx.filter fun (_, k) => k % inputs == place).map (·.1)
        else all
      if o.has 's' then sc.put (joinLines (files.map (joinedInTurn delims 0)))
      else
        let height := files.foldl (fun n f => max n f.length) 0
        sc.put (joinLines ((List.range height).map fun i => joinedInTurn delims 0 (files.map fun f => (f[i]?).getD [])))

/-- The program that passes its input on and writes it to files. -/
def copyInput (sc : Scope) : Result :=
  sc.withOptions { plain := "aip", long := [("append", 'a'), ("ignore-interrupts", 'i')] } 1 fun o =>
    o.operands.foldl (fun r n =>
      let old := if o.has 'a' then ((r.files.read sc.here n).toOption).getD [] else []
      match r.files.write sc.here n (old ++ sc.input) with
      | .ok files => { r with files := files }
      | .error e => r.complaining (sc.complaint (plainComplaint n e)) 1) (sc.put sc.input)

/-- The program that numbers lines. -/
def number (sc : Scope) : Result :=
  sc.withOptions { valued := "bnswv" } 1 fun o =>
    let all := o.value? 'b' == some "a"
    sc.overAll o.operands plainComplaint fun bytes =>
      let step (s : Nat × List UInt8) (l : List UInt8) : Nat × List UInt8 :=
        if l.isEmpty && !all then (s.1, s.2 ++ bytesOf "       \n")
        else (s.1 + 1, s.2 ++ bytesOf (padded 6 (toString s.1) ++ (o.value? 's').getD "\t") ++ l ++ [10])
      ((bareLines bytes).foldl step (1, [])).2

/-- The program that breaks long lines. -/
def wrap (sc : Scope) : Result :=
  sc.withOptions { plain := "bs", valued := "w", long := [("width", 'w')] } 1 fun o =>
    let width := max 1 (((o.value? 'w').bind String.toNat?).getD 80)
    sc.overAll o.operands plainComplaint fun bytes =>
      (lines bytes).flatMap fun l =>
        let body := chomp l
        let pieces := (List.range ((body.length + width - 1) / width)).map fun i => (body.drop (i * width)).take width
        [10].intercalate pieces ++ if l.getLast? == some 10 then [10] else []

end Shakedown.Host.Utility

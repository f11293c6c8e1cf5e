/-!
# Binary64 numbers

The values of the 64-bit binary floating-point format as exact data, the rounding of a decimal
number to the nearest of them (a tie goes to the even neighbour), and the fewest decimal digits
that round back to a given value. All arithmetic is exact, on natural numbers.
-/

namespace Shakedown.Decimal

/-- A value of the format. A finite one is `mantissa · 2 ^ exponent` with `mantissa < 2 ^ 53` and
`-1074 ≤ exponent ≤ 971`. -/
inductive Binary64 where
  | finite (negative : Bool) (mantissa : Nat) (exponent : Int)
  | infinite (negative : Bool)
  | nan
deriving DecidableEq, Repr

/-- The quotient of two natural numbers, to the nearest natural number and ties to the even one. -/
def roundDiv (num den : Nat) : Nat :=
  let q := num / den
  let r := num % den
  if 2 * r < den then q else if den < 2 * r then q + 1 else if q % 2 = 0 then q else q + 1

/-- The fraction `num / den` scaled by `2 ^ -q`, as a fraction. -/
def scaleTwo (num den : Nat) (q : Int) : Nat × Nat :=
  if 0 ≤ q then (num, den * Nat.pow 2 q.toNat) else (num * Nat.pow 2 (-q).toNat, den)

/-- The fraction `num / den` scaled by `10 ^ -s`, as a fraction. -/
def scaleTen (num den : Nat) (s : Int) : Nat × Nat :=
  if 0 ≤ s then (num, den * Nat.pow 10 s.toNat) else (num * Nat.pow 10 (-s).toNat, den)

namespace Binary64

/-- The value nearest to `num / den`. -/
def ofFraction (negative : Bool) (num den : Nat) : Binary64 :=
  if num = 0 then .finite negative 0 (-1074)
  else
    let e : Int := (Nat.log2 num : Int) - Nat.log2 den
    let wide := scaleTwo num den (e - 52)
    let q := max (if wide.1 < wide.2 * Nat.pow 2 52 then e - 53 else e - 52) (-1074)
    let scaled := scaleTwo num den q
    let m := roundDiv scaled.1 scaled.2
    let rounded := if m = Nat.pow 2 53 then (Nat.pow 2 52, q + 1) else (m, q)
    if 971 < rounded.2 then .infinite negative else .finite negative rounded.1 rounded.2

/-- The value nearest to `digits · 10 ^ exponent`. Exponents whose result is certain to be zero or
infinite are not computed. -/
def ofDecimal (negative : Bool) (digits : Nat) (exponent : Int) : Binary64 :=
  if digits = 0 then .finite negative 0 (-1074)
  else
    let top : Int := (Nat.log2 digits : Int) * 3 / 10 + exponent
    if 400 < top then .infinite negative
    else if top + (Nat.log2 digits : Int) < -400 then .finite negative 0 (-1074)
    else
      let f := scaleTen digits 1 (-exponent)
      ofFraction negative f.1 f.2

/-- The size of a value as a fraction. -/
def fraction (mantissa : Nat) (exponent : Int) : Nat × Nat :=
  if 0 ≤ exponent then (mantissa * Nat.pow 2 exponent.toNat, 1) else (mantissa, Nat.pow 2 (-exponent).toNat)

/-- The value nearest to the product of a value with the one nearest to `10 ^ k`. -/
def timesTen (x : Binary64) (k : Nat) : Binary64 :=
  match x, ofFraction false (Nat.pow 10 k) 1 with
  | .finite negative m q, .finite _ n r =>
    let a := fraction m q
    let b := fraction n r
    ofFraction negative (a.1 * b.1) (a.2 * b.2)
  | x, _ => x

/-- The value nearest to the quotient of a value by the one nearest to `10 ^ k`. -/
def overTen (x : Binary64) (k : Nat) : Binary64 :=
  match x, ofFraction false (Nat.pow 10 k) 1 with
  | .finite negative m q, .finite _ n r =>
    let a := fraction m q
    let b := fraction n r
    ofFraction negative (a.1 * b.2) (a.2 * b.1)
  | x, _ => x

/-- Whether a value is zero, of either sign. -/
def isZero : Binary64 → Bool
  | .finite _ m _ => m == 0
  | _ => false

/-- The least `t ≤ start + fuel` from `start` on with `den ≤ num · 10 ^ t`. -/
def firstPower (num den : Nat) : Nat → Nat → Nat
  | 0, t => t
  | fuel + 1, t => if den ≤ num * Nat.pow 10 t then t else firstPower num den fuel (t + 1)

/-- The exponent of the leading decimal digit of a positive fraction. -/
def leadingExponent (num den : Nat) : Int :=
  if den ≤ num then ((toString (num / den)).length : Int) - 1 else -(firstPower num den 400 1 : Int)

/-- Whether `d · 10 ^ s` lies in the interval of numbers that round to the value. -/
def roundsTo (mantissa : Nat) (exponent : Int) (d : Nat) (s : Int) : Bool :=
  let narrow := mantissa == Nat.pow 2 52 && decide (-1074 < exponent)
  let low := fraction (4 * mantissa - (if narrow then 1 else 2)) (exponent - 2)
  let high := fraction (4 * mantissa + 2) (exponent - 2)
  let x := scaleTen d 1 (-s)
  let below := x.1 * low.2
  let above := x.1 * high.2
  if mantissa % 2 = 0 then decide (low.1 * x.2 ≤ below ∧ above ≤ high.1 * x.2)
  else decide (low.1 * x.2 < below ∧ above < high.1 * x.2)

/-- The digits and exponent of the best number with `k` digits or more that rounds to the value. -/
def shortestFrom (mantissa : Nat) (exponent : Int) : Nat → Nat → Nat × Int
  | 0, _ => (mantissa, 0)
  | fuel + 1, k =>
    let v := fraction mantissa exponent
    let s := leadingExponent v.1 v.2 - (k - 1)
    let scaled := scaleTen v.1 v.2 s
    let d := scaled.1 / scaled.2
    let lowFits := d != 0 && roundsTo mantissa exponent d s
    let highFits := roundsTo mantissa exponent (d + 1) s
    if lowFits && highFits then (roundDiv scaled.1 scaled.2, s)
    else if lowFits then (d, s)
    else if highFits then (d + 1, s)
    else shortestFrom mantissa exponent fuel (k + 1)

/-- Digits without zeros at the end, with the exponent that keeps the value. -/
def stripZeros : Nat → Nat → Int → Nat × Int
  | 0, d, s => (d, s)
  | fuel + 1, d, s => if d % 10 = 0 ∧ d ≠ 0 then stripZeros fuel (d / 10) (s + 1) else (d, s)

/-- The fewest digits, and their exponent, of a decimal number that rounds to a finite value. -/
def shortest (mantissa : Nat) (exponent : Int) : Nat × Int :=
  if mantissa = 0 then (0, 0)
  else
    let found := shortestFrom mantissa exponent 17 1
    stripZeros 20 found.1 found.2

end Binary64

/-- A number `digits · 10 ^ exponent` in positional notation, with a point in any case. -/
def positional (digits : Nat) (exponent : Int) : String :=
  let text := toString digits
  if 0 ≤ exponent then text ++ String.ofList (List.replicate exponent.toNat '0') ++ ".0"
  else
    let places := (-exponent).toNat
    let padded := String.ofList (List.replicate (places + 1 - text.length) '0') ++ text
    (padded.take (padded.length - places)).toString ++ "." ++ (padded.drop (padded.length - places)).toString

/-- A number in scientific notation: one digit, the others after a point, a signed exponent. -/
def scientific (digits : Nat) (exponent : Int) : String :=
  let text := toString digits
  let top := exponent + (text.length - 1 : Nat)
  let fractional := (text.drop 1).toString
  (text.take 1).toString ++ (if fractional.isEmpty then "" else "." ++ fractional) ++ "e" ++
    (if top < 0 then toString top else "+" ++ toString top)

namespace Binary64

/-- The value in positional notation, with the words for what is not finite. -/
def positionalText : Binary64 → String
  | .finite negative m q =>
    let d := shortest m q
    (if negative then "-" else "") ++ positional d.1 d.2
  | .infinite negative => if negative then "-inf" else "inf"
  | .nan => "NaN"

/-- The value in positional notation if its leading digit stands for 10⁻⁵ to 10¹⁵, and in
scientific notation else. What is not finite has no such text. -/
def jsonText : Binary64 → Option String
  | .finite negative m q =>
    let d := shortest m q
    let top := d.2 + ((toString d.1).length : Int) - 1
    some ((if negative then "-" else "") ++
      (if -6 < top ∧ top < 16 then positional d.1 d.2 else scientific d.1 d.2))
  | _ => none

end Binary64
end Shakedown.Decimal

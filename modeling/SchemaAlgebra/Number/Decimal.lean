import SchemaAlgebra.Number.Double

/-!
The decimal text of a double: the fewest digits that read back as the same double, and of those the
nearest to it. The text is positional while the leading digit stands between `10 ^ (-4)` and
`10 ^ 15`, and scientific beyond that.
-/

namespace SchemaAlgebra

/-- How many decimal digits a natural number has. -/
def digitCount (n : Nat) : Nat :=
  (Nat.toDigits 10 n).length

namespace Double

/-- The exponent of the greatest power of ten not above `num / den`, for positive arguments. -/
def floorLog10 (num den : Nat) : Int :=
  if den ≤ num then (digitCount (num / den) : Int) - 1
  else if den % num = 0 ∧ den / num = powerOfTen (digitCount (den / num) - 1) then
    1 - (digitCount (den / num) : Int)
  else -(digitCount (den / num) : Int)

/-- A decimal number `digits · 10 ^ exponent`. -/
structure Decimal where
  digits : Nat
  exponent : Int

/-- The numerator and denominator of a decimal number. -/
def Decimal.ratio (x : Decimal) : Nat × Nat :=
  match x.exponent with
  | .ofNat n => (x.digits * powerOfTen n, 1)
  | .negSucc n => (x.digits, powerOfTen (n + 1))

/-- Whether a decimal number reads back as `m · 2 ^ e`. -/
def Decimal.readsBack (x : Decimal) (m : Nat) (e : Int) : Bool :=
  ofRatio false x.ratio.1 x.ratio.2 = .finite false m e

/-- Of the two neighbours of `num / den` with `count` significant digits, one that reads back as
`m · 2 ^ e`; the nearer one if both do, the even one if both are equally near. -/
def neighbour? (m : Nat) (e : Int) (num den : Nat) (top : Int) (count : Nat) : Option Decimal :=
  let unit : Int := top - count + 1
  let grid : Nat × Nat := match unit with
    | .ofNat n => (num, den * powerOfTen n)
    | .negSucc n => (num * powerOfTen (n + 1), den)
  let low := grid.1 / grid.2
  let below : Decimal := ⟨low, unit⟩
  let above : Decimal := ⟨low + 1, unit⟩
  match below.readsBack m e, above.readsBack m e with
  | true, true => some ⟨roundQuotient grid.1 grid.2, unit⟩
  | true, false => some below
  | false, true => some above
  | false, false => none

/-- The shortest decimal number that reads back as `m · 2 ^ e`, for a positive `m`. -/
def shortest (m : Nat) (e : Int) : Decimal :=
  let value := ratioOf m e
  let top := floorLog10 value.1 value.2
  ((List.range 17).findSome? fun n => neighbour? m e value.1 value.2 top (n + 1)).getD
    ⟨m, e⟩

/-- Two digits at least. -/
def exponentText (n : Nat) : String :=
  if n < 10 then "0" ++ toString n else toString n

/-- The text of `digits · 10 ^ exponent`, with a point in it. -/
def Decimal.text (x : Decimal) : String :=
  let ds := Nat.toDigits 10 x.digits
  let top : Int := x.exponent + ds.length - 1
  if top < -4 ∨ 16 ≤ top then
    let significant := (ds.reverse.dropWhile (· = '0')).reverse
    let head := significant.take 1
    let tail := significant.drop 1
    let mantissa := if tail.isEmpty then head else head ++ '.' :: tail
    let sign := if top < 0 then "-" else "+"
    String.ofList mantissa ++ "e" ++ sign ++ exponentText top.natAbs
  else if top < 0 then
    String.ofList ('0' :: '.' :: (List.replicate (top.natAbs - 1) '0' ++
      (ds.reverse.dropWhile (· = '0')).reverse))
  else
    let places := top.toNat + 1
    let whole := ds.take places ++ List.replicate (places - ds.length) '0'
    let fraction := ((ds.drop places).reverse.dropWhile (· = '0')).reverse
    String.ofList (whole ++ '.' :: (if fraction.isEmpty then ['0'] else fraction))

/-- The words used for the doubles that have no digits. -/
structure Words where
  nan : String
  infinity : String

/-- The text of a double, given the words for the ones without digits. -/
def text (words : Words) : Double → String
  | .nan _ => words.nan
  | .infinity negative => (if negative then "-" else "") ++ words.infinity
  | .finite negative m e =>
      (if negative then "-" else "") ++ (if m = 0 then "0.0" else (shortest m e).text)

end Double

end SchemaAlgebra

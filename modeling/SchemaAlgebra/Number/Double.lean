/-!
Double-precision binary numbers, kept exactly. A finite double is a sign, a mantissa below `2 ^ 53`
and a power of two, so its value is a rational number and every operation is a rule about whole
numbers. `ofRatio` rounds a quotient to the nearest double, a tie going to the even mantissa.
-/

namespace SchemaAlgebra

/-- A power of ten. -/
def powerOfTen (n : Nat) : Nat :=
  Nat.pow 10 n

/-- Where an undefined double comes from. -/
inductive Origin
  /-- The word for it in a JSON text. -/
  | json
  /-- The word for it in a YAML text. -/
  | yaml
  /-- A computation without a result. -/
  | computed
  deriving DecidableEq, Inhabited

/-- A double; `finite negative m e` stands for `± m · 2 ^ e`. -/
inductive Double
  | nan (origin : Origin)
  | infinity (negative : Bool)
  | finite (negative : Bool) (mantissa : Nat) (exponent : Int)
  deriving DecidableEq, Inhabited

namespace Double

/-- The least exponent of a finite double. -/
def minExponent : Int := -1074

/-- The greatest exponent of a finite double. -/
def maxExponent : Int := 971

/-- Zero, which keeps a sign. -/
def zero (negative : Bool) : Double :=
  .finite negative 0 minExponent

/-- The whole number nearest to a quotient, a half going to the even neighbour. -/
def roundQuotient (num den : Nat) : Nat :=
  let q := num / den
  let r := num % den
  if 2 * r < den then q
  else if den < 2 * r then q + 1
  else q + q % 2

/-- The quotient `num / den` divided by `2 ^ e`, as a numerator and a denominator. -/
def scaleDown (num den : Nat) (e : Int) : Nat × Nat :=
  match e with
  | .ofNat n => (num, den <<< n)
  | .negSucc n => (num <<< (n + 1), den)

/-- The exponent of the greatest power of two not above `num / den`, for positive arguments. -/
def floorLog2 (num den : Nat) : Int :=
  let guess : Int := (num.log2 : Int) - (den.log2 : Int)
  let scaled := scaleDown num den guess
  if scaled.2 ≤ scaled.1 then guess else guess - 1

/-- The double nearest to `± num / den`. -/
def ofRatio (negative : Bool) (num den : Nat) : Double :=
  if num = 0 then zero negative
  else
    let e := max (floorLog2 num den - 52) minExponent
    let scaled := scaleDown num den e
    let m := roundQuotient scaled.1 scaled.2
    if m < 1 <<< 53 then
      if e ≤ maxExponent then .finite negative m e else .infinity negative
    else
      if e + 1 ≤ maxExponent then .finite negative (1 <<< 52) (e + 1) else .infinity negative

/-- The magnitude of `m · 2 ^ e` as a numerator and a denominator. -/
def ratioOf (m : Nat) (e : Int) : Nat × Nat :=
  match e with
  | .ofNat n => (m <<< n, 1)
  | .negSucc n => (m, 1 <<< (n + 1))

/-- A whole number with a sign. -/
def signed (negative : Bool) (n : Nat) : Int :=
  if negative then -(n : Int) else n

/-- The double nearest to a whole number; none if its magnitude is too large. -/
def ofInt? (n : Int) : Option Double :=
  match ofRatio (n < 0) n.natAbs 1 with
  | .infinity _ => none
  | d => some d

/-- The double nearest to `± digits · 10 ^ exponent`. Exponents far outside the range of doubles
are decided without computing the power. -/
def ofDecimal (negative : Bool) (digits : Nat) (exponent : Int) : Double :=
  if digits = 0 then zero negative
  else
    let top : Int := (digits.log2 : Int) / 4 + exponent
    if 400 < top then .infinity negative
    else if (digits.log2 : Int) + exponent < -400 then zero negative
    else match exponent with
      | .ofNat n => ofRatio negative (digits * powerOfTen n) 1
      | .negSucc n => ofRatio negative digits (powerOfTen (n + 1))

/-- Whether the double is neither infinite nor undefined. -/
def isFinite : Double → Bool
  | .finite .. => true
  | _ => false

/-- The whole number that a double equals, if there is one. -/
def toInt? : Double → Option Int
  | .finite negative m e =>
      let (num, den) := ratioOf m e
      if num % den = 0 then some (signed negative (num / den)) else none
  | _ => none

/-- The quotient of two doubles; a quotient by zero has no value here. -/
def divide? : Double → Double → Option Double
  | _, .finite _ 0 _ => none
  | .nan _, _ | _, .nan _ | .infinity _, .infinity _ => some (.nan .computed)
  | .infinity a, .finite b _ _ => some (.infinity (a != b))
  | .finite a _ _, .infinity b => some (zero (a != b))
  | .finite a m e, .finite b n f =>
      let x := ratioOf m e
      let y := ratioOf n f
      some (ofRatio (a != b) (x.1 * y.2) (x.2 * y.1))

end Double

/-!
Sums and multiples of doubles. The exact result is rounded to the nearest double; what has no result is
undefined.
-/

namespace Double

/-- A double with its sign turned. -/
def negated : Double → Double
  | .nan origin => .nan origin
  | .infinity negative => .infinity !negative
  | .finite negative m e => .finite (!negative) m e

/-- A double some times; the factor is not zero. -/
def times (factor : Nat) : Double → Double
  | .finite negative m e =>
      let ratio := ratioOf m e
      ofRatio negative (ratio.1 * factor) ratio.2
  | other => other

/-- The sum of two doubles. A sum of zero is negative only if both are. -/
def plus : Double → Double → Double
  | .nan _, _ | _, .nan _ => .nan .computed
  | .infinity a, .infinity b => if a = b then .infinity a else .nan .computed
  | .infinity a, _ | _, .infinity a => .infinity a
  | .finite a m e, .finite b n f =>
      let x := ratioOf m e
      let y := ratioOf n f
      let top := signed a (x.1 * y.2) + signed b (y.1 * x.2)
      if top = 0 then zero (a && b)
      else ofRatio (top < 0) top.natAbs (x.2 * y.2)

end Double

end SchemaAlgebra

import SchemaAlgebra.Number.Double

/-!
Whole numbers and doubles on one line. Comparison is exact: a whole number is never rounded to a
double first, and an undefined double stands in no relation to anything.
-/

namespace SchemaAlgebra

/-- A number of either kind. -/
inductive Number
  | int (n : Int)
  | double (d : Double)
  deriving DecidableEq, Inhabited

namespace Number

/-- A point of the extended line: a finite value as numerator and denominator, or an end. -/
inductive Point
  | low
  | value (num : Int) (den : Nat)
  | high

/-- Where a number stands on the extended line; an undefined double stands nowhere. -/
def point? : Number → Option Point
  | .int n => some (.value n 1)
  | .double (.nan _) => none
  | .double (.infinity negative) => some (if negative then .low else .high)
  | .double (.finite negative m e) =>
      let (num, den) := Double.ratioOf m e
      some (.value (Double.signed negative num) den)

/-- The order of two points. -/
def Point.order : Point → Point → Ordering
  | .low, .low => .eq
  | .low, _ => .lt
  | _, .low => .gt
  | .high, .high => .eq
  | .high, _ => .gt
  | _, .high => .lt
  | .value a b, .value c d => compare (a * d) (c * b)

/-- The order of two numbers, unless one of them is undefined. -/
def order? (a b : Number) : Option Ordering := do
  let p ← a.point?
  let q ← b.point?
  return p.order q

/-- Whether the first number is below the second. -/
def below (a b : Number) : Bool :=
  a.order? b = some .lt

/-- Whether the first number is not above the second. -/
def atMost (a b : Number) : Bool :=
  match a.order? b with
  | some .lt | some .eq => true
  | _ => false

/-- Whether two numbers have the same value. -/
def same (a b : Number) : Bool :=
  a.order? b = some .eq

/-- Whether a number is undefined. -/
def isNan : Number → Bool
  | .double (.nan _) => true
  | _ => false

/-- Whether a number is zero, of whatever sign. -/
def isZero (a : Number) : Bool :=
  a.same (.int 0)

end Number

end SchemaAlgebra

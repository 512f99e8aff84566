import SchemaAlgebra.Validation.Part

/-!
Keywords that evaluate subschemas. On objects and arrays they also normalize: defaults are filled in
where `properties` or `required` is evaluated, scalars are coerced where a subschema for them is
declared, and properties forbidden by `additionalProperties` are removed before they are looked for.
-/

namespace SchemaAlgebra.Structure

/-- `properties`: each declared property that is present satisfies its schema. -/
def properties (argument : Parts) (options : Options) (extent : Extent) (value : Json) : Outcome :=
  if value.isObject then
    Outcome.given argument.named value fun members =>
      let filled := if options.useDefaults then fillDefaults members value else value
      let coercions := if options.coerceTypes then
          members.map fun member => member.2.coerceAt options (.member member.1)
        else []
      let descents := members.map fun member => member.2.descend options extent (.member member.1)
      Outcome.chain extent (coercions ++ descents) filled
  else .accept value

/-- Whether a value is there as a key of an object; what can be no key cannot be looked up. -/
def isThere (name value : Json) : Except Fault Bool :=
  match name.key? with
  | some key => .ok (value.has key)
  | none => .error .unusable

/-- `required`: each listed name is there. -/
def required (node : Node) (argument : Json) (options : Options) (extent : Extent)
    (value : Json) : Outcome :=
  if value.isObject then
    let filled := if options.useDefaults then fillDefaults node.declared value else value
    match argument.elements? with
    | some names =>
        Outcome.chain extent
          (names.map fun name value =>
            Outcome.given (isThere name value) value fun present =>
              if present then .accept value
              else .reject value "required" [name] (name.literal ++ " is a required property"))
          filled
    | none => .fail filled .unusable
  else .accept value

/-- `patternProperties`: each property whose name matches a pattern satisfies its schema. -/
def patternProperties (argument : Parts) (options : Options) (extent : Extent)
    (value : Json) : Outcome :=
  if value.isObject then
    Outcome.given argument.named value fun members =>
      let each := fun (step : Part → Key → Json → Outcome) =>
        members.map fun member value =>
          Outcome.given (matchingNames member.1 value) value fun names =>
            Outcome.chain extent (names.map (step member.2)) value
      let coercions := if options.coerceTypes then
          each fun part name => part.coerceAt options (.member name)
        else []
      let descents := each fun part name => part.descend options extent (.member name)
      Outcome.chain extent (coercions ++ descents) value
  else .accept value

/-- The end of a sentence about one or several things. -/
def inNumber (count : Nat) (one several : String) : String :=
  if count = 1 then one else several

/-- Names in an order in which they can be shown: texts are sorted by their code points, and other
names only if there is nothing to sort. -/
def sortedNames (names : List Key) : Except Fault (List Key) :=
  match names.mapM Key.text?, names with
  | some texts, _ => .ok ((Text.sorted texts).map Key.text)
  | none, [name] => .ok [name]
  | none, _ => .error .unusable

/-- Names sorted by the text they have when they are shown. -/
def sortedByDisplay (names : List Key) : List Key :=
  names.mergeSort fun a b => Text.order b.display a.display ≠ .lt

/-- The message about undeclared properties. -/
def undeclaredMessage (node : Node) (names : List Key) : Except Fault String := do
  let shown := fun (names : List Key) => ", ".intercalate (names.map Key.literal)
  if (node.argument? "patternProperties").isSome then
    let patterns := Text.sorted (← node.patterns)
    return shown (← sortedNames names) ++ inNumber names.length " does" " do" ++
      " not match any of the regexes: " ++ ", ".intercalate (patterns.map quoteLiteral)
  else
    return "Additional properties are not allowed (" ++ shown (sortedByDisplay names) ++
      inNumber names.length " was" " were" ++ " unexpected)"

/-- Remove properties from an object. -/
def removeNames (value : Json) (names : List Key) : Json :=
  match value with
  | .object fields => .object (names.foldl Fields.erase fields)
  | _ => value

/-- `additionalProperties`: undeclared properties satisfy its schema, or there are none if the argument
counts as absent. -/
def additionalProperties (node : Node) (argument : Part) (options : Options) (extent : Extent)
    (value : Json) : Outcome :=
  if value.isObject then
    Outcome.given (undeclaredNames node value) value fun names =>
      if argument.schema.isObject then
        let coercions := if options.coerceTypes then
            names.map fun name => argument.coerceAt options (.member name)
          else []
        let descents := names.map fun name => argument.descend options extent (.member name)
        Outcome.chain extent (coercions ++ descents) value
      else if options.removeAdditional && Shape.isFalse argument.schema then
        .accept (removeNames value names)
      else if names.isEmpty || argument.schema.isTruthy then .accept value
      else
        Outcome.given (undeclaredMessage node names) value fun message =>
          .reject value "additionalProperties" (names.map Key.toJson) message
  else .accept value

/-- `propertyNames`: each name satisfies the schema. -/
def propertyNames (argument : Part) (options : Options) (extent : Extent) (value : Json) :
    Outcome :=
  Outcome.chain extent
    ((namesOf value).map fun name value =>
      let outcome := argument.enter options extent name.toJson
      ⟨value, outcome.problems, outcome.fault⟩)
    value

/-- One dependency: if the property is there, so are the listed ones, or the schema is satisfied. -/
def dependency (property : Key) (part : Part) (options : Options) (extent : Extent)
    (value : Json) : Outcome :=
  if value.has property then
    match part.schema with
    | .array names =>
        Outcome.chain extent
          (names.map fun name value =>
            Outcome.given (isThere name value) value fun present =>
              if present then .accept value
              else .reject value "dependencies" [name, property.toJson]
                (name.literal ++ " is a dependency of " ++ property.literal))
          value
    | _ => part.enter options extent value
  else .accept value

/-- `dependencies`: every dependency holds. -/
def dependencies (argument : Parts) (options : Options) (extent : Extent)
    (value : Json) : Outcome :=
  if value.isObject then
    Outcome.given argument.named value fun members =>
      Outcome.chain extent
        (members.map fun member => dependency member.1 member.2 options extent) value
  else .accept value

/-- Pair parts with the indices from a start on. -/
def atIndices (start : Nat) (parts : List Part) : List (Nat × Part) :=
  match parts with
  | [] => []
  | part :: rest => (start, part) :: atIndices (start + 1) rest

/-- The parts that `items` declares for the first items of an array: one each if it is a list, the
same for all otherwise. -/
def itemParts (argument : Parts) (count : Nat) : List (Nat × Part) :=
  if argument.self.schema.isArray then atIndices 0 (argument.items.take count)
  else atIndices 0 (List.replicate count argument.self)

/-- The number of items of an array. -/
def itemCount : Json → Nat
  | .array items => items.length
  | _ => 0

/-- `items`: the items satisfy the schema, or each its own. -/
def items (argument : Parts) (options : Options) (extent : Extent) (value : Json) : Outcome :=
  let parts := itemParts argument (itemCount value)
  let coercions := if options.coerceTypes then
      parts.map fun entry => entry.2.coerceAt options (.index entry.1)
    else []
  let descents := parts.map fun entry => entry.2.descend options extent (.index entry.1)
  Outcome.chain extent (coercions ++ descents) value

/-- How many items `items` declares one by one. -/
def declaredCount : Json → Except Fault Nat
  | .array schemas => .ok schemas.length
  | .string text => .ok (Text.size text)
  | _ => .error .unusable

/-- `additionalItems`: the items beyond the declared ones satisfy the schema, or there are none if the
argument counts as absent. -/
def additionalItems (node : Node) (argument : Part) (options : Options) (extent : Extent)
    (value : Json) : Outcome :=
  match value, node.argument? "items" with
  | .array values, some declared =>
      if declared.self.schema.isObject then .accept value
      else
        Outcome.given (declaredCount declared.self.schema) value fun count =>
          let extra := values.drop count
          if argument.schema.isObject then
            let parts := atIndices count (List.replicate extra.length argument)
            Outcome.chain extent
              (parts.map fun entry => entry.2.descend options extent (.index entry.1)) value
          else if extra.isEmpty || argument.schema.isTruthy then .accept value
          else
            .reject value "additionalItems" extra
              ("Additional items are not allowed (" ++ Json.literals extra ++
                inNumber extra.length " was" " were" ++ " unexpected)")
  | _, _ => .accept value

/-- `contains`: some item is accepted; items after it are not looked at. -/
def contains (argument : Part) (options : Options) (value : Json) : Outcome :=
  let rec look : List Nat → Json → Outcome
    | [], value =>
        .reject value "contains" [value]
          ("None of " ++ value.literal ++ " are valid under the given schema")
    | i :: rest, value =>
        match value.child? (.index i) with
        | none => look rest value
        | some item =>
            let outcome := argument.run options .first item
            let left := value.setChild (.index i) outcome.value
            match outcome.fault with
            | some fault => .fail left fault
            | none => if outcome.isValid then .accept left else look rest left
  if value.isArray then look (List.range (itemCount value)) value else .accept value

/-- `allOf`: every branch is satisfied. -/
def allOf (branches : List Part) (options : Options) (extent : Extent) (value : Json) : Outcome :=
  Outcome.chain extent (branches.map fun branch => branch.enter options extent) value

/-- Evaluate branches fully until one accepts; the branches after it, if there is one. -/
def firstValid (options : Options) : List Part → Json → Except (Json × Fault)
    (Json × Option (Part × List Part))
  | [], value => .ok (value, none)
  | branch :: rest, value =>
      let outcome := branch.enter options .all value
      match outcome.fault with
      | some fault => .error (outcome.value, fault)
      | none =>
          if outcome.isValid then .ok (outcome.value, some (branch, rest))
          else firstValid options rest outcome.value

/-- The message about a value that no branch accepts. -/
def noBranch (keyword : String) (value : Json) : Outcome :=
  .reject value keyword [value]
    (value.literal ++ " is not valid under any of the given schemas")

/-- `anyOf`: some branch is satisfied; branches after it are not looked at. -/
def anyOf (branches : List Part) (options : Options) (value : Json) : Outcome :=
  match firstValid options branches value with
  | .error (value, fault) => .fail value fault
  | .ok (value, some _) => .accept value
  | .ok (value, none) => noBranch "anyOf" value

/-- The schemas of the branches that accept a value, and the value after looking. -/
def accepting (options : Options) : List Part → Json → Except (Json × Fault) (Json × List Json)
  | [], value => .ok (value, [])
  | branch :: rest, value =>
      let outcome := branch.run options .first value
      match outcome.fault with
      | some fault => .error (outcome.value, fault)
      | none => do
          let (value, others) ← accepting options rest outcome.value
          return (value, if outcome.isValid then branch.schema :: others else others)

/-- `oneOf`: exactly one branch is satisfied. -/
def oneOf (branches : List Part) (options : Options) (value : Json) : Outcome :=
  match firstValid options branches value with
  | .error (value, fault) => .fail value fault
  | .ok (value, none) => noBranch "oneOf" value
  | .ok (value, some (branch, rest)) =>
      match accepting options rest value with
      | .error (value, fault) => .fail value fault
      | .ok (value, []) => .accept value
      | .ok (value, others) =>
          let schemas := others ++ [branch.schema]
          .reject value "oneOf" (value :: schemas)
            (value.literal ++ " is valid under each of " ++ Json.literals schemas)

/-- `not`: the schema is not satisfied. -/
def negation (argument : Part) (options : Options) (value : Json) : Outcome :=
  argument.probe options value fun valid value =>
    if valid then
      .reject value "not" [value, argument.schema]
        (value.literal ++ " should not be valid under " ++ argument.schema.literal)
    else .accept value

/-- `if`: the schema of `then` or `else` is satisfied, whichever the condition selects. -/
def conditional (node : Node) (argument : Part) (options : Options) (extent : Extent)
    (value : Json) : Outcome :=
  argument.probe options value fun valid value =>
    match node.argument? (if valid then "then" else "else") with
    | some parts => parts.self.enter options extent value
    | none => .accept value

/-- Evaluate one keyword of a node. A reference that is met among other keywords names nothing. -/
def evaluate (node : Node) (keyword : String) (argument : Parts) (options : Options)
    (extent : Extent) (value : Json) : Outcome :=
  let combine := fun (rule : List Part → Outcome) => Outcome.given argument.branches value rule
  match keyword with
  | "$ref" => .fail value .noMembers
  | "properties" => properties argument options extent value
  | "required" => required node argument.self.schema options extent value
  | "patternProperties" => patternProperties argument options extent value
  | "additionalProperties" => additionalProperties node argument.self options extent value
  | "propertyNames" => propertyNames argument.self options extent value
  | "dependencies" => dependencies argument options extent value
  | "items" => items argument options extent value
  | "additionalItems" => additionalItems node argument.self options extent value
  | "contains" => contains argument.self options value
  | "allOf" => combine fun branches => allOf branches options extent value
  | "anyOf" => combine fun branches => anyOf branches options value
  | "oneOf" => combine fun branches => oneOf branches options value
  | "not" => negation argument.self options value
  | "if" => conditional node argument.self options extent value
  | _ => Keyword.check keyword argument.self.schema value

end SchemaAlgebra.Structure

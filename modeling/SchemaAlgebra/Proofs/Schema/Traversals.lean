import SchemaAlgebra.Proofs.Builder.Steps
import SchemaAlgebra.Proofs.Schema.Requirements

/-!
The two traversals of a schema. Listing the nodes and visiting them differ in one place: the visit also enters a
list that stands where one schema is expected. So both stop at the same positions in the same order exactly if no
such list has a node in it.
-/

namespace SchemaAlgebra.Walk

mutual

/-- The stops of a visit to a value in a role: the nodes that are visited, with their pointers. -/
def stopsAs (role : Role) (pointer : String) : Json → List (String × Json)
  | .object fields =>
      match role with
      | .members => memberStops pointer fields
      | .branches => []
      | .schema | .schemaOrList | .objectOnly =>
          (pointer, .object fields) ::
            keywords.flatMap fun entry =>
              stopsUnder entry.1 entry.2 (pointer ++ "/" ++ entry.1) fields
  | .array items =>
      match role with
      | .branches | .schemaOrList | .schema => itemStops pointer 0 items
      | .members | .objectOnly => []
  | _ => []

/-- The stops at the value under a keyword. -/
def stopsUnder (keyword : String) (role : Role) (pointer : String) :
    List (Key × Json) → List (String × Json)
  | [] => []
  | (key, value) :: rest =>
      if key = .text keyword then stopsAs role pointer value else stopsUnder keyword role pointer rest

/-- The stops at the members of an object. -/
def memberStops (pointer : String) : List (Key × Json) → List (String × Json)
  | [] => []
  | (key, value) :: rest =>
      stopsAs .schema (Pointer.extend pointer key.display) value ++ memberStops pointer rest

/-- The stops at the items of a list, from an index on. -/
def itemStops (pointer : String) (index : Nat) : List Json → List (String × Json)
  | [] => []
  | item :: rest =>
      stopsAs .schema (pointer ++ "/" ++ toString index) item ++ itemStops pointer (index + 1) rest

end

/-- The stops of the visit to a schema. -/
def stops (schema : Json) : List (String × Json) :=
  stopsAs .schema "" schema

theorem stopsUnder_eq (keyword : String) (role : Role) (pointer : String) (fields : List (Key × Json)) :
    stopsUnder keyword role pointer fields =
      match Fields.get? fields keyword with
      | some value => stopsAs role pointer value
      | none => [] := by
  induction fields with
  | nil => rfl
  | cons entry rest ih =>
      obtain ⟨key, value⟩ := entry
      rw [stopsUnder, Fields.get?_cons]
      by_cases same : key = .text keyword
      · rw [if_pos same, if_pos same]
      · rw [if_neg same, if_neg same, ih]

section Seen

variable {fields : List (Key × Json)}

/-- What the visit to a node sees under a keyword. -/
theorem stopsUnder_seen
    (each : ∀ entry ∈ fields, ∀ role pointer, (stopsAs role pointer entry.2).map Prod.snd =
      (visitAs none role entry.2).seen) {entry : String × Role} (listed : entry ∈ keywords) (pointer : String) :
    (stopsUnder entry.1 entry.2 pointer fields).map Prod.snd =
      ((visitKeywords none fields).2.lookup entry.1).getD [] := by
  rw [stopsUnder_eq, lookup_visitKeywords (lookup_keywords listed)]
  cases found : Fields.get? fields (.text entry.1) with
  | none => rfl
  | some value => exact each _ (Fields.mem_of_get? found) entry.2 pointer

theorem memberStops_seen
    (each : ∀ entry ∈ fields, ∀ pointer, (stopsAs .schema pointer entry.2).map Prod.snd =
      (visitAs none .schema entry.2).seen) (pointer : String) :
    (memberStops pointer fields).map Prod.snd = (visitMembers none fields).2 := by
  induction fields with
  | nil => rfl
  | cons entry rest ih =>
      obtain ⟨key, value⟩ := entry
      rw [memberStops, visitMembers, List.map_append, each (key, value) (by simp),
        ih fun other member => each other (by simp [member])]

theorem itemStops_seen {items : List Json}
    (each : ∀ item ∈ items, ∀ pointer, (stopsAs .schema pointer item).map Prod.snd =
      (visitAs none .schema item).seen) (pointer : String) (index : Nat) :
    (itemStops pointer index items).map Prod.snd = (visitItems none items).2 := by
  induction items generalizing index with
  | nil => rfl
  | cons item rest ih =>
      rw [itemStops, visitItems, List.map_append, each item (by simp),
        ih (fun other member => each other (by simp [member])) (index + 1)]

/-- The stops are what the visit sees, whatever pointer it starts from. -/
theorem stopsAs_seen (value : Json) :
    ∀ role pointer, (stopsAs role pointer value).map Prod.snd = (visitAs none role value).seen := by
  induction value using Json.treeInduction with
  | array items ih =>
      intro role pointer
      have each := itemStops_seen (fun item member => ih item member .schema) pointer 0
      cases role with
      | branches | schemaOrList | schema => rw [stopsAs, visitAs]; exact each
      | members | objectOnly => rfl
  | object fields ih =>
      intro role pointer
      have keyed : (keywords.flatMap fun entry =>
          stopsUnder entry.1 entry.2 (pointer ++ "/" ++ entry.1) fields).map Prod.snd =
          keywords.flatMap fun entry => ((visitKeywords none fields).2.lookup entry.1).getD [] := by
        rw [List.map_flatMap]
        exact List.flatMap_congr fun entry listed => stopsUnder_seen ih listed _
      cases role with
      | members =>
          rw [stopsAs, visitAs]
          exact memberStops_seen (fun entry member => ih entry member .schema) pointer
      | branches => rfl
      | schema | schemaOrList | objectOnly =>
          rw [stopsAs, visitAs, List.map_cons, keyed]
  | scalar value notArray notObject =>
      intro role pointer
      cases value <;> first | rfl | simp_all [Json.isArray, Json.isObject]

end Seen

/-- A value that is a node, or a list with one in it. -/
inductive HoldsNode : Json → Prop
  | here (fields : List (Key × Json)) : HoldsNode (.object fields)
  | item {items : List Json} {item : Json} : item ∈ items → HoldsNode item → HoldsNode (.array items)

/-- In a value in a role, a list with a node in it stands where one schema is expected. -/
inductive Strays : Role → Json → Prop
  | here {items : List Json} {item : Json} : item ∈ items → HoldsNode item → Strays .schema (.array items)
  | keyword {role under : Role} {fields : List (Key × Json)} {keyword : String} {value : Json} :
      role.isNode = true → (keyword, under) ∈ keywords → Fields.get? fields keyword = some value →
        Strays under value → Strays role (.object fields)
  | member {fields : List (Key × Json)} {entry : Key × Json} :
      entry ∈ fields → Strays .schema entry.2 → Strays .members (.object fields)
  | item {role : Role} {items : List Json} {item : Json} :
      role.isList = true → item ∈ items → Strays .schema item → Strays role (.array items)

/-- Of a list another has kept all or, if something is lost, less. -/
def Retains {α : Type} (lost : Prop) (kept all : List α) : Prop :=
  (lost ∧ kept.length < all.length) ∨ (¬ lost ∧ kept = all)

namespace Retains

variable {α β : Type} {lost other : Prop} {kept all later rest : List α}

theorem refl (none : ¬ lost) (all : List α) : Retains lost all all :=
  .inr ⟨none, rfl⟩

theorem congr (same : lost ↔ other) (retains : Retains lost kept all) : Retains other kept all := by
  rwa [Retains, ← same]

theorem append (first : Retains lost kept all) (second : Retains other later rest) :
    Retains (lost ∨ other) (kept ++ later) (all ++ rest) := by
  rcases first with ⟨first, fewer⟩ | ⟨first, rfl⟩ <;> rcases second with ⟨second, less⟩ | ⟨second, rfl⟩
  · refine .inl ⟨.inl first, ?_⟩
    simp only [List.length_append]
    omega
  · refine .inl ⟨.inl first, ?_⟩
    simp only [List.length_append]
    omega
  · refine .inl ⟨.inr second, ?_⟩
    simp only [List.length_append]
    omega
  · exact .refl (fun either => either.elim first second) _

theorem cons (first : α) (retains : Retains lost kept all) : Retains lost (first :: kept) (first :: all) :=
  ((refl (id : ¬ False) [first]).append retains).congr (by simp)

/-- Seen through any function, all is kept exactly if nothing is lost. -/
theorem map_eq_iff (retains : Retains lost kept all) (see : α → β) : kept.map see = all.map see ↔ ¬ lost := by
  rcases retains with ⟨loses, fewer⟩ | ⟨none, rfl⟩
  · refine iff_of_false (fun same => ?_) (not_not_intro loses)
    have lengths := congrArg List.length same
    simp only [List.length_map] at lengths
    omega
  · exact iff_of_true rfl none

end Retains

section Agreement

variable {fields : List (Key × Json)} {items : List Json}

theorem strays_object {role : Role} :
    Strays role (.object fields) ↔
      (role.isNode = true ∧ ∃ entry ∈ keywords, ∃ value,
        Fields.get? fields (.text entry.1) = some value ∧ Strays entry.2 value) ∨
      (role = .members ∧ ∃ entry ∈ fields, Strays .schema entry.2) := by
  constructor
  · intro strays
    cases strays with
    | keyword own listed found under => exact .inl ⟨own, _, listed, _, found, under⟩
    | member listed under => exact .inr ⟨rfl, _, listed, under⟩
  · rintro (⟨own, ⟨keyword, under⟩, listed, value, found, inside⟩ | ⟨rfl, entry, listed, inside⟩)
    · exact .keyword own listed found inside
    · exact .member listed inside

theorem strays_array {role : Role} :
    Strays role (.array items) ↔
      (role = .schema ∧ ∃ item ∈ items, HoldsNode item) ∨
      (role.isList = true ∧ ∃ item ∈ items, Strays .schema item) := by
  constructor
  · intro strays
    cases strays with
    | here listed holds => exact .inl ⟨rfl, _, listed, holds⟩
    | item own listed inside => exact .inr ⟨own, _, listed, inside⟩
  · rintro (⟨rfl, item, listed, holds⟩ | ⟨own, item, listed, inside⟩)
    · exact .here listed holds
    · exact .item own listed inside

theorem retains_members
    (each : ∀ entry ∈ fields, ∀ pointer,
      Retains (Strays .schema entry.2) (nodesAs .schema pointer entry.2) (stopsAs .schema pointer entry.2))
    (pointer : String) :
    Retains (∃ entry ∈ fields, Strays .schema entry.2) (memberNodes pointer fields)
      (memberStops pointer fields) := by
  induction fields with
  | nil => exact .refl (by simp) []
  | cons entry rest ih =>
      obtain ⟨key, value⟩ := entry
      rw [memberNodes, memberStops]
      have first := each (key, value) (by simp) (Pointer.extend pointer key.display)
      have later := ih fun other member => each other (by simp [member])
      exact (first.append later).congr (by simp)

theorem retains_items
    (each : ∀ item ∈ items, ∀ pointer,
      Retains (Strays .schema item) (nodesAs .schema pointer item) (stopsAs .schema pointer item))
    (pointer : String) (index : Nat) :
    Retains (∃ item ∈ items, Strays .schema item) (itemNodes pointer index items)
      (itemStops pointer index items) := by
  induction items generalizing index with
  | nil => exact .refl (by simp) []
  | cons item rest ih =>
      rw [itemNodes, itemStops]
      have first := each item (by simp) (pointer ++ "/" ++ toString index)
      have later := ih (fun other member => each other (by simp [member])) (index + 1)
      exact (first.append later).congr (by simp)

theorem retains_keywords
    (each : ∀ entry ∈ fields, ∀ role pointer,
      Retains (Strays role entry.2) (nodesAs role pointer entry.2) (stopsAs role pointer entry.2))
    (pointer : String) (listed : List (String × Role)) :
    Retains (∃ entry ∈ listed, ∃ value, Fields.get? fields (.text entry.1) = some value ∧ Strays entry.2 value)
      (listed.flatMap fun entry => nodesUnder entry.1 entry.2 (pointer ++ "/" ++ entry.1) fields)
      (listed.flatMap fun entry => stopsUnder entry.1 entry.2 (pointer ++ "/" ++ entry.1) fields) := by
  induction listed with
  | nil => exact .refl (by simp) []
  | cons entry rest ih =>
      have under : Retains (∃ value, Fields.get? fields (.text entry.1) = some value ∧ Strays entry.2 value)
          (nodesUnder entry.1 entry.2 (pointer ++ "/" ++ entry.1) fields)
          (stopsUnder entry.1 entry.2 (pointer ++ "/" ++ entry.1) fields) := by
        rw [nodesUnder_eq, stopsUnder_eq]
        cases found : Fields.get? fields (.text entry.1) with
        | none => exact .refl (by simp) []
        | some value => exact (each _ (Fields.mem_of_get? found) entry.2 _).congr (by simp)
      rw [List.flatMap_cons, List.flatMap_cons]
      exact (under.append ih).congr (by simp)

theorem itemStops_eq_nil
    (each : ∀ item ∈ items, ∀ pointer, stopsAs .schema pointer item = [] ↔ ¬ HoldsNode item)
    (pointer : String) (index : Nat) : itemStops pointer index items = [] ↔ ∀ item ∈ items, ¬ HoldsNode item := by
  induction items generalizing index with
  | nil => simp [itemStops]
  | cons item rest ih =>
      rw [itemStops, List.append_eq_nil_iff, each item (by simp),
        ih (fun other member => each other (by simp [member])) (index + 1), List.forall_mem_cons]

/-- Where one schema is expected, the visit stops if there is a node or a list with one in it. -/
theorem stopsAs_schema_eq_nil (value : Json) : ∀ pointer, stopsAs .schema pointer value = [] ↔
    ¬ HoldsNode value := by
  induction value using Json.treeInduction with
  | array items ih =>
      intro pointer
      have none : HoldsNode (.array items) ↔ ∃ item ∈ items, HoldsNode item :=
        ⟨fun holds => by cases holds with | item listed inside => exact ⟨_, listed, inside⟩,
          fun ⟨_, listed, inside⟩ => .item listed inside⟩
      rw [stopsAs, itemStops_eq_nil ih, none]
      simp
  | object fields ih =>
      intro pointer
      rw [stopsAs]
      exact iff_of_false (List.cons_ne_nil _ _) (not_not_intro (.here fields))
  | scalar value notArray notObject =>
      intro pointer
      refine iff_of_true ?_ ?_
      · cases value <;> first | rfl | simp_all [Json.isArray, Json.isObject]
      · intro holds
        cases holds <;> simp_all [Json.isArray, Json.isObject]

/-- Listing the nodes retains all stops of the visit, unless one is in a list where one schema is expected. -/
theorem retains_nodesAs (value : Json) :
    ∀ role pointer, Retains (Strays role value) (nodesAs role pointer value) (stopsAs role pointer value) := by
  induction value using Json.treeInduction with
  | array items ih =>
      intro role pointer
      have each := retains_items (fun item member => ih item member .schema) pointer 0
      cases role with
      | members | objectOnly => exact .refl (by simp [strays_array, Role.isList]) []
      | branches | schemaOrList =>
          rw [nodesAs, stopsAs]
          exact each.congr (by simp [strays_array, Role.isList])
      | schema =>
          rw [nodesAs]
          have stops := stopsAs_schema_eq_nil (.array items) pointer
          by_cases holds : HoldsNode (.array items)
          · refine .inl ⟨?_, List.length_pos_iff.mpr fun none => stops.mp none holds⟩
            cases holds with
            | item listed inside => exact .here listed inside
          · rw [stops.mpr holds]
            refine .refl (fun strays => holds ?_) []
            cases strays with
            | here listed inside => exact .item listed inside
            | item own => simp [Role.isList] at own
  | object fields ih =>
      intro role pointer
      have members := retains_members (fun entry member => ih entry member .schema) pointer
      have keyed := retains_keywords (fun entry member => ih entry member) pointer keywords
      cases role with
      | members =>
          rw [nodesAs, stopsAs]
          exact members.congr (by simp [strays_object, Role.isNode])
      | branches => exact .refl (by simp [strays_object, Role.isNode]) []
      | schema | schemaOrList | objectOnly =>
          rw [nodesAs, stopsAs]
          exact (keyed.cons _).congr (by simp [strays_object, Role.isNode])
  | scalar value notArray notObject =>
      intro role pointer
      have none : ¬ Strays role value := by
        intro strays
        cases strays <;> simp_all [Json.isArray, Json.isObject]
      cases value <;> first | exact .refl none [] | simp_all [Json.isArray, Json.isObject]

end Agreement

/-- The first stop at a node with a reference: its pointer and the reference. -/
def firstStop? (schema : Json) : Option (String × Json) :=
  (stops schema).findSome? fun entry => (entry.2.get? "$ref").map fun reference => (entry.1, reference)

theorem firstStop?_eq_none_iff (schema : Json) :
    firstStop? schema = none ↔ ∀ node ∈ (visit none schema).seen, node.has "$ref" = false := by
  have seen := stopsAs_seen schema .schema ""
  rw [firstStop?, List.findSome?_eq_none_iff, visit, ← seen]
  simp only [stops, Json.has, Option.map_eq_none_iff, List.forall_mem_map, Option.isSome_eq_false_iff,
    Option.isNone_iff_eq_none]

/-- In what passes the metaschema, lists stand only where lists of schemas are expected. -/
theorem not_strays_of_passes {role : Role} {value : Json} (strays : Strays role value) :
    ¬ Metaschema.PassesAs role value := by
  induction strays with
  | here listed holds =>
      intro passes
      exact Bool.false_ne_true passes.array.1
  | keyword own listed found _ ih =>
      intro passes
      rcases passes.object with ⟨-, node⟩ | ⟨rfl, -⟩
      · exact ih (node.keyword listed found)
      · exact Bool.false_ne_true own
  | member listed _ ih =>
      intro passes
      rcases passes.object with ⟨own, -⟩ | ⟨-, each⟩
      · exact Bool.false_ne_true own
      · exact ih (each _ listed)
  | item own listed _ ih =>
      intro passes
      exact ih (passes.array.2 _ listed)

/-- Listing the nodes of a value and visiting them stop at the same positions in the same order exactly if no list
with a node in it stands where one schema is expected, as in all that passes the metaschema. Then a document is
refused for a reference exactly if the visit meets one, and the first that it meets is reported. -/
theorem traversals_agree_iff (schema : Json) :
    (stops schema).map Prod.snd = (visit none schema).seen ∧
      (nodes schema = stops schema ↔ ¬ Strays .schema schema) ∧
      ((nodes schema).map Prod.snd = (visit none schema).seen ↔ ¬ Strays .schema schema) ∧
      (Metaschema.isSchema schema = true → ¬ Strays .schema schema) ∧
      (¬ Strays .schema schema → schema.isObject = true → ∀ store : Store, store.Closed →
        (∀ pointer shown, (outcome (Builder.wrap schema) store).1 = .error (.refused (.reference pointer shown)) ↔
          ∃ reference, firstStop? schema = some (pointer, reference) ∧ shown = reference.literal) ∧
        ((∃ pointer shown, (outcome (Builder.wrap schema) store).1 = .error (.refused (.reference pointer shown))) ↔
          ∃ node ∈ (visit none schema).seen, node.has "$ref" = true)) := by
  have seen := stopsAs_seen schema .schema ""
  have retains := retains_nodesAs schema .schema ""
  have positions := retains.map_eq_iff id
  simp only [List.map_id] at positions
  refine ⟨seen, positions, seen ▸ retains.map_eq_iff Prod.snd,
    fun isSchema strays => not_strays_of_passes strays (Metaschema.passes_of_isSchema isSchema),
    fun agree isObject store closed => ?_⟩
  have same : firstReference? schema = firstStop? schema := by
    rw [firstReference?, nodes, positions.mpr agree, firstStop?, stops]
  have reported : ∀ pointer shown,
      (outcome (Builder.wrap schema) store).1 = .error (.refused (.reference pointer shown)) ↔
        ∃ reference, firstStop? schema = some (pointer, reference) ∧ shown = reference.literal := by
    intro pointer shown
    obtain ⟨address, -, wrapped⟩ := Builder.outcome_wrap closed isObject
    rw [wrapped, same]
    rcases firstStop? schema with _ | ⟨place, reference⟩
    · simp
    · simp [eq_comm]
  refine ⟨reported, ?_⟩
  have met := not_congr (firstStop?_eq_none_iff schema)
  simp only [not_forall, Bool.not_eq_false, exists_prop] at met
  rw [← met]
  simp only [reported]
  rcases firstStop? schema with _ | ⟨place, reference⟩
  · simp
  · simp

/-- A document with references in two items. -/
def referringItems : Json :=
  .object [("items", .array [.object [("$ref", .string "x")], .object [("$ref", .string "y")]])]

/-- The first of two references is reported. -/
theorem referringItems_refused :
    ¬ Strays .schema referringItems ∧ nodes referringItems = stops referringItems ∧
      (outcome (Builder.wrap referringItems) .empty).1 = .error (.refused (.reference "/items/0" "'x'")) := by
  obtain ⟨-, positions, -, passing, refusal⟩ := traversals_agree_iff referringItems
  have agree := passing (by decide)
  exact ⟨agree, positions.mpr agree,
    ((refusal agree rfl .empty Store.closed_empty).1 "/items/0" "'x'").mpr ⟨.string "x", rfl, rfl⟩⟩

/-- A document with a reference in a list under a keyword that holds one schema. -/
def negatedList : Json :=
  .object [("not", .array [.object [("$ref", .string "x")]])]

/-- The visit meets a reference that is no listed node, and the document is accepted. -/
theorem negatedList_strays :
    nodes negatedList = [("", negatedList)] ∧
      (visit none negatedList).seen = [negatedList, .object [("$ref", .string "x")]] ∧
      (∃ node ∈ (visit none negatedList).seen, node.has "$ref" = true) ∧
      ∃ address, (outcome (Builder.wrap negatedList) .empty).1 = .ok address :=
  ⟨rfl, rfl, ⟨.object [("$ref", .string "x")], by simp [negatedList, visit, visitAs, visitKeywords, visitItems,
    Key.text?, keywords, List.lookup_cons], rfl⟩, 1, rfl⟩

end SchemaAlgebra.Walk

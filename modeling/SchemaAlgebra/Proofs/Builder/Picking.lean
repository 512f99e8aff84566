import SchemaAlgebra.Proofs.Builder.Additional
import SchemaAlgebra.Proofs.Builder.Presenting
import SchemaAlgebra.Proofs.Builder.Runs
import SchemaAlgebra.Proofs.Validation.Picking

/-!
Closed records in the store. Such a schema can be copied, and any of its properties can be picked or omitted; the
store then denotes the record with the properties that are left.
-/

namespace SchemaAlgebra

variable {fields : List (Key × Json)}

theorem Cell.restrict_named (members : Fields String Slot) (names : List String) :
    Fields.restrict (named members) (names.map .text) = named (Fields.restrict members names) := by
  rw [Fields.restrict, Fields.restrict, eraseDups_map fun _ _ => Key.text.inj, List.filterMap_map]
  simp only [Function.comp_def, get?_named]
  rw [named, List.map_filterMap]
  simp only [Option.map_map, Function.comp_def]

namespace Store

variable {store : Store} {address : Nat} {members members' : Fields String Slot} {names : List String}
  {values : Fields String Json}

/-- The properties that stand in the store are those that the schema declares. -/
theorem Presents.declares (presents : store.Presents address members names values)
    (denotes : store.Denotes (.node address) (.object fields)) :
    store.DenotesAll (Cell.named members) (Schema.declared fields) := by
  obtain ⟨_, ⟨⟩, each⟩ := denotes_node.mp denotes
  have declares := presents.describes.declares
  unfold Schema.declared
  rcases each.get? "properties" with ⟨missing, missing'⟩ | ⟨slot, value, found, found', holds⟩
  · rw [missing] at declares
    rw [missing']
    cases declares with
    | absent empty =>
        rw [empty]
        exact .nil
  · rw [found] at declares
    rw [found']
    cases declares with
    | node cell =>
        obtain ⟨inner, rfl, entries⟩ := denotes_node.mp holds
        rwa [cell] at entries

/-- A schema has the same shape where it stands and where it is read. -/
theorem Denotes.isSimple (denotes : store.Denotes (.node address) (.object fields)) :
    Shape.isSimpleObjectSchema (Cell.face (store.cell address)) = Shape.isSimpleObjectSchema fields := by
  obtain ⟨_, ⟨⟩, each⟩ := denotes_node.mp denotes
  have has (key : Key) : Fields.has (Cell.face (store.cell address)) key = Fields.has fields key := by
    rw [Fields.has, Cell.get?_face, Option.isSome_map]
    exact Fields.Rel.has each key
  -- nothing is looked for in a container
  have alike (test : Json → Bool) (missing : Bool) (container : ∀ value, value.isContainer = true → test value = false)
      (key : Key) : ((Fields.get? (Cell.face (store.cell address)) key).map test).getD missing =
        ((Fields.get? fields key).map test).getD missing := by
    rw [Cell.get?_face]
    rcases each.get? key with ⟨none, none'⟩ | ⟨slot, value, found, found', read⟩
    · rw [none, none']
      rfl
    · rw [found, found']
      rcases read.face with rfl | ⟨isContainer, isContainer'⟩
      · rfl
      · exact (container _ isContainer').trans (container _ isContainer).symm
  have isObject (node : List (Key × Json)) : Shape.isObjectSchema node =
      ((Fields.get? node "type").map Shape.isObjectWord).getD (Fields.has node "properties") := by
    rw [Shape.isObjectSchema]
    cases Fields.get? node "type" <;> rfl
  have additional (node : List (Key × Json)) : Shape.hasAdditionalProperties node = (Shape.isObjectSchema node &&
      !((Fields.get? node "additionalProperties").map Shape.isFalse).getD false) := by
    rw [Shape.hasAdditionalProperties]
    cases Fields.get? node "additionalProperties" <;> rfl
  rw [Shape.isSimpleObjectSchema, Shape.isSimpleObjectSchema, additional, additional, isObject, isObject, has,
    alike Shape.isObjectWord _ (fun value container => by cases value <;> first | rfl | cases container),
    alike Shape.isFalse _ (fun value container => by cases value <;> first | rfl | cases container),
    Shape.hasCombinators, Shape.hasCombinators]
  simp only [has]

/-- A schema that gets new properties denotes what it did, with them. -/
theorem Presents.denotes_withMembers (presents : store.Presents address members names values)
    (denotes : store.Denotes (.node address) (.object fields)) {inner : List (Key × Json)}
    (related : Fields.Rel (store.Supplies address) (Cell.named members') inner) :
    (store.withMembers address members').Denotes (.node address)
      (.object (Fields.put fields "properties" (.object inner))) := by
  have inside := presents.describes.inside
  have supplies := presents.supplies_push related
  have inside' : address < (store.push (Cell.named members')).size := by
    rw [size_push]
    omega
  exact denotes_put inside' (denotes.extend presents.closed (Slot.within_node.mpr inside) (.push store _))
    (supplies.apart.mono fun _ => .inl) supplies.denotes

/-- A schema that requires other names denotes what it did, with them. -/
theorem denotes_withNames (inside : address < store.size) (denotes : store.Denotes (.node address) (.object fields))
    (names : List String) :
    (store.withNames address names).Denotes (.node address) (.object (Schema.withRequired fields names)) := by
  rw [withNames, Builder.withRequired, Schema.withRequired, List.isEmpty_map]
  split
  · exact denotes_erase inside denotes
  · refine denotes_put inside denotes (fun other named => ?_) ?_
    · obtain ⟨item, listed, named⟩ := Slot.mem_itemAddresses.mp named
      obtain ⟨name, -, rfl⟩ := List.mem_map.mp listed
      exact absurd named List.not_mem_nil
    · refine denotes_array.mpr ⟨_, rfl, ?_⟩
      exact List.forall₂_map_left_iff.mpr (List.forall₂_map_right_iff.mpr
        (List.forall₂_same.mpr fun _ _ => denotes_string.mpr rfl))

/-- The store in which the schema at an address has some of its properties only. -/
def picked (store : Store) (address : Nat) (members : Fields String Slot) (required names : List String) : Store :=
  (store.withMembers address (Fields.restrict members names)).withNames address (required.filter (· ∈ names))

/-- The properties that a schema declares are supplied. -/
theorem Presents.supplied (presents : store.Presents address members names values)
    (denotes : store.Denotes (.node address) (.object fields)) :
    Fields.Rel (store.Supplies address) (Cell.named members) (Schema.declared fields) := by
  refine Fields.Rel.imp (presents.declares denotes) fun entry listed value denotes => ?_
  obtain ⟨member, among, rfl⟩ := List.mem_map.mp listed
  exact presents.supplies_member among denotes

/-- A schema that gets new properties, which are supplied, and new required names is read with these. -/
theorem Presents.tree?_reshaped (presents : store.Presents address members names values)
    (denotes : store.Denotes (.node address) (.object fields)) (distinct : (Fields.keys members').Nodup)
    {values' : Fields String Json} (supplies : Fields.Rel (store.Supplies address) members' values')
    {inner : List (Key × Json)} (related : Fields.Rel (store.Supplies address) (Cell.named members') inner)
    (names' : List String) : ((store.withMembers address members').withNames address names').tree? (.node address) =
      some (.object (Schema.reshaped fields inner names')) := by
  have given := presents.withMembers distinct supplies
  have read := denotes_withNames given.describes.inside (presents.denotes_withMembers denotes related) names'
  have whole := given.withNames names'
  exact (whole.closed.tree?_eq_some_iff (Slot.within_node.mpr whole.describes.inside)).mpr read

/-- What is picked in the store is what is picked of the schema. -/
theorem Presents.tree?_picked (presents : store.Presents address members (Property.requiredNames fields) values)
    (denotes : store.Denotes (.node address) (.object fields)) (names : List String) :
    (store.picked address members (Property.requiredNames fields) names).tree? (.node address) =
      some (.object (Schema.picked fields names)) := by
  have related := (presents.supplied denotes).restrict (names.map .text)
  rw [Cell.restrict_named] at related
  exact presents.tree?_reshaped denotes (Fields.nodup_keys_restrict members names) (presents.supplies.restrict names)
    related _

end Store

/-- A word that does not occur in a value is no key of its nodes. -/
theorem Walk.not_has_of_count {word : String} {role : Role} {value : Json} {node : List (Key × Json)}
    (absent : Reference.count (.text word) value = 0) (isNode : IsNode role value node) : Fields.has node word = false := by
  induction isNode with
  | here _ => simp [Fields.has, Reference.get?_of_count absent]
  | keyword _ _ found _ ih => exact ih ((Reference.count_eq_zero absent).2 _ (Fields.mem_of_get? found)).2
  | member listed _ ih => exact ih ((Reference.count_eq_zero absent).2 _ listed).2
  | item _ listed _ ih => exact ih ((Reference.count_eq_zero absent).1 _ listed)

namespace Schema.ClosedRecord

variable {store : Store} {address : Nat} (record : ClosedRecord fields)

include record

/-- A closed record is presented where it stands in a closed store. -/
theorem presents (closed : store.Closed) (inside : address < store.size)
    (denotes : store.Denotes (.node address) (.object fields)) :
    ∃ members, store.Presents address members (Property.requiredNames fields) (Property.schemas fields) :=
  Store.presents_of_schema closed inside denotes record.formed record.isSchema

/-- A keyword that a closed record has not got is missing where it stands. -/
theorem unspoken {keyword : String} (evaluated : keyword ∈ evaluatedKeywords) (other : keyword ∉ recordKeywords) :
    Fields.get? fields keyword = none := by
  by_contra there
  obtain ⟨argument, found⟩ := Option.ne_none_iff_exists'.mp there
  exact (record.only keyword argument (Fields.mem_of_get? found)).elim other fun silent => silent evaluated

/-- A closed record has the shape of a simple object schema. -/
theorem isSimple (denotes : store.Denotes (.node address) (.object fields)) :
    Shape.isSimpleObjectSchema (Cell.face (store.cell address)) = true := by
  have single : Shape.hasCombinators fields = false := by
    refine List.any_eq_false.mpr fun keyword listed => ?_
    have evaluated : ∀ keyword ∈ Shape.combinators, keyword ∈ evaluatedKeywords ∧ keyword ∉ recordKeywords := by decide
    simp [Fields.has, record.unspoken (evaluated keyword listed).1 (evaluated keyword listed).2]
  rw [denotes.isSimple]
  simp [Shape.isSimpleObjectSchema, Shape.isObjectSchema, Shape.hasAdditionalProperties, Shape.isObjectWord,
    Shape.isFalse, record.type, record.closed, single]

/-- No node of a closed record has a reference. -/
theorem unreferred : Walk.firstReference? (.object fields) = none := by
  rw [Walk.firstReference?_eq_none_iff]
  rintro ⟨node, isNode, has⟩
  rcases Walk.isNode_object.mp isNode with ⟨-, rfl | ⟨entry, walked, value, found, isNode⟩⟩ | ⟨same, -⟩
  · have missing : Fields.get? fields "$ref" = none := record.unspoken (by decide) (by decide)
    simp [Fields.has, missing] at has
  · have known : ∀ entry ∈ Walk.keywords, entry.1 ∈ evaluatedKeywords ∧ (entry.1 ∈ recordKeywords →
        entry = ("properties", .members) ∨ entry = ("additionalProperties", .objectOnly)) := by decide
    obtain ⟨evaluated, spoken⟩ := known entry walked
    have word : entry.1 ∈ recordKeywords := by
      by_contra other
      cases found.symm.trans (record.unspoken evaluated other)
    rcases spoken word with rfl | rfl
    · rw [record.shaped.declared_of_get? found] at isNode
      rcases Walk.isNode_object.mp isNode with ⟨isNode, -⟩ | ⟨-, member, listed, isNode⟩
      · cases isNode
      · rw [Walk.not_has_of_count (record.unreferring member listed) isNode] at has
        cases has
    · obtain rfl := Option.some.inj (found.symm.trans record.closed)
      exact Walk.not_isNode_scalar rfl rfl isNode
  · cases same

/-- A closed record can be copied, and the copy is one in the store. -/
theorem outcome_clone (closed : store.Closed) (inside : address < store.size)
    (denotes : store.Denotes (.node address) (.object fields)) : ∃ root copied, copied.Closed ∧ root < copied.size ∧
      copied.Denotes (.node root) (.object fields) ∧
      outcome (Builder.clone address (.value .null)) store = (.ok root, copied) := by
  have within : (Slot.node address).Within store.size := Slot.within_node.mpr inside
  have closed' := Store.closed_copy closed within
  have within' := Store.copy_within closed within
  have denotes' := (Store.denotes_copy closed within).mpr denotes
  refine ⟨store.copyPlace (store.reach (.node address)) address, (store.copy (.node address)).2, closed',
    Slot.within_node.mp within', denotes', ?_⟩
  have adopted := Builder.outcome_adopt (store.copyPlace (store.reach (.node address)) address)
    (store.copy (.node address)).2
  rw [show Slot.node (store.copyPlace (store.reach (.node address)) address) = (store.copy (.node address)).1 from rfl,
    (closed'.tree?_eq_some_iff within').mpr denotes'] at adopted
  simp only [record.unreferred] at adopted
  exact adopted

end Schema.ClosedRecord

end SchemaAlgebra

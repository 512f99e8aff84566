import SchemaAlgebra.Proofs.Fields
import SchemaAlgebra.Proofs.Json.Tree

/-!
Lists of properties. A list says of each property its name, its schema and whether it is required. What is written to the
schemas and to the required names, which are kept apart, is here told as what happens to the list.
-/

namespace SchemaAlgebra

/-- A property of a schema. -/
structure Property where
  name : String
  schema : Json
  required : Bool

namespace Fields

variable {κ α : Type} [DecidableEq κ] {fields : Fields κ α} {key : κ}

theorem restrict_filter (distinct : fields.keys.Nodup) (test : κ → Bool) :
    fields.restrict (fields.keys.filter test) = fields.filter fun entry => test entry.1 := by
  rw [restrict, eraseDups_of_nodup (distinct.filter test), keys, List.filter_map, List.filterMap_map]
  have each : ∀ entry ∈ fields.filter (test ∘ Prod.fst),
      (fields.get? entry.1).map (fun value => (entry.1, value)) = some entry := by
    intro entry listed
    rw [get?_of_mem distinct (List.mem_of_mem_filter listed)]
    rfl
  exact (List.filterMap_congr each).trans List.filterMap_some

theorem put_of_has (distinct : fields.keys.Nodup) (held : fields.has key = true) (value : α) :
    fields.put key value = fields.map fun entry => if entry.1 = key then (key, value) else entry := by
  induction fields with
  | nil => simp [has] at held
  | cons entry rest ih =>
      obtain ⟨k, v⟩ := entry
      obtain ⟨missing, others⟩ := List.nodup_cons.mp distinct
      rw [has, get?_cons] at held
      rw [put, List.map_cons]
      by_cases same : k = key
      · subst same
        have rest' : rest.map (fun entry => if entry.1 = k then (k, value) else entry) = rest := by
          refine (List.map_congr_left fun entry listed => ?_).trans (List.map_id rest)
          refine if_neg ?_
          rintro rfl
          exact missing (List.mem_map.mpr ⟨entry, listed, rfl⟩)
        rw [if_pos rfl, if_pos rfl, rest']
      · rw [if_neg same] at held ⊢
        rw [if_neg same, ih others held]

end Fields

namespace Property

/-- Schemas under names, of which some are required. -/
def flagged (values : Fields String Json) (names : List String) : List Property :=
  values.map fun value => ⟨value.1, value.2, decide (value.1 ∈ names)⟩

/-- The names are different, and each is that of a schema. -/
structure Requires (values : Fields String Json) (names : List String) : Prop where
  distinct : names.Nodup
  declared : ∀ name ∈ names, name ∈ Fields.keys values

/-- The name of a property with its being required. -/
def flag (property : Property) : String × Bool :=
  (property.name, property.required)

/-- The properties with some names, in the order in which the names are first given. -/
def pick (mine : List Property) (names : List String) : List Property :=
  names.eraseDups.filterMap fun name => mine.find? fun property => property.name = name

/-- Take over a property: one of a name that is there becomes what the two make in its place, a new one goes last. -/
def take (both : Property → Property → Property) (mine : List Property) (other : Property) : List Property :=
  if other.name ∈ mine.map name then mine.map fun property => if property.name = other.name then both property other else property
  else mine ++ [other]

/-- A schema or another one. -/
def orElse (other schema : Json) : Json :=
  .object [("oneOf", .array [schema, other])]

/-- A schema of lists. -/
def listsOf (items : Json) : Json :=
  .object [("type", .string "array"), ("items", items)]

/-- A required property that has the schema of either of two. -/
def either (mine other : Property) : Property :=
  ⟨mine.name, orElse other.schema mine.schema, true⟩

/-- The property of a name gets a schema that is made of its own. -/
def remake (make : Json → Json) (mine : List Property) (name : String) : List Property :=
  mine.map fun property => if property.name = name then { property with schema := make property.schema } else property

/-- The properties as the entries of an object. -/
def entries (properties : List Property) : List (Key × Json) :=
  properties.map fun property => (.text property.name, property.schema)

variable {values : Fields String Json} {names names' : List String}

/-- Properties that have other names are taken over as they are. -/
theorem foldl_take_of_disjoint (both : Property → Property → Property) {others : List Property}
    (distinct : (others.map name).Nodup) :
    ∀ {mine : List Property}, (∀ other ∈ others, other.name ∉ mine.map name) → others.foldl (take both) mine = mine ++ others := by
  induction others with
  | nil => exact fun _ => (List.append_nil _).symm
  | cons other rest ih =>
      intro mine disjoint
      obtain ⟨missing, distinct⟩ := List.nodup_cons.mp distinct
      obtain ⟨free, disjoint⟩ := List.forall_mem_cons.mp disjoint
      rw [List.foldl_cons, take, if_neg free, ih distinct fun further listed => ?_, List.append_assoc, List.singleton_append]
      rw [List.map_append, List.mem_append, not_or]
      refine ⟨disjoint further listed, fun same => missing ?_⟩
      exact List.mem_singleton.mp same ▸ List.mem_map_of_mem listed

/-- Remaking one name after the other remakes each of different names once. -/
theorem foldl_remake (make : Json → Json) (names : List String) (distinct : names.Nodup) :
    ∀ mine : List Property, names.foldl (remake make) mine = mine.map fun property =>
      if property.name ∈ names then { property with schema := make property.schema } else property := by
  induction names with
  | nil => exact fun mine => by simp
  | cons name rest ih =>
      intro mine
      obtain ⟨missing, distinct⟩ := List.nodup_cons.mp distinct
      rw [List.foldl_cons, ih distinct, remake, List.map_map]
      refine List.map_congr_left fun property _ => ?_
      by_cases same : property.name = name
      · simp [same, missing]
      · simp [same]

/-- The names that are required are those of the properties that say so. -/
theorem Requires.mem_names (requires : Requires values names) {name : String} :
    name ∈ names ↔ ∃ property ∈ flagged values names, property.name = name ∧ property.required = true := by
  constructor
  · intro listed
    obtain ⟨entry, among, rfl⟩ := List.mem_map.mp (requires.declared name listed)
    exact ⟨_, List.mem_map_of_mem among, rfl, decide_eq_true listed⟩
  · rintro ⟨property, among, rfl, required⟩
    obtain ⟨entry, -, rfl⟩ := List.mem_map.mp among
    exact of_decide_eq_true required

theorem names_flagged : (flagged values names).map name = Fields.keys values := by
  simp [flagged, Fields.keys, Function.comp_def]

theorem flags_flagged :
    (flagged values names).map flag = (Fields.keys values).map fun name => (name, decide (name ∈ names)) := by
  simp [flagged, flag, Fields.keys, Function.comp_def]

/-- Other names are required. -/
theorem flagged_names (flag : Property → Bool)
    (flags : ∀ entry ∈ values, decide (entry.1 ∈ names') = flag ⟨entry.1, entry.2, decide (entry.1 ∈ names)⟩) :
    flagged values names' = (flagged values names).map fun property => { property with required := flag property } := by
  rw [flagged, flagged, List.map_map]
  exact List.map_congr_left fun entry member => by rw [flags entry member]; rfl

theorem find?_flagged (name : String) : (flagged values names).find? (fun property => property.name = name) =
    (Fields.get? values name).map fun value => ⟨name, value, decide (name ∈ names)⟩ := by
  induction values with
  | nil => rfl
  | cons entry rest ih =>
      obtain ⟨other, value⟩ := entry
      rw [Fields.get?_cons]
      change ((⟨other, value, decide (other ∈ names)⟩ : Property) :: flagged rest names).find? _ = _
      rw [List.find?_cons]
      by_cases same : other = name
      · simp [same]
      · simpa [same] using ih

/-- Some names are picked. -/
theorem flagged_restrict (texts : List String) :
    flagged (Fields.restrict values texts) (names.filter (· ∈ texts)) = pick (flagged values names) texts := by
  rw [pick, flagged, Fields.restrict, List.map_filterMap]
  refine List.filterMap_congr fun name picked => ?_
  rw [List.mem_eraseDups] at picked
  simp [find?_flagged, Function.comp_def, picked]

theorem Requires.restrict (requires : Requires values names) (texts : List String) :
    Requires (Fields.restrict values texts) (names.filter (· ∈ texts)) where
  distinct := requires.distinct.filter _
  declared name member := by
    obtain ⟨member, picked⟩ := List.mem_filter.mp member
    rw [Fields.keys_restrict, List.mem_filter, List.mem_eraseDups, Fields.has_iff_mem_keys]
    exact ⟨by simpa using picked, requires.declared name member⟩

/-- The other names are picked. -/
theorem flagged_omit (distinct : (Fields.keys values).Nodup) (texts : List String) :
    flagged (Fields.restrict values ((Fields.keys values).filter (· ∉ texts)))
        (names.filter (· ∈ (Fields.keys values).filter (· ∉ texts))) =
      (flagged values names).filter fun property => property.name ∉ texts := by
  rw [Fields.restrict_filter distinct, flagged, flagged, List.filter_map]
  refine List.map_congr_left fun entry member => ?_
  obtain ⟨member, kept⟩ := List.mem_filter.mp member
  have key : entry.1 ∈ Fields.keys values := List.mem_map_of_mem member
  simp only [List.mem_filter, key, kept, decide_true, and_true]

/-- One name is replaced by a new one. -/
theorem flagged_relabel {isRequired : Bool} {name new : String} (requires : Requires values names)
    (free : new ∉ Fields.keys values) :
    flagged (Fields.relabel values name new) (names.filter (· ≠ name) ++ if isRequired then [new] else []) =
      (flagged values names).map fun property =>
        if property.name = name then ⟨new, property.schema, isRequired⟩ else property := by
  have notRequired : new ∉ names := fun listed => free (requires.declared new listed)
  rw [flagged, flagged, Fields.relabel, List.map_map, List.map_map]
  refine List.map_congr_left fun entry member => ?_
  by_cases same : entry.1 = name
  · cases isRequired <;> simp [same, notRequired]
  · have different : entry.1 ≠ new := by
      rintro rfl
      exact free (List.mem_map_of_mem member)
    cases isRequired <;> simp [same, different]

/-- A new name is added. -/
theorem flagged_append {name : String} (requires : Requires values names) (free : name ∉ Fields.keys values)
    (value : Json) (isRequired : Bool) : flagged (Fields.put values name value) (names ++ if isRequired then [name] else []) =
      flagged values names ++ [⟨name, value, isRequired⟩] := by
  have notRequired : name ∉ names := fun listed => free (requires.declared name listed)
  rw [Fields.put_of_get?_eq_none ((Fields.get?_eq_none_iff values name).mpr free), flagged, List.map_append, flagged]
  refine congrArg₂ List.append (List.map_congr_left fun entry member => ?_) ?_
  · have different : entry.1 ≠ name := by
      rintro rfl
      exact free (List.mem_map_of_mem member)
    cases isRequired <;> simp [different]
  · cases isRequired <;> simp [notRequired]

/-- A name that is new is taken over. -/
theorem flagged_new {name : String} (both : Property → Property → Property) (requires : Requires values names)
    (free : name ∉ Fields.keys values) (value : Json) (isRequired : Bool) :
    flagged (Fields.put values name value) (if isRequired then names ++ [name] else names) =
      take both (flagged values names) ⟨name, value, isRequired⟩ := by
  have appended := flagged_append requires free value isRequired
  rw [take, names_flagged, if_neg free, ← appended]
  cases isRequired <;> simp

/-- A name that is there is taken over. -/
theorem flagged_replace {both : Property → Property → Property} (other : Property) {current value : Json}
    (distinct : (Fields.keys values).Nodup) (held : Fields.get? values other.name = some current)
    (flags : ∀ name, name ≠ other.name → (name ∈ names' ↔ name ∈ names))
    (made : both ⟨other.name, current, decide (other.name ∈ names)⟩ other = ⟨other.name, value, decide (other.name ∈ names')⟩) :
    flagged (Fields.put values other.name value) names' = take both (flagged values names) other := by
  have has : Fields.has values other.name = true := by rw [Fields.has, held]; rfl
  rw [take, names_flagged, if_pos ((Fields.has_iff_mem_keys _ _).mp has), Fields.put_of_has distinct has, flagged, flagged,
    List.map_map, List.map_map]
  refine List.map_congr_left fun entry member => ?_
  by_cases same : entry.1 = other.name
  · obtain rfl : entry.2 = current := Option.some.inj ((Fields.get?_of_mem distinct (same ▸ member)).symm.trans held)
    simp [same, made]
  · simp [same, decide_eq_decide.mpr (flags entry.1 same)]

/-- A name that is there gets a schema that is made of its own. -/
theorem flagged_remake {name : String} {current : Json} (distinct : (Fields.keys values).Nodup)
    (held : Fields.get? values name = some current) (make : Json → Json) :
    flagged (Fields.put values name (make current)) names = remake make (flagged values names) name := by
  have has : Fields.has values name = true := by rw [Fields.has, held]; rfl
  rw [remake, Fields.put_of_has distinct has, flagged, flagged, List.map_map, List.map_map]
  refine List.map_congr_left fun entry member => ?_
  by_cases same : entry.1 = name
  · obtain rfl : entry.2 = current := Option.some.inj ((Fields.get?_of_mem distinct (same ▸ member)).symm.trans held)
    simp [same]
  · simp [same]

/-- A name that both have may be either from now on. -/
theorem flagged_either {name : String} {current : Json} (distinct : (Fields.keys values).Nodup)
    (held : Fields.get? values name = some current) (value : Json) (isRequired : Bool) :
    flagged (Fields.put values name (orElse value current))
        (if name ∈ names then names else names ++ [name]) =
      take either (flagged values names) ⟨name, value, isRequired⟩ := by
  refine flagged_replace ⟨name, value, isRequired⟩ distinct held (fun other different => ?_) ?_
  · split <;> simp [different]
  · rw [either, Property.mk.injEq]
    refine ⟨rfl, rfl, Eq.symm (decide_eq_true ?_)⟩
    split <;> simp_all

/-- A name is from now on as it was where it came from. -/
theorem flagged_overwrite (name : String) (distinct : (Fields.keys values).Nodup) (requires : Requires values names)
    (value : Json) (isRequired : Bool) :
    flagged (Fields.put values name value)
        (if isRequired then if name ∈ names then names else names ++ [name] else names.erase name) =
      take (fun _ other => other) (flagged values names) ⟨name, value, isRequired⟩ := by
  cases held : Fields.get? values name with
  | none =>
      have free := (Fields.get?_eq_none_iff values name).mp held
      have notRequired : name ∉ names := fun listed => free (requires.declared name listed)
      rw [if_neg notRequired, List.erase_of_not_mem notRequired]
      exact flagged_new _ requires free value isRequired
  | some current =>
      refine flagged_replace ⟨name, value, isRequired⟩ distinct held (fun other different => ?_) ?_
      · cases isRequired with
        | false => exact List.mem_erase_of_ne different
        | true =>
            rw [if_pos rfl]
            split <;> simp [different]
      · rw [Property.mk.injEq]
        refine ⟨rfl, rfl, ?_⟩
        cases isRequired with
        | false => exact (decide_eq_false requires.distinct.not_mem_erase).symm
        | true =>
            refine Eq.symm (decide_eq_true ?_)
            rw [if_pos rfl]
            split <;> simp_all

end Property

end SchemaAlgebra

import SchemaAlgebra.Proofs.Builder.Charter
import SchemaAlgebra.Proofs.Builder.Members
import SchemaAlgebra.Proofs.Builder.Presenting
import SchemaAlgebra.Proofs.Session.Moves
import SchemaAlgebra.Proofs.Session.Picking
import SchemaAlgebra.Proofs.Session.Refusal

/-!
Making a schema require nothing, at any depth. Where schemas stand in a schema is said by paths from the root, without
regard to how a walk goes. In what passes the metaschema, the visit that drops a key takes it out of the objects at
these positions and changes nothing else.
-/

namespace SchemaAlgebra

namespace Json

mutual

/-- Take a key out of the objects at the paths for which a test holds. -/
def dropAt (key : Key) (stands : List Step → Bool) : Json → Json
  | .object fields =>
      let entries := dropMembers key stands fields
      .object (if stands [] then Fields.erase entries key else entries)
  | .array items => .array (dropItems key stands 0 items)
  | value => value

/-- Take a key out of objects in the members of an object. -/
def dropMembers (key : Key) (stands : List Step → Bool) : List (Key × Json) → List (Key × Json)
  | [] => []
  | (name, value) :: rest =>
      (name, dropAt key (fun path => stands (.member name :: path)) value) :: dropMembers key stands rest

/-- Take a key out of objects in the items of a list, from an index on. -/
def dropItems (key : Key) (stands : List Step → Bool) (index : Nat) : List Json → List Json
  | [] => []
  | item :: rest =>
      dropAt key (fun path => stands (.index index :: path)) item :: dropItems key stands (index + 1) rest

end

variable {key : Key} {stands : List Step → Bool}

theorem dropMembers_eq (fields : List (Key × Json)) : dropMembers key stands fields =
    fields.map fun entry => (entry.1, entry.2.dropAt key fun path => stands (.member entry.1 :: path)) := by
  induction fields with
  | nil => rfl
  | cons entry rest ih => rw [dropMembers, ih, List.map_cons]

/-- Where the index makes no difference, all items are treated alike. -/
theorem dropItems_eq {below : List Step → Bool} (alike : ∀ index path, stands (.index index :: path) = below path)
    (items : List Json) (index : Nat) : dropItems key stands index items = items.map (dropAt key below) := by
  induction items generalizing index with
  | nil => rfl
  | cons item rest ih =>
      have same : (fun path => stands (.index index :: path)) = below := funext (alike index)
      rw [dropItems, ih, same, List.map_cons]

theorem dropAt_scalar {value : Json} (notArray : value.isArray = false) (notObject : value.isObject = false) :
    value.dropAt key stands = value := by
  cases value <;> first | rfl | simp_all [isArray, isObject]

/-- What no path leads into stays as it is. -/
theorem dropAt_of_never (value : Json) : ∀ {stands : List Step → Bool}, (∀ path, stands path = false) →
    value.dropAt key stands = value := by
  induction value using Json.treeInduction with
  | array items ih =>
      intro stands never
      have same : dropItems key stands 0 items = items.map (dropAt key fun _ => false) :=
        dropItems_eq (fun index path => never (.index index :: path)) items 0
      rw [dropAt, same]
      refine congrArg Json.array ((List.map_congr_left fun item listed => ?_).trans (List.map_id items))
      exact ih item listed fun _ => rfl
  | object fields ih =>
      intro stands never
      have same : dropMembers key stands fields = fields := by
        rw [dropMembers_eq]
        refine (List.map_congr_left fun entry listed => ?_).trans (List.map_id _)
        rw [ih entry listed fun path => never (.member entry.1 :: path)]
        rfl
      simp [dropAt, same, never]
  | scalar value notArray notObject => exact fun _ => dropAt_scalar notArray notObject

end Json

namespace Walk

/-- Whether a path leads from a schema to where a schema stands in it: to the schema itself, to the value of a property,
to an element of a list of schemas, or to the one schema that a keyword holds, and on from there. -/
def isPosition : List Step → Bool
  | [] => true
  | .member (.text "properties") :: .member _ :: path => isPosition path
  | .member (.text keyword) :: .index _ :: path =>
      keyword ∈ ["oneOf", "allOf", "anyOf", "items"] && isPosition path
  | .member (.text keyword) :: path => keyword ∈ ["items", "not", "additionalProperties"] && isPosition path
  | _ => false

/-- The role in which a keyword holds schemas. -/
def roleOf? (key : Key) : Option Role :=
  key.text?.bind fun keyword => keywords.lookup keyword

/-- The paths to the schemas in what a keyword holds. -/
def Role.isPosition : Role → List Step → Bool
  | .schema, path | .objectOnly, path => Walk.isPosition path
  | .members, .member _ :: path => Walk.isPosition path
  | .branches, .index _ :: path => Walk.isPosition path
  | .schemaOrList, .index _ :: path => Walk.isPosition path
  | .schemaOrList, path => Walk.isPosition path
  | .members, _ | .branches, _ => false

theorem isPosition_member (key : Key) (path : List Step) : isPosition (.member key :: path) =
    (roleOf? key).elim false (Role.isPosition · path) := by
  cases key with
  | text keyword =>
      rcases path with _ | ⟨_ | _, path⟩ <;>
        simp only [roleOf?, Key.text?, Option.bind_some, keywords, List.lookup_cons, List.lookup_nil] <;>
        repeat' split
      all_goals simp_all [isPosition, Role.isPosition]
  | _ => rcases path with _ | ⟨_ | _, path⟩ <;> rfl

variable {key : Key} {role : Role} {fields : List (Key × Json)} {items : List Json}

theorem mem_keywords_of_roleOf? (found : roleOf? key = some role) :
    ∃ keyword, key = .text keyword ∧ (keyword, role) ∈ keywords := by
  obtain ⟨keyword, spelled, found⟩ := Option.bind_eq_some_iff.mp found
  obtain ⟨before, after, split, -⟩ := List.lookup_eq_some_iff.mp found
  cases key with
  | text text =>
      obtain rfl : text = keyword := Option.some.inj spelled
      exact ⟨text, rfl, by rw [split]; simp⟩
  | _ => cases spelled

/-- What the visit makes of the value under a key of a node. -/
def visitUnder (drop : Option Key) (entry : Key × Json) : Json :=
  match roleOf? entry.1 with
  | some role => (visitAs drop role entry.2).value
  | none => entry.2

theorem entries_visitKeywords (key : Key) (fields : List (Key × Json)) : (visitKeywords (some key) fields).1 =
    Fields.erase (fields.map fun entry => (entry.1, visitUnder (some key) entry)) key := by
  induction fields with
  | nil => rfl
  | cons entry rest ih =>
      obtain ⟨name, value⟩ := entry
      rw [visitKeywords, List.map_cons, Fields.erase]
      by_cases same : key = name
      · simp only [same, if_true] at ih ⊢
        exact ih
      · have other : some key ≠ some name := fun same' => same (Option.some.inj same')
        simp only [if_neg other, if_neg (Ne.symm same), ← ih]
        cases name with
        | text word => cases known : keywords.lookup word <;> simp [visitUnder, roleOf?, Key.text?, known]
        | _ => rfl

theorem values_visitMembers (drop : Option Key) (fields : List (Key × Json)) : (visitMembers drop fields).1 =
    fields.map fun entry => (entry.1, (visitAs drop .schema entry.2).value) := by
  induction fields with
  | nil => rfl
  | cons entry rest ih => rw [visitMembers, List.map_cons, ← ih]

theorem values_visitItems (drop : Option Key) (items : List Json) : (visitItems drop items).1 =
    items.map fun item => (visitAs drop .schema item).value := by
  induction items with
  | nil => rfl
  | cons item rest ih => rw [visitItems, List.map_cons, ← ih]

/-! What taking a key out at these positions does to a node, to members and to a list. -/

theorem dropAt_node (isNode : role.isNode = true) :
    (Json.object fields).dropAt key role.isPosition = .object (Fields.erase (fields.map fun entry =>
      (entry.1, entry.2.dropAt key fun path => (roleOf? entry.1).elim false (Role.isPosition · path))) key) := by
  have here : role.isPosition [] = true := by cases role <;> first | rfl | cases isNode
  have under : ∀ name path, role.isPosition (.member name :: path) =
      (roleOf? name).elim false (Role.isPosition · path) := by
    intro name path
    rw [← isPosition_member]
    cases role <;> first | rfl | cases isNode
  simp only [Json.dropAt, Json.dropMembers_eq, here, if_true, under]

theorem dropAt_members : (Json.object fields).dropAt key Role.members.isPosition =
    .object (fields.map fun entry => (entry.1, entry.2.dropAt key isPosition)) := by
  simp [Json.dropAt, Json.dropMembers_eq, Role.isPosition]

theorem dropAt_list (isList : role.isList = true) : (Json.array items).dropAt key role.isPosition =
    .array (items.map (Json.dropAt key isPosition)) := by
  rw [Json.dropAt, Json.dropItems_eq fun index path => ?_]
  cases role <;> first | rfl | cases isList

/-- A value that passes as what a role holds, and in no node of which a key stands twice. -/
structure Proper (role : Role) (value : Json) : Prop where
  passes : Metaschema.PassesAs role value
  distinct : ∀ node, IsNode role value node → (Fields.keys node).Nodup

namespace Proper

theorem item (proper : Proper role (.array items)) {item : Json} (listed : item ∈ items) : Proper .schema item := by
  obtain ⟨isList, each⟩ := proper.passes.array
  exact ⟨each item listed, fun node inside => proper.distinct node (.item isList listed inside)⟩

theorem member (proper : Proper .members (.object fields)) {entry : Key × Json} (listed : entry ∈ fields) :
    Proper .schema entry.2 := by
  rcases proper.passes.object with ⟨isNode, -⟩ | ⟨-, members⟩
  · cases isNode
  · exact ⟨members entry listed, fun node inside => proper.distinct node (.member listed inside)⟩

theorem keyword (proper : Proper role (.object fields)) (isNode : role.isNode = true) {entry : Key × Json}
    (listed : entry ∈ fields) {under : Role} (known : roleOf? entry.1 = some under) : Proper under entry.2 := by
  obtain ⟨keyword, named, known⟩ := mem_keywords_of_roleOf? known
  have found : Fields.get? fields (.text keyword) = some entry.2 :=
    named ▸ Fields.get?_of_mem (proper.distinct fields (.here isNode)) listed
  rcases proper.passes.object with ⟨-, passes⟩ | ⟨rfl, -⟩
  · exact ⟨passes.keyword known found, fun node inside => proper.distinct node (.keyword isNode known found inside)⟩
  · cases isNode

end Proper

/-- In what passes as what a role holds, the visit takes the key out of the schemas and leaves all else. -/
theorem value_visitAs (key : Key) (value : Json) : ∀ role, Proper role value →
    (visitAs (some key) role value).value = value.dropAt key role.isPosition := by
  induction value using Json.treeInduction with
  | array items ih =>
      intro role proper
      have isList := proper.passes.array.1
      have visited : (visitAs (some key) role (.array items)).value = .array (visitItems (some key) items).1 := by
        cases role <;> first | rfl | cases isList
      rw [visited, values_visitItems, dropAt_list isList]
      exact congrArg Json.array (List.map_congr_left fun item listed => ih item listed .schema (proper.item listed))
  | object fields ih =>
      intro role proper
      rcases proper.passes.object with ⟨isNode, -⟩ | ⟨rfl, -⟩
      · have visited : (visitAs (some key) role (.object fields)).value =
            .object (visitKeywords (some key) fields).1 := by
          cases role <;> first | rfl | cases isNode
        rw [visited, entries_visitKeywords, dropAt_node isNode]
        refine congrArg (fun entries => Json.object (Fields.erase entries key))
          (List.map_congr_left fun entry listed => congrArg (Prod.mk entry.1) ?_)
        rw [visitUnder]
        cases known : roleOf? entry.1 with
        | none => exact (Json.dropAt_of_never entry.2 fun _ => rfl).symm
        | some under => exact ih entry listed under (proper.keyword isNode listed known)
      · rw [visitAs, dropAt_members]
        simp only [values_visitMembers]
        exact congrArg Json.object (List.map_congr_left fun entry listed =>
          congrArg (Prod.mk entry.1) (ih entry listed .schema (proper.member listed)))
  | scalar value notArray notObject =>
      intro role _
      rw [Json.dropAt_scalar notArray notObject]
      cases value <;> first | rfl | simp_all [Json.isArray, Json.isObject]

end Walk

/-!
Dropping in the store. All objects that the trail has seen lose the key, and no other object is touched. Where a walk
does not go there is data, which never leads to a schema, so that the schema denotes what it did, without the key at its
positions.
-/

theorem forall₂_map_of_mem {α β γ : Type} {r : α → β → Prop} {s : α → γ → Prop} {f : β → γ} {items : List α}
    {others : List β} (related : List.Forall₂ r items others)
    (each : ∀ item ∈ items, ∀ other ∈ others, r item other → s item (f other)) :
    List.Forall₂ s items (others.map f) := by
  induction related with
  | nil => exact .nil
  | @cons item other _ _ first _ ih =>
      refine .cons (each item List.mem_cons_self other List.mem_cons_self first) ?_
      exact ih fun item listed other listed' =>
        each item (List.mem_cons_of_mem _ listed) other (List.mem_cons_of_mem _ listed')

theorem Fields.erase_erase {κ α : Type} [DecidableEq κ] (fields : Fields κ α) (key : κ) :
    (fields.erase key).erase key = fields.erase key :=
  erase_of_get?_eq_none (by rw [get?_erase, if_pos rfl])

theorem Standing.under_of_roleOf? (self : Nat) {key : Key} (unwalked : Walk.roleOf? key = none) :
    Standing.schema.under self key = .data := by
  rw [Walk.roleOf?] at unwalked
  simp [under, unwalked]

namespace Store

/-- The objects of a kind have lost a key, and nothing else is different in the later store. -/
structure Drops (store : Store) (key : Key) (dropped : Nat → Prop) (later : Store) : Prop where
  size : store.size = later.size
  lost : ∀ address, dropped address → later.cell address = Fields.erase (store.cell address) key
  agrees : store.AgreesOff later dropped

variable {store middle later : Store} {key : Key} {dropped dropped' : Nat → Prop} {address node : Nat} {slot : Slot}
  {role : Walk.Role}

namespace Drops

theorem refl : store.Drops key (fun _ => False) store :=
  ⟨rfl, fun _ none => none.elim, fun _ _ => rfl⟩

theorem single (store : Store) (key : Key) (address : Nat) :
    store.Drops key (· = address) (store.replace address (Fields.erase (store.cell address) key)) := by
  refine ⟨(size_replace ..).symm, ?_, fun other different => ?_⟩
  · rintro _ rfl
    rw [cell_replace_eq]
    split
    · rfl
    next outside => rw [cell_of_size_le (by simpa using outside)]; rfl
  · rw [cell_replace_eq, if_neg fun both => different both.1.symm]

theorem trans (first : store.Drops key dropped middle) (second : middle.Drops key dropped' later) :
    store.Drops key (fun address => dropped address ∨ dropped' address) later := by
  refine ⟨first.size.trans second.size, fun address either => ?_, fun address neither => ?_⟩
  · by_cases lost : dropped address
    · by_cases lost' : dropped' address
      · rw [second.lost address lost', first.lost address lost, Fields.erase_erase]
      · rw [second.agrees address lost', first.lost address lost]
    · rw [second.lost address (either.resolve_left lost), first.agrees address lost]
  · obtain ⟨kept, kept'⟩ := not_or.mp neither
    rw [second.agrees address kept', first.agrees address kept]

theorem congr (drops : store.Drops key dropped later) (same : ∀ address, dropped address ↔ dropped' address) :
    store.Drops key dropped' later :=
  (funext fun address => propext (same address) : dropped = dropped') ▸ drops

theorem get?_of_later (drops : store.Drops key dropped later) {name : Key}
    (found : Fields.get? (later.cell address) name = some slot) :
    Fields.get? (store.cell address) name = some slot := by
  by_cases lost : dropped address
  · rw [drops.lost address lost, Fields.get?_erase] at found
    split at found
    · cases found
    · exact found
  · rwa [drops.agrees address lost] at found

theorem mem_of_later (drops : store.Drops key dropped later) {entry : Key × Slot}
    (listed : entry ∈ later.cell address) : entry ∈ store.cell address := by
  by_cases lost : dropped address
  · rw [drops.lost address lost] at listed
    exact Fields.mem_erase listed
  · rwa [drops.agrees address lost] at listed

theorem closed (drops : store.Drops key dropped later) (closed : store.Closed) : later.Closed := by
  rw [closed_iff] at closed ⊢
  intro address entry listed
  rw [← drops.size]
  exact closed address entry (drops.mem_of_later listed)

/-- No walk goes where none went before. -/
theorem visits (drops : store.Drops key dropped later) (visits : later.Visits role slot node) :
    store.Visits role slot node := by
  induction visits with
  | here own => exact .here own
  | keyword own listed found _ ih => exact .keyword own listed (drops.get?_of_later found) ih
  | member listed _ ih => exact .member (drops.mem_of_later listed) ih
  | item own listed _ ih => exact .item own listed ih

/-- Objects that have lost the key have nothing to lose. -/
theorem again (drops : store.Drops key dropped middle) (drops' : middle.Drops key dropped' later)
    (less : ∀ address, dropped' address → dropped address) : later = middle := by
  refine ext_cells drops'.size.symm fun address => ?_
  by_cases lost : dropped' address
  · rw [drops'.lost address lost, drops.lost address (less address lost), Fields.erase_erase]
  · exact drops'.agrees address lost

end Drops

section

variable {clean : Prop} {standings : Nat → Standing} {fields : List (Key × Json)} {items : List Slot}
  {values : List Json} {entry : Key × Slot} {field : Key × Json} {value : Json}

/-- A slot that a walk goes through in a role, and the value that it denotes; all that is visited from there is of one
kind. -/
structure Walked (store : Store) (standings : Nat → Standing) (visited : Nat → Prop) (role : Walk.Role) (slot : Slot)
    (value : Json) : Prop where
  proper : Walk.Proper role value
  stands : ∃ standing : Standing, standing.Serves role ∧ slot.Stands standings standing
  denotes : store.Denotes slot value
  visits : ∀ node, store.Visits role slot node → visited node

namespace Walked

theorem item (walked : store.Walked standings dropped role (.array items) (.array values)) (listed : slot ∈ items)
    (listed' : value ∈ values) (denotes : store.Denotes slot value) :
    store.Walked standings dropped .schema slot value := by
  have isList := walked.proper.passes.array.1
  have entered : role.entersList = true := by cases role <;> first | rfl | cases isList
  obtain ⟨standing, serves, stands⟩ := walked.stands
  obtain rfl := serves.eq_schema (by rintro rfl; cases isList)
  exact ⟨walked.proper.item listed', ⟨_, Standing.serves_schema, Slot.stands_array.mp stands slot listed⟩, denotes,
    fun node visits => walked.visits node (.item entered listed visits)⟩

/-- An object with members stands for such, and holds schemas. -/
theorem members (walked : store.Walked standings dropped .members (.node address) (.object fields)) :
    ∃ owner, standings address = .members owner := by
  obtain ⟨_, ⟨owner, rfl⟩, stands⟩ := walked.stands
  exact ⟨owner, stands⟩

theorem member (arranged : store.Arranged clean standings)
    (walked : store.Walked standings dropped .members (.node address) (.object fields))
    (listed : entry ∈ store.cell address) (listed' : field ∈ fields) (denotes : store.Denotes entry.2 field.2) :
    store.Walked standings dropped .schema entry.2 field.2 := by
  obtain ⟨owner, stands⟩ := walked.members
  have holds := arranged.holds address entry listed
  rw [stands] at holds
  exact ⟨walked.proper.member listed', ⟨_, Standing.serves_schema, holds⟩, denotes,
    fun node visits => walked.visits node (.member listed visits)⟩

theorem schema (walked : store.Walked standings dropped role (.node address) (.object fields))
    (isNode : role.isNode = true) : standings address = .schema := by
  obtain ⟨standing, serves, stands⟩ := walked.stands
  obtain rfl := serves.eq_schema (by rintro rfl; cases isNode)
  exact stands

theorem keyword (arranged : store.Arranged clean standings)
    (walked : store.Walked standings dropped role (.node address) (.object fields)) (isNode : role.isNode = true)
    (listed : entry ∈ store.cell address) (listed' : field ∈ fields) (same : entry.1 = field.1)
    (denotes : store.Denotes entry.2 field.2) {under : Walk.Role} (known : Walk.roleOf? field.1 = some under) :
    store.Walked standings dropped under entry.2 field.2 := by
  obtain ⟨_, ⟨⟩, entries⟩ := denotes_node.mp walked.denotes
  obtain ⟨keyword, named, among⟩ := Walk.mem_keywords_of_roleOf? known
  have found : Fields.get? (store.cell address) (.text keyword) = some entry.2 := by
    rw [← named, ← same]
    exact Fields.get?_of_mem (entries.keys ▸ walked.proper.distinct fields (.here isNode)) listed
  have holds := arranged.holds address entry listed
  rw [walked.schema isNode, same, named] at holds
  exact ⟨walked.proper.keyword isNode listed' known, ⟨_, Standing.serves_under address among, holds⟩, denotes,
    fun node visits => walked.visits node (.keyword isNode among found visits)⟩

/-- Under a key that holds no schemas there is data. -/
theorem data (arranged : store.Arranged clean standings)
    (walked : store.Walked standings dropped role (.node address) (.object fields)) (isNode : role.isNode = true)
    (listed : entry ∈ store.cell address) (unknown : Walk.roleOf? entry.1 = none) :
    entry.2.Stands standings .data := by
  have holds := arranged.holds address entry listed
  rwa [walked.schema isNode, Standing.under_of_roleOf? address unknown] at holds

end Walked

/-- What stands for data denotes what it did. -/
theorem Drops.denotes_data (drops : store.Drops key dropped later) (arranged : store.Arranged clean standings)
    (schemas : ∀ node, dropped node → standings node = .schema) (stands : slot.Stands standings .data)
    (denotes : store.Denotes slot value) : later.Denotes slot value := by
  refine denotes.agree drops.agrees ((arranged.apart_data stands).mono fun node lost => ?_)
  simp [schemas node lost]

/-- What is no container denotes what it did. -/
theorem Drops.denotes_scalar (drops : store.Drops key dropped later) (notArray : value.isArray = false)
    (notObject : value.isObject = false) (denotes : store.Denotes slot value) : later.Denotes slot value := by
  refine denotes.agree drops.agrees fun address named => ?_
  cases slot with
  | array items =>
      obtain ⟨_, rfl, -⟩ := denotes_array.mp denotes
      cases notArray
  | node address =>
      obtain ⟨_, rfl, -⟩ := denotes_node.mp denotes
      cases notObject
  | _ => cases named

/-- What a walk goes through denotes what it did, without the key at the positions of schemas. -/
theorem Drops.denotes (drops : store.Drops key dropped later) (arranged : store.Arranged clean standings)
    (schemas : ∀ node, dropped node → standings node = .schema) (value : Json) :
    ∀ {role : Walk.Role} {slot : Slot}, store.Walked standings dropped role slot value →
      later.Denotes slot (value.dropAt key role.isPosition) := by
  induction value using Json.treeInduction with
  | array values ih =>
      intro role slot walked
      obtain ⟨items, rfl, related⟩ := walked.denotes.eq_array
      rw [Walk.dropAt_list walked.proper.passes.array.1]
      refine denotes_array.mpr ⟨_, rfl, forall₂_map_of_mem related fun item listed value listed' denotes => ?_⟩
      exact ih value listed' (walked.item listed listed' denotes)
  | object fields ih =>
      intro role slot walked
      obtain ⟨address, rfl, entries⟩ := walked.denotes.eq_node
      rcases walked.proper.passes.object with ⟨isNode, -⟩ | ⟨rfl, -⟩
      · -- a schema is visited, and holds schemas under keywords and data under other keys
        rw [Walk.dropAt_node isNode]
        refine denotes_node.mpr ⟨_, rfl, ?_⟩
        rw [drops.lost address (walked.visits address (.here isNode))]
        refine Fields.Rel.erase (forall₂_map_of_mem entries fun entry listed field listed' ⟨same, denotes⟩ => ?_) key
        refine ⟨same, ?_⟩
        cases known : Walk.roleOf? field.1 with
        | none =>
            change later.Denotes entry.2 (field.2.dropAt key fun _ => false)
            rw [Json.dropAt_of_never field.2 fun _ => rfl]
            exact drops.denotes_data arranged schemas (walked.data arranged isNode listed (same ▸ known)) denotes
        | some under => exact ih field listed' (walked.keyword arranged isNode listed listed' same denotes known)
      · -- members are no schema themselves, so that they keep all their keys
        have kept : ¬ dropped address := fun lost => by
          obtain ⟨owner, stands⟩ := walked.members
          cases (schemas address lost).symm.trans stands
        rw [Walk.dropAt_members]
        refine denotes_node.mpr ⟨_, rfl, ?_⟩
        rw [drops.agrees address kept]
        refine forall₂_map_of_mem entries fun entry listed field listed' ⟨same, denotes⟩ => ⟨same, ?_⟩
        exact ih field listed' (walked.member arranged listed listed' denotes)
  | scalar value notArray notObject =>
      intro role slot walked
      rw [Json.dropAt_scalar notArray notObject]
      exact drops.denotes_scalar notArray notObject walked.denotes

end

end Store

namespace Builder

variable {address : Nat} {store : Store} {schema : Json}

theorem outcome_dropEach (nodes : List Nat) (key : Key) (store : Store) :
    ∃ later, outcome (nodes.forM fun node => Change.drop node key) store = (.ok ⟨⟩, later) ∧
      store.Drops key (· ∈ nodes) later := by
  induction nodes generalizing store with
  | nil => exact ⟨store, rfl, Store.Drops.refl.congr (by simp)⟩
  | cons node rest ih =>
      obtain ⟨later, ran, drops⟩ := ih (store.replace node (Fields.erase (store.cell node) key))
      refine ⟨later, (outcome_bind_ok (Change.outcome_drop node key store)).trans ran, ?_⟩
      exact ((Store.Drops.single store key node).trans drops).congr (by simp)

/-- A finite schema is made to require nothing, at any depth. -/
theorem outcome_deepOptionals (read : store.tree? (.node address) = some schema) :
    ∃ later, outcome (deepOptionals address) store = (.ok (), later) ∧
      store.Drops "required" (store.Visits .schema (.node address)) later := by
  have finite : (store.tree? (.node address)).isSome = true := by simp [read]
  obtain ⟨later, ran, drops⟩ := outcome_dropEach (store.trail (.node address)).seen "required" store
  refine ⟨later, ?_, drops.congr fun node => Store.mem_trail_iff finite⟩
  rw [deepOptionals, outcome_bind_ok (outcome_get store)]
  dsimp only
  rw [outcome_bind_ok ran, if_pos (Store.covers_trail finite).finished]
  rfl

end Builder

/-!
Builders. Whatever led to a builder, its finite schema that passes the metaschema loses what is required at the
positions of schemas in it: properties of that name, and what is data, stay as they are.
-/

namespace Session

open Metaschema

variable {session : Session} {name : String} {root : Nat} {schema : Json}

/-- Nothing is required any more in the schemas that stand in the schema of a builder, and nothing else is different in
it; in the store only the objects change that a walk of it visits. A second call changes nothing. The visit of the
schema as a value comes to the same. -/
theorem Played.deepOptionals_exact (played : session.Played) (bound : session.operand? name = some (.builder root))
    (read : session.store.tree? (.node root) = some schema) (passing : Passing schema) :
    ∃ later, outcome (Session.edit name .toDeepOptionals) session = (.ok (), { session with store := later }) ∧
      later.tree? (.node root) = some (schema.dropAt "required" Walk.isPosition) ∧
      session.store.Drops "required" (session.store.Visits .schema (.node root)) later ∧
      outcome (Session.edit name .toDeepOptionals) { session with store := later } =
        (.ok (), { session with store := later }) ∧
      (Walk.visit (some "required") schema).value = schema.dropAt "required" Walk.isPosition := by
  obtain ⟨standings, arranged⟩ := played.arranged
  have isSchema := arranged.roots bound
  have stands : (Slot.node root).Stands standings .schema := isSchema
  obtain ⟨target, found, kind, same⟩ := operand?_eq_builder.mp bound
  have closed := arranged.store.closed
  have inside : root < session.store.size := arranged.store.inside (by simp [isSchema])
  have within : (Slot.node root).Within session.store.size := Slot.within_node.mpr inside
  have proper : Walk.Proper .schema schema := ⟨passes_of_isSchema passing.isSchema, passing.distinct⟩
  obtain ⟨later, ran, drops⟩ := Builder.outcome_deepOptionals read
  have loose : later.tree? (.node root) = some (schema.dropAt "required" Walk.isPosition) := by
    refine ((drops.closed closed).tree?_eq_some_iff (drops.size ▸ within)).mpr ?_
    refine drops.denotes arranged.store (fun node visits => ?_) schema ⟨proper, ⟨_, Standing.serves_schema, stands⟩,
      (closed.tree?_eq_some_iff within).mp read, fun node visits => visits⟩
    exact arranged.store.visits Standing.serves_schema stands within visits
  refine ⟨later, outcome_edit_ok found kind same ran, loose, drops, ?_,
    Walk.value_visitAs "required" schema .schema proper⟩
  obtain ⟨last, ran', drops'⟩ := Builder.outcome_deepOptionals loose
  obtain rfl := drops.again drops' fun node visits => drops.visits visits
  have found' : ({ session with store := last } : Session).targets.get? name = some target := found
  exact outcome_edit_ok found' kind same ran'

/-- A schema that requires something at most positions, with a property of that name and with data that looks alike. -/
def strictSchema : Json :=
  .object [("required", .array [.string "required"]), ("default", .object [("required", .array [])]),
    ("properties", .object [("required", .object [("not", .object [("required", .array [.string "a"])]),
      ("enum", .array [.object [("required", .null)]])])]),
    ("items", .array [.object [("required", .array [.string "b"])], .bool true]),
    ("additionalProperties", .object [("oneOf", .array [.object [("required", .array [.string "c"]),
      ("const", .object [("properties", .object [("d", .object [("required", .array [])])])])]])])]

/-- A builder of it. -/
def strictSession : Session :=
  (start [] .empty).after [.call (.wrap "s" strictSchema .null)]

/-- What is left of the schema is the property of that name, and the data. -/
def loosenedSchema : Json :=
  .object [("default", .object [("required", .array [])]),
    ("properties", .object [("required", .object [("not", .object []),
      ("enum", .array [.object [("required", .null)]])])]),
    ("items", .array [.object [], .bool true]),
    ("additionalProperties", .object [("oneOf", .array [.object [
      ("const", .object [("properties", .object [("d", .object [("required", .array [])])])])]])])]

/-- One call is enough. -/
theorem strictSchema_loosened :
    strictSession.Played ∧ strictSession.operand? "s" = some (.builder 11) ∧
      strictSession.store.tree? (.node 11) = some strictSchema ∧ Passing strictSchema ∧
      ∃ later, outcome (Session.edit "s" .toDeepOptionals) strictSession =
          (.ok (), { strictSession with store := later }) ∧
        later.tree? (.node 11) = some loosenedSchema ∧
        outcome (Session.edit "s" .toDeepOptionals) { strictSession with store := later } =
          (.ok (), { strictSession with store := later }) := by
  have played : strictSession.Played := .move (.call (.wrap "s" strictSchema .null)) (has_of_nil rfl) (.start [] .empty)
  have bound : strictSession.operand? "s" = some (.builder 11) := rfl
  have read : strictSession.store.tree? (.node 11) = some strictSchema := rfl
  have passing : Passing strictSchema := passing_of_wellFormed (by decide) (by decide)
  obtain ⟨later, ran, loose, -, again, -⟩ := played.deepOptionals_exact bound read passing
  exact ⟨played, bound, read, passing, later, ran, loose, again⟩

end Session

end SchemaAlgebra

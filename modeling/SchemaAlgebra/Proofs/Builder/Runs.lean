import SchemaAlgebra.Proofs.Builder.Members

/-!
What successful edits leave. On a schema of which the members and the required names are known, and with texts for
names, an edit that succeeds leaves a store that is written down here in full.
-/

namespace SchemaAlgebra

/-- The texts that an argument lists, if it lists nothing else. -/
def Operand.Lists (operand : Operand) (texts : List String) : Prop :=
  operand.names? = some (texts.map .string)

/-- What is null lists nothing. -/
theorem Operand.Lists.not_isNull {operand : Operand} {texts : List String} (lists : operand.Lists texts) :
    ¬ operand.isNull = true := by
  intro null
  cases operand with
  | value json => cases json <;> simp [isNull, Lists, names?, Json.elements?] at null lists
  | _ => simp [isNull] at null

namespace Builder

variable {store later : Store} {address : Nat} {members : Fields String Slot} {names texts : List String}
  {operand : Operand} {declared : Option Slot}

theorem outcome_names (listed : operand.Lists texts) (store : Store) :
    outcome (Change.names operand) store = (.ok (texts.map .string), store) := by
  rw [Change.names, listed]
  rfl

/-- Setting the properties of a schema to a new object. -/
theorem outcome_put_properties (address : Nat) (members : Fields String Slot) (store : Store) :
    outcome (Change.put address "properties" (.node store.size)) (store.push (Cell.named members)) =
      (.ok (), store.withMembers address members) :=
  rfl

theorem setOptionalNames_ok (describes : store.Describes address members names) (listed : operand.Lists texts)
    (ran : outcome (setOptionalNames address operand) store = (.ok (), later)) :
    later = store.withNames address ((Fields.keys members).filter (· ∉ texts)) := by
  obtain ⟨-, -, ran⟩ := (still_requireSimple address _).bind_eq_ok.mp ran
  obtain ⟨declared, looked, declares⟩ := describes.properties
  rw [outcome_bind_ok (outcome_names listed store), outcome_bind_ok (outcome_mapM_keyOf texts store),
    outcome_bind_ok looked, outcome_bind_ok (outcome_items declares), outcome_bind_ok (outcome_keysOf_string _ store),
    without_text, List.map_map] at ran
  exact (congrArg Prod.snd ran).symm.trans (congrArg Prod.snd (outcome_setRequired_string address _ store))

theorem setRequiredNames_ok (describes : store.Describes address members names) (listed : operand.Lists texts)
    (ran : outcome (setRequiredNames address operand) store = (.ok (), later)) :
    (∀ name ∈ texts, Fields.has members name = true) ∧
      later = store.withNames address (names ++ (texts.filter (· ∉ names)).eraseDups) := by
  obtain ⟨-, -, ran⟩ := (still_requireSimple address _).bind_eq_ok.mp ran
  rw [outcome_bind_ok (outcome_names listed store)] at ran
  obtain ⟨⟨⟩, existing, ran⟩ := (still_requireExisting address _ _).bind_eq_ok.mp ran
  rw [outcome_bind_ok (outcome_required describes), outcome_bind_ok (outcome_addNames_string texts names store),
    outcome_setRequired_string] at ran
  exact ⟨present_of_requireExisting describes existing, (congrArg Prod.snd ran).symm⟩

theorem outcome_requirePicked (declares : store.Declares members declared)
    (present : ∀ name ∈ texts, Fields.has members name = true) :
    outcome (requirePicked address declared (texts.map .string)) store = (.ok (), store) := by
  induction texts with
  | nil => rfl
  | cons name rest ih =>
      obtain ⟨here, others⟩ := List.forall_mem_cons.mp present
      rw [List.map_cons, requirePicked, outcome_bind_ok (outcome_holds declares name), if_pos here]
      exact ih others

/-- Names that are held are not refused as missing. -/
theorem outcome_requireExisting {operation : String} {chosen : List Json} {declared : Option Slot}
    (looked : outcome (properties address) store = (.ok declared, store))
    (held : ∀ name ∈ chosen, outcome (holds declared name) store = (.ok true, store)) :
    outcome (requireExisting address operation chosen) store = (.ok (), store) := by
  induction chosen with
  | nil => rfl
  | cons name rest ih =>
      obtain ⟨here, others⟩ := List.forall_mem_cons.mp held
      rw [requireExisting, outcome_bind_ok looked, outcome_bind_ok here, if_pos rfl]
      exact ih others

/-- Picking names that are there restricts the properties to them, and of what is required keeps the same. -/
theorem outcome_pickNames (describes : store.Describes address members names)
    (present : ∀ name ∈ texts, Fields.has members name = true) :
    outcome (pickNames address (texts.map .string)) store =
      (.ok (), (store.withMembers address (Fields.restrict members texts)).withNames address
        (names.filter (· ∈ texts))) := by
  obtain ⟨declared, looked, declares⟩ := describes.properties
  have none : ∀ entry ∈ ([] : Fields String Slot), Fields.get? members entry.1 = some entry.2 :=
    fun entry member => absurd member List.not_mem_nil
  have selects := outcome_selected declares present none
  simp only [Cell.named_nil, List.nil_append, Fields.keys, List.map_nil, List.not_mem_nil, not_false_eq_true,
    decide_true, List.filter_true] at selects
  have shown := describes.withMembers (Fields.nodup_keys_restrict members texts)
  rw [pickNames, outcome_bind_ok looked, outcome_bind_ok (outcome_requirePicked declares present),
    outcome_bind_ok selects, outcome_bind_ok (Change.outcome_push _ _),
    outcome_bind_ok (outcome_put_properties _ _ _), outcome_bind_ok (Change.outcome_cell _ _)]
  split
  · rw [outcome_bind_ok (outcome_required shown), outcome_bind_ok (outcome_among_string names texts _),
      outcome_setRequired_string]
  · next missing =>
      rw [Fields.has, Bool.not_eq_true, Option.isSome_eq_false_iff, Option.isNone_iff_eq_none] at missing
      have nameless : names = [] := by
        rcases shown.required with ⟨-, nameless⟩ | found
        · exact nameless
        · exact absurd (found.symm.trans missing) (by simp)
      subst nameless
      rw [List.filter_nil, Store.withNames_nil shown.inside missing]
      rfl

theorem pickNames_ok (describes : store.Describes address members names)
    (ran : outcome (pickNames address (texts.map .string)) store = (.ok (), later)) :
    (∀ name ∈ texts, Fields.has members name = true) ∧
      later = (store.withMembers address (Fields.restrict members texts)).withNames address
        (names.filter (· ∈ texts)) := by
  obtain ⟨declared, looked, declares⟩ := describes.properties
  have picks := ran
  rw [pickNames, outcome_bind_ok looked] at picks
  obtain ⟨⟨⟩, picked, -⟩ := (still_requirePicked address declared _).bind_eq_ok.mp picks
  have present := present_of_requirePicked declares picked
  exact ⟨present, (congrArg Prod.snd ((outcome_pickNames describes present).symm.trans ran)).symm⟩

theorem pickListed_ok (describes : store.Describes address members names) (listed : operand.Lists texts)
    (ran : outcome (pickListed address operand) store = (.ok (), later)) :
    (∀ name ∈ texts, Fields.has members name = true) ∧
      later = (store.withMembers address (Fields.restrict members texts)).withNames address
        (names.filter (· ∈ texts)) := by
  obtain ⟨-, -, ran⟩ := (still_requirePickable address).bind_eq_ok.mp ran
  rw [outcome_bind_ok (outcome_names listed store)] at ran
  exact pickNames_ok describes ran

theorem pick_ok (describes : store.Describes address members names)
    (ran : outcome (pick address (texts.map .string)) store = (.ok (), later)) :
    (∀ name ∈ texts, Fields.has members name = true) ∧
      later = (store.withMembers address (Fields.restrict members texts)).withNames address
        (names.filter (· ∈ texts)) := by
  obtain ⟨-, -, ran⟩ := (still_requirePickable address).bind_eq_ok.mp ran
  exact pickNames_ok describes ran

theorem outcome_requirePickable (pickable : Shape.isSimpleObjectSchema (Cell.face (store.cell address)) = true) :
    outcome (requirePickable address) store = (.ok (), store) := by
  simp only [Shape.isSimpleObjectSchema, Bool.and_eq_true, Bool.not_eq_true'] at pickable
  rw [requirePickable, outcome_bind_ok (outcome_shape address store), pickable.1.1, pickable.2]
  rfl

theorem outcome_requireSimple (simple : Shape.isSimpleObjectSchema (Cell.face (store.cell address)) = true)
    (operation : String) : outcome (requireSimple address operation) store = (.ok (), store) := by
  rw [requireSimple, outcome_bind_ok (outcome_shape address store), simple]
  rfl

theorem simple_of_requireSimple {operation : String} {last : Store}
    (asked : outcome (requireSimple address operation) store = (.ok (), last)) :
    Shape.isSimpleObjectSchema (Cell.face (store.cell address)) = true := by
  rw [requireSimple, outcome_bind_ok (outcome_shape address store)] at asked
  by_contra other
  rw [if_neg other] at asked
  cases asked

/-- Of a simple object schema names that are there can be picked. -/
theorem outcome_pickListed (describes : store.Describes address members names)
    (simple : Shape.isSimpleObjectSchema (Cell.face (store.cell address)) = true) (listed : operand.Lists texts)
    (present : ∀ name ∈ texts, Fields.has members name = true) :
    outcome (pickListed address operand) store =
      (.ok (), (store.withMembers address (Fields.restrict members texts)).withNames address
        (names.filter (· ∈ texts))) := by
  rw [pickListed, outcome_bind_ok (outcome_requirePickable simple), outcome_bind_ok (outcome_names listed store)]
  exact outcome_pickNames describes present

/-- Of a simple object schema any names can be omitted. -/
theorem outcome_omitNames (describes : store.Describes address members names)
    (simple : Shape.isSimpleObjectSchema (Cell.face (store.cell address)) = true) (listed : operand.Lists texts) :
    outcome (omitNames address operand) store =
      (.ok (), (store.withMembers address (Fields.restrict members ((Fields.keys members).filter (· ∉ texts)))).withNames
        address (names.filter (· ∈ (Fields.keys members).filter (· ∉ texts)))) := by
  obtain ⟨declared, looked, declares⟩ := describes.properties
  have present : ∀ name ∈ (Fields.keys members).filter (· ∉ texts), Fields.has members name = true :=
    fun name kept => (Fields.has_iff_mem_keys members name).mpr (List.mem_filter.mp kept).1
  rw [omitNames, outcome_bind_ok (outcome_requireSimple simple _), outcome_bind_ok (outcome_names listed store),
    outcome_bind_ok (outcome_mapM_keyOf texts store), outcome_bind_ok looked,
    outcome_bind_ok (outcome_items declares), outcome_bind_ok (outcome_keysOf_string _ store), without_text,
    List.map_map, pick, outcome_bind_ok (outcome_requirePickable simple)]
  exact outcome_pickNames describes present

theorem omitNames_ok (describes : store.Describes address members names) (listed : operand.Lists texts)
    (ran : outcome (omitNames address operand) store = (.ok (), later)) :
    later = (store.withMembers address (Fields.restrict members ((Fields.keys members).filter (· ∉ texts)))).withNames
      address (names.filter (· ∈ (Fields.keys members).filter (· ∉ texts))) := by
  obtain ⟨⟨⟩, asked, -⟩ := (still_requireSimple address _).bind_eq_ok.mp ran
  exact (congrArg Prod.snd ((outcome_omitNames describes (simple_of_requireSimple asked) listed).symm.trans ran)).symm

theorem refuseTaken_fails (address : Nat) (name : Json) (store last : Store) :
    outcome (refuseTaken address name) store ≠ (.ok (), last) := by
  intro ran
  obtain ⟨shown, -, ran⟩ := (Change.looks_shown name).same.bind_eq_ok.mp ran
  obtain ⟨owner, -, ran⟩ := (Change.looks_owner address).same.bind_eq_ok.mp ran
  simp at ran

/-- Of a simple object schema a name that is there can be renamed to one that is not; the new name takes its place. -/
theorem outcome_rename {isRequired : Bool} {name new : String} (describes : store.Describes address members names)
    (simple : Shape.isSimpleObjectSchema (Cell.face (store.cell address)) = true) (held : Fields.has members name = true)
    (free : Fields.has members new = false) :
    outcome (rename address isRequired (.string name) (.string new)) store =
      (.ok (), (store.withMembers address (Fields.relabel members name new)).withNames address
        (names.filter (· ≠ name) ++ if isRequired then [new] else [])) := by
  obtain ⟨declared, looked, declares⟩ := describes.properties
  rw [rename, outcome_bind_ok (outcome_requireSimple simple _), outcome_bind_ok looked,
    outcome_bind_ok (outcome_holds declares new)]
  simp only [free, Bool.false_eq_true, if_false]
  rw [outcome_bind_ok (outcome_holds declares name)]
  simp only [held, if_true]
  cases declares with
  | absent empty => simp [empty, Fields.has] at held
  | @node place cell =>
      have distinct : (Fields.keys (Fields.relabel members name new)).Nodup :=
        Fields.nodup_keys_relabel describes.distinct free
      have shown := describes.withMembers distinct
      rw [membersAt, outcome_bind_ok (outcome_pure (some place) store)]
      simp only
      rw [outcome_bind_ok (Change.outcome_cell place store), cell,
        outcome_bind_ok (outcome_keyOf_string name store), outcome_bind_ok (outcome_keyOf_string new store),
        Cell.spelled_named, Cell.relabel_named, outcome_bind_ok (Change.outcome_push _ _),
        outcome_bind_ok (outcome_put_properties _ _ _), outcome_bind_ok (outcome_required shown),
        outcome_bind_ok (outcome_others_string names name _)]
      cases isRequired with
      | true =>
          simp only [if_true]
          rw [outcome_bind_ok (outcome_place_string new _), ← List.map_singleton, ← List.map_append,
            outcome_setRequired_string]
      | false =>
          simp only [Bool.false_eq_true, if_false]
          rw [outcome_setRequired_string, List.append_nil]

/-- A successful renaming of a name that is not there changes nothing; that of a name that is gives its place to
the new name. -/
theorem rename_ok {isRequired : Bool} {name new : String} (describes : store.Describes address members names)
    (ran : outcome (rename address isRequired (.string name) (.string new)) store = (.ok (), later)) :
    Fields.has members new = false ∧
      (Fields.has members name = false ∧ later = store ∨
        Fields.has members name = true ∧
          later = (store.withMembers address (Fields.relabel members name new)).withNames address
            (names.filter (· ≠ name) ++ if isRequired then [new] else [])) := by
  have renames := ran
  obtain ⟨⟨⟩, asked, ran⟩ := (still_requireSimple address _).bind_eq_ok.mp ran
  obtain ⟨declared, looked, declares⟩ := describes.properties
  rw [outcome_bind_ok looked, outcome_bind_ok (outcome_holds declares new)] at ran
  cases taken : Fields.has members new with
  | true =>
      simp only [taken, if_true] at ran
      obtain ⟨⟨⟩, refused, -⟩ := (still_refuseTaken address _).bind_eq_ok.mp ran
      exact absurd refused (refuseTaken_fails address _ store store)
  | false =>
      refine ⟨rfl, ?_⟩
      simp only [taken, Bool.false_eq_true, if_false] at ran
      rw [outcome_bind_ok (outcome_holds declares name)] at ran
      cases held : Fields.has members name with
      | false =>
          simp only [held, Bool.false_eq_true, if_false, outcome_pure] at ran
          exact .inl ⟨rfl, (congrArg Prod.snd ran).symm⟩
      | true =>
          rw [outcome_rename describes (simple_of_requireSimple asked) held taken] at renames
          exact .inr ⟨rfl, (congrArg Prod.snd renames).symm⟩

theorem nodeOf_ok {operation : String} {root : Nat}
    (ran : outcome (Change.nodeOf operation operand) store = (.ok root, store)) : operand = .builder root := by
  cases operand with
  | builder address => exact congrArg Operand.builder (Except.ok.inj (congrArg Prod.fst ran))
  | _ => simp [Change.nodeOf] at ran

/-- A name that is added is new, and its schema is that of a builder. -/
theorem insertProperty_ok {name : String} (describes : store.Describes address members names)
    (ran : outcome (insertProperty address (.string name) operand) store = (.ok (), later)) :
    Fields.has members name = false ∧ ∃ root place owning, operand = .builder root ∧
      Owns store owning address place members names ∧ later = owning.withMember place name (.node root) := by
  rw [insertProperty, outcome_bind_ok (outcome_shape address store)] at ran
  dsimp only at ran
  split at ran
  · simp [outcome_bind] at ran
  · obtain ⟨declared, looked, declares⟩ := describes.properties
    rw [outcome_bind_ok looked, outcome_bind_ok (outcome_holds declares name)] at ran
    split at ran
    · obtain ⟨⟨⟩, refused, -⟩ := (still_refuseTaken address _).bind_eq_ok.mp ran
      exact absurd refused (refuseTaken_fails address _ store store)
    · next free =>
        obtain ⟨root, node, ran⟩ := (Change.still_nodeOf _ operand).bind_eq_ok.mp ran
        obtain ⟨place, owning, own, owns⟩ := outcome_ownProperties describes
        rw [outcome_bind_ok own, outcome_assign owns.found] at ran
        exact ⟨by simpa using free, root, place, owning, nodeOf_ok node, owns, (congrArg Prod.snd ran).symm⟩

theorem addProperty_ok {isRequired : Bool} {name : String} (describes : store.Describes address members names)
    (ran : outcome (addProperty address isRequired (.string name) operand) store = (.ok (), later)) :
    Fields.has members name = false ∧ ∃ root place owning, operand = .builder root ∧
      Owns store owning address place members names ∧
      later = if isRequired then (owning.withMember place name (.node root)).withNames address (names ++ [name])
        else owning.withMember place name (.node root) := by
  obtain ⟨⟨⟩, added, inserted, ran⟩ := outcome_bind_eq_ok.mp ran
  obtain ⟨free, root, place, owning, builder, owns, rfl⟩ := insertProperty_ok describes inserted
  refine ⟨free, root, place, owning, builder, owns, ?_⟩
  cases isRequired with
  | false => exact (congrArg Prod.snd ran).symm
  | true =>
      have shown := owns.describes.withMember owns.found name (.node root)
      simp only [if_true] at ran
      rw [outcome_bind_ok (outcome_required shown), outcome_bind_ok (outcome_place_string name _),
        ← List.map_singleton, ← List.map_append, outcome_setRequired_string] at ran
      exact (congrArg Prod.snd ran).symm

end Builder

end SchemaAlgebra

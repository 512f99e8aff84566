import SchemaAlgebra.Proofs.Validation.Subschema
import SchemaAlgebra.Schema.Metaschema

/-!
What a value that passes the metaschema is known to be. A finding is fine exactly if the findings that it
is put together from are, so each keyword keeps its rule, and the schemas that it holds pass in their turn.
-/

namespace SchemaAlgebra.Metaschema

theorem andThen_eq_fine {depth : Depth} {first : Finding} {next : Unit → Finding} :
    depth.andThen first next = fine ↔ first = fine ∧ next () = fine := by
  unfold Depth.andThen
  split
  · simp [fine]
  · simp [fine]
  · cases depth <;> simp only [fine, complain]
    · simp
    · split <;> simp

theorem onlyIf_eq_fine {finding : Finding} {value : Json} :
    onlyIf finding value = fine ↔ finding = fine := by
  unfold onlyIf
  split <;> simp [fine, complain]

theorem foldr_eq_fine {α : Type} {depth : Depth} {found : α → Finding} {entries : List α} :
    entries.foldr (fun entry next => depth.andThen (found entry) fun _ => next) fine = fine ↔
      ∀ entry ∈ entries, found entry = fine := by
  induction entries with
  | nil => simp
  | cons entry rest ih => rw [List.foldr_cons, andThen_eq_fine, ih, List.forall_mem_cons]

theorem fieldFinding_of_get? {depth : Depth} {rule : Rule} {keyword : String}
    {fields : List (Key × Json)} {argument : Json}
    (found : Fields.get? fields (.text keyword) = some argument) :
    fieldFinding depth rule keyword fields = finding depth rule argument := by
  induction fields with
  | nil => simp at found
  | cons entry rest ih =>
      obtain ⟨key, value⟩ := entry
      rw [Fields.get?_cons] at found
      rw [fieldFinding]
      by_cases same : key = .text keyword
      · rw [if_pos same] at found ⊢
        rw [Option.some.inj found]
      · rw [if_neg same] at found ⊢
        exact ih found

theorem membersFinding_eq_fine {depth : Depth} {rule : Rule} {fields : List (Key × Json)} :
    membersFinding depth rule fields = fine ↔ ∀ member ∈ fields, finding depth rule member.2 = fine := by
  induction fields with
  | nil => simp [membersFinding]
  | cons entry rest ih => rw [membersFinding, andThen_eq_fine, ih, List.forall_mem_cons]

theorem itemsFinding_eq_fine {depth : Depth} {items : List Json} :
    itemsFinding depth items = fine ↔ ∀ item ∈ items, finding depth .schema item = fine := by
  induction items with
  | nil => simp [itemsFinding]
  | cons item rest ih => rw [itemsFinding, andThen_eq_fine, ih, List.forall_mem_cons]

theorem textsComplaint?_eq_none {items : List Json} (quiet : textsComplaint? items = none) :
    ∃ names : List String, items = names.map .string := by
  have texts : ∀ item ∈ items, item.isString = true := by
    unfold textsComplaint? nonText? at quiet
    cases sought : items.find? fun item => !item.isString with
    | none => simpa using List.find?_eq_none.mp sought
    | some item => simp [sought] at quiet
  clear quiet
  induction items with
  | nil => exact ⟨[], rfl⟩
  | cons item rest ih =>
      obtain ⟨names, rfl⟩ := ih fun other member => texts other (List.mem_cons_of_mem item member)
      have isString := texts item List.mem_cons_self
      cases item <;> simp only [Json.isString, Bool.false_eq_true] at isString
      next name => exact ⟨name :: names, rfl⟩

/-- Looking at the value as a schema finds nothing. -/
def Passes (schema : Json) : Prop :=
  ∃ depth, finding depth .schema schema = fine

theorem passes_of_isSchema {schema : Json} (checked : isSchema schema = true) : Passes schema := by
  refine ⟨.toFirst, ?_⟩
  unfold isSchema at checked
  split at checked
  · next found => exact found
  · cases checked

namespace Passes

variable {fields : List (Key × Json)} {argument : Json}

theorem keeps (passes : Passes (.object fields)) {keyword : String} (rule : Rule)
    (ruled : (keyword, rule) ∈ rules) (found : Fields.get? fields (.text keyword) = some argument) :
    ∃ depth, finding depth rule argument = fine := by
  obtain ⟨depth, fines⟩ := passes
  rw [finding, foldr_eq_fine] at fines
  have kept := fines (keyword, rule) ruled
  rw [fieldFinding_of_get? found] at kept
  exact ⟨depth, kept⟩

theorem properties (passes : Passes (.object fields))
    (found : Fields.get? fields "properties" = some argument) :
    argument.isObject = true ∧ ∀ member ∈ argument.members, Passes member.2 := by
  obtain ⟨depth, kept⟩ := passes.keeps .schemaMap (by decide) found
  cases argument with
  | object members =>
      rw [finding, membersFinding_eq_fine] at kept
      exact ⟨rfl, fun member present => ⟨depth, kept member present⟩⟩
  | _ => simp [finding, complain, fine] at kept

theorem required (passes : Passes (.object fields))
    (found : Fields.get? fields "required" = some argument) :
    ∃ names : List String, argument = .array (names.map .string) := by
  obtain ⟨depth, kept⟩ := passes.keeps .texts (by decide) found
  cases argument with
  | array items =>
      simp only [finding, flatFinding, fine, Except.ok.injEq] at kept
      obtain ⟨names, rfl⟩ := textsComplaint?_eq_none kept
      exact ⟨names, rfl⟩
  | _ => simp [finding, flatFinding, complain, fine] at kept

theorem items (passes : Passes (.object fields)) (found : Fields.get? fields "items" = some argument)
    (notArray : argument.isArray = false) : Passes argument := by
  obtain ⟨depth, kept⟩ := passes.keeps .schemaOrSchemas (by decide) found
  cases argument with
  | object members =>
      rw [finding, onlyIf_eq_fine] at kept
      exact ⟨.toEnd, by rw [finding, kept]⟩
  | bool b => exact ⟨depth, rfl⟩
  | array _ => simp [Json.isArray] at notArray
  | _ => simp [finding, complain, fine] at kept

theorem additional (passes : Passes (.object fields))
    (found : Fields.get? fields "additionalProperties" = some argument) : Passes argument :=
  passes.keeps .schema (by decide) found

end Passes

end SchemaAlgebra.Metaschema

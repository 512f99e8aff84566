import SchemaAlgebra.Proofs.Validation.Following
import SchemaAlgebra.Proofs.Validation.Separation

/-!
The keywords of a schema object are local: each looks at what the table says it reads and edits what the table says
it edits. Those that apply schemas to children are rows of steps on different children; those that normalize
nothing say the same in both orders of keys.
-/

namespace SchemaAlgebra

open Outcome Evaluation Schema
open Json (Reordered SameShape IsExact child?)

variable {options : Options} {fields others : List (Key × Json)} {extent extent' : Extent}

namespace Schema

theorem Quiet.still {schema : Json} (formed : schema.wellFormed = true) (closed : Reference.count "$ref" schema = 0)
    (quiet : Quiet options schema) : (alone schema).Still options where
  coerce coerces := quiet.coerce coerces schema (Json.reordered_refl formed)
  enter extent value last entered := by
    rw [alone_enter closed] at entered
    obtain ⟨_, -, ran⟩ := given_eq_accept.mp entered
    have kept := (alone_keeps schema extent value).1
    rw [← quiet.inert schema (Json.reordered_refl formed) extent value, ran] at kept
    exact kept

theorem Claims.held {keyword : String} {step : Step} {schema : Json} (claims : Claims fields keyword step schema) :
    keyword ∈ carryingKeywords ∧
      ∃ argument, Fields.get? fields (.text keyword) = some argument ∧ schema ∈ heldBy keyword argument := by
  cases claims with
  | declared listed =>
      unfold Schema.declared at listed
      split at listed
      · next argument found => exact ⟨by decide, argument, found, List.mem_map_of_mem listed⟩
      · cases listed
  | found listed _ =>
      unfold Schema.patterned at listed
      split at listed
      · next argument found => exact ⟨by decide, argument, found, List.mem_map_of_mem listed⟩
      · cases listed
  | undeclared found _ => exact ⟨by decide, schema, found, List.mem_singleton_self _⟩
  | @item argument _ i found there =>
      refine ⟨by decide, argument, found, ?_⟩
      cases argument with
      | array schemas => exact List.mem_of_getElem? there
      | _ => 
          obtain rfl := Option.some.inj there
          exact List.mem_singleton_self _
  | further _ _ there => exact ⟨by decide, schema, there, List.mem_singleton_self _⟩

/-- A keyword that changes nothing is local if it never contradicts itself about values that are alike in what it
looks at. -/
theorem local_of_kept {keyword : String} {step step' : Json → Outcome} (keeps : ∀ value, (step value).value = value)
    (keeps' : ∀ value, (step' value).value = value)
    (compatible : ∀ value value', Resembles (Reads fields keyword) child? child? value value' →
      Compatible (step value).answer (step' value').answer) :
    Local child? child? (Reads fields keyword) (Edits options fields keyword) step step' :=
  (Local.of_kept keeps keeps' compatible).widen (fun _ reads => reads) (fun _ none => none.elim) fun _ => Edits.reads

/-- The schemas that a keyword claims for one step in two orders of keys do the same. -/
def FollowBelow (options : Options) (fields others : List (Key × Json)) : Prop :=
  ∀ keyword argument argument', Fields.get? fields (.text keyword) = some argument →
    Fields.get? others (.text keyword) = some argument' → keyword ∈ carryingKeywords →
      ∀ schema ∈ heldBy keyword argument, ∀ schema' ∈ heldBy keyword argument', Reordered schema schema' →
        (alone schema).Follows options (alone schema')

end Schema

section

variable (rearranged : Rearranged (.object fields) (.object others)) (below : FollowBelow options fields others)

include rearranged below

/-- The schemas of a claim in the two orders do the same, and they leave every value unless the claim edits. -/
theorem claimed_follows {keyword : String} {step : Step} {schema schema' : Json}
    (claims : Claims fields keyword step schema)
    (claims' : Claims others keyword step schema') (related : Reordered schema schema') :
    (alone schema).Follows options (alone schema') ∧ (¬ Edits options fields keyword (.child step) →
      (alone schema).Still options ∧ (alone schema').Still options) := by
  obtain ⟨carries, argument, found, held⟩ := claims.held
  obtain ⟨-, argument', found', held'⟩ := claims'.held
  have inner := rearranged.held found found' held held' related
  refine ⟨below keyword argument argument' found found' carries schema held schema' held' related, fun still => ?_⟩
  have quiet : Quiet options schema := Classical.byContradiction fun loud => still (.child claims loud)
  exact ⟨quiet.still related.formed inner.closed, (quiet.reordered related).still related.formed' inner.closed'⟩

/-- Converting and evaluating what a keyword claims is local. -/
theorem claimed_local {keyword : String} {steps steps' : List Step} (permuted : steps.Perm steps')
    (distinct : steps.Nodup) (exactly : ∀ step ∈ steps, IsExact step) {schema schema' : Step → Json}
    (claims : ∀ step ∈ steps, Claims fields keyword step (schema step))
    (claims' : ∀ step ∈ steps, Claims others keyword step (schema' step))
    (related : ∀ step ∈ steps, Reordered (schema step) (schema' step)) :
    Local child? child? (Reads fields keyword) (Edits options fields keyword)
      (chain extent (editing options extent (steps.map fun step => (step, alone (schema step)))))
      (chain extent' (editing options extent' (steps'.map fun step => (step, alone (schema' step))))) := by
  have each := fun step listed =>
    claimed_follows rearranged below (claims step listed) (claims' step listed) (related step listed)
  refine (editing_local extent extent' id (fun step => Edits options fields keyword (.child step)) permuted distinct
    (fun _ _ _ _ same => same) exactly (fun step listed => (each step listed).1)
    (fun step listed => (each step listed).2)).widen ?_ ?_ fun _ => Edits.reads
  · rintro aspect ⟨step, listed, rfl⟩
    exact .claim (claims step listed)
  · rintro aspect ⟨step, -, rfl, edits⟩
    exact edits

end

/-- The schema that a step leads to among named ones. -/
def Schema.namedAt (members : List (Key × Json)) : Step → Json
  | .member name => (Fields.get? members name).getD .null
  | .index _ => .null

theorem memberEntries_eq {members : List (Key × Json)} (distinct : (Fields.keys members).Nodup) :
    memberEntries noReference "" members =
      ((Fields.keys members).map Step.member).map fun step => (step, alone (namedAt members step)) := by
  rw [memberEntries, Fields.keys, List.map_map, List.map_map]
  refine List.map_congr_left fun member listed => ?_
  simp only [Function.comp_apply, namedAt, Fields.get?_of_mem distinct listed, Option.getD_some, alone]

section

variable (rearranged : Rearranged (.object fields) (.object others)) (below : FollowBelow options fields others)

include rearranged below

theorem properties_local :
    Local child? child? (Reads fields "properties") (Edits options fields "properties")
      (chain extent (editing options extent (memberEntries noReference "" (declared fields))))
      (chain extent' (editing options extent' (memberEntries noReference "" (declared others)))) := by
  have names := names_of_passes rearranged.reordered.formed rearranged.passes
  have related := declared_reordered rearranged.reordered names
  obtain ⟨textual, distinct, -⟩ := (Json.wellFormed_object _).mp related.formed
  have distinct' := ((Json.wellFormed_object _).mp related.formed').2.1
  rw [memberEntries_eq distinct, memberEntries_eq distinct']
  have each : ∀ step ∈ (Fields.keys (declared fields)).map Step.member, ∃ name schema schema',
    step = .member (.text name) ∧
      (.text name, schema) ∈ declared fields ∧ (.text name, schema') ∈ declared others ∧ Reordered schema schema' ∧
        namedAt (declared fields) step = schema ∧ namedAt (declared others) step = schema' := by
    intro step listed
    obtain ⟨key, named, rfl⟩ := List.mem_map.mp listed
    obtain ⟨⟨_, schema⟩, present, rfl⟩ := List.mem_map.mp named
    obtain ⟨⟨_, schema'⟩, present', rfl, same⟩ := related.members.there _ present
    obtain ⟨name, rfl⟩ := textual _ present
    refine ⟨name, schema, schema', rfl, present, present', same, ?_, ?_⟩
    · simp only [namedAt, Fields.get?_of_mem distinct present, Option.getD_some]
    · simp only [namedAt, Fields.get?_of_mem distinct' present', Option.getD_some]
  refine claimed_local rearranged below (related.keys.map _) (distinct.map fun _ _ => Step.member.inj) ?_ ?_ ?_ ?_
  · intro step listed
    obtain ⟨name, _, _, rfl, -⟩ := each step listed
    exact .text name
  · intro step listed
    obtain ⟨name, schema, _, rfl, present, -, -, same, -⟩ := each step listed
    exact same ▸ .declared present
  · intro step listed
    obtain ⟨name, _, schema', rfl, -, present', -, -, same⟩ := each step listed
    exact same ▸ .declared present'
  · intro step listed
    obtain ⟨name, schema, schema', rfl, -, -, related, same, same'⟩ := each step listed
    rwa [same, same']

end

/-- How many of so many items `items` has schemas for. -/
def Schema.itemsClaimed (argument : Json) (count : Nat) : Nat :=
  match argument with
  | .array schemas => min count schemas.length
  | _ => count

/-- The schema that a step leads to among those of items. -/
def Schema.itemAt (argument : Json) : Step → Json
  | .index i => (itemSchema? argument i).getD .null
  | .member _ => .null

theorem Structure.atIndices_eq (start : Nat) (schemas : List Json) :
    atIndices start (schemas.map alone) =
      (List.range schemas.length).map fun i => (start + i, alone (schemas.getD i .null)) := by
  induction schemas generalizing start with
  | nil => rfl
  | cons schema rest ih =>
      rw [List.map_cons, atIndices, ih, List.length_cons, List.range_succ_eq_map, List.map_cons, List.map_map]
      refine congrArg _ (List.map_congr_left fun i _ => ?_)
      simp only [Function.comp_apply, Nat.succ_eq_add_one, List.getD_cons_succ, Prod.mk.injEq, and_true]
      omega

theorem itemEntries_eq (argument : Json) (count : Nat) :
    ((Structure.itemParts (argumentWith noReference "" argument) count).map fun entry =>
      (Step.index entry.1, entry.2)) =
      ((List.range (itemsClaimed argument count)).map Step.index).map fun step =>
      (step, alone (itemAt argument step)) := by
  unfold Structure.itemParts
  simp only [argumentWith_self, partWith_schema]
  split
  · next isArray =>
      cases argument with
      | array schemas =>
          have parts : (argumentWith noReference "" (.array schemas)).items = schemas.map alone := by
            simp only [argumentWith, itemsOf, partsWith_eq_map]
            rfl
          rw [parts, ← List.map_take, Structure.atIndices_eq, List.length_take, List.map_map, List.map_map]
          refine List.map_congr_left fun i listed => ?_
          have bound := List.mem_range.mp listed
          simp only [Function.comp_apply, Nat.zero_add, itemAt, itemSchema?, Prod.mk.injEq, true_and]
          rw [List.getD_eq_getElem?_getD, List.getElem?_take_of_lt (by omega)]
      | _ => cases isArray
  · next noArray =>
      rw [Structure.atIndices_replicate, ← List.range_eq_range', List.map_map, List.map_map]
      cases argument with
      | array => exact absurd rfl noArray
      | _ => rfl

theorem items_eq_editing (argument value : Json) :
    Structure.items (argumentWith noReference "" argument) options extent value =
      chain extent (editing options extent (((List.range (itemsClaimed argument (Structure.itemCount value))).map
        Step.index).map fun step => (step, alone (itemAt argument step)))) value := by
  rw [← itemEntries_eq, editing, List.map_map, List.map_map]
  rfl

theorem itemCount_sameShape {value value' : Json} (shape : SameShape value value') :
    Structure.itemCount value' = Structure.itemCount value := by
  cases shape with
  | same => rfl
  | object => rfl
  | array lengths => exact lengths.symm

theorem itemsClaimed_reordered {argument argument' : Json} (related : Reordered argument argument') (count : Nat) :
    itemsClaimed argument' count = itemsClaimed argument count := by
  cases related with
  | scalar => rfl
  | object => rfl
  | array lengths => exact congrArg (min count) lengths.symm

theorem itemSchema?_of_lt {argument : Json} {i count : Nat} (bound : i < itemsClaimed argument count) :
    itemSchema? argument i = some (itemAt argument (.index i)) := by
  cases argument with
  | array schemas =>
      have inside : i < schemas.length := by
        simp only [itemsClaimed] at bound
        omega
      simp only [itemAt, itemSchema?, List.getElem?_eq_getElem inside, Option.getD_some]
  | _ => rfl

section

variable (rearranged : Rearranged (.object fields) (.object others)) (below : FollowBelow options fields others)

include rearranged below

theorem items_local {argument argument' : Json} (found : Fields.get? fields "items" = some argument)
    (found' : Fields.get? others "items" = some argument') (argued : Reordered argument argument') :
    Local child? child? (Reads fields "items") (Edits options fields "items")
      (Structure.items (argumentWith noReference "" argument) options extent)
      (Structure.items (argumentWith noReference "" argument') options extent') := by
  have counted := fun (argument : Json) (extent : Extent) =>
    show Structure.items (argumentWith noReference "" argument) options extent =
      fun value => given (.ok (Structure.itemCount value)) value fun count =>
        chain extent (editing options extent (((List.range (itemsClaimed argument count)).map Step.index).map
          fun step =>
          (step, alone (itemAt argument step)))) value from funext fun value => items_eq_editing argument value
  rw [counted, counted]
  refine Local.given (fun _ => True) (fun a b => b = a) (fun _ => Edits.reads)
    (fun _ => rfl) ?_ (fun _ _ _ _ => trivial) (fun _ _ _ _ => trivial) ?_
  · rintro count _ - - rfl
    rw [itemsClaimed_reordered argued]
    refine claimed_local rearranged below (.refl _) (List.nodup_range.map fun _ _ => Step.index.inj) ?_ ?_ ?_ ?_
    · intro step listed
      obtain ⟨i, -, rfl⟩ := List.mem_map.mp listed
      exact .index i
    · intro step listed
      obtain ⟨i, inside, rfl⟩ := List.mem_map.mp listed
      exact .item found (itemSchema?_of_lt (List.mem_range.mp inside))
    · intro step listed
      obtain ⟨i, inside, rfl⟩ := List.mem_map.mp listed
      rw [← itemsClaimed_reordered argued] at inside
      exact .item found' (itemSchema?_of_lt (List.mem_range.mp inside))
    · intro step listed
      obtain ⟨i, inside, rfl⟩ := List.mem_map.mp listed
      have same := itemSchema?_reordered argued i
      rw [itemSchema?_of_lt (List.mem_range.mp inside)] at same
      rw [← itemsClaimed_reordered argued] at inside
      rw [itemSchema?_of_lt (List.mem_range.mp inside)] at same
      cases same
      assumption
  · intro value value' count count' resembles here here'
    rw [← Except.ok.inj here, ← Except.ok.inj here', itemCount_sameShape resembles.shape]

end

theorem mem_namesOf_resembles {keyword name : String} {value value' : Json}
    (resembles : Resembles (Reads fields keyword) child? child? value value')
    (reads : Reads fields keyword (.presence (.member (.text name)))) :
    .text name ∈ namesOf value' ↔ .text name ∈ namesOf value := by
  rw [Json.text_mem_namesOf, Json.text_mem_namesOf]
  have alike := resembles.alike (.presence (.member (.text name))) (.text name) reads
  simp only [Aspect.Alike] at alike
  rw [alike]

theorem perm_of_mem_iff {names names' : List Key} (distinct : names.Nodup) (distinct' : names'.Nodup)
    (same : ∀ key, key ∈ names ↔ key ∈ names') : names.Perm names' :=
  (List.perm_ext_iff_of_nodup distinct distinct').mpr same

/-- The undeclared names of a value, none if it is no object. -/
def Schema.undeclaredIn (fields : List (Key × Json)) (value : Json) : Except Fault (List Key) :=
  if value.isObject then undeclaredNames (nodeWith noReference "" fields) value else .ok []

namespace Structure

/-- What is done about undeclared names. -/
def treatUndeclared (node : Node) (part : Part) (options : Options) (extent : Extent) (names : List Key)
    (value : Json) :
    Outcome :=
  if part.schema.isObject then chain extent (editing options extent
    ((names.map .member).map fun step => (step, part))) value
  else if options.removeAdditional && Shape.isFalse part.schema then .accept (removeNames value names)
  else if names.isEmpty || part.schema.isTruthy then .accept value
  else
    given (undeclaredMessage node names) value fun message =>
      .reject value "additionalProperties" (names.map Key.toJson) message

theorem additionalProperties_eq_given (part : Part) :
    additionalProperties (nodeWith noReference "" fields) part options extent = fun value =>
      given (undeclaredIn fields value) value
        (treatUndeclared (nodeWith noReference "" fields) part options extent · value) := by
  funext value
  unfold additionalProperties undeclaredIn treatUndeclared
  split
  · simp only [editing, List.map_map]
    rfl
  · next noObject =>
      have removed : removeNames value [] = value := by
        cases value with
        | object => exact absurd rfl noObject
        | _ => rfl
      simp [given, editing, removed]

end Structure

/-- The only aspects of a value that `additionalProperties` looks at are those of undeclared properties. -/
theorem Schema.Reads.undeclared {keyword : String} {aspect : Aspect} (reads : Reads fields keyword aspect)
    (isKeyword : keyword = "additionalProperties") :
    ∃ name, aspect.step = .member (.text name) ∧ Undeclared fields name := by
  cases reads with
  | claim claims =>
      generalize aspect.step = step at claims
      cases claims with
      | undeclared _ free => exact ⟨_, rfl, free⟩
      | _ => exact absurd isKeyword (by decide)
  | required => exact absurd isKeyword (by decide)
  | names listed =>
      rw [isKeyword] at listed
      exact absurd listed (by decide)
  | whole _ surveys =>
      rcases surveys with listed | ⟨rfl, -⟩
      · rw [isKeyword] at listed
        exact absurd listed (by decide)
      · exact absurd isKeyword (by decide)

section

variable (rearranged : Rearranged (.object fields) (.object others)) {schema schema' : Json}
  (found : Fields.get? fields "additionalProperties" = some schema)
  (found' : Fields.get? others "additionalProperties" = some schema') (related : Reordered schema schema')

theorem mem_undeclaredIn {value : Json} {names : List Key} (named : Names fields) (formed : value.wellFormed = true)
    (undeclared : undeclaredIn fields value = .ok names) :
    names.Nodup ∧ ∀ key, key ∈ names ↔ key ∈ namesOf value ∧ ∃ name, key = .text name ∧ Undeclared fields name := by
  unfold undeclaredIn at undeclared
  split at undeclared
  · exact mem_undeclaredNames named formed undeclared
  · next noObject =>
      obtain rfl := Except.ok.inj undeclared
      refine ⟨.nil, fun key => iff_of_false List.not_mem_nil ?_⟩
      rintro ⟨listed, -⟩
      cases value with
      | object => exact noObject rfl
      | _ => cases listed

include rearranged found found'

theorem undeclared_rearranged (name : String) : Undeclared others name ↔ Undeclared fields name :=
  undeclared_reordered rearranged.reordered (names_of_passes rearranged.reordered.formed rearranged.passes)
    (rearranged.joins.holds (by rw [Fields.has, found]; rfl))
      (rearranged.joins'.holds (by rw [Fields.has, found']; rfl))

theorem undeclaredIn_perm {value value' : Json}
    (resembles : Resembles (Reads fields "additionalProperties") child? child? value value')
    {names names' : List Key}
    (undeclared : undeclaredIn fields value = .ok names) (undeclared' : undeclaredIn others value' = .ok names') :
    names.Perm names' := by
  have named := names_of_passes rearranged.reordered.formed rearranged.passes
  obtain ⟨distinct, listed⟩ := mem_undeclaredIn named resembles.formed undeclared
  obtain ⟨distinct', listed'⟩ := mem_undeclaredIn
    (named.reordered rearranged.reordered) resembles.formed' undeclared'
  refine perm_of_mem_iff distinct distinct' fun key => ?_
  rw [listed, listed']
  constructor
  · rintro ⟨there, name, rfl, free⟩
    have reads : Reads fields "additionalProperties" (.presence (.member (.text name))) :=
      .claim (.undeclared found free)
    exact ⟨(mem_namesOf_resembles resembles reads).mpr there, name, rfl,
      (undeclared_rearranged rearranged found found' name).mpr free⟩
  · rintro ⟨there, name, rfl, free'⟩
    have free := (undeclared_rearranged rearranged found found' name).mp free'
    have reads : Reads fields "additionalProperties" (.presence (.member (.text name))) :=
      .claim (.undeclared found free)
    exact ⟨(mem_namesOf_resembles resembles reads).mp there, name, rfl, free⟩

omit found found' in
/-- After undeclared properties are removed, none is there. -/
theorem child?_removeNames_undeclared {value : Json} {names : List Key} (formed : value.wellFormed = true)
    (undeclared : undeclaredIn fields value = .ok names) {name : String} (free : Undeclared fields name) :
    (Structure.removeNames value names).child? (.member (.text name)) = none := by
  have named := names_of_passes rearranged.reordered.formed rearranged.passes
  obtain ⟨-, listed⟩ := mem_undeclaredIn named formed undeclared
  rw [Structure.child?_removeNames]
  split
  · rfl
  · next kept =>
      rw [listed] at kept
      by_contra there
      rw [← ne_eq, Option.ne_none_iff_isSome, ← Json.text_mem_namesOf] at there
      exact kept ⟨there, name, rfl, free⟩

omit found found' in
theorem removeNames_changed {value : Json} {names : List Key} {edits : Aspect → Prop}
    (formed : value.wellFormed = true)
    (undeclared : undeclaredIn fields value = .ok names)
    (removes : ∀ name (aspect : Aspect), Undeclared fields name → aspect.step = .member (.text name) →
      edits aspect) :
    Changed edits child? value (Structure.removeNames value names) := by
  have named := names_of_passes rearranged.reordered.formed rearranged.passes
  obtain ⟨-, listed⟩ := mem_undeclaredIn named formed undeclared
  refine ⟨Structure.removeNames_shape, Structure.removeNames_formed formed, fun aspect exactly free => .of_eq ?_⟩
  generalize here : aspect.step = step at exactly
  cases exactly with
  | index i => cases value <;> rfl
  | text name =>
      rw [Structure.child?_removeNames, if_neg]
      intro removed
      obtain ⟨-, _, same, other⟩ := (listed _).mp removed
      obtain rfl := Key.text.inj same
      exact free (removes _ aspect other here)

/-- Where undeclared properties are removed, nothing is left of what is looked at. -/
theorem removal_local (removes : options.removeAdditional = true) (refused : schema = .bool false) :
    Local child? child? (Reads fields "additionalProperties") (Edits options fields "additionalProperties")
      (fun value => given (undeclaredIn fields value) value fun names => accept (Structure.removeNames value names))
      (fun value => given (undeclaredIn others value) value fun names =>
        accept (Structure.removeNames value names)) where
  inside _ := Edits.reads
  frame value last formed ran := by
    obtain ⟨names, undeclared, ran⟩ := given_eq_accept.mp ran
    obtain rfl := accept_inj.mp ran
    exact removeNames_changed rearranged formed undeclared fun name aspect free here =>
      .removal removes (refused ▸ found) free here
  frame' value last formed ran := by
    obtain ⟨names, undeclared, ran⟩ := given_eq_accept.mp ran
    obtain rfl := accept_inj.mp ran
    exact removeNames_changed rearranged.symm formed undeclared fun name aspect free here =>
      .removal removes (refused ▸ found) ((undeclared_rearranged rearranged found found' name).mp free) here
  agrees value value' last resembles ran ended := by
    obtain ⟨names, undeclared, ran⟩ := given_eq_accept.mp ran
    obtain rfl := accept_inj.mp ran
    cases undeclared' : undeclaredIn others value' with
    | error fault =>
        rw [undeclared'] at ended
        cases ended
    | ok names' =>
        refine ⟨_, rfl, fun aspect _ edits => ?_⟩
        obtain ⟨name, here, free⟩ := edits.reads.undeclared rfl
        have gone := child?_removeNames_undeclared rearranged resembles.formed undeclared free
        have gone' := child?_removeNames_undeclared rearranged.symm resembles.formed' undeclared'
          ((undeclared_rearranged rearranged found found' name).mpr free)
        cases aspect with
        | presence step =>
            obtain rfl : step = .member (.text name) := here
            simp only [Aspect.Alike, gone, gone']
        | child step =>
            obtain rfl : step = .member (.text name) := here
            simp only [Aspect.Alike, gone, gone']
            exact .none

include related in
theorem additionalProperties_local (below : FollowBelow options fields others) :
    Local child? child? (Reads fields "additionalProperties") (Edits options fields "additionalProperties")
      (Structure.additionalProperties (nodeWith noReference "" fields) (alone schema) options extent)
      (Structure.additionalProperties (nodeWith noReference "" others) (alone schema') options extent') := by
  have named := names_of_passes rearranged.reordered.formed rearranged.passes
  have self : ∀ schema, (alone schema).schema = schema := fun schema => partWith_schema ..
  rw [Structure.additionalProperties_eq_given, Structure.additionalProperties_eq_given]
  cases isObject : schema.isObject with
  | true =>
      have chains := fun (node : Node) (schema : Json) (extent : Extent) (isObject : schema.isObject = true) =>
        show Structure.treatUndeclared node (alone schema) options extent = fun names => chain extent
          (editing options extent ((names.map .member).map fun step => (step, alone schema))) by
          funext names value
          rw [Structure.treatUndeclared, self, if_pos isObject]
      rw [chains _ _ _ isObject, chains _ _ _ (related.isObject.trans isObject)]
      refine Local.given (fun names => names.Nodup ∧ ∀ key ∈ names, ∃ name, key = .text name ∧
        Undeclared fields name)
        List.Perm (fun _ => Edits.reads) .refl ?_ ?_ ?_ ?_
      · rintro names names' ⟨distinct, free⟩ - permuted
        refine claimed_local rearranged below (permuted.map _) (distinct.map fun _ _ => Step.member.inj) ?_ ?_ ?_ ?_
        · intro step listed
          obtain ⟨key, present, rfl⟩ := List.mem_map.mp listed
          obtain ⟨name, rfl, -⟩ := free key present
          exact .text name
        · intro step listed
          obtain ⟨key, present, rfl⟩ := List.mem_map.mp listed
          obtain ⟨name, rfl, other⟩ := free key present
          exact .undeclared found other
        · intro step listed
          obtain ⟨key, present, rfl⟩ := List.mem_map.mp listed
          obtain ⟨name, rfl, other⟩ := free key present
          exact .undeclared found' ((undeclared_rearranged rearranged found found' name).mpr other)
        · exact fun _ _ => related
      · intro value names formed undeclared
        obtain ⟨distinct, listed⟩ := mem_undeclaredIn named formed undeclared
        exact ⟨distinct, fun key present => ((listed key).mp present).2⟩
      · intro value names formed undeclared
        obtain ⟨distinct, listed⟩ := mem_undeclaredIn (named.reordered rearranged.reordered) formed undeclared
        refine ⟨distinct, fun key present => ?_⟩
        obtain ⟨-, name, rfl, free⟩ := (listed key).mp present
        exact ⟨name, rfl, (undeclared_rearranged rearranged found found' name).mp free⟩
      · exact fun value value' names names' resembles here here' =>
          undeclaredIn_perm rearranged found found' resembles here here'
  | false =>
      have isObject' := related.isObject.trans isObject
      have isFalse : Shape.isFalse schema' = Shape.isFalse schema := by
        cases related <;> rfl
      cases removal : options.removeAdditional && Shape.isFalse schema with
      | true =>
          have rule : ∀ node schema extent, schema.isObject = false →
              (options.removeAdditional && Shape.isFalse schema) = true →
              Structure.treatUndeclared node (alone schema) options extent =
                fun names value => accept (Structure.removeNames value names) := by
            intro node schema extent isObject removal
            funext names value
            simp only [Structure.treatUndeclared, self, isObject, removal, Bool.false_eq_true, if_false, if_true]
          obtain ⟨removes, refused⟩ := Bool.and_eq_true_iff.mp removal
          have refused : schema = .bool false := by
            unfold Shape.isFalse at refused
            split at refused
            · rfl
            · cases refused
          rw [rule _ _ _ isObject removal, rule _ _ _ isObject' (isFalse ▸ removal)]
          exact removal_local rearranged found found' removes refused
      | false =>
          have quiet : ∀ node schema extent names value, schema.isObject = false →
              (options.removeAdditional && Shape.isFalse schema) = false →
              (Structure.treatUndeclared node (alone schema) options extent names value).answer =
                if names.isEmpty || schema.isTruthy then some true else
                  (Structure.undeclaredMessage node names).toOption.bind fun _ =>
                    refusal (names.map Key.toJson) := by
            intro node schema extent names value isObject removes
            simp only [Structure.treatUndeclared, self, isObject, removes, Bool.false_eq_true, if_false]
            split
            · rfl
            · simp only [answer_given, answer_reject]
          have kept : ∀ node schema extent names value, schema.isObject = false →
              (options.removeAdditional && Shape.isFalse schema) = false →
              (Structure.treatUndeclared node (alone schema) options extent names value).value = value := by
            intro node schema extent names value isObject removes
            simp only [Structure.treatUndeclared, self, isObject, removes, Bool.false_eq_true, if_false]
            split
            · rfl
            · exact given_value fun _ _ => reject_value ..
          refine local_of_kept (fun value => ?_) (fun value => ?_) ?_
          · exact given_value fun names _ => kept _ _ _ _ _ isObject removal
          · exact given_value fun names _ => kept _ _ _ _ _ isObject' (isFalse ▸ removal)
          · intro value value' resembles
            rw [answer_given, answer_given]
            refine compatible_toOption fun names names' undeclared undeclared' => ?_
            have permuted := undeclaredIn_perm rearranged found found' resembles undeclared undeclared'
            rw [quiet _ _ _ _ _ isObject removal, quiet _ _ _ _ _ isObject' (isFalse ▸ removal), related.isTruthy,
              Reordered.isEmpty_eq_of_length permuted.length_eq.symm]
            split
            · exact compatible_refl _
            · exact compatible_toOption fun _ _ _ _ => compatible_refusal _ _

end

/-- An aspect of a property whose name an expression finds. -/
def Schema.FoundBy (expression : Key) (aspect : Aspect) : Prop :=
  ∃ text name, expression = .text text ∧ aspect.step = .member (.text name) ∧ Finds text name

/-- What is done to each property whose name an expression finds is local, if it is local for each of them. -/
theorem matched_local (extent extent' : Extent) {expression : Key} (textual : ∃ text, expression = .text text)
    {operation operation' : Key → Json → Outcome} {loud : Prop}
    (each : ∀ name : String, Local child? child? (fun aspect => aspect = .child (.member (.text name)))
      (fun aspect => aspect = .child (.member (.text name)) ∧ loud) (operation (.text name))
      (operation' (.text name))) :
    Local child? child? (FoundBy expression)
      (fun aspect => FoundBy expression aspect ∧ aspect = .child aspect.step ∧ loud)
      (fun value => given (matchingNames expression value) value fun names =>
        chain extent (names.map operation) value)
      (fun value => given (matchingNames expression value) value fun names =>
        chain extent' (names.map operation') value) := by
  obtain ⟨text, rfl⟩ := textual
  have matching : ∀ value names, value.wellFormed = true → matchingNames (.text text) value = .ok names →
      names.Nodup ∧ ∀ key ∈ names, ∃ name, key = .text name ∧ Finds text name := by
    intro value names formed found
    obtain ⟨distinct, listed⟩ := mem_matchingNames formed found
    exact ⟨distinct, fun key present => ((listed key).mp present).2⟩
  refine Local.given (fun names => names.Nodup ∧ ∀ key ∈ names, ∃ name, key = .text name ∧ Finds text name) List.Perm
    (fun _ edits => edits.1) .refl ?_ matching matching ?_
  · rintro names names' ⟨distinct, finds⟩ - permuted
    have separate : Separate names (fun key aspect => aspect = .child (.member key))
        fun key aspect => aspect = .child (.member key) ∧ loud := by
      refine ⟨distinct, fun _ _ _ edits => edits.1, ?_⟩
      rintro key - other - differ aspect ⟨rfl, -⟩ same
      exact differ (Step.member.inj (Aspect.child.inj same))
    have rows := Local.row permuted separate (fun key listed => by
      obtain ⟨name, rfl, -⟩ := finds key listed
      exact each name) extent extent'
    refine rows.widen ?_ ?_ fun _ edits => edits.1
    · rintro aspect ⟨key, listed, rfl⟩
      obtain ⟨name, rfl, found⟩ := finds key listed
      exact ⟨text, name, rfl, rfl, found⟩
    · rintro aspect ⟨key, listed, rfl, holds⟩
      obtain ⟨name, rfl, found⟩ := finds key listed
      exact ⟨⟨text, name, rfl, rfl, found⟩, rfl, holds⟩
  · intro value value' names names' resembles found found'
    obtain ⟨distinct, listed⟩ := mem_matchingNames resembles.formed found
    obtain ⟨distinct', listed'⟩ := mem_matchingNames resembles.formed' found'
    refine perm_of_mem_iff distinct distinct' fun key => ?_
    rw [listed, listed']
    refine and_congr_left ?_
    rintro ⟨name, rfl, finds⟩
    rw [Json.text_mem_namesOf, Json.text_mem_namesOf]
    have alike := resembles.alike (.presence (.member (.text name))) (.text name) ⟨text, name, rfl, rfl, finds⟩
    simp only [Aspect.Alike] at alike
    rw [alike]

/-- A pattern is loud if its schema may edit. -/
def Schema.LoudPattern (options : Options) (fields : List (Key × Json)) (expression : Key) : Prop :=
  ¬ Quiet options (namedAt (patterned fields) (.member expression))

theorem Structure.patternProperties_eq_chain {members : List (Key × Json)} (distinct : (Fields.keys members).Nodup) :
    patternProperties (argumentWith noReference "" (.object members)) options extent =
      fun value =>
        let each := fun (operation : Part → Key → Json → Outcome) =>
          (Fields.keys members).map fun expression value =>
          given (matchingNames expression value) value fun names =>
            chain extent (names.map (operation (alone (namedAt members (.member expression))))) value
        chain extent ((if options.coerceTypes then each fun part name =>
          part.coerceAt options (.member name) else []) ++
          each fun part name => part.descend options extent (.member name)) value := by
  have parts : (argumentWith noReference "" (.object members)).named =
      .ok ((Fields.keys members).map fun expression =>
        (expression, alone (namedAt members (.member expression)))) := by
    rw [argumentWith_named, if_pos (by rfl), Fields.keys, List.map_map]
    refine congrArg Except.ok (List.map_congr_left fun member listed => ?_)
    simp only [Function.comp_apply, namedAt, Fields.get?_of_mem distinct listed, Option.getD_some, alone]
  funext value
  unfold patternProperties
  rw [parts]
  split
  · simp only [given, List.map_map]
    rfl
  · next noObject =>
      have none : ∀ expression, matchingNames expression value = .ok [] := by
        intro expression
        cases value with
        | object => exact absurd rfl noObject
        | _ => rfl
      refine (chain_of_accept fun step listed => ?_).symm
      rcases List.mem_append.mp listed with listed | listed
      · split at listed
        · obtain ⟨expression, -, rfl⟩ := List.mem_map.mp listed
          simp only [none, given, List.map_nil, chain_nil]
        · cases listed
      · obtain ⟨expression, -, rfl⟩ := List.mem_map.mp listed
        simp only [none, given, List.map_nil, chain_nil]

section

variable (rearranged : Rearranged (.object fields) (.object others)) (below : FollowBelow options fields others)

include rearranged below

theorem patternProperties_local (apart : Apart options fields) {argument argument' : Json}
    (found : Fields.get? fields "patternProperties" = some argument)
    (found' : Fields.get? others "patternProperties" = some argument') :
    Local child? child? (Reads fields "patternProperties") (Edits options fields "patternProperties")
      (Structure.patternProperties (argumentWith noReference "" argument) options extent)
      (Structure.patternProperties (argumentWith noReference "" argument') options extent') := by
  have named := names_of_passes rearranged.reordered.formed rearranged.passes
  have related := patterned_reordered rearranged.reordered named
  obtain rfl := named.patterns_of_get? found
  obtain rfl := (named.reordered rearranged.reordered).patterns_of_get? found'
  obtain ⟨textual, distinct, -⟩ := (Json.wellFormed_object _).mp related.formed
  obtain ⟨-, distinct', -⟩ := (Json.wellFormed_object _).mp related.formed'
  have each : ∀ expression ∈ Fields.keys (patterned fields), ∃ text, expression = .text text ∧
      (.text text, namedAt (patterned fields) (.member expression)) ∈ patterned fields ∧
      (.text text, namedAt (patterned others) (.member expression)) ∈ patterned others ∧
      Reordered (namedAt (patterned fields) (.member expression))
        (namedAt (patterned others) (.member expression)) := by
    intro expression listed
    obtain ⟨⟨_, schema⟩, present, rfl⟩ := List.mem_map.mp listed
    obtain ⟨⟨_, schema'⟩, present', rfl, same⟩ := related.members.there _ present
    obtain ⟨text, rfl⟩ := textual _ present
    simp only [namedAt, Fields.get?_of_mem distinct present, Fields.get?_of_mem distinct' present', Option.getD_some]
    exact ⟨text, rfl, present, present', same⟩
  -- of two patterns that find one name neither is loud
  have separate : Separate (Fields.keys (patterned fields)) FoundBy fun expression aspect =>
      FoundBy expression aspect ∧ aspect = .child aspect.step ∧ LoudPattern options fields expression := by
    refine ⟨distinct, fun _ _ _ edits => edits.1, ?_⟩
    rintro expression listed other listed' differ aspect ⟨⟨text, name, rfl, here, finds⟩, -, loud⟩
      ⟨text', name', rfl, here', finds'⟩
    obtain rfl : name' = name := Key.text.inj (Step.member.inj (here'.symm.trans here))
    have differ : text ≠ text' := fun same => differ (congrArg Key.text same)
    obtain ⟨_, same, present, -⟩ := each _ listed
    obtain rfl := Key.text.inj same
    exact loud (apart.patterns text text' name' _ present listed' differ finds finds')
  have follows : ∀ expression ∈ Fields.keys (patterned fields),
      (alone (namedAt (patterned fields) (.member expression))).Follows options
        (alone (namedAt (patterned others) (.member expression))) ∧
      (¬ LoudPattern options fields expression →
        (alone (namedAt (patterned fields) (.member expression))).Still options ∧
          (alone (namedAt (patterned others) (.member expression))).Still options) := by
    intro expression listed
    obtain ⟨text, -, present, present', same⟩ := each expression listed
    have held := List.mem_map_of_mem (f := Prod.snd) present
    have held' := List.mem_map_of_mem (f := Prod.snd) present'
    have inner := rearranged.held found found' held held' same
    refine ⟨below _ _ _ found found' (by decide) _ held _ held' same, fun still => ?_⟩
    have quiet : Quiet options (namedAt (patterned fields) (.member expression)) := not_not.mp still
    exact ⟨quiet.still same.formed inner.closed, (quiet.reordered same).still same.formed' inner.closed'⟩
  have row := fun (operation operation' : Part → Key → Json → Outcome)
      (each' : ∀ expression ∈ Fields.keys (patterned fields), ∀ name : String,
        Local child? child? (fun aspect => aspect = .child (.member (.text name)))
          (fun aspect => aspect = .child (.member (.text name)) ∧ LoudPattern options fields expression)
          (operation (alone (namedAt (patterned fields) (.member expression))) (.text name))
          (operation' (alone (namedAt (patterned others) (.member expression))) (.text name))) =>
    Local.row related.keys separate (fun expression listed =>
      matched_local extent extent' ((each expression listed).imp fun _ both => both.1) (each' expression listed))
      extent extent'
  have descents := row (fun part name => part.descend options extent (.member name))
    (fun part name => part.descend options extent' (.member name)) fun expression listed name =>
      descend_local extent extent' (follows expression listed).1 (.text name)
        (fun quiet => ((follows expression listed).2 quiet).1) fun quiet => ((follows expression listed).2 quiet).2
  have both : Local child? child? (fun aspect =>
    ∃ expression ∈ Fields.keys (patterned fields), FoundBy expression aspect)
      (fun aspect => ∃ expression ∈ Fields.keys (patterned fields), FoundBy expression aspect ∧
        aspect = .child aspect.step ∧ LoudPattern options fields expression)
      (Structure.patternProperties (argumentWith noReference "" (.object (patterned fields))) options extent)
      (Structure.patternProperties (argumentWith noReference "" (.object (patterned others))) options extent') := by
    rw [Structure.patternProperties_eq_chain distinct, Structure.patternProperties_eq_chain distinct']
    cases coerces : options.coerceTypes with
    | false =>
        simp only [Bool.false_eq_true, if_false, List.nil_append]
        exact descents
    | true =>
        have coercions := row (fun part name => part.coerceAt options (.member name))
          (fun part name => part.coerceAt options (.member name)) fun expression listed name =>
            coerceAt_local coerces (follows expression listed).1 (.text name)
              (fun quiet => ((follows expression listed).2 quiet).1) fun quiet =>
                ((follows expression listed).2 quiet).2
        simp only [if_true, chain_append]
        exact coercions.andThen descents extent extent'
  refine both.widen ?_ ?_ fun _ => Edits.reads
  · rintro aspect ⟨expression, listed, text, name, rfl, here, finds⟩
    obtain ⟨_, same, present, -⟩ := each _ listed
    obtain rfl := Key.text.inj same
    have claims := Claims.found present finds
    rw [← here] at claims
    exact .claim claims
  · rintro aspect ⟨expression, listed, ⟨text, name, rfl, here, finds⟩, isChild, loud⟩
    obtain ⟨_, same, present, -⟩ := each _ listed
    obtain rfl := Key.text.inj same
    rw [isChild, here]
    exact .child (.found present finds) loud

end

namespace Structure

theorem additionalItems_of_absent {part : Part} (absent : Fields.get? fields "items" = none) (value : Json) :
    additionalItems (nodeWith noReference "" fields) part options extent value = accept value := by
  unfold additionalItems
  rw [argument?_nodeWith, absent]
  cases value <;> rfl

/-- Beside schemas for single items, the items after these are evaluated one by one. -/
theorem additionalItems_of_schemas {schemas : List Json} {part : Part}
    (found : Fields.get? fields "items" = some (.array schemas)) (isObject : part.schema.isObject = true) :
    additionalItems (nodeWith noReference "" fields) part options extent = fun value =>
      given (.ok (itemCount value)) value fun count => chain extent
        ((List.range' schemas.length (count - schemas.length)).map fun i => part.descend options extent (.index i))
          value := by
  have notObject : (Json.array schemas).isObject = false := rfl
  funext value
  unfold additionalItems
  rw [argument?_nodeWith, found]
  cases value with
  | array values =>
      simp only [Option.map_some, argumentWith_self, partWith_schema, notObject, Bool.false_eq_true, if_false,
        declaredCount, given, isObject, if_true, atIndices_replicate, List.map_map, List.length_drop, itemCount]
      rfl
  | _ => 
      have none : 0 - schemas.length = 0 := by omega
      simp only [given, itemCount, none, List.range'_zero, List.map_nil, chain_nil]

/-- Any other `additionalItems` changes nothing, and only looks at the number of items. -/
theorem additionalItems_answer {schemas : List Json} {part : Part}
    (found : Fields.get? fields "items" = some (.array schemas)) (isFlat : part.schema.isObject = false)
    (values : List Json) :
    (additionalItems (nodeWith noReference "" fields) part options extent (.array values)).answer =
      if (values.drop schemas.length).isEmpty || part.schema.isTruthy then some true
      else refusal (values.drop schemas.length) := by
  have notObject : (Json.array schemas).isObject = false := rfl
  unfold additionalItems
  rw [argument?_nodeWith, found]
  simp only [Option.map_some, argumentWith_self, partWith_schema, notObject, Bool.false_eq_true, if_false,
    declaredCount, given, isFlat]
  split
  · rfl
  · rw [answer_reject]

/-- Beside an `items` that is one schema, nothing is looked at. -/
theorem additionalItems_of_single {items : Json} {part : Part} (found : Fields.get? fields "items" = some items)
    (single : items.isObject = true ∨ ∃ b, items = .bool b) (value : Json) :
    additionalItems (nodeWith noReference "" fields) part options extent value =
      if value.isArray && !items.isObject then fail value .unusable else accept value := by
  unfold additionalItems
  rw [argument?_nodeWith, found]
  cases value with
  | array values =>
      simp only [Option.map_some, argumentWith_self, partWith_schema, Json.isArray, Bool.true_and]
      rcases single with isObject | ⟨b, rfl⟩
      · simp only [isObject, if_true, Bool.not_true, Bool.false_eq_true, if_false]
      · rfl
  | _ => rfl

end Structure

section

variable (rearranged : Rearranged (.object fields) (.object others)) (below : FollowBelow options fields others)

include rearranged below

theorem additionalItems_local {schema schema' : Json} (found : Fields.get? fields "additionalItems" = some schema)
    (found' : Fields.get? others "additionalItems" = some schema') (related : Reordered schema schema') :
    Local child? child? (Reads fields "additionalItems") (Edits options fields "additionalItems")
      (Structure.additionalItems (nodeWith noReference "" fields) (alone schema) options extent)
      (Structure.additionalItems (nodeWith noReference "" others) (alone schema') options extent') := by
  have self : ∀ schema, (alone schema).schema = schema := fun schema => partWith_schema ..
  have keep : ∀ schema options, schema.isObject = false → (alone schema).Keeps options := by
    intro schema options isFlat
    rw [alone, partWith_flat _ _ isFlat]
    exact Part.flat_keeps schema
  have unchanged := fun {step step' : Json → Outcome} (keeps : ∀ value, (step value).value = value)
      (keeps' : ∀ value, (step' value).value = value)
      (compatible : ∀ value value', SameShape value value' → Compatible (step value).answer (step' value').answer) =>
    show Local child? child? (Reads fields "additionalItems")
      (Edits options fields "additionalItems") step step' from
      local_of_kept keeps keeps' fun value value' resembles => compatible value value' resembles.shape
  rcases rearranged.reordered.get? (.text "items") with ⟨missing, missing'⟩ | ⟨items, items', there, there', argued⟩
  · refine unchanged (fun value => ?_) (fun value => ?_) fun value value' shape => ?_
    · rw [Structure.additionalItems_of_absent missing]
      rfl
    · rw [Structure.additionalItems_of_absent missing']
      rfl
    · rw [Structure.additionalItems_of_absent missing, Structure.additionalItems_of_absent missing']
      exact compatible_refl _
  · have lone : (items.isObject = true ∨ ∃ b, items = .bool b) → Local child? child? (Reads fields "additionalItems")
        (Edits options fields "additionalItems")
        (Structure.additionalItems (nodeWith noReference "" fields) (alone schema) options extent)
        (Structure.additionalItems (nodeWith noReference "" others) (alone schema') options extent') := by
      intro single
      have single' : items'.isObject = true ∨ ∃ b, items' = .bool b := by
        rcases single with isObject | ⟨b, rfl⟩
        · exact .inl (argued.isObject.trans isObject)
        · exact .inr ⟨b, argued.eq rfl rfl⟩
      refine unchanged (fun value => ?_) (fun value => ?_) fun value value' shape => ?_
      · rw [Structure.additionalItems_of_single there single]
        split <;> rfl
      · rw [Structure.additionalItems_of_single there' single']
        split <;> rfl
      · have isArray : value'.isArray = value.isArray := by cases shape <;> rfl
        rw [Structure.additionalItems_of_single there single, Structure.additionalItems_of_single there' single',
          argued.isObject, isArray]
        split
        · exact none_compatible _
        · exact compatible_refl _
    rcases rearranged.passes.suits there with ⟨schemas, rfl, -⟩ | passes
    · obtain ⟨schemas', rfl⟩ : ∃ schemas', items' = .array schemas' := by
        cases argued with
        | scalar noArray => cases noArray
        | array => exact ⟨_, rfl⟩
      have lengths := argued.items.length_eq
      cases isObject : schema.isObject with
      | true =>
          rw [Structure.additionalItems_of_schemas there ((congrArg Json.isObject (self schema)).trans isObject),
            Structure.additionalItems_of_schemas there'
              ((congrArg Json.isObject (self schema')).trans (related.isObject.trans isObject))]
          refine Local.given (fun _ => True) (fun a b => b = a) (fun _ => Edits.reads)
            (fun _ => rfl) ?_ (fun _ _ _ _ => trivial)
              (fun _ _ _ _ => trivial) fun value value' count count' resembles here here' => ?_
          · rintro _ count - - rfl
            rw [← lengths]
            have claims := fun i (inside : i ∈ List.range' schemas.length (count - schemas.length)) =>
              Claims.further there (List.mem_range'_1.mp inside).1 found
            have claims' := fun i (inside : i ∈ List.range' schemas.length (count - schemas.length)) =>
              Claims.further there' (lengths ▸ (List.mem_range'_1.mp inside).1) found'
            have each := fun i inside => claimed_follows rearranged below (claims i inside)
              (claims' i inside) related
            have separate : Separate (List.range' schemas.length (count - schemas.length))
                (fun i aspect => aspect = .child (.index i))
                fun i aspect => aspect = .child (.index i) ∧
                  Edits options fields "additionalItems" (.child (.index i)) := by
              refine ⟨List.nodup_range', fun _ _ _ edits => edits.1, ?_⟩
              rintro i - j - differ aspect ⟨rfl, -⟩ same
              exact differ (Step.index.inj (Aspect.child.inj same))
            refine (Local.row (.refl _) separate (fun i inside =>
              descend_local extent extent' (each i inside).1 (.index i) (fun quiet => ((each i inside).2 quiet).1)
                fun quiet => ((each i inside).2 quiet).2) extent extent').widen ?_ ?_ fun _ => Edits.reads
            · rintro aspect ⟨i, inside, rfl⟩
              exact .claim (claims i inside)
            · rintro aspect ⟨i, -, rfl, edits⟩
              exact edits
          · rw [← Except.ok.inj here, ← Except.ok.inj here', itemCount_sameShape resembles.shape]
      | false =>
          have isFlat' := related.isObject.trans isObject
          refine unchanged (Structure.additionalItems_value (keep schema options isObject))
            (Structure.additionalItems_value (keep schema' options isFlat')) fun value value' shape => ?_
          have scalar : ∀ (fields : List (Key × Json)) (part : Part) extent value, value.isArray = false →
              Structure.additionalItems (nodeWith noReference "" fields) part options extent value = accept
                value := by
            intro fields part extent value noArray
            unfold Structure.additionalItems
            cases value with
            | array => cases noArray
            | _ => rfl
          have listed : ∀ values values' : List Json, values.length = values'.length → Compatible
              (Structure.additionalItems (nodeWith noReference "" fields) (alone schema) options extent
                (.array values)).answer
              (Structure.additionalItems (nodeWith noReference "" others) (alone schema') options extent'
                (.array values')).answer := by
            intro values values' same
            have beyond : (values'.drop schemas'.length).length = (values.drop schemas.length).length := by
              rw [List.length_drop, List.length_drop, same, lengths]
            rw [Structure.additionalItems_answer there ((congrArg Json.isObject (self schema)).trans isObject),
              Structure.additionalItems_answer there' ((congrArg Json.isObject (self schema')).trans isFlat'),
                self, self,
              related.isTruthy, Reordered.isEmpty_eq_of_length beyond]
            split
            · exact compatible_refl _
            · exact compatible_refusal _ _
          cases shape with
          | same =>
              cases isArray : value.isArray with
              | true =>
                  cases value with
                  | array values => exact listed values values rfl
                  | _ => cases isArray
              | false =>
                  rw [scalar _ _ _ _ isArray, scalar _ _ _ _ isArray]
                  exact compatible_refl _
          | object =>
              rw [scalar _ _ _ _ rfl, scalar _ _ _ _ rfl]
              exact compatible_refl _
          | array same => exact listed _ _ same
    · exact lone passes.isSchema

end

end SchemaAlgebra

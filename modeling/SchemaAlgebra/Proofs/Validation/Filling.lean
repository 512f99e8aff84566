import SchemaAlgebra.Proofs.Validation.Bystanders

/-!
Values as they are seen once defaults are filled in. `properties` and `required` fill defaults in before they look,
and no other keyword looks at what is filled in; so in what is seen then, all keywords are local alike.
-/

namespace SchemaAlgebra

open Outcome Evaluation Schema
open Json (Reordered SameShape IsExact child?)

variable {options : Options} {fields others : List (Key × Json)} {value last : Json} {step : Step}
  {reads edits : Aspect → Prop}

theorem child?_fillDefault {schema : Json} (name : String) (isObject : value.isObject = true)
    (exactly : IsExact step) :
    (fillDefault value (.text name) schema).child? step =
      (value.child? step).or (if step = .member (.text name) then schema.default? else none) := by
  cases value with
  | object members =>
      cases found : schema.default? with
      | none =>
          have same : fillDefault (.object members) (.text name) schema = .object members := by
            unfold fillDefault
            simp only [found]
          rw [same, ite_self, Option.or_none]
      | some default =>
          have filled : fillDefault (.object members) (.text name) schema =
              if Fields.has members (.text name) then .object members
              else .object (Fields.put members (.text name) default) := by
            have same : (Json.object members).has (.text name) = Fields.has members (.text name) := by
              simp [Json.has, Json.get?, Fields.has]
            unfold fillDefault
            simp only [found, same]
          rw [filled, Fields.has]
          cases exactly with
          | index i => split <;> rfl
          | text other =>
              cases there : Fields.get? members (.text name) with
              | some child =>
                  simp only [Option.isSome_some, if_true, Json.child?_text]
                  split
                  · next same =>
                      obtain rfl := Key.text.inj (Step.member.inj same)
                      rw [there, Option.some_or]
                  · rw [Option.or_none]
              | none =>
                  simp only [Option.isSome_none, Bool.false_eq_true, if_false, Json.child?_text, Fields.get?_put]
                  by_cases same : name = other
                  · subst same
                    rw [if_pos rfl, if_pos rfl, there, Option.none_or]
                  · rw [if_neg fun equal => same (Key.text.inj equal), if_neg fun equal =>
                      same (Key.text.inj (Step.member.inj equal)).symm, Option.or_none]
  | _ => cases isObject

theorem isObject_fillDefault {schema : Json} (name : Key) (isObject : value.isObject = true) :
    (fillDefault value name schema).isObject = true := by
  unfold fillDefault
  split
  · split <;> rfl
  · exact isObject

/-- What fills a step in, among named schemas. -/
def Schema.defaultAt (members : List (Key × Json)) : Step → Option Json
  | .member name => (Fields.get? members name).bind Json.default?
  | .index _ => none

theorem child?_fillDefaults {members : List (Key × Json)} (formed : (Json.object members).wellFormed = true)
    (isObject : value.isObject = true) (exactly : IsExact step) :
    (fillDefaults (memberPartsWith noReference "" members) value).child? step =
      (value.child? step).or (defaultAt members step) := by
  induction members generalizing value with
  | nil =>
      have none : defaultAt [] step = none := by cases step <;> rfl
      rw [none, Option.or_none]
      rfl
  | cons member rest ih =>
      obtain ⟨textual, distinct, values⟩ := (Json.wellFormed_object _).mp formed
      obtain ⟨key, schema⟩ := member
      obtain ⟨name, rfl⟩ := textual _ List.mem_cons_self
      obtain ⟨fresh, distinct'⟩ := List.nodup_cons.mp distinct
      have formed' : (Json.object rest).wellFormed = true := (Json.wellFormed_object rest).mpr
        ⟨fun entry listed => textual entry (List.mem_cons_of_mem _ listed), distinct',
          fun entry listed => values entry (List.mem_cons_of_mem _ listed)⟩
      have unfolded : fillDefaults (memberPartsWith noReference "" ((.text name, schema) :: rest)) value =
          fillDefaults (memberPartsWith noReference "" rest) (fillDefault value (.text name) schema) := by
        simp [fillDefaults, memberPartsWith, partWith_schema]
      rw [unfolded, ih formed' (isObject_fillDefault _ isObject), child?_fillDefault name isObject exactly,
        Option.or_assoc]
      congr 1
      cases step with
      | index i => rfl
      | member other =>
          simp only [defaultAt, Fields.get?_cons]
          by_cases same : Key.text name = other
          · subst same
            rw [if_pos rfl, if_pos rfl, (Fields.get?_eq_none_iff rest _).mpr fresh, Option.bind_none, Option.or_none,
              Option.bind_some]
          · rw [if_neg fun equal => same (Step.member.inj equal).symm, if_neg same, Option.none_or]

namespace Schema

theorem filling_eq (options : Options) (fields : List (Key × Json)) (step : Step) :
    filling options fields step = if options.useDefaults then defaultAt (declared fields) step else none := by
  cases step with
  | member name => rfl
  | index i => exact (ite_self none).symm

/-- What a step leads to in a value once the defaults that an object lacks are filled in. -/
def seen (options : Options) (fields : List (Key × Json)) (value : Json) (step : Step) : Option Json :=
  (value.child? step).or (if value.isObject then filling options fields step else none)

/-- The value with its missing defaults filled in. -/
def filled (options : Options) (fields : List (Key × Json)) (value : Json) : Json :=
  if options.useDefaults then fillDefaults (memberPartsWith noReference "" (declared fields)) value else value

/-- No default is missing in the value. -/
def Completed (options : Options) (fields : List (Key × Json)) (value : Json) : Prop :=
  ∀ step, IsExact step → value.isObject = true → (filling options fields step).isSome = true →
    (value.child? step).isSome = true

theorem fillDefaults_of_flat (members : List (Key × Part)) (notObject : value.isObject = false) :
    fillDefaults members value = value := by
  induction members with
  | nil => rfl
  | cons member rest ih =>
      have same : fillDefault value member.1 member.2.schema = value := by
        cases value <;> first | rfl | cases notObject
      rw [fillDefaults, List.foldl_cons, same]
      exact ih

theorem child?_filled (names : Names fields) (exactly : IsExact step) :
    (filled options fields value).child? step = seen options fields value step := by
  unfold filled seen
  rw [filling_eq]
  cases options.useDefaults with
  | false => simp
  | true =>
      simp only [if_true]
      cases isObject : value.isObject with
      | true => exact child?_fillDefaults names.declared_formed isObject exactly
      | false => rw [fillDefaults_of_flat _ isObject, if_neg Bool.false_ne_true, Option.or_none]

theorem filled_filled (options : Options) (names : Names fields) (formed : value.wellFormed = true) :
    Filled ((memberPartsWith noReference "" (declared fields)).map Prod.fst) value
      (filled options fields value) := by
  unfold filled
  split
  · obtain ⟨textual, -, values⟩ := (Json.wellFormed_object _).mp names.declared_formed
    refine fillDefaults_filled ⟨fun member listed => ?_, fun member listed default found => ?_⟩ formed <;>
      rw [memberPartsWith_eq_map] at listed <;> obtain ⟨entry, present, rfl⟩ := List.mem_map.mp listed
    · exact textual entry present
    · rw [partWith_schema] at found
      exact Json.wellFormed_child (values entry present)
        (show entry.2.child? (.member "default") = some default from found)
  · exact .refl formed

theorem Completed.seen (completed : Completed options fields value) (exactly : IsExact step) :
    seen options fields value step = value.child? step := by
  rw [Schema.seen]
  split
  · next isObject =>
      cases there : filling options fields step with
      | none => exact Option.or_none
      | some default =>
          obtain ⟨child, found⟩ :=
            Option.isSome_iff_exists.mp (completed step exactly isObject (by rw [there]; rfl))
          rw [found, Option.some_or]
  · exact Option.or_none

theorem completed_filled (names : Names fields) (formed : value.wellFormed = true) :
    Completed options fields (filled options fields value) := by
  intro step exactly isObject some
  have shape := (filled_filled options names formed).shape
  rw [child?_filled names exactly, Schema.seen, if_pos (shape.isObject ▸ isObject), Option.isSome_or, some,
    Bool.or_true]

/-- Where no presence is edited that matters to it, a value stays complete. -/
theorem Completed.of_changed (completed : Completed options fields value) (changed : Changed edits child? value last)
    (safe : ∀ step, edits (.presence step) → filling options fields step = none) :
    Completed options fields last := by
  intro step exactly isObject some
  have kept := changed.kept (.presence step) exactly fun edited => by
    rw [safe step edited] at some
    cases some
  exact Eq.trans kept (completed step exactly (changed.shape.isObject ▸ isObject) some)

end Schema

theorem Aspect.Kept.congr {aspect : Aspect} {first second third fourth : Step → Option Json}
    (kept : aspect.Kept first second) (same : third aspect.step = first aspect.step)
    (same' : fourth aspect.step = second aspect.step) : aspect.Kept third fourth := by
  cases aspect with
  | presence step => exact (congrArg Option.isSome same').trans (Eq.trans kept (congrArg Option.isSome same.symm))
  | child step => exact same'.trans (Eq.trans kept same.symm)

theorem Aspect.Alike.congr {aspect : Aspect} {first second third fourth : Step → Option Json}
    (alike : aspect.Alike first second) (same : third aspect.step = first aspect.step)
    (same' : fourth aspect.step = second aspect.step) : aspect.Alike third fourth := by
  cases aspect with
  | presence step =>
      simp only [Aspect.step] at same same'
      simp only [Alike, same, same']
      exact alike
  | child step =>
      simp only [Aspect.step] at same same'
      simp only [Alike, same, same']
      exact alike

theorem Changed.seen (changed : Changed edits child? value last) :
    Changed edits (seen options fields) value last where
  shape := changed.shape
  formed := changed.formed
  kept aspect exactly free := by
    have kept := changed.kept aspect exactly free
    cases aspect with
    | presence step =>
        simp only [Aspect.Kept] at kept ⊢
        simp only [Schema.seen, Option.isSome_or, kept, changed.shape.isObject]
    | child step =>
        simp only [Aspect.Kept] at kept ⊢
        simp only [Schema.seen, kept, changed.shape.isObject]

namespace Local

variable {operation operation' : Json → Outcome}

/-- What looks only where nothing is filled in sees the same once defaults are filled in. -/
theorem of_free (locally : Local child? child? reads edits operation operation')
    (free : ∀ aspect, reads aspect → filling options fields aspect.step = none)
    (free' : ∀ aspect, reads aspect → filling options others aspect.step = none) :
    Local (seen options fields) (seen options others) reads edits operation operation' where
  inside := locally.inside
  frame value last formed ran := (locally.frame value last formed ran).seen
  frame' value last formed ran := (locally.frame' value last formed ran).seen
  agrees value value' last resembles ran ended := by
    have plain : ∀ {fields : List (Key × Json)} {aspect : Aspect} {value : Json},
        filling options fields aspect.step = none →
          value.child? aspect.step = seen options fields value aspect.step := by
      intro fields aspect value none
      rw [seen, none, ite_self, Option.or_none]
    obtain ⟨last', ran', left⟩ := locally.agrees value value' last ⟨resembles.shape, resembles.formed,
      resembles.formed',
      fun aspect exactly read =>
        (resembles.alike aspect exactly read).congr (plain (free aspect read)) (plain (free' aspect read))⟩ ran ended
    refine ⟨last', ran', fun aspect exactly edited => ?_⟩
    have read := locally.inside aspect edited
    exact (left aspect exactly edited).congr (plain (free aspect read)).symm (plain (free' aspect read)).symm

/-- What fills defaults in and then goes on locally, is local in what it sees with the defaults filled in. -/
theorem of_filled (locally : Local child? child? reads edits operation operation') (names : Names fields)
    (names' : Names others) (safe : ∀ step, edits (.presence step) → filling options fields step = none)
    (safe' : ∀ step, edits (.presence step) → filling options others step = none) :
    Local (seen options fields) (seen options others) reads edits
      (fun value => operation (filled options fields value))
      (fun value => operation' (filled options others value)) where
  inside := locally.inside
  frame value last formed ran := by
    have filled := filled_filled options names formed
    have changed := locally.frame _ last filled.formed ran
    have completed := (completed_filled names formed).of_changed changed safe
    exact ⟨filled.shape.trans changed.shape, changed.formed, fun aspect exactly free =>
      (changed.kept aspect exactly free).congr (child?_filled names exactly).symm (completed.seen exactly)⟩
  frame' value last formed ran := by
    have filled := filled_filled options names' formed
    have changed := locally.frame' _ last filled.formed ran
    have completed := (completed_filled names' formed).of_changed changed safe'
    exact ⟨filled.shape.trans changed.shape, changed.formed, fun aspect exactly free =>
      (changed.kept aspect exactly free).congr (child?_filled names' exactly).symm (completed.seen exactly)⟩
  agrees value value' last resembles ran ended := by
    have filled := filled_filled options names resembles.formed
    have filled' := filled_filled options names' resembles.formed'
    have between : Resembles reads child? child? (Schema.filled options fields value)
      (Schema.filled options others value') :=
      ⟨(filled.shape.symm.trans resembles.shape).trans filled'.shape, filled.formed, filled'.formed,
        fun aspect exactly read =>
          (resembles.alike aspect exactly read).congr (child?_filled names exactly) (child?_filled names' exactly)⟩
    obtain ⟨last', ran', left⟩ := locally.agrees _ _ last between ran ended
    have completed := (completed_filled names resembles.formed).of_changed
      (locally.frame _ last filled.formed ran) safe
    have completed' :=
      (completed_filled names' resembles.formed').of_changed (locally.frame' _ last' filled'.formed ran') safe'
    exact ⟨last', ran', fun aspect exactly edited =>
      (left aspect exactly edited).congr (completed.seen exactly) (completed'.seen exactly)⟩

end Local

end SchemaAlgebra

import SchemaAlgebra.Proofs.Validation.Checking

/-!
What the steps that edit a value can do to it. They never make an object of something else or change the
length of an array. A row of conversions and evaluations of different children leaves all other children
alone, and every child that it looks at comes out of the evaluation of its schema. Defaults are only put
where nothing was, and conversions make nothing but scalars.
-/

namespace SchemaAlgebra

namespace Json

/-- Two values of one shape: the same one, two objects, or two arrays of one length. -/
inductive SameShape : Json → Json → Prop
  | same (value : Json) : SameShape value value
  | object (fields others : List (Key × Json)) : SameShape (.object fields) (.object others)
  | array {items others : List Json} :
      items.length = others.length → SameShape (.array items) (.array others)

theorem SameShape.trans {first second third : Json} (left : SameShape first second)
    (right : SameShape second third) : SameShape first third := by
  cases left with
  | same => exact right
  | object fields others => cases right <;> exact .object _ _
  | array lengths =>
      cases right with
      | same => exact .array lengths
      | array lengths' => exact .array (lengths.trans lengths')

theorem SameShape.isObject {before after : Json} (shape : SameShape before after) :
    after.isObject = before.isObject := by
  cases shape <;> rfl

theorem sameShape_setChild (value child : Json) (step : Step) :
    SameShape value (value.setChild step child) := by
  cases value <;> cases step <;> first | exact .same _ | exact .object _ _ | exact .array (by simp)

@[simp] theorem child?_text (fields : List (Key × Json)) (name : String) :
    (Json.object fields).child? (.member (.text name)) = Fields.get? fields (.text name) := by
  simp [child?, get?]

theorem wellFormed_setChild {value child new : Json} {step : Step} (formed : value.wellFormed = true)
    (found : value.child? step = some child) (formed' : new.wellFormed = true) :
    (value.setChild step new).wellFormed = true := by
  cases step with
  | index i =>
      cases value <;> simp only [child?, reduceCtorEq] at found
      rw [setChild, wellFormed_array]
      intro item member
      rcases List.mem_or_eq_of_mem_set member with old | rfl
      · exact (wellFormed_array _).mp formed item old
      · exact formed'
  | member key =>
      cases value with
      | object fields =>
          obtain ⟨textual, distinct, values⟩ := (wellFormed_object fields).mp formed
          obtain ⟨others, same, keys⟩ := keys_setChild found new
          simp only [child?, get?] at found
          rw [same, wellFormed_object, keys]
          obtain rfl := Json.object.inj same
          refine ⟨fun entry member => ?_, distinct, fun entry member => ?_⟩
          · rcases Fields.mem_put member with rfl | old
            · exact textual (_, child) (Fields.mem_of_get? found)
            · exact textual entry old
          · rcases Fields.mem_put member with rfl | old
            · exact formed'
            · exact values entry old
      | _ => simp [child?, get?] at found

end Json

/-- Conversions and evaluations by the part take well-formed values to well-formed values. -/
structure Part.Forms (part : Part) (options : Options) (extent : Extent) : Prop where
  coerce : ∀ value converted, part.coerce options value = .ok (some converted) →
    converted.wellFormed = true
  enter : ∀ value last, value.wellFormed = true → part.enter options extent value = .accept last →
    last.wellFormed = true

/-- A value that entering the part with some well-formed value can leave. -/
def Part.Leaves (part : Part) (options : Options) (extent : Extent) (last : Json) : Prop :=
  ∃ value, value.wellFormed = true ∧ part.enter options extent value = .accept last

namespace Outcome

/-- What a row of steps did that touched different children: each of them changed as it may, and nothing
else did. -/
structure Touched (change : Part → Json → Json → Prop) (entries : List (Step × Part))
    (before after : Json) : Prop where
  shape : Json.SameShape before after
  formed : after.wellFormed = true
  present : ∀ step, Json.IsExact step → (after.child? step).isSome = (before.child? step).isSome
  others : ∀ step, Json.IsExact step → step ∉ entries.map Prod.fst →
    after.child? step = before.child? step
  each : ∀ entry ∈ entries, ∀ child, after.child? entry.1 = some child →
    ∃ old, before.child? entry.1 = some old ∧ change entry.2 old child

/-- An operation on a child either finds none or changes it as it may. -/
def Touches (change : Part → Json → Json → Prop) (operation : Json → Outcome) (entry : Step × Part) :
    Prop :=
  ∀ value last, operation value = accept last →
    (value.child? entry.1 = none ∧ last = value) ∨
      ∃ old new, value.child? entry.1 = some old ∧ change entry.2 old new ∧
        last = value.setChild entry.1 new

variable {change : Part → Json → Json → Prop} {entries : List (Step × Part)} {extent : Extent}

namespace Touched

variable {entry : Step × Part} {value last : Json}

theorem of_absent (exactly : Json.IsExact entry.1) (first : entry.1 ∉ entries.map Prod.fst)
    (absent : value.child? entry.1 = none) (touched : Touched change entries value last) :
    Touched change (entry :: entries) value last := by
  refine ⟨touched.shape, touched.formed, touched.present, ?_, ?_⟩
  · intro step isExact other
    exact touched.others step isExact fun member => other (by simp [member])
  · intro other member child there
    rcases List.mem_cons.mp member with rfl | member
    · rw [touched.others _ exactly first, absent] at there
      simp at there
    · exact touched.each other member child there

theorem of_changed (exactly : ∀ other ∈ entry :: entries, Json.IsExact other.1)
    (first : entry.1 ∉ entries.map Prod.fst) {old new : Json} (found : value.child? entry.1 = some old)
    (changed : change entry.2 old new)
    (touched : Touched change entries (value.setChild entry.1 new) last) :
    Touched change (entry :: entries) value last := by
  have here := exactly entry (by simp)
  have read := fun {step} (isExact : Json.IsExact step) =>
    Json.child?_setChild here found new isExact
  refine ⟨(Json.sameShape_setChild ..).trans touched.shape, touched.formed, ?_, ?_, ?_⟩
  · intro step isExact
    rw [touched.present step isExact, read isExact]
    split
    · next same => simp [same, found]
    · rfl
  · intro step isExact other
    rw [touched.others step isExact fun member => other (by simp [member]), read isExact,
      if_neg (by rintro rfl; exact other (by simp))]
  · intro other member child there
    rcases List.mem_cons.mp member with rfl | member
    · rw [touched.others _ here first, read here, if_pos rfl] at there
      exact ⟨old, found, Option.some.inj there ▸ changed⟩
    · obtain ⟨before, there, allowed⟩ := touched.each other member child there
      rw [read (exactly other (by simp [member])), if_neg] at there
      · exact ⟨before, there, allowed⟩
      · intro same
        exact first (List.mem_map.mpr ⟨other, member, same⟩)

end Touched

theorem chain_touched {operation : Step × Part → Json → Outcome}
    (touches : ∀ entry ∈ entries, Touches change (operation entry) entry)
    (exactly : ∀ entry ∈ entries, Json.IsExact entry.1) (distinct : (entries.map Prod.fst).Nodup)
    (forms : ∀ entry ∈ entries, ∀ old new, old.wellFormed = true → change entry.2 old new →
      new.wellFormed = true)
    {value last : Json} (formed : value.wellFormed = true)
    (ran : chain extent (entries.map operation) value = accept last) :
    Touched change entries value last := by
  induction entries generalizing value with
  | nil =>
      obtain rfl := accept_inj.mp ran
      exact ⟨.same _, formed, fun _ _ => rfl, fun _ _ _ => rfl, by simp⟩
  | cons entry rest ih =>
      obtain ⟨middle, first, later⟩ := chain_cons_eq_accept.mp ran
      simp only [List.map_cons, List.nodup_cons] at distinct
      have recur := fun formed => ih (fun other member => touches other (by simp [member]))
        (fun other member => exactly other (by simp [member])) distinct.2
        (fun other member => forms other (by simp [member])) formed later
      rcases touches entry (by simp) value middle first with
        ⟨absent, rfl⟩ | ⟨old, new, found, changed, rfl⟩
      · exact (recur formed).of_absent (exactly entry (by simp)) distinct.1 absent
      · have formed' := forms entry (by simp) old new (Json.wellFormed_child formed found) changed
        exact (recur (Json.wellFormed_setChild formed found formed')).of_changed exactly distinct.1 found
          changed

theorem coerceAt_touches (options : Options) (entry : Step × Part) :
    Touches (fun part old new => new = old ∨ part.coerce options old = .ok (some new))
      (entry.2.coerceAt options entry.1) entry := by
  intro value last ran
  unfold Part.coerceAt at ran
  split at ran
  · next old found =>
      obtain ⟨converted, coerced, ended⟩ := given_eq_accept.mp ran
      cases converted with
      | none =>
          obtain rfl := accept_inj.mp ended
          exact .inr ⟨old, old, found, .inl rfl, (Json.setChild_of_child? found).symm⟩
      | some new =>
          obtain rfl := accept_inj.mp ended
          exact .inr ⟨old, new, found, .inr coerced, rfl⟩
  · next absent =>
      obtain rfl := accept_inj.mp ran
      exact .inl ⟨absent, rfl⟩

theorem descend_touches (options : Options) (extent : Extent) (entry : Step × Part) :
    Touches (fun part old new => part.enter options extent old = accept new)
      (entry.2.descend options extent entry.1) entry := by
  intro value last ran
  unfold Part.descend at ran
  split at ran
  · next old found =>
      obtain ⟨new, entered, rfl⟩ := within_eq_accept.mp ran
      exact .inr ⟨old, new, found, entered, rfl⟩
  · next absent =>
      obtain rfl := accept_inj.mp ran
      exact .inl ⟨absent, rfl⟩

/-- Convert children where that is asked for, then evaluate them: the steps of the keywords that hold
schemas for children. -/
def editing (options : Options) (extent : Extent) (entries : List (Step × Part)) :
    List (Json → Outcome) :=
  (if options.coerceTypes then entries.map fun entry => entry.2.coerceAt options entry.1 else []) ++
    entries.map fun entry => entry.2.descend options extent entry.1

theorem editing_touched {options : Options} (exactly : ∀ entry ∈ entries, Json.IsExact entry.1)
    (distinct : (entries.map Prod.fst).Nodup) (forms : ∀ entry ∈ entries, entry.2.Forms options extent)
    {value last : Json} (formed : value.wellFormed = true)
    (ran : chain extent (editing options extent entries) value = accept last) :
    Touched (fun part _ new => part.Leaves options extent new) entries value last := by
  obtain ⟨middle, coerced, descended⟩ := chain_append_eq_accept.mp ran
  have first : Touched (fun part old new => new = old ∨ part.coerce options old = .ok (some new))
      entries value middle := by
    cases converts : options.coerceTypes with
    | true =>
        simp only [converts, if_true] at coerced
        refine chain_touched (fun entry _ => coerceAt_touches options entry) exactly distinct ?_ formed
          coerced
        rintro entry member old new formed (rfl | converted)
        · exact formed
        · exact (forms entry member).coerce old new converted
    | false =>
        simp only [converts, Bool.false_eq_true, if_false, chain_nil, accept_inj] at coerced
        subst coerced
        exact ⟨.same _, formed, fun _ _ => rfl, fun _ _ _ => rfl,
          fun _ _ child there => ⟨child, there, .inl rfl⟩⟩
  have second := chain_touched (fun entry _ => descend_touches options extent entry) exactly
    distinct (fun entry member old new formed entered => (forms entry member).enter old new formed entered)
    first.formed descended
  refine ⟨first.shape.trans second.shape, second.formed, ?_, ?_, ?_⟩
  · intro step isExact
    rw [second.present step isExact, first.present step isExact]
  · intro step isExact other
    rw [second.others step isExact other, first.others step isExact other]
  · intro entry member child there
    obtain ⟨entered, found, ran⟩ := second.each entry member child there
    obtain ⟨old, found', -⟩ := first.each entry member entered found
    exact ⟨old, found', entered, Json.wellFormed_child first.formed found, ran⟩

/-- Without normalization such a row accepts a value exactly if every child it looks at is accepted. -/
theorem editing_plain (keep : ∀ entry ∈ entries, entry.2.Keeps .plain) (value : Json) :
    chain extent (editing .plain extent entries) value = accept value ↔
      ∀ entry ∈ entries, ∀ child, value.child? entry.1 = some child →
        entry.2.enter .plain extent child = accept child := by
  have descends : ∀ entry ∈ entries, entry.2.descend .plain extent entry.1 value = accept value ↔
      ∀ child, value.child? entry.1 = some child →
        entry.2.enter .plain extent child = accept child := by
    intro entry member
    unfold Part.descend
    split
    · next child found =>
        have kept := (keep entry member extent child).2
        rw [within_eq_accept]
        constructor
        · rintro ⟨last, entered, -⟩ other there
          obtain rfl := Option.some.inj (found.symm.trans there)
          rw [entered] at kept ⊢
          rw [show last = child from kept]
        · intro accepted
          exact ⟨child, accepted child found, Json.setChild_of_child? found⟩
    · next absent => simp [absent]
  have plain : editing .plain extent entries =
      entries.map fun entry => entry.2.descend .plain extent entry.1 := rfl
  rw [plain]
  constructor
  · intro accepted entry member
    refine (descends entry member).mp (accept_of_chain ?_ accepted _ (List.mem_map_of_mem member))
    simp only [List.mem_map, forall_exists_index, and_imp, forall_apply_eq_imp_iff₂]
    exact fun other present => Part.descend_value (keep other present) _ _
  · intro accepted
    apply chain_of_accept
    simp only [List.mem_map, forall_exists_index, and_imp, forall_apply_eq_imp_iff₂]
    exact fun entry member => (descends entry member).mpr (accepted entry member)

end Outcome

end SchemaAlgebra

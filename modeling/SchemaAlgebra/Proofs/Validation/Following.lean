import SchemaAlgebra.Proofs.Validation.Coercions
import SchemaAlgebra.Proofs.Validation.Locality

/-!
Parts that do the same, up to the order of keys, and the keywords that apply them to children. Converting a child and
evaluating it are local steps; so are rows of them for different children, and with these the keywords that hold
schemas for children.
-/

namespace SchemaAlgebra

open Outcome
open Json (Reordered SameShape IsExact child?)

theorem Json.child?_setChild_self {value child : Json} {step : Step} (exactly : IsExact step)
    (found : value.child? step = some child) (new : Json) : (value.setChild step new).child? step = some new := by
  rw [child?_setChild exactly found new exactly, if_pos rfl]

/-- Two parts that do the same to values that differ in the order of keys only, where both can be finished. -/
structure Part.Follows (options : Options) (part other : Part) : Prop where
  coerce : ∀ value value' converted converted', Reordered value value' → part.coerce options value = .ok converted →
    other.coerce options value' = .ok converted' → Option.Rel Reordered converted converted'
  enter : ∀ extent extent' value value' last, Reordered value value' →
    part.enter options extent value = accept last →
    (other.enter options extent' value').fault = none →
      ∃ last', other.enter options extent' value' = accept last' ∧ Reordered last last'
  forms : ∀ extent, part.Forms options extent
  forms' : ∀ extent, other.Forms options extent
  shape : ∀ extent value last, value.wellFormed = true → part.enter options extent value = accept last →
    SameShape value last
  shape' : ∀ extent value last, value.wellFormed = true → other.enter options extent value = accept last →
    SameShape value last

/-- The part changes no value that it accepts. -/
structure Part.Still (options : Options) (part : Part) : Prop where
  coerce : options.coerceTypes = true → ∀ value converted, part.coerce options value = .ok (some converted) →
    converted = value
  enter : ∀ extent value last, part.enter options extent value = accept last → last = value

section

variable {options : Options} {part other : Part} {step : Step} {loud : Prop} {extent extent' : Extent}
  {change change' : Part → Json → Json → Prop} {operation operation' : Json → Outcome} {value last : Json}

theorem changed_of_touches (touches : Touches change operation (step, part)) (exactly : IsExact step)
    (forms : ∀ old new, old.wellFormed = true → change part old new → new.wellFormed = true)
    (quiet : ¬ loud → ∀ old new, change part old new → new = old) (formed : value.wellFormed = true)
    (ran : operation value = accept last) :
    Changed (fun aspect => aspect = .child step ∧ loud) child? value last := by
  rcases touches value last ran with ⟨-, rfl⟩ | ⟨old, new, found, changed, rfl⟩
  · exact .refl formed
  · have formed' := forms old new (Json.wellFormed_child formed found) changed
    refine ⟨Json.sameShape_setChild .., Json.wellFormed_setChild formed found formed', fun aspect isExact free => ?_⟩
    have here := Json.child?_setChild_self exactly found new
    by_cases same : aspect.step = step
    · cases aspect with
      | presence other =>
          obtain rfl : other = step := same
          exact (congrArg Option.isSome here).trans (congrArg Option.isSome found).symm
      | child other =>
          obtain rfl : other = step := same
          have unchanged := quiet (fun holds => free ⟨rfl, holds⟩) old new changed
          exact here.trans ((congrArg some unchanged).trans found.symm)
    · exact .of_eq (by rw [Json.child?_setChild exactly found new isExact, if_neg same])

/-- Two versions of an operation on a child are local, if they do the same to children that differ in the order of
keys only. -/
theorem local_of_touches (touches : Touches change operation (step, part))
    (touches' : Touches change' operation' (step, other)) (exactly : IsExact step)
    (forms : ∀ old new, old.wellFormed = true → change part old new → new.wellFormed = true)
    (forms' : ∀ old new, old.wellFormed = true → change' other old new → new.wellFormed = true)
    (quiet : ¬ loud → ∀ old new, change part old new → new = old)
    (quiet' : ¬ loud → ∀ old new, change' other old new → new = old)
    (absent : ∀ value, value.child? step = none → operation' value = accept value)
    (agree : ∀ value value' old old' last, value.child? step = some old → value'.child? step = some old' →
      Reordered old old' → operation value = accept last → (operation' value').fault = none →
        ∃ new new' last', operation' value' = accept last' ∧ last.child? step = some new ∧
          last'.child? step = some new' ∧ Reordered new new') :
    Local child? child? (fun aspect => aspect = .child step) (fun aspect => aspect = .child step ∧ loud) operation
      operation' where
  inside _ edited := edited.1
  frame value last formed ran := changed_of_touches touches exactly forms quiet formed ran
  frame' value last formed ran := changed_of_touches touches' exactly forms' quiet' formed ran
  agrees value value' last resembles ran ended := by
    have alike : Option.Rel Reordered (value.child? step) (value'.child? step) :=
      resembles.alike (.child step) exactly rfl
    cases found : value.child? step with
    | none =>
        rw [found] at alike
        have found' : value'.child? step = none := by
          cases there : value'.child? step with
          | none => rfl
          | some _ =>
              rw [there] at alike
              cases alike
        refine ⟨value', absent value' found', ?_⟩
        rintro aspect - ⟨rfl, -⟩
        rcases touches value last ran with ⟨-, rfl⟩ | ⟨old, new, there, -⟩
        · simp only [Aspect.Alike, found, found']
          exact .none
        · cases found.symm.trans there
    | some old =>
        cases found' : value'.child? step with
        | none =>
            rw [found, found'] at alike
            cases alike
        | some old' =>
            rw [found, found'] at alike
            have related : Reordered old old' := by
              cases alike
              assumption
            obtain ⟨new, new', last', ran', left, left', reordered⟩ := agree _ _ _ _ _ found found' related ran ended
            refine ⟨last', ran', ?_⟩
            rintro aspect - ⟨rfl, -⟩
            simp only [Aspect.Alike, left, left']
            exact .some reordered

theorem coerceAt_local (coerces : options.coerceTypes = true) (follows : part.Follows options other)
    (exactly : IsExact step) (quiet : ¬ loud → part.Still options) (quiet' : ¬ loud → other.Still options) :
    Local child? child? (fun aspect => aspect = .child step) (fun aspect => aspect = .child step ∧ loud)
      (part.coerceAt options step) (other.coerceAt options step) := by
  refine local_of_touches (coerceAt_touches options (step, part)) (coerceAt_touches options (step, other)) exactly
    ?_ ?_ ?_ ?_ ?_ ?_
  · rintro old new formed (rfl | converted)
    · exact formed
    · exact (follows.forms .all).coerce old new converted
  · rintro old new formed (rfl | converted)
    · exact formed
    · exact (follows.forms' .all).coerce old new converted
  · rintro still old new (rfl | converted)
    · rfl
    · exact (quiet still).coerce coerces old new converted
  · rintro still old new (rfl | converted)
    · rfl
    · exact (quiet' still).coerce coerces old new converted
  · intro value missing
    rw [Part.coerceAt, missing]
  · intro value value' old old' last found found' related ran ended
    have left := Json.child?_setChild_self exactly found
    have left' := Json.child?_setChild_self exactly found'
    simp only [Part.coerceAt, found, found'] at ran ended ⊢
    obtain ⟨converted, coerced, ran⟩ := given_eq_accept.mp ran
    cases coerced' : other.coerce options old' with
    | error fault =>
        rw [coerced'] at ended
        cases ended
    | ok converted' =>
        have same := follows.coerce old old' converted converted' related coerced coerced'
        cases same with
        | none =>
            obtain rfl := accept_inj.mp ran
            exact ⟨old, old', value', rfl, found, found', related⟩
        | @some new new' reordered =>
            obtain rfl := accept_inj.mp ran
            refine ⟨new, new', _, rfl, ?_, ?_, reordered⟩
            · exact left new
            · exact left' new'

theorem descend_local (extent extent' : Extent) (follows : part.Follows options other) (exactly : IsExact step)
    (quiet : ¬ loud → part.Still options) (quiet' : ¬ loud → other.Still options) :
    Local child? child? (fun aspect => aspect = .child step) (fun aspect => aspect = .child step ∧ loud)
      (part.descend options extent step) (other.descend options extent' step) := by
  refine local_of_touches (descend_touches options extent (step, part))
    (descend_touches options extent' (step, other))
    exactly ?_ ?_ ?_ ?_ ?_ ?_
  · exact fun old new formed entered => (follows.forms extent).enter old new formed entered
  · exact fun old new formed entered => (follows.forms' extent').enter old new formed entered
  · exact fun still old new entered => (quiet still).enter extent old new entered
  · exact fun still old new entered => (quiet' still).enter extent' old new entered
  · intro value missing
    rw [Part.descend, missing]
  · intro value value' old old' last found found' related ran ended
    have left := Json.child?_setChild_self exactly found
    have left' := Json.child?_setChild_self exactly found'
    simp only [Part.descend, found, found'] at ran ended ⊢
    obtain ⟨new, entered, rfl⟩ := within_eq_accept.mp ran
    obtain ⟨new', entered', reordered⟩ := follows.enter extent extent' old old' new related entered ended
    refine ⟨new, new', _, within_eq_accept.mpr ⟨new', entered', rfl⟩, ?_, ?_, reordered⟩
    · exact left new
    · exact left' new'

end

theorem Outcome.chain_append_eq (extent : Extent) (first second : List (Json → Outcome)) :
    chain extent (first ++ second) = fun value => (chain extent first value).andThen extent (chain extent second) :=
  funext (chain_append extent first second)

section

variable {κ : Type} {items others : List κ} (extent extent' : Extent)

/-- A row of local operations on different children is local, in whatever order the children come. -/
theorem children_local (stepOf : κ → Step) (loud : κ → Prop) {operation operation' : κ → Json → Outcome}
    (permuted : items.Perm others) (distinct : items.Nodup)
    (injective : ∀ item ∈ items, ∀ item' ∈ items, stepOf item = stepOf item' → item = item')
    (each : ∀ item ∈ items, Local child? child? (fun aspect => aspect = .child (stepOf item))
      (fun aspect => aspect = .child (stepOf item) ∧ loud item) (operation item) (operation' item)) :
    Local child? child? (fun aspect => ∃ item ∈ items, aspect = .child (stepOf item))
      (fun aspect => ∃ item ∈ items, aspect = .child (stepOf item) ∧ loud item) (chain extent (items.map operation))
      (chain extent' (others.map operation')) := by
  refine Local.row permuted ⟨distinct, fun item _ aspect edited => edited.1, ?_⟩ each extent extent'
  rintro item listed item' listed' differ aspect ⟨rfl, -⟩ same
  exact differ (injective item listed item' listed' (Aspect.child.inj same))

variable {options : Options} {part other : κ → Part}

/-- Converting and evaluating different children is local, in whatever order the children come. -/
theorem editing_local (stepOf : κ → Step) (loud : κ → Prop) (permuted : items.Perm others) (distinct : items.Nodup)
    (injective : ∀ item ∈ items, ∀ item' ∈ items, stepOf item = stepOf item' → item = item')
    (exactly : ∀ item ∈ items, IsExact (stepOf item))
    (follows : ∀ item ∈ items, (part item).Follows options (other item))
    (quiet : ∀ item ∈ items, ¬ loud item → (part item).Still options ∧ (other item).Still options) :
    Local child? child? (fun aspect => ∃ item ∈ items, aspect = .child (stepOf item))
      (fun aspect => ∃ item ∈ items, aspect = .child (stepOf item) ∧ loud item)
      (chain extent (editing options extent (items.map fun item => (stepOf item, part item))))
      (chain extent' (editing options extent' (others.map fun item => (stepOf item, other item)))) := by
  have descents := children_local extent extent' stepOf loud permuted distinct injective
    fun item listed => descend_local extent extent' (follows item listed) (exactly item listed)
      (fun still => (quiet item listed still).1) fun still => (quiet item listed still).2
  cases coerces : options.coerceTypes with
  | false => 
      simp only [editing, coerces, Bool.false_eq_true, if_false, List.nil_append, List.map_map]
      exact descents
  | true =>
      have coercions := children_local extent extent' stepOf loud permuted distinct injective
        fun item listed => coerceAt_local coerces (follows item listed) (exactly item listed)
          (fun still => (quiet item listed still).1) fun still => (quiet item listed still).2
      simp only [editing, coerces, if_true, List.map_map, chain_append_eq]
      exact coercions.andThen descents extent extent'

end

end SchemaAlgebra

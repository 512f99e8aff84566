import SchemaAlgebra.Proofs.Builder.Refinement

/-!
Alternatives and undeclared properties. Offering alternatives remakes the schemas of the named properties one after the
other; what undeclared properties have to match is no matter of the declared ones.
-/

namespace SchemaAlgebra

namespace Builder

open Property

variable {store later : Store} {address place : Nat} {members : Fields String Slot} {before names texts : List String}
  {values : Fields String Json} {operand : Operand} {value : Json}

/-- Rounds that each remake the schema of one name come to an end, remake those of all names, and leave the schema
otherwise as it was. -/
theorem outcome_rounds (rounds : List Json → Change Unit) (keeps : Store → Prop) {make : Json → Json}
    (done : rounds [] = pure ())
    (round : ∀ {store : Store} {members : Fields String Slot} {values : Fields String Json} {name : String}
      {current : Slot} {mine : Json} (rest : List Json), keeps store →
      Gathers store address place members before names values → Fields.get? members name = some current →
      store.Supplies address current mine → ∃ next slot,
        outcome (rounds (.string name :: rest)) store = outcome (rounds rest) next ∧ keeps next ∧
          store.Carries next address ∧
          Gathers next address place (Fields.put members name slot) before names (Fields.put values name (make mine)))
    (texts : List String) :
    ∀ {store : Store} {members : Fields String Slot} {values : Fields String Json}, keeps store →
      Gathers store address place members before names values → (∀ name ∈ texts, Fields.has members name = true) →
      ∃ later members' values', outcome (rounds (texts.map .string)) store = (.ok (), later) ∧
        store.Carries later address ∧ Gathers later address place members' before names values' ∧
        flagged values' names = texts.foldl (remake make) (flagged values names) := by
  induction texts with
  | nil =>
      intro store members values _ gathers _
      rw [List.map_nil, done]
      exact ⟨store, members, values, rfl, .refl, gathers, rfl⟩
  | cons name rest ih =>
      intro store members values kept gathers present
      obtain ⟨here, present⟩ := List.forall_mem_cons.mp present
      obtain ⟨current, held⟩ := Option.isSome_iff_exists.mp here
      obtain ⟨mine, held', own⟩ := gathers.presents.supplies.exists_of_get? held
      have distinct := gathers.presents.describes.distinct
      rw [gathers.presents.values.keys] at distinct
      obtain ⟨next, slot, same, kept', carries, gathers'⟩ := round (rest.map .string) kept gathers held own
      obtain ⟨later, members', values', ran, carries', last, flags⟩ :=
        ih kept' gathers' fun other listed => held_put (present other listed)
      rw [flagged_remake distinct held' make] at flags
      rw [List.map_cons, same]
      exact ⟨later, members', values', ran, carries.trans carries', last, flags⟩

/-- Rounds that go on from the properties that a schema has lead to those that they remake. -/
theorem rounds_represent {rounds : List Json → Change Unit} {make : Json → Json} (done : rounds [] = pure ())
    (presents : store.Presents address members names values) (requires : Requires values names)
    (present : ∀ name ∈ texts, Fields.has members name = true)
    (remakes : ∀ {place : Nat}, Gathers store address place members names names values →
      ∃ later members' values', outcome (rounds (texts.map .string)) store = (.ok (), later) ∧
        store.Carries later address ∧ Gathers later address place members' names names values' ∧
        flagged values' names = texts.foldl (remake make) (flagged values names))
    (ran : outcome (rounds (texts.map .string)) store = (.ok (), later)) :
    later.Represents address (texts.foldl (remake make) (flagged values names)) := by
  cases texts with
  | nil =>
      rw [List.map_nil, done] at ran
      obtain rfl : store = later := congrArg Prod.snd ran
      exact ⟨_, _, _, presents, rfl⟩
  | cons name rest =>
      obtain ⟨place, found⟩ := presents.describes.place (present name List.mem_cons_self)
      obtain ⟨later', members', values', ran', -, gathers, flags⟩ := remakes ⟨presents, found, requires⟩
      obtain rfl : later' = later := congrArg Prod.snd (ran'.symm.trans ran)
      exact ⟨_, _, _, gathers.presents, flags⟩

theorem offer_round {alternative : Nat} {name : String} {current : Slot} {mine : Json} (rest : List Json)
    (supplies : store.Supplies address (.node alternative) value)
    (gathers : Gathers store address place members before names values) (held : Fields.get? members name = some current)
    (own : store.Supplies address current mine) : ∃ next slot,
      outcome (offer address alternative (.string name :: rest)) store = outcome (offer address alternative rest) next ∧
        next.Supplies address (.node alternative) value ∧ store.Carries next address ∧
        Gathers next address place (Fields.put members name slot) before names
          (Fields.put values name (orElse value mine)) := by
  have closed := gathers.presents.closed
  have inside := gathers.presents.describes.inside
  have grown := store.copy_extends (.node alternative)
  have extended := gathers.extend (Store.closed_copy closed supplies.within) grown
  have copied := gathers.presents.supplies_copy supplies.within supplies.denotes
  obtain ⟨choosing, carries⟩ := extended.choose name (own.extend closed inside grown) copied gathers.requires.distinct
    fun _ listed => .inr listed
  have carries' := (grown.carries closed inside).trans carries
  exact ⟨_, _, outcome_offer gathers.presents.describes gathers.found held rest, carries'.supplies supplies, carries',
    choosing⟩

theorem offerArrays_round {name : String} {current : Slot} {mine : Json} (rest : List Json)
    (gathers : Gathers store address place members before names values) (held : Fields.get? members name = some current)
    (own : store.Supplies address current mine) : ∃ next slot,
      outcome (offerArrays address (.string name :: rest)) store = outcome (offerArrays address rest) next ∧
        store.Carries next address ∧
        Gathers next address place (Fields.put members name slot) before names
          (Fields.put values name (orElse (listsOf mine) mine)) := by
  have inside := gathers.presents.describes.inside
  have copying := store.copy_extends current
  have extended := gathers.extend (Store.closed_copy gathers.presents.closed own.within) copying
  have copied := gathers.presents.supplies_copy own.within own.denotes
  have related : Fields.Rel ((store.copy current).2.Supplies address) (listOf (store.copy current).1)
      [("type", .string "array"), ("items", mine)] := .cons ⟨rfl, .string "array"⟩ (.cons ⟨rfl, copied⟩ .nil)
  have listed := extended.presents.supplies_push related
  have pushing := Store.Extends.push (store.copy current).2 (listOf (store.copy current).1)
  have pushed := extended.extend (extended.presents.closed.push (within_listOf copied.within)) pushing
  have carries := (copying.carries gathers.presents.closed inside).trans
    (pushing.carries extended.presents.closed extended.presents.describes.inside)
  obtain ⟨choosing, carries'⟩ :=
    pushed.choose name (carries.supplies own) listed gathers.requires.distinct fun _ listed => .inr listed
  rw [Store.size_push] at choosing carries'
  exact ⟨_, _, outcome_offerArrays gathers.presents.describes gathers.found held rest, carries.trans carries', choosing⟩

/-- The rounds of offering lists. -/
theorem outcome_offerArrays_named (gathers : Gathers store address place members before names values)
    (present : ∀ name ∈ texts, Fields.has members name = true) :
    ∃ later members' values', outcome (offerArrays address (texts.map .string)) store = (.ok (), later) ∧
      store.Carries later address ∧ Gathers later address place members' before names values' ∧
      flagged values' names =
        texts.foldl (remake fun schema => orElse (listsOf schema) schema) (flagged values names) := by
  refine outcome_rounds (offerArrays address) (fun _ => True) rfl (fun rest _ gathers held own => ?_) texts trivial gathers
    present
  obtain ⟨next, slot, same, carries, gathers'⟩ := offerArrays_round rest gathers held own
  exact ⟨next, slot, same, trivial, carries, gathers'⟩

theorem transform_represents {root : Nat} (presents : store.Presents address members names values)
    (requires : Requires values names) (supplies : store.Supplies address (.node root) value) (given : operand.Lists texts)
    (ran : outcome (transform address (.builder root) operand) store = (.ok (), later)) :
    later.Represents address (texts.foldl (remake (orElse value)) (flagged values names)) := by
  obtain ⟨present, alternative, ⟨⟩, offers⟩ := transform_ok presents.describes given ran
  refine rounds_represent rfl presents requires present (fun gathers => ?_) offers
  exact outcome_rounds (offer address root) (fun store => store.Supplies address (.node root) value) rfl
    (fun rest kept gathers held own => offer_round rest kept gathers held own) texts supplies gathers present

theorem transformToArray_represents (presents : store.Presents address members names values)
    (requires : Requires values names)
    (given : operand.isNull = true ∧ texts = (flagged values names).map Property.name ∨ operand.Lists texts)
    (ran : outcome (transformToArray address operand) store = (.ok (), later)) :
    later.Represents address
      (texts.foldl (remake fun schema => orElse (listsOf schema) schema) (flagged values names)) := by
  rw [names_flagged, ← presents.values.keys] at given
  obtain ⟨present, offers⟩ := transformToArray_ok presents.describes given ran
  exact rounds_represent rfl presents requires present (fun gathers => outcome_offerArrays_named gathers present) offers

/-- Saying what undeclared properties have to match leaves the list, and leaves a schema that has no end if what is said
leads back to it. -/
theorem addAdditional_cases {fields : List (Key × Json)} (presents : store.Presents address members names values)
    (read : store.Denotes (.node address) (.object fields))
    (known : ∀ root, operand = .builder root → store.Finite (.node root))
    (ran : outcome (addAdditional address operand) store = (.ok (), later)) :
    (∃ revised, later.Denotes (.node address) (.object revised) ∧ declared revised = declared fields) ∨
      (∃ root, operand = .builder root ∧ ¬ store.Apart (· = address) (.node root)) ∧
        later.tree? (.node address) = none ∧ later.Enumerates address ((flagged values names).map flag) := by
  obtain ⟨slot, kind, rfl⟩ := addAdditional_ok ran
  have inside := presents.describes.inside
  have put {value : Json} (apart : store.Apart (· = address) slot) (given : store.Denotes slot value) :
      ∃ revised, (store.replace address (Fields.put (store.cell address) "additionalProperties" slot)).Denotes
        (.node address) (.object revised) ∧ declared revised = declared fields :=
    ⟨_, Store.denotes_put inside read apart given, declared_put (by simp) (by simp) value⟩
  rcases kind with rfl | ⟨root, rfl, rfl⟩
  · exact .inl (put (fun _ named => absurd named List.not_mem_nil) (Store.denotes_bool.mpr rfl))
  · by_cases apart : store.Apart (· = address) (.node root)
    · obtain ⟨value, given⟩ := known root rfl
      exact .inl (put apart given)
    · refine .inr ⟨⟨root, rfl, apart⟩, Store.endless_put inside apart, ?_⟩
      exact enumerates_of_keys (presents.describes.put (by simp) (by simp) _) presents.values.keys

end Builder

end SchemaAlgebra

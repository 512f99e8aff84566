import SchemaAlgebra.Proofs.Validation.Rewriting

/-!
Rows of conversions and evaluations of different children, known exactly. A row accepts if every child that it looks
at can be converted and evaluated; it leaves each of them as it comes out of that, and everything else as it was. So
what becomes of a child depends on this child and on its own schema, whatever else is in the row and in which order.
-/

namespace SchemaAlgebra

open Outcome
open Json (IsExact SameShape child?)

namespace Outcome

/-- An operation changes what a step leads to, if anything is there, as it may, and does nothing else. It accepts
whatever it can change. -/
def Changes (change : Json → Json → Prop) (step : Step) (operation : Json → Outcome) : Prop :=
  ∀ value last, operation value = accept last ↔
    (value.child? step = none ∧ last = value) ∨
      ∃ old new, value.child? step = some old ∧ change old new ∧ last = value.setChild step new

/-- What a row of changes at different steps has made of a value. -/
structure Rowed (change : Part → Json → Json → Prop) (entries : List (Step × Part)) (before after : Json) :
    Prop where
  shape : SameShape before after
  names : namesOf after = namesOf before
  others : ∀ step, IsExact step → step ∉ entries.map Prod.fst → after.child? step = before.child? step
  each : ∀ entry ∈ entries, Option.Rel (change entry.2) (before.child? entry.1) (after.child? entry.1)

theorem namesOf_setChild {value child : Json} {step : Step} (found : value.child? step = some child) (new : Json) :
    namesOf (value.setChild step new) = namesOf value := by
  cases step with
  | index i => cases value <;> rfl
  | member key =>
      cases value with
      | object fields =>
          obtain ⟨others, same, keys⟩ := Json.keys_setChild found new
          rw [same]
          exact keys
      | _ => rfl

variable {change : Part → Json → Json → Prop} {entries : List (Step × Part)} {extent : Extent} {value last : Json}
  {operation : Step × Part → Json → Outcome}

variable (change) in
theorem chain_rowed (changes : ∀ entry ∈ entries, Changes (change entry.2) entry.1 (operation entry))
    (exactly : ∀ entry ∈ entries, IsExact entry.1) (distinct : (entries.map Prod.fst).Nodup)
    (ran : chain extent (entries.map operation) value = accept last) : Rowed change entries value last := by
  induction entries generalizing value with
  | nil =>
      obtain rfl := accept_inj.mp ran
      exact ⟨.same _, rfl, fun _ _ _ => rfl, by simp⟩
  | cons entry rest ih =>
      obtain ⟨middle, first, later⟩ := chain_cons_eq_accept.mp ran
      obtain ⟨fresh, distinct'⟩ := List.nodup_cons.mp distinct
      obtain ⟨exactly', others⟩ := List.forall_mem_cons.mp exactly
      have rowed := ih (fun other listed => changes other (List.mem_cons_of_mem _ listed)) others distinct' later
      have here := rowed.others entry.1 exactly' fresh
      rcases (changes entry List.mem_cons_self value middle).mp first with
        ⟨absent, rfl⟩ | ⟨old, new, found, changed, rfl⟩
      · refine ⟨rowed.shape, rowed.names, fun step isExact other => ?_, ?_⟩
        · exact rowed.others step isExact fun listed => other (List.mem_cons_of_mem _ listed)
        · refine List.forall_mem_cons.mpr ⟨?_, rowed.each⟩
          rw [here, absent]
          exact .none
      · have read := fun {step} (isExact : IsExact step) => Json.child?_setChild exactly' found new isExact
        refine ⟨(Json.sameShape_setChild ..).trans rowed.shape, rowed.names.trans (namesOf_setChild found new),
          fun step isExact other => ?_, List.forall_mem_cons.mpr ⟨?_, fun other listed => ?_⟩⟩
        · rw [rowed.others step isExact fun listed => other (List.mem_cons_of_mem _ listed), read isExact,
            if_neg (by rintro rfl; exact other List.mem_cons_self)]
        · rw [here, read exactly', if_pos rfl, found]
          exact .some changed
        · have apart : other.1 ≠ entry.1 := fun same => fresh (same ▸ List.mem_map_of_mem listed)
          have left := rowed.each other listed
          rwa [read (others other listed), if_neg apart] at left

variable (change) in
/-- A row accepts a value if every child that it looks at can be changed. -/
theorem chain_accepts_row (changes : ∀ entry ∈ entries, Changes (change entry.2) entry.1 (operation entry))
    (exactly : ∀ entry ∈ entries, IsExact entry.1) (distinct : (entries.map Prod.fst).Nodup)
    (each : ∀ entry ∈ entries, ∀ child, value.child? entry.1 = some child → ∃ new, change entry.2 child new) :
    ∃ last, chain extent (entries.map operation) value = accept last := by
  induction entries generalizing value with
  | nil => exact ⟨value, rfl⟩
  | cons entry rest ih =>
      obtain ⟨fresh, distinct'⟩ := List.nodup_cons.mp distinct
      obtain ⟨exactly', others⟩ := List.forall_mem_cons.mp exactly
      obtain ⟨first, each'⟩ := List.forall_mem_cons.mp each
      have changes' := fun other listed => changes other (List.mem_cons_of_mem entry listed)
      cases found : value.child? entry.1 with
      | none =>
          obtain ⟨last, later⟩ := ih changes' others distinct' each'
          exact ⟨last, chain_cons_eq_accept.mpr
            ⟨value, (changes entry List.mem_cons_self _ _).mpr (.inl ⟨found, rfl⟩), later⟩⟩
      | some child =>
          obtain ⟨new, changed⟩ := first child found
          have each'' : ∀ other ∈ rest, ∀ child, (value.setChild entry.1 new).child? other.1 = some child →
              ∃ new, change other.2 child new := by
            intro other listed child there
            have apart : other.1 ≠ entry.1 := fun same => fresh (same ▸ List.mem_map_of_mem listed)
            rw [Json.child?_setChild exactly' found new (others other listed), if_neg apart] at there
            exact each' other listed child there
          obtain ⟨last, later⟩ := ih changes' others distinct' each''
          exact ⟨last, chain_cons_eq_accept.mpr
            ⟨_, (changes entry List.mem_cons_self _ _).mpr (.inr ⟨child, new, found, changed, rfl⟩), later⟩⟩

end Outcome

namespace Part

variable {part : Part} {options : Options} {extent : Extent} {old new : Json}

/-- The part converts a value to another one, which is the value itself if nothing is to be converted. -/
def Converts (part : Part) (options : Options) (old new : Json) : Prop :=
  if options.coerceTypes then ∃ converted, part.coerce options old = .ok converted ∧ new = converted.getD old
  else new = old

/-- Converted and then entered, a value comes out as another one. -/
def Settles (part : Part) (options : Options) (extent : Extent) (old new : Json) : Prop :=
  ∃ middle, part.Converts options old middle ∧ part.enter options extent middle = accept new

theorem Converts.unique {other : Json} (converts : part.Converts options old new)
    (converts' : part.Converts options old other) : new = other := by
  unfold Converts at converts converts'
  split at converts
  · next coerces =>
      rw [if_pos coerces] at converts'
      obtain ⟨converted, found, rfl⟩ := converts
      obtain ⟨converted', found', rfl⟩ := converts'
      rw [Except.ok.inj (found.symm.trans found')]
  · next coerces =>
      rw [if_neg coerces] at converts'
      rw [converts, converts']

/-- What becomes of a child is determined. -/
theorem Settles.unique {other : Json} (settles : part.Settles options extent old new)
    (settles' : part.Settles options extent old other) : new = other := by
  obtain ⟨middle, converts, entered⟩ := settles
  obtain ⟨middle', converts', entered'⟩ := settles'
  obtain rfl := converts.unique converts'
  exact accept_inj.mp (entered.symm.trans entered')

theorem changes_coerceAt (coerces : options.coerceTypes = true) (step : Step) :
    Changes (part.Converts options) step (part.coerceAt options step) := by
  intro value last
  unfold coerceAt Converts
  cases found : value.child? step with
  | none => simpa using accept_inj.trans eq_comm
  | some old =>
      simp only [coerces, if_true, reduceCtorEq, false_and, false_or, Option.some.injEq]
      rw [given_eq_accept]
      constructor
      · rintro ⟨_ | new, coerced, ended⟩
        · refine ⟨old, old, rfl, ⟨none, coerced, rfl⟩, ?_⟩
          rw [Json.setChild_of_child? found]
          exact (accept_inj.mp ended).symm
        · exact ⟨old, new, rfl, ⟨some new, coerced, rfl⟩, (accept_inj.mp ended).symm⟩
      · rintro ⟨_, _, rfl, ⟨converted, coerced, rfl⟩, rfl⟩
        refine ⟨converted, coerced, ?_⟩
        cases converted with
        | none => exact accept_inj.mpr (Json.setChild_of_child? found).symm
        | some new => rfl

theorem changes_descend (step : Step) :
    Changes (fun old new => part.enter options extent old = accept new) step (part.descend options extent step) := by
  intro value last
  unfold descend
  cases found : value.child? step with
  | none => simpa using accept_inj.trans eq_comm
  | some old =>
      simp only [reduceCtorEq, false_and, false_or, Option.some.injEq]
      rw [within_eq_accept]
      constructor
      · rintro ⟨new, entered, rfl⟩
        exact ⟨old, new, rfl, entered, rfl⟩
      · rintro ⟨_, new, rfl, entered, rfl⟩
        exact ⟨new, entered, rfl⟩

end Part

namespace Outcome

variable {options : Options} {extent : Extent} {entries : List (Step × Part)} {value last : Json}

/-- The conversions of a row, if there are any. -/
theorem converting_rowed (exactly : ∀ entry ∈ entries, IsExact entry.1) (distinct : (entries.map Prod.fst).Nodup)
    (ran : chain extent (if options.coerceTypes then entries.map fun entry => entry.2.coerceAt options entry.1 else [])
      value = accept last) : Rowed (fun part => part.Converts options) entries value last := by
  cases coerces : options.coerceTypes with
  | true =>
      rw [if_pos coerces] at ran
      exact chain_rowed _ (fun entry _ => Part.changes_coerceAt coerces entry.1) exactly distinct ran
  | false =>
      rw [if_neg (by simp [coerces])] at ran
      obtain rfl := accept_inj.mp ran
      refine ⟨.same _, rfl, fun _ _ _ => rfl, fun entry _ => ?_⟩
      cases value.child? entry.1 with
      | none => exact .none
      | some child => exact .some (by simp [Part.Converts, coerces])

theorem converting_accepts (exactly : ∀ entry ∈ entries, IsExact entry.1) (distinct : (entries.map Prod.fst).Nodup)
    (each : ∀ entry ∈ entries, ∀ child, value.child? entry.1 = some child →
      ∃ new, entry.2.Converts options child new) :
    ∃ last, chain extent (if options.coerceTypes then entries.map fun entry => entry.2.coerceAt options entry.1
      else []) value = accept last := by
  cases coerces : options.coerceTypes with
  | true =>
      rw [if_pos rfl]
      exact chain_accepts_row (fun part => part.Converts options)
        (fun entry _ => Part.changes_coerceAt coerces entry.1) exactly distinct each
  | false => exact ⟨value, rfl⟩

/-- In a row that accepts every child comes out as its schema settles it. -/
theorem editing_rowed (exactly : ∀ entry ∈ entries, IsExact entry.1) (distinct : (entries.map Prod.fst).Nodup)
    (ran : chain extent (editing options extent entries) value = accept last) :
    Rowed (fun part => part.Settles options extent) entries value last := by
  obtain ⟨middle, coerced, descended⟩ := chain_append_eq_accept.mp ran
  have first := converting_rowed exactly distinct coerced
  have second := chain_rowed (fun part old new => part.enter options extent old = accept new)
    (fun entry _ => Part.changes_descend entry.1) exactly distinct descended
  refine ⟨first.shape.trans second.shape, second.names.trans first.names, fun step isExact other => ?_,
    fun entry listed => ?_⟩
  · rw [second.others step isExact other, first.others step isExact other]
  · have converted := first.each entry listed
    have entered := second.each entry listed
    revert converted entered
    generalize value.child? entry.1 = child, middle.child? entry.1 = child', last.child? entry.1 = child''
    intro converted entered
    cases converted with
    | none =>
        cases entered
        exact .none
    | some converts =>
        obtain ⟨entered⟩ := entered
        exact .some ⟨_, converts, entered⟩

/-- A row accepts a value if every child that it looks at can be settled. -/
theorem editing_accepts (exactly : ∀ entry ∈ entries, IsExact entry.1) (distinct : (entries.map Prod.fst).Nodup)
    (each : ∀ entry ∈ entries, ∀ child, value.child? entry.1 = some child →
      ∃ new, entry.2.Settles options extent child new) :
    ∃ last, chain extent (editing options extent entries) value = accept last := by
  obtain ⟨middle, coerced⟩ := converting_accepts exactly distinct
    fun entry listed child found =>
      let ⟨_, middle, converts, _⟩ := each entry listed child found
      ⟨middle, converts⟩
  have first := converting_rowed exactly distinct coerced
  have second : ∀ entry ∈ entries, ∀ child, middle.child? entry.1 = some child →
      ∃ new, entry.2.enter options extent child = accept new := by
    intro entry listed child found
    have converted := first.each entry listed
    rw [found] at converted
    obtain ⟨old, there, converts⟩ : ∃ old, value.child? entry.1 = some old ∧ entry.2.Converts options old child := by
      revert converted
      generalize value.child? entry.1 = before
      intro converted
      obtain ⟨converts⟩ := converted
      exact ⟨_, rfl, converts⟩
    obtain ⟨new, middle, converts', entered⟩ := each entry listed old there
    exact ⟨new, converts'.unique converts ▸ entered⟩
  obtain ⟨last, descended⟩ := chain_accepts_row (fun part old new => part.enter options extent old = accept new)
    (fun entry _ => Part.changes_descend entry.1) exactly distinct second
  exact ⟨last, chain_append_eq_accept.mpr ⟨middle, coerced, descended⟩⟩

end Outcome

end SchemaAlgebra

import SchemaAlgebra.Proofs.Validation.Compatibility

/-!
Steps that look at some aspects of a value only and change fewer. Two versions of such a step do the same to values
that are alike in what it looks at. In a row of steps of which none changes what another one looks at, each finds
what the whole row was given; so a row and its steps in another order end alike.
-/

namespace SchemaAlgebra

open Outcome
open Json (Reordered SameShape IsExact)

/-- What can be looked at in a value: whether there is a child at a step, or the child. -/
inductive Aspect
  | presence (step : Step)
  | child (step : Step)

namespace Aspect

/-- The step that an aspect is about. -/
def step : Aspect → Step
  | presence step | child step => step

/-- An aspect is the same before and after. -/
def Kept (before after : Step → Option Json) : Aspect → Prop
  | presence step => (after step).isSome = (before step).isSome
  | child step => after step = before step

/-- An aspect differs in the order of keys at most. -/
def Alike (one other : Step → Option Json) : Aspect → Prop
  | presence step => (other step).isSome = (one step).isSome
  | child step => Option.Rel Reordered (one step) (other step)

variable {aspect : Aspect} {first second third fourth : Step → Option Json}

theorem Kept.refl (look : Step → Option Json) (aspect : Aspect) : aspect.Kept look look := by
  cases aspect <;> rfl

theorem Kept.trans (left : aspect.Kept first second) (right : aspect.Kept second third) :
    aspect.Kept first third := by
  cases aspect <;> exact Eq.trans right left

theorem Kept.of_eq (same : second aspect.step = first aspect.step) : aspect.Kept first second := by
  cases aspect with
  | presence => exact congrArg Option.isSome same
  | child => exact same

theorem Alike.symm (alike : aspect.Alike first second) : aspect.Alike second first := by
  cases aspect with
  | presence => exact Eq.symm alike
  | child step =>
      simp only [Alike] at alike ⊢
      generalize first step = child, second step = child' at alike ⊢
      cases alike with
      | some related => exact .some related.symm
      | none => exact .none

/-- What is alike stays alike as long as it is kept. -/
theorem Alike.of_kept (alike : aspect.Alike first second) (kept : aspect.Kept first third)
    (kept' : aspect.Kept second fourth) : aspect.Alike third fourth := by
  cases aspect with
  | presence step =>
      simp only [Kept] at kept kept'
      simp only [Alike, kept, kept']
      exact alike
  | child step =>
      simp only [Kept] at kept kept'
      simp only [Alike, kept, kept']
      exact alike

/-- Where the children are alike, both or none is there. -/
theorem Alike.presence {step : Step} (alike : (Aspect.child step).Alike first second) :
    (Aspect.presence step).Alike first second := by
  simp only [Alike] at alike ⊢
  generalize first step = child, second step = child' at alike ⊢
  cases alike <;> rfl

end Aspect

/-- What is left of a value when certain aspects of it may have been changed. -/
structure Changed (edits : Aspect → Prop) (look : Json → Step → Option Json) (before after : Json) : Prop where
  shape : SameShape before after
  formed : after.wellFormed = true
  kept : ∀ aspect : Aspect, IsExact aspect.step → ¬ edits aspect → aspect.Kept (look before) (look after)

/-- Two values of one shape that are alike in certain aspects. -/
structure Resembles (reads : Aspect → Prop) (look look' : Json → Step → Option Json) (value value' : Json) :
    Prop where
  shape : SameShape value value'
  formed : value.wellFormed = true
  formed' : value'.wellFormed = true
  alike : ∀ aspect : Aspect, IsExact aspect.step → reads aspect → aspect.Alike (look value) (look' value')

/-- Two versions of a step that looks at certain aspects of a value and changes some of these. Where one version
accepts, the other one does too, unless it cannot be finished, and both leave the same but for the order of keys. -/
structure Local (look look' : Json → Step → Option Json) (reads edits : Aspect → Prop)
    (step step' : Json → Outcome) :
    Prop where
  inside : ∀ aspect, edits aspect → reads aspect
  frame : ∀ value last, value.wellFormed = true → step value = accept last → Changed edits look value last
  frame' : ∀ value last, value.wellFormed = true → step' value = accept last → Changed edits look' value last
  agrees : ∀ value value' last, Resembles reads look look' value value' → step value = accept last →
    (step' value').fault = none → ∃ last', step' value' = accept last' ∧
      ∀ aspect : Aspect, IsExact aspect.step → edits aspect → aspect.Alike (look last) (look' last')

variable {look look' : Json → Step → Option Json} {reads edits reads' edits' wider : Aspect → Prop}
  {value value' last : Json}

namespace Changed

theorem refl (formed : value.wellFormed = true) : Changed edits look value value :=
  ⟨.same _, formed, fun _ _ _ => .refl _ _⟩

theorem mono (changed : Changed edits look value last) (wider : ∀ aspect, edits aspect → edits' aspect) :
    Changed edits' look value last :=
  ⟨changed.shape, changed.formed, fun aspect exactly free => changed.kept aspect exactly fun edited =>
    free (wider _ edited)⟩

theorem trans {middle : Json} (first : Changed edits look value middle) (second : Changed edits look middle last) :
    Changed edits look value last :=
  ⟨first.shape.trans second.shape, second.formed, fun aspect exactly free =>
    (first.kept aspect exactly free).trans (second.kept aspect exactly free)⟩

end Changed

theorem Json.SameShape.symm {before after : Json} (shape : SameShape before after) : SameShape after before := by
  cases shape with
  | same => exact .same _
  | object => exact .object _ _
  | array lengths => exact .array lengths.symm

namespace Resembles

theorem mono (resembles : Resembles wider look look' value value') (inside : ∀ aspect, reads aspect → wider aspect) :
    Resembles reads look look' value value' :=
  ⟨resembles.shape, resembles.formed, resembles.formed', fun aspect exactly read =>
    resembles.alike aspect exactly (inside aspect read)⟩

end Resembles

theorem Outcome.fault_of_andThen {outcome : Outcome} {extent : Extent} {next : Json → Outcome}
    (ended : (outcome.andThen extent next).fault = none) : outcome.fault = none := by
  obtain ⟨value, problems, fault⟩ := outcome
  cases fault with
  | none => rfl
  | some fault => simp [andThen, isOver] at ended

namespace Local

variable {step step' next next' : Json → Outcome}

/-- Whatever else is alike in two values stays alike. -/
theorem resembles (locally : Local look look' reads edits step step')
    (inside : ∀ aspect, reads aspect → wider aspect) (resembles : Resembles wider look look' value value')
    (ran : step value = accept last) (ended : (step' value').fault = none) :
    ∃ last', step' value' = accept last' ∧ Resembles wider look look' last last' := by
  obtain ⟨last', ran', edited⟩ := locally.agrees value value' last (resembles.mono inside) ran ended
  have changed := locally.frame value last resembles.formed ran
  have changed' := locally.frame' value' last' resembles.formed' ran'
  refine ⟨last', ran', (changed.shape.symm.trans resembles.shape).trans changed'.shape, changed.formed,
    changed'.formed, fun aspect exactly read => ?_⟩
  by_cases touched : edits aspect
  · exact edited aspect exactly touched
  · exact (resembles.alike aspect exactly read).of_kept (changed.kept aspect exactly touched)
      (changed'.kept aspect exactly touched)

/-- A local step may be taken to look at more, and to change more of what it looks at. -/
theorem widen (locally : Local look look' reads edits step step') (read : ∀ aspect, reads aspect → reads' aspect)
    (edited : ∀ aspect, edits aspect → edits' aspect) (inside : ∀ aspect, edits' aspect → reads' aspect) :
    Local look look' reads' edits' step step' where
  inside := inside
  frame value last formed ran := (locally.frame value last formed ran).mono edited
  frame' value last formed ran := (locally.frame' value last formed ran).mono edited
  agrees value value' last resembles ran ended := by
    obtain ⟨last', ran', left⟩ := locally.resembles read resembles ran ended
    exact ⟨last', ran', fun aspect exactly touched => left.alike aspect exactly (inside aspect touched)⟩

/-- One local step after the other is local. -/
theorem andThen (first : Local look look' reads edits step step') (second : Local look look' reads edits next next')
    (extent extent' : Extent) :
    Local look look' reads edits (fun value => (step value).andThen extent next)
      (fun value => (step' value).andThen extent' next') where
  inside := first.inside
  frame value last formed ran := by
    obtain ⟨middle, here, later⟩ := andThen_eq_accept.mp ran
    have changed := first.frame value middle formed here
    exact changed.trans (second.frame middle last changed.formed later)
  frame' value last formed ran := by
    obtain ⟨middle, here, later⟩ := andThen_eq_accept.mp ran
    have changed := first.frame' value middle formed here
    exact changed.trans (second.frame' middle last changed.formed later)
  agrees value value' last resembles ran ended := by
    obtain ⟨middle, here, later⟩ := andThen_eq_accept.mp ran
    obtain ⟨middle', here', between⟩ := first.resembles (fun _ read => read) resembles here (fault_of_andThen ended)
    rw [here', accept_andThen] at ended
    obtain ⟨last', later', left⟩ := second.agrees middle middle' last between later ended
    exact ⟨last', andThen_eq_accept.mpr ⟨middle', here', later'⟩, left⟩

/-- Two versions of a step that never changes anything are local if they never contradict each other. -/
theorem of_kept (keeps : ∀ value, (step value).value = value) (keeps' : ∀ value, (step' value).value = value)
    (compatible : ∀ value value', Resembles reads look look' value value' →
      Compatible (step value).answer (step' value').answer) :
    Local look look' reads (fun _ => False) step step' where
  inside _ touched := touched.elim
  frame value last formed ran := by
    obtain rfl : last = value := by rw [← keeps value, ran]; rfl
    exact .refl formed
  frame' value last formed ran := by
    obtain rfl : last = value := by rw [← keeps' value, ran]; rfl
    exact .refl formed
  agrees value value' last resembles ran ended := by
    have said := compatible value value' resembles true (step' value').isValid (by rw [ran]; rfl)
      (answer_of_end ended)
    refine ⟨value', (eq_accept_iff_answer (keeps' value')).mpr ?_, fun _ _ touched => touched.elim⟩
    rw [answer_of_end ended, said]

/-- A step that first finds out what it works on is local, if what it finds out is the same for values that are alike
in what it looks at. -/
theorem given {α : Type} {found found' : Json → Except Fault α} {row row' : α → Json → Outcome} (valid : α → Prop)
    (same : α → α → Prop) (inside : ∀ aspect, edits aspect → reads aspect) (refl : ∀ a, same a a)
    (locally : ∀ a b, valid a → valid b → same a b → Local look look' reads edits (row a) (row' b))
    (validity : ∀ value a, value.wellFormed = true → found value = .ok a → valid a)
    (validity' : ∀ value a, value.wellFormed = true → found' value = .ok a → valid a)
    (related : ∀ value value' a b, Resembles reads look look' value value' → found value = .ok a →
      found' value' = .ok b → same a b) :
    Local look look' reads edits (fun value => Outcome.given (found value) value (row · value))
      (fun value => Outcome.given (found' value) value (row' · value)) where
  inside := inside
  frame value last formed ran := by
    obtain ⟨a, here, ran⟩ := given_eq_accept.mp ran
    have holds := validity value a formed here
    exact (locally a a holds holds (refl a)).frame value last formed ran
  frame' value last formed ran := by
    obtain ⟨a, here, ran⟩ := given_eq_accept.mp ran
    have holds := validity' value a formed here
    exact (locally a a holds holds (refl a)).frame' value last formed ran
  agrees value value' last resembles ran ended := by
    obtain ⟨a, here, ran⟩ := given_eq_accept.mp ran
    cases here' : found' value' with
    | error fault =>
        rw [here'] at ended
        cases ended
    | ok b =>
        rw [here'] at ended
        exact (locally a b (validity _ _ resembles.formed here) (validity' _ _ resembles.formed' here')
          (related _ _ _ _ resembles here here')).agrees value value' last resembles ran ended

end Local

section

variable {κ : Type} {items : List κ} {step : κ → Json → Outcome} {readsOf editsOf : κ → Aspect → Prop}
  {extent : Extent}

/-- Each of several steps keeps what it does not change. -/
def Framed (look : Json → Step → Option Json) (items : List κ) (step : κ → Json → Outcome)
    (editsOf : κ → Aspect → Prop) : Prop :=
  ∀ item ∈ items, ∀ value last, value.wellFormed = true → step item value = accept last →
    Changed (editsOf item) look value last

/-- None of several steps changes what another one looks at. -/
structure Separate (items : List κ) (readsOf editsOf : κ → Aspect → Prop) : Prop where
  distinct : items.Nodup
  inside : ∀ item ∈ items, ∀ aspect, editsOf item aspect → readsOf item aspect
  apart : ∀ item ∈ items, ∀ other ∈ items, item ≠ other → ∀ aspect, editsOf item aspect → ¬ readsOf other aspect

theorem Separate.tail {item : κ} {rest : List κ} (separate : Separate (item :: rest) readsOf editsOf) :
    Separate rest readsOf editsOf where
  distinct := separate.distinct.of_cons
  inside other listed := separate.inside other (List.mem_cons_of_mem _ listed)
  apart other listed other' listed' :=
    separate.apart other (List.mem_cons_of_mem _ listed) other' (List.mem_cons_of_mem _ listed')

theorem Separate.head {item other : κ} {rest : List κ} (separate : Separate (item :: rest) readsOf editsOf)
    (listed : other ∈ rest) (aspect : Aspect) :
    (editsOf item aspect → ¬ readsOf other aspect) ∧ (editsOf item aspect → ¬ editsOf other aspect) := by
  have differ : item ≠ other := by
    rintro rfl
    exact (List.nodup_cons.mp separate.distinct).1 listed
  have later := List.mem_cons_of_mem item listed
  refine ⟨separate.apart item List.mem_cons_self other later differ aspect, fun edited edited' => ?_⟩
  exact separate.apart item List.mem_cons_self other later differ aspect edited
    (separate.inside other later aspect edited')

theorem chain_changed (framed : Framed look items step editsOf) (formed : value.wellFormed = true)
    (ran : chain extent (items.map step) value = accept last) :
    Changed (fun aspect => ∃ item ∈ items, editsOf item aspect) look value last := by
  induction items generalizing value with
  | nil =>
      obtain rfl := accept_inj.mp ran
      exact .refl formed
  | cons item rest ih =>
      obtain ⟨middle, first, later⟩ := chain_cons_eq_accept.mp ran
      have changed := framed item List.mem_cons_self value middle formed first
      refine (changed.mono fun aspect edited => ⟨item, List.mem_cons_self, edited⟩).trans ?_
      refine (ih (fun other listed => framed other (List.mem_cons_of_mem _ listed)) changed.formed later).mono ?_
      rintro aspect ⟨other, listed, edited⟩
      exact ⟨other, List.mem_cons_of_mem _ listed, edited⟩

/-- Each step of a row that accepts was given what the row was given, in what it looks at, and what it left in what
it changes is what the row left. -/
theorem chain_traced (framed : Framed look items step editsOf) (separate : Separate items readsOf editsOf)
    (formed : value.wellFormed = true) (ran : chain extent (items.map step) value = accept last) :
    ∀ item ∈ items, ∃ before after, step item before = accept after ∧ before.wellFormed = true ∧
      SameShape value before ∧
      (∀ aspect : Aspect, IsExact aspect.step → readsOf item aspect → aspect.Kept (look value) (look before)) ∧
      ∀ aspect : Aspect, IsExact aspect.step → editsOf item aspect → aspect.Kept (look after) (look last) := by
  induction items generalizing value with
  | nil => simp
  | cons first rest ih =>
      obtain ⟨middle, here, later⟩ := chain_cons_eq_accept.mp ran
      have framed' : Framed look rest step editsOf :=
        fun other listed => framed other (List.mem_cons_of_mem _ listed)
      have changed := framed first List.mem_cons_self value middle formed here
      intro item listed
      rcases List.mem_cons.mp listed with rfl | listed
      · refine ⟨value, middle, here, formed, .same _, fun _ _ _ => .refl _ _, fun aspect exactly edited => ?_⟩
        refine (chain_changed framed' changed.formed later).kept aspect exactly ?_
        rintro ⟨other, listed, edited'⟩
        exact (separate.head listed aspect).2 edited edited'
      · obtain ⟨before, after, run, formed', shape, kept, left⟩ :=
          ih framed' separate.tail changed.formed later item listed
        refine ⟨before, after, run, formed', changed.shape.trans shape, fun aspect exactly read => ?_, left⟩
        refine (changed.kept aspect exactly fun edited => ?_).trans (kept aspect exactly read)
        exact (separate.head listed aspect).1 edited read

/-- A row accepts what each of its steps accepts, given the same in what it looks at. -/
theorem chain_accepts (framed : Framed look items step editsOf) (separate : Separate items readsOf editsOf)
    (formed : value.wellFormed = true)
    (each : ∀ item ∈ items, ∀ current, current.wellFormed = true → SameShape value current →
      (∀ aspect : Aspect, IsExact aspect.step → readsOf item aspect → aspect.Kept (look value) (look current)) →
      (step item current).fault = none → ∃ last, step item current = accept last)
    (ended : (chain extent (items.map step) value).fault = none) :
    ∃ last, chain extent (items.map step) value = accept last := by
  induction items generalizing value with
  | nil => exact ⟨value, rfl⟩
  | cons item rest ih =>
      rw [List.map_cons, chain_cons] at ended ⊢
      obtain ⟨middle, first⟩ := each item List.mem_cons_self value formed (.same _) (fun _ _ _ => .refl _ _)
        (fault_of_andThen ended)
      have changed := framed item List.mem_cons_self value middle formed first
      rw [first, accept_andThen] at ended ⊢
      refine ih (fun other listed => framed other (List.mem_cons_of_mem _ listed)) separate.tail changed.formed ?_
        ended
      intro other listed current formed' shape kept
      refine each other (List.mem_cons_of_mem _ listed) current formed' (changed.shape.trans shape) ?_
      intro aspect exactly read
      refine (changed.kept aspect exactly fun edited => ?_).trans (kept aspect exactly read)
      exact (separate.head listed aspect).1 edited read

end

namespace Local

/-- A row of local steps that are separate is local, and so it is in any other order. -/
theorem row {κ : Type} {items others : List κ} (permuted : items.Perm others) {step step' : κ → Json → Outcome}
    {readsOf editsOf : κ → Aspect → Prop} (separate : Separate items readsOf editsOf)
    (each : ∀ item ∈ items, Local look look' (readsOf item) (editsOf item) (step item) (step' item))
    (extent extent' : Extent) :
    Local look look' (fun aspect => ∃ item ∈ items, readsOf item aspect)
      (fun aspect => ∃ item ∈ items, editsOf item aspect) (chain extent (items.map step))
      (chain extent' (others.map step')) := by
  have framed : Framed look items step editsOf := fun item listed => (each item listed).frame
  have framed' : Framed look' others step' editsOf :=
    fun item listed => (each item (permuted.mem_iff.mpr listed)).frame'
  have separate' : Separate others readsOf editsOf :=
    ⟨permuted.nodup_iff.mp separate.distinct, fun item listed => separate.inside item (permuted.mem_iff.mpr listed),
      fun item listed other listed' =>
        separate.apart item (permuted.mem_iff.mpr listed) other (permuted.mem_iff.mpr listed')⟩
  refine ⟨fun aspect ⟨item, listed, edited⟩ => ⟨item, listed, (each item listed).inside aspect edited⟩,
    fun value last formed ran => chain_changed framed formed ran, fun value last formed ran => ?_, ?_⟩
  · refine (chain_changed framed' formed ran).mono ?_
    rintro aspect ⟨item, listed, edited⟩
    exact ⟨item, permuted.mem_iff.mpr listed, edited⟩
  · intro value value' last resembles ran ended
    have traced := chain_traced framed separate resembles.formed ran
    -- a step that was given the same as the row was given does what its counterpart in the other row did
    have step_agrees : ∀ item ∈ items, ∃ after, (∀ aspect : Aspect, IsExact aspect.step → editsOf item aspect →
        aspect.Kept (look after) (look last)) ∧ ∀ current, current.wellFormed = true → SameShape value' current →
          (∀ aspect : Aspect, IsExact aspect.step → readsOf item aspect → aspect.Kept (look' value')
            (look' current)) →
          (step' item current).fault = none → ∃ last', step' item current = accept last' ∧
            ∀ aspect : Aspect, IsExact aspect.step → editsOf item aspect →
              aspect.Alike (look after) (look' last') := by
      intro item listed
      obtain ⟨before, after, run, formed, shape, kept, left⟩ := traced item listed
      refine ⟨after, left, fun current formed' shape' kept' ended => ?_⟩
      refine (each item listed).agrees before current after
        ⟨?_, formed, formed', fun aspect exactly read => ?_⟩ run ended
      · exact (shape.symm.trans resembles.shape).trans shape'
      · exact (resembles.alike aspect exactly ⟨item, listed, read⟩).of_kept (kept aspect exactly read)
          (kept' aspect exactly read)
    obtain ⟨last', ran'⟩ := chain_accepts framed' separate' resembles.formed'
      (fun item listed current formed shape kept ended => by
        obtain ⟨after, -, agrees⟩ := step_agrees item (permuted.mem_iff.mpr listed)
        obtain ⟨last', ran', -⟩ := agrees current formed shape kept ended
        exact ⟨last', ran'⟩) ended
    refine ⟨last', ran', ?_⟩
    rintro aspect exactly ⟨item, listed, edited⟩
    obtain ⟨before', after', run', formed', shape', kept', left'⟩ :=
      chain_traced framed' separate' resembles.formed' ran' item (permuted.mem_iff.mp listed)
    obtain ⟨after, left, agrees⟩ := step_agrees item listed
    obtain ⟨other, same, alike⟩ := agrees before' formed' shape' kept' (by rw [run']; rfl)
    obtain rfl := accept_inj.mp (run'.symm.trans same)
    exact (alike aspect exactly edited).of_kept (left aspect exactly edited) (left' aspect exactly edited)

end Local

end SchemaAlgebra

import SchemaAlgebra.Validation.Part

/-!
Sequences of evaluations. A sequence accepts exactly if each of its steps accepts what the step before it
left, and steps that leave a value as it is can be looked at one by one.
-/

namespace SchemaAlgebra.Outcome

theorem accept_inj {value other : Json} : accept value = accept other ↔ value = other := by
  simp [accept]

theorem andThen_assoc (outcome : Outcome) (extent : Extent) (first second : Json → Outcome) :
    (outcome.andThen extent first).andThen extent second =
      outcome.andThen extent fun value => (first value).andThen extent second := by
  obtain ⟨value, problems, fault⟩ := outcome
  cases fault with
  | some fault => simp [andThen, isOver]
  | none =>
      cases extent with
      | all =>
          cases ended : (first value).fault <;> simp [andThen, isOver, ended]
      | first =>
          cases problems with
          | nil =>
              simp only [andThen, isOver, Option.isSome_none, List.isEmpty_nil, Bool.not_true,
                Bool.and_false, Bool.or_false, Bool.false_eq_true, if_false, List.nil_append]
          | cons problem rest => simp [andThen, isOver]

theorem andThen_accept (outcome : Outcome) (extent : Extent) :
    outcome.andThen extent accept = outcome := by
  obtain ⟨value, problems, fault⟩ := outcome
  cases fault <;> simp [andThen, isOver, accept]

theorem foldl_andThen (extent : Extent) (steps : List (Json → Outcome)) (outcome : Outcome) :
    steps.foldl (fun outcome step => outcome.andThen extent step) outcome =
      outcome.andThen extent (chain extent steps) := by
  induction steps generalizing outcome with
  | nil => exact (andThen_accept outcome extent).symm
  | cons step rest ih =>
      have unrolled : chain extent (step :: rest) =
          fun value => (step value).andThen extent (chain extent rest) := by
        funext value
        rw [chain, List.foldl_cons, accept_andThen, ih]
      rw [List.foldl_cons, ih, andThen_assoc, unrolled]

theorem chain_cons (extent : Extent) (step : Json → Outcome) (rest : List (Json → Outcome))
    (value : Json) :
    chain extent (step :: rest) value = (step value).andThen extent (chain extent rest) := by
  rw [chain, List.foldl_cons, accept_andThen, foldl_andThen]

theorem chain_append (extent : Extent) (first second : List (Json → Outcome)) (value : Json) :
    chain extent (first ++ second) value =
      (chain extent first value).andThen extent (chain extent second) := by
  rw [chain, List.foldl_append, foldl_andThen]
  rfl

theorem andThen_eq_accept {outcome : Outcome} {extent : Extent} {next : Json → Outcome}
    {value : Json} :
    outcome.andThen extent next = accept value ↔
      ∃ middle, outcome = accept middle ∧ next middle = accept value := by
  constructor
  · intro accepted
    obtain ⟨middle, problems, fault⟩ := outcome
    cases fault with
    | some fault => simp [andThen, isOver, accept] at accepted
    | none =>
        cases problems with
        | cons problem rest => cases extent <;> simp [andThen, isOver, accept] at accepted
        | nil =>
            refine ⟨middle, rfl, ?_⟩
            simpa [andThen, isOver] using accepted
  · rintro ⟨middle, rfl, accepted⟩
    rw [accept_andThen, accepted]

theorem chain_cons_eq_accept {extent : Extent} {step : Json → Outcome}
    {rest : List (Json → Outcome)} {value last : Json} :
    chain extent (step :: rest) value = accept last ↔
      ∃ middle, step value = accept middle ∧ chain extent rest middle = accept last := by
  rw [chain_cons, andThen_eq_accept]

theorem chain_append_eq_accept {extent : Extent} {first second : List (Json → Outcome)}
    {value last : Json} :
    chain extent (first ++ second) value = accept last ↔
      ∃ middle, chain extent first value = accept middle ∧
        chain extent second middle = accept last := by
  rw [chain_append, andThen_eq_accept]

theorem given_eq_accept {α : Type} {found : Except Fault α} {value last : Json}
    {next : α → Outcome} :
    given found value next = accept last ↔ ∃ a, found = .ok a ∧ next a = accept last := by
  cases found with
  | error fault => simp [given, fail, accept]
  | ok a => simp [given]

theorem within_eq_accept {outcome : Outcome} {place : Problem → Problem} {whole : Json → Json}
    {last : Json} :
    outcome.within place whole = accept last ↔
      ∃ part, outcome = accept part ∧ whole part = last := by
  obtain ⟨part, problems, fault⟩ := outcome
  cases fault <;> cases problems <;> simp [within, accept]

theorem reject_ne_accept {value last : Json} {keyword message : String} {shown : List Json} :
    reject value keyword shown message ≠ accept last := by
  unfold reject
  split <;> simp [accept, fail]

theorem fail_ne_accept {value last : Json} {fault : Fault} : fail value fault ≠ accept last := by
  simp [fail, accept]

@[simp] theorem reject_value (value : Json) (keyword message : String) (shown : List Json) :
    (reject value keyword shown message).value = value := by
  unfold reject
  split <;> rfl

@[simp] theorem fail_value (value : Json) (fault : Fault) : (fail value fault).value = value := rfl

theorem given_value {α : Type} {found : Except Fault α} {value : Json} {next : α → Outcome}
    (keeps : ∀ a, found = .ok a → (next a).value = value) : (given found value next).value = value := by
  cases found with
  | error fault => rfl
  | ok a => exact keeps a rfl

theorem andThen_value {outcome : Outcome} {extent : Extent} {next : Json → Outcome} {value : Json}
    (first : outcome.value = value) (second : (next value).value = value) :
    (outcome.andThen extent next).value = value := by
  unfold andThen
  split
  · exact first
  · simpa [first] using second

theorem chain_value {extent : Extent} {steps : List (Json → Outcome)} {value : Json}
    (keep : ∀ step ∈ steps, (step value).value = value) : (chain extent steps value).value = value := by
  induction steps with
  | nil => rfl
  | cons step rest ih =>
      rw [chain_cons]
      exact andThen_value (keep step (by simp)) (ih fun other member => keep other (by simp [member]))

/-- Steps that accept a value as it is can be run in a row. -/
theorem chain_of_accept {extent : Extent} {steps : List (Json → Outcome)} {value : Json}
    (accepted : ∀ step ∈ steps, step value = accept value) :
    chain extent steps value = accept value := by
  induction steps with
  | nil => rfl
  | cons step rest ih =>
      rw [chain_cons_eq_accept]
      exact ⟨value, accepted step (by simp), ih fun other member => accepted other (by simp [member])⟩

/-- Where no step changes the value, a row of steps accepts only if each of them does. -/
theorem accept_of_chain {extent : Extent} {steps : List (Json → Outcome)} {value last : Json}
    (keep : ∀ step ∈ steps, (step value).value = value)
    (accepted : chain extent steps value = accept last) :
    ∀ step ∈ steps, step value = accept value := by
  induction steps with
  | nil => simp
  | cons step rest ih =>
      obtain ⟨middle, first, later⟩ := chain_cons_eq_accept.mp accepted
      have same : middle = value := by
        have kept := keep step (by simp)
        rwa [first] at kept
      subst same
      intro other member
      rcases List.mem_cons.mp member with rfl | member
      · exact first
      · exact ih (fun other member => keep other (by simp [member])) later other member

/-- Steps that change nothing are looked at one by one. -/
theorem chain_eq_accept_iff {extent : Extent} {steps : List (Json → Outcome)} {value last : Json}
    (keep : ∀ step ∈ steps, (step value).value = value) :
    chain extent steps value = accept last ↔
      last = value ∧ ∀ step ∈ steps, step value = accept value := by
  constructor
  · intro accepted
    have kept : (chain extent steps value).value = value := chain_value keep
    rw [accepted] at kept
    exact ⟨kept, accept_of_chain keep accepted⟩
  · rintro ⟨rfl, accepted⟩
    exact chain_of_accept accepted

end SchemaAlgebra.Outcome

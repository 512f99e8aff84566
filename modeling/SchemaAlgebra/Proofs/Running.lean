/-!
Computations that can fail, one after the other: together they succeed exactly if each of them does.
-/

namespace SchemaAlgebra

theorem bind_eq_ok {ε α β : Type} {first : Except ε α} {next : α → Except ε β} {result : β} :
    first >>= next = .ok result ↔ ∃ value, first = .ok value ∧ next value = .ok result := by
  cases first <;> simp [bind, Except.bind]

theorem bind_eq_error {ε α β : Type} {first : Except ε α} {next : α → Except ε β} {reason : ε} :
    first >>= next = .error reason ↔
      first = .error reason ∨ ∃ value, first = .ok value ∧ next value = .error reason := by
  cases first <;> simp [bind, Except.bind]

theorem mapM_eq_ok {ε α β : Type} {next : α → Except ε β} {items : List α} {results : List β} :
    items.mapM next = .ok results ↔ items.map next = results.map .ok := by
  induction items generalizing results with
  | nil => cases results <;> simp [pure, Except.pure]
  | cons item rest ih =>
      rw [List.mapM_cons, bind_eq_ok, List.map_cons]
      constructor
      · rintro ⟨first, found, ran⟩
        obtain ⟨later, found', ended⟩ := bind_eq_ok.mp ran
        obtain rfl := Except.ok.inj ended
        rw [List.map_cons, found, ih.mp found']
      · intro same
        cases results with
        | nil => simp at same
        | cons first later =>
            rw [List.map_cons, List.cons.injEq] at same
            exact ⟨first, same.1, bind_eq_ok.mpr ⟨later, ih.mpr same.2, rfl⟩⟩

theorem mem_of_mapM_ok {ε α β : Type} {next : α → Except ε β} {items : List α} {results : List β}
    (ran : items.mapM next = .ok results) {result : β} (member : result ∈ results) :
    ∃ item ∈ items, next item = .ok result := by
  have listed : Except.ok result ∈ items.map next :=
    mapM_eq_ok.mp ran ▸ List.mem_map_of_mem member
  exact List.mem_map.mp listed

theorem mapM_ok_of_forall {ε α β : Type} {next : α → Except ε β} {items : List α}
    (each : ∀ item ∈ items, ∃ result, next item = .ok result) :
    ∃ results, items.mapM next = .ok results := by
  induction items with
  | nil => exact ⟨[], rfl⟩
  | cons item rest ih =>
      obtain ⟨first, found⟩ := each item (by simp)
      obtain ⟨later, found'⟩ := ih fun other member => each other (by simp [member])
      exact ⟨first :: later, by
        simp [List.mapM_cons, found, found', bind, Except.bind, pure, Except.pure]⟩

/-!
Running an effect. What runs on a state gives a result or a failure, and the state as it is then; a failure
ends the run and keeps what was done.
-/

variable {ε σ α β : Type}

/-- What is given on a state, and the state afterwards. -/
def outcome (act : ExceptT ε (StateM σ) α) (state : σ) : Except ε α × σ :=
  act.run.run state

@[simp] theorem outcome_pure (a : α) (state : σ) :
    outcome (pure a : ExceptT ε (StateM σ) α) state = (.ok a, state) :=
  rfl

@[simp] theorem outcome_throw (failure : ε) (state : σ) :
    outcome (throw failure : ExceptT ε (StateM σ) α) state = (.error failure, state) :=
  rfl

@[simp] theorem outcome_get (state : σ) :
    outcome (get : ExceptT ε (StateM σ) σ) state = (.ok state, state) :=
  rfl

@[simp] theorem outcome_set (later state : σ) :
    outcome (set later : ExceptT ε (StateM σ) PUnit) state = (.ok ⟨⟩, later) :=
  rfl

@[simp] theorem outcome_modify (change : σ → σ) (state : σ) :
    outcome (modify change : ExceptT ε (StateM σ) PUnit) state = (.ok ⟨⟩, change state) :=
  rfl

variable {act : ExceptT ε (StateM σ) α} {next : α → ExceptT ε (StateM σ) β} {state last : σ}

theorem outcome_bind (act : ExceptT ε (StateM σ) α) (next : α → ExceptT ε (StateM σ) β) (state : σ) :
    outcome (act >>= next) state =
      match outcome act state with
      | (.ok a, later) => outcome (next a) later
      | (.error failure, later) => (.error failure, later) := by
  simp only [outcome, ExceptT.run_bind, StateT.run_bind]
  rcases act.run.run state with ⟨found | found, later⟩ <;> rfl

theorem outcome_bind_ok {later : σ} {a : α} (ran : outcome act state = (.ok a, later)) :
    outcome (act >>= next) state = outcome (next a) later := by
  rw [outcome_bind, ran]

theorem outcome_bind_error {later : σ} {failure : ε} (ran : outcome act state = (.error failure, later)) :
    outcome (act >>= next) state = (.error failure, later) := by
  rw [outcome_bind, ran]

theorem outcome_bind_eq_ok {b : β} :
    outcome (act >>= next) state = (.ok b, last) ↔
      ∃ a later, outcome act state = (.ok a, later) ∧ outcome (next a) later = (.ok b, last) := by
  rw [outcome_bind]
  rcases outcome act state with ⟨failure | a, later⟩
  · simp
  · simp only [Prod.mk.injEq, Except.ok.injEq]
    exact ⟨fun ran => ⟨a, later, ⟨rfl, rfl⟩, ran⟩, fun ⟨_, _, ⟨rfl, rfl⟩, ran⟩ => ran⟩

theorem outcome_bind_eq_error {failure : ε} :
    outcome (act >>= next) state = (.error failure, last) ↔
      outcome act state = (.error failure, last) ∨
        ∃ a later, outcome act state = (.ok a, later) ∧ outcome (next a) later = (.error failure, last) := by
  rw [outcome_bind]
  rcases outcome act state with ⟨failure' | a, later⟩
  · simp
  · simp only [Prod.mk.injEq, Except.ok.injEq, reduceCtorEq, false_and, false_or]
    exact ⟨fun ran => ⟨a, later, ⟨rfl, rfl⟩, ran⟩, fun ⟨_, _, ⟨rfl, rfl⟩, ran⟩ => ran⟩

/-- A test of each item that changes nothing picks out what the plain test does. -/
theorem outcome_filterM {next : α → ExceptT ε (StateM σ) Bool} {test : α → Bool} {items : List α}
    (each : ∀ item ∈ items, outcome (next item) state = (.ok (test item), state)) :
    outcome (items.filterM next) state = (.ok (items.filter test), state) := by
  have listed : ∀ kept, outcome (items.filterAuxM next kept) state =
      (.ok ((items.filter test).reverse ++ kept), state) := by
    induction items with
    | nil => exact fun kept => rfl
    | cons item rest ih =>
        intro kept
        rw [List.filterAuxM, outcome_bind_ok (each item List.mem_cons_self),
          ih fun other member => each other (List.mem_cons_of_mem item member), List.filter_cons]
        cases test item <;> simp
  rw [List.filterM, outcome_bind_ok (listed [])]
  simp

theorem outcome_anyM {next : α → ExceptT ε (StateM σ) Bool} {test : α → Bool} {items : List α}
    (each : ∀ item ∈ items, outcome (next item) state = (.ok (test item), state)) :
    outcome (items.anyM next) state = (.ok (items.any test), state) := by
  induction items with
  | nil => rfl
  | cons item rest ih =>
      rw [List.anyM, outcome_bind_ok (each item List.mem_cons_self), List.any_cons]
      cases test item
      · exact ih fun other member => each other (List.mem_cons_of_mem item member)
      · rfl

theorem outcome_mapM {next : α → ExceptT ε (StateM σ) β} {f : α → β} {items : List α}
    (each : ∀ item ∈ items, outcome (next item) state = (.ok (f item), state)) :
    outcome (items.mapM next) state = (.ok (items.map f), state) := by
  induction items with
  | nil => rfl
  | cons item rest ih =>
      rw [List.mapM_cons, outcome_bind_ok (each item List.mem_cons_self),
        outcome_bind_ok (ih fun other member => each other (List.mem_cons_of_mem item member))]
      rfl

end SchemaAlgebra

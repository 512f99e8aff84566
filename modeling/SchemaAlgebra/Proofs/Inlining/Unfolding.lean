import SchemaAlgebra.Proofs.Json.Tree
import SchemaAlgebra.Schema.Inline

/-!
Runs of inlining by what they return. What a run has asked the library for before does not matter: where
it returns something at all, it always returns the same.
-/

namespace SchemaAlgebra.Inline

variable {α β : Type}

/-- The run can return a result. -/
def Reaches (run : Run α) (result : α) : Prop :=
  ∃ asked, (run.run.run asked).1 = .ok result

/-- The run returns a result, whatever has been asked for before. -/
def Yields (run : Run α) (result : α) : Prop :=
  ∀ asked, (run.run.run asked).1 = .ok result

theorem Yields.reaches {run : Run α} {result : α} (yields : Yields run result) : Reaches run result :=
  ⟨[], yields []⟩

theorem Yields.unique {run : Run α} {first second : α} (yields : Yields run first)
    (yields' : Yields run second) : first = second :=
  Except.ok.inj ((yields []).symm.trans (yields' []))

theorem run_bind (run : Run α) (next : α → Run β) (asked : List String) :
    (run >>= next).run.run asked =
      match run.run.run asked with
      | (.ok a, asked) => (next a).run.run asked
      | (.error error, asked) => (.error error, asked) := by
  simp only [ExceptT.run_bind, StateT.run_bind]
  rcases run.run.run asked with ⟨found | found, asked⟩ <;> rfl

theorem throw_bind (error : Error) (next : α → Run β) : (throw error >>= next) = throw error :=
  rfl

theorem yields_pure (result : α) : Yields (pure result) result :=
  fun _ => rfl

theorem reaches_pure {a result : α} : Reaches (pure a) result ↔ a = result := by
  constructor
  · rintro ⟨asked, ended⟩
    exact Except.ok.inj ended
  · rintro rfl
    exact (yields_pure a).reaches

theorem not_reaches_throw {error : Error} {result : α} : ¬ Reaches (throw error) result := by
  rintro ⟨asked, ended⟩
  cases ended

theorem Reaches.of_bind {run : Run α} {next : α → Run β} {result : β}
    (reaches : Reaches (run >>= next) result) :
    ∃ middle, Reaches run middle ∧ Reaches (next middle) result := by
  obtain ⟨asked, ended⟩ := reaches
  rw [run_bind] at ended
  cases first : run.run.run asked with
  | mk found later =>
      rw [first] at ended
      cases found with
      | error error => cases ended
      | ok middle => exact ⟨middle, ⟨asked, by rw [first]⟩, ⟨later, ended⟩⟩

/-- The run has this outcome, whatever has been asked for before. -/
def Gives (run : Run α) (outcome : Except Error α) : Prop :=
  ∀ asked, (run.run.run asked).1 = outcome

theorem Gives.bind {run : Run α} {next : α → Run β} {middle : α} {outcome : Except Error β}
    (first : Gives run (.ok middle)) (later : Gives (next middle) outcome) : Gives (run >>= next) outcome := by
  intro asked
  have ended := first asked
  rw [run_bind]
  cases ran : run.run.run asked with
  | mk found asked' =>
      rw [ran] at ended
      cases (ended : found = .ok middle)
      exact later asked'

theorem Gives.bind_error {run : Run α} {next : α → Run β} {error : Error} (first : Gives run (.error error)) :
    Gives (run >>= next) (.error error) := by
  intro asked
  have ended := first asked
  rw [run_bind]
  cases ran : run.run.run asked with
  | mk found asked' =>
      rw [ran] at ended
      cases (ended : found = .error error)
      rfl

theorem Gives.map {run : Run α} {outcome : Except Error α} (first : Gives run outcome) (f : α → β) :
    Gives (run >>= fun a => pure (f a)) (outcome.map f) := by
  cases outcome with
  | error error => exact first.bind_error
  | ok a => exact first.bind fun _ => rfl

theorem Yields.bind {run : Run α} {next : α → Run β} {middle : α} {result : β}
    (first : Yields run middle) (later : Yields (next middle) result) :
    Yields (run >>= next) result :=
  Gives.bind first later

/-- The document that the library has at a location; it counts as asked for. -/
def ask (library : Library) (location : String) : Run Json := do
  modify fun asked => if location ∈ asked then asked else asked ++ [location]
  match library.fetch location with
  | .ok document => return document
  | .error cause => throw (.document cause)

/-- The document at a location: the root at its own, any other in the library. -/
def Library.at? (library : Library) (root : Option Root) (location : String) : Option Json :=
  match root with
  | some ⟨own, document⟩ => if location = own then some document else (library.fetch location).toOption
  | none => (library.fetch location).toOption

variable {library : Library} {root : Option Root} {location : String} {found : Json}

theorem document_eq (library : Library) (root : Option Root) (location : String) :
    document library root location =
      match root with
      | some ⟨own, document⟩ => if location = own then pure document else ask library location
      | none => ask library location := by
  cases root with
  | none => rfl
  | some root =>
      by_cases own : location = root.location
      · simp only [document, own, if_true]
      · simp only [document, own, if_false]
        rfl

theorem yields_ask (fetched : library.fetch location = .ok found) : Yields (ask library location) found := by
  intro asked
  simp only [ask, fetched]
  rfl

theorem reaches_ask (reaches : Reaches (ask library location) found) :
    library.fetch location = .ok found := by
  obtain ⟨asked, ended⟩ := reaches
  cases fetched : library.fetch location with
  | error cause =>
      simp only [ask, fetched] at ended
      cases ended
  | ok document =>
      simp only [ask, fetched] at ended
      exact congrArg Except.ok (Except.ok.inj ended)

theorem yields_document (there : library.at? root location = some found) :
    Yields (document library root location) found := by
  have fetched : (library.fetch location).toOption = some found → Yields (ask library location) found := by
    intro there
    cases ended : library.fetch location with
    | error cause => simp [ended, Except.toOption] at there
    | ok document =>
        obtain rfl : document = found := by simpa [ended, Except.toOption] using there
        exact yields_ask ended
  rw [document_eq]
  unfold Library.at? at there
  cases root with
  | none => exact fetched there
  | some root =>
      by_cases own : location = root.location
      · simp only [own, if_true, Option.some.injEq] at there ⊢
        exact there ▸ yields_pure _
      · simp only [own, if_false] at there ⊢
        exact fetched there

theorem at?_of_reaches (reaches : Reaches (document library root location) found) :
    library.at? root location = some found := by
  have fetched : Reaches (ask library location) found → (library.fetch location).toOption = some found :=
    fun reaches => by rw [reaches_ask reaches]; rfl
  rw [document_eq] at reaches
  unfold Library.at?
  cases root with
  | none => exact fetched reaches
  | some root =>
      by_cases own : location = root.location
      · simp only [own, if_true] at reaches ⊢
        exact congrArg some (reaches_pure.mp reaches)
      · simp only [own, if_false] at reaches ⊢
        exact fetched reaches

end SchemaAlgebra.Inline

/-!
Unfoldings. A value unfolds to another one if every reference in it can be replaced by the unfolding of
what it names, in finitely many steps; nothing looks for cycles. Whatever inlining returns is the unfolding
of what it was given.
-/

namespace SchemaAlgebra.Inline

/-- The part of a document that a location and a fragment name. -/
def named? (load : String → Option Json) (key : String × String) : Option Json :=
  (load key.1).bind fun document => (Pointer.lead document key.2).toOption

/-- The reference that a schema object stands for, if it has one. -/
def reference? (fields : List (Key × Json)) : Option String :=
  match Fields.get? fields "$ref" with
  | some (.string reference) => some reference
  | _ => none

/-- Whether a value has no parts. A container that is met inside itself has. -/
def isLeaf : Json → Bool
  | .object _ | .array _ => false
  | .foreign value => !value.isCycle
  | _ => true

mutual

/-- A value at a location unfolds to another one, given the documents at locations. -/
inductive Unfolds (load : String → Option Json) : String → Json → Json → Prop
  | leaf {location : String} {value : Json} :
      isLeaf value = true → Unfolds load location value value
  | array {location : String} {items results : List Json} :
      UnfoldsItems load location items results →
        Unfolds load location (.array items) (.array results)
  | object {location : String} {fields results : List (Key × Json)} :
      reference? fields = none → UnfoldsFields load location fields results →
        Unfolds load location (.object fields) (.object results)
  | reference {location reference : String} {fields : List (Key × Json)} {found result : Json} :
      reference? fields = some reference → named? load (target reference location) = some found →
        Unfolds load (target reference location).1 found result →
          Unfolds load location (.object fields) result

/-- Items unfold one by one. -/
inductive UnfoldsItems (load : String → Option Json) : String → List Json → List Json → Prop
  | nil {location : String} : UnfoldsItems load location [] []
  | cons {location : String} {item result : Json} {rest results : List Json} :
      Unfolds load location item result → UnfoldsItems load location rest results →
        UnfoldsItems load location (item :: rest) (result :: results)

/-- Members unfold one by one, except that data is kept as it is. -/
inductive UnfoldsFields (load : String → Option Json) :
    String → List (Key × Json) → List (Key × Json) → Prop
  | nil {location : String} : UnfoldsFields load location [] []
  | data {location : String} {key : Key} {value : Json} {rest results : List (Key × Json)} :
      key ∈ dataKeywords.map Key.text → UnfoldsFields load location rest results →
        UnfoldsFields load location ((key, value) :: rest) ((key, value) :: results)
  | schema {location : String} {key : Key} {value result : Json} {rest results : List (Key × Json)} :
      key ∉ dataKeywords.map Key.text → Unfolds load location value result →
        UnfoldsFields load location rest results →
          UnfoldsFields load location ((key, value) :: rest) ((key, result) :: results)

end

/-- Follow a reference from a location, given how what it names is inlined at the location there. -/
def followed (library : Library) (root : Option Root) (inside : String → Json → Run Json)
    (location reference : String) : Run Json := do
  let place ← document library root (target reference location).1
  match Pointer.lead place (target reference location).2 with
  | .ok found => inside (target reference location).1 found
  | .error cause => throw (.pointer reference cause)

variable {library : Library} {root : Option Root} {inside : String → Json → Run Json}
  {location reference : String} {result : Json}

theorem reaches_followed (reaches : Reaches (followed library root inside location reference) result) :
    ∃ found, named? (library.at? root) (target reference location) = some found ∧
      Reaches (inside (target reference location).1 found) result := by
  obtain ⟨place, fetched, reaches⟩ := reaches.of_bind
  cases led : Pointer.lead place (target reference location).2 with
  | error cause =>
      simp only [led] at reaches
      exact absurd reaches not_reaches_throw
  | ok found =>
      simp only [led] at reaches
      exact ⟨found, by simp [named?, at?_of_reaches fetched, led, Except.toOption], reaches⟩

theorem yields_followed {found : Json}
    (named : named? (library.at? root) (target reference location) = some found)
    (yields : Yields (inside (target reference location).1 found) result) :
    Yields (followed library root inside location reference) result := by
  obtain ⟨place, fetched, led⟩ := Option.bind_eq_some_iff.mp named
  refine (yields_document fetched).bind ?_
  cases ended : Pointer.lead place (target reference location).2 with
  | error cause => simp [ended, Except.toOption] at led
  | ok other =>
      obtain rfl : other = found := by simpa [ended, Except.toOption] using led
      exact yields

/-- Inlining leaves a reference that is being followed alone, and follows any other. -/
theorem inlineAt_succ (library : Library) (root : Option Root) (count : Nat)
    (opened : List (String × String)) (location : String) :
    inlineAt library root (count + 1) opened location = replace fun reference =>
      if target reference location ∈ opened then throw (.cyclic reference)
      else followed library root (inlineAt library root count (target reference location :: opened))
        location reference := by
  rw [inlineAt]
  refine congrArg replace (funext fun reference => ?_)
  by_cases pending : target reference location ∈ opened
  · rw [if_pos pending, if_pos pending, throw_bind]
  · rw [if_neg pending, if_neg pending]
    refine congrArg (document library root _ >>= ·) (funext fun place => ?_)
    cases Pointer.lead place (target reference location).2 with
    | error cause => rfl
    | ok found => rfl

/-- The result of replacing what is no container. -/
theorem replace_leaf (follow : String → Run Json) {value : Json} (flat : value.isArray = false)
    (notObject : value.isObject = false) :
    replace follow value = if isLeaf value then pure value else throw .endless := by
  cases value with
  | array items => simp [Json.isArray] at flat
  | object fields => simp [Json.isObject] at notObject
  | foreign value => cases isCycle : value.isCycle <;> simp [replace, isLeaf, isCycle]
  | _ => rfl

theorem replace_of_isLeaf (follow : String → Run Json) {value : Json} (leaf : isLeaf value = true) :
    replace follow value = pure value := by
  have flat : value.isArray = false ∧ value.isObject = false := by
    cases value <;> simp_all [isLeaf, Json.isArray, Json.isObject]
  rw [replace_leaf follow flat.1 flat.2, if_pos leaf]

theorem replace_object (follow : String → Run Json) (fields : List (Key × Json)) :
    replace follow (.object fields) =
      match reference? fields with
      | some reference => follow reference
      | none => do return .object (← replaceFields follow fields) := by
  rw [replace, reference?]
  cases Fields.get? fields "$ref" with
  | none => rfl
  | some value => cases value <;> rfl

/-- What becomes of the value of a key. -/
def replaceMember (follow : String → Run Json) (key : Key) (value : Json) : Run Json :=
  if key ∈ dataKeywords.map Key.text then pure value else replace follow value

theorem replaceFields_cons (follow : String → Run Json) (key : Key) (value : Json)
    (rest : List (Key × Json)) :
    replaceFields follow ((key, value) :: rest) = do
      let first ← replaceMember follow key value
      let later ← replaceFields follow rest
      return (key, first) :: later := by
  rw [replaceFields, replaceMember]
  split
  · rfl
  · rfl

section

variable {load : String → Option Json} {follow : String → Run Json}

theorem unfoldsItems_of_replace {items results : List Json}
    (each : ∀ item ∈ items, ∀ result, Reaches (replace follow item) result →
      Unfolds load location item result)
    (reaches : Reaches (replaceItems follow items) results) :
    UnfoldsItems load location items results := by
  induction items generalizing results with
  | nil =>
      obtain rfl := reaches_pure.mp reaches
      exact .nil
  | cons item rest ih =>
      obtain ⟨first, replaced, reaches⟩ := reaches.of_bind
      obtain ⟨later, others, reaches⟩ := reaches.of_bind
      obtain rfl := reaches_pure.mp reaches
      exact .cons (each item (by simp) first replaced)
        (ih (fun other member => each other (by simp [member])) others)

theorem unfoldsFields_of_replace {fields results : List (Key × Json)}
    (each : ∀ entry ∈ fields, ∀ result, Reaches (replace follow entry.2) result →
      Unfolds load location entry.2 result)
    (reaches : Reaches (replaceFields follow fields) results) :
    UnfoldsFields load location fields results := by
  induction fields generalizing results with
  | nil =>
      obtain rfl := reaches_pure.mp reaches
      exact .nil
  | cons entry rest ih =>
      obtain ⟨key, value⟩ := entry
      rw [replaceFields_cons] at reaches
      obtain ⟨first, replaced, reaches⟩ := reaches.of_bind
      obtain ⟨later, others, reaches⟩ := reaches.of_bind
      obtain rfl := reaches_pure.mp reaches
      have unfolded := ih (fun other member => each other (by simp [member])) others
      by_cases data : key ∈ dataKeywords.map Key.text
      · rw [replaceMember, if_pos data] at replaced
        obtain rfl := reaches_pure.mp replaced
        exact .data data unfolded
      · rw [replaceMember, if_neg data] at replaced
        exact .schema data (each (key, value) (by simp) first replaced) unfolded

/-- What replacing makes of a value is its unfolding, if references are followed to unfoldings. -/
theorem unfolds_of_replace
    (each : ∀ reference result, Reaches (follow reference) result →
      ∀ fields, reference? fields = some reference → Unfolds load location (.object fields) result)
    (node : Json) : ∀ result, Reaches (replace follow node) result → Unfolds load location node result := by
  induction node using Json.treeInduction with
  | array items ih =>
      intro result reaches
      obtain ⟨results, replaced, reaches⟩ := reaches.of_bind
      obtain rfl := reaches_pure.mp reaches
      exact .array (unfoldsItems_of_replace ih replaced)
  | object fields ih =>
      intro result reaches
      rw [replace_object] at reaches
      cases referring : reference? fields with
      | some reference =>
          rw [referring] at reaches
          exact each reference result reaches fields referring
      | none =>
          rw [referring] at reaches
          obtain ⟨results, replaced, reaches⟩ := reaches.of_bind
          obtain rfl := reaches_pure.mp reaches
          exact .object referring (unfoldsFields_of_replace ih replaced)
  | scalar value notArray notObject =>
      intro result reaches
      rw [replace_leaf follow notArray notObject] at reaches
      split at reaches
      · next leaf =>
          obtain rfl := reaches_pure.mp reaches
          exact .leaf leaf
      · exact absurd reaches not_reaches_throw

end

/-- Inlining accepts nothing that has no unfolding, and returns the unfolding of what it accepts. -/
theorem unfolds_of_inlineAt (library : Library) (root : Option Root) (count : Nat) :
    ∀ opened location node result, Reaches (inlineAt library root count opened location node) result →
      Unfolds (library.at? root) location node result := by
  induction count with
  | zero =>
      intro opened location node result
      exact unfolds_of_replace (fun reference result reaches => absurd reaches not_reaches_throw) node
        result
  | succ count ih =>
      intro opened location node result
      rw [inlineAt_succ]
      refine unfolds_of_replace (fun reference result reaches fields referring => ?_) node result
      split at reaches
      · exact absurd reaches not_reaches_throw
      · obtain ⟨found, named, reaches⟩ := reaches_followed reaches
        exact .reference referring named (ih _ _ found result reaches)

end SchemaAlgebra.Inline

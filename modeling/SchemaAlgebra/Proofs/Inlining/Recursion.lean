import SchemaAlgebra.Proofs.Inlining.Exactness

/-!
The recursion of inlining is finite. `Ends` is this recursion without any bound: it goes into the parts of a value,
and from a reference to what it names. Following a reference can lead from a small value to a large one, but the
references that are being followed differ and name some of finitely many targets, so fewer targets are left; inside
one target values get smaller. Hence it ends for all documents that are finite themselves, and inlining gives what
it ends with.
-/

namespace SchemaAlgebra.Inline

/-- A value in which no container is met inside itself. -/
inductive Acyclic : Json → Prop
  | leaf {value : Json} : isLeaf value = true → Acyclic value
  | array {items : List Json} : (∀ item ∈ items, Acyclic item) → Acyclic (.array items)
  | object {fields : List (Key × Json)} : (∀ entry ∈ fields, Acyclic entry.2) → Acyclic (.object fields)

theorem acyclic_inherited : Pointer.Inherited Acyclic where
  member acyclic := by
    cases acyclic with
    | leaf leaf => cases leaf
    | object each => exact each
  item acyclic := by
    cases acyclic with
    | leaf leaf => cases leaf
    | array each => exact each

/-- The document at a location, or why there is none. The root is found at its own location. -/
def Library.supply (library : Library) (root : Option Root) (location : String) : Except Document.Error Json :=
  match root with
  | some ⟨own, document⟩ => if location = own then .ok document else library.fetch location
  | none => library.fetch location

section

variable (library : Library) (root : Option Root)

mutual

/-- Inlining a value at a location, inside the references that are open, ends with a result or an error. -/
inductive Ends : List (String × String) → String → Json → Except Error Json → Prop
  | leaf {opened : List (String × String)} {location : String} {value : Json} :
      isLeaf value = true → Ends opened location value (.ok value)
  | array {opened : List (String × String)} {location : String} {items : List Json}
      {outcome : Except Error (List Json)} :
      EndsItems opened location items outcome → Ends opened location (.array items) (outcome.map .array)
  | object {opened : List (String × String)} {location : String} {fields : List (Key × Json)}
      {outcome : Except Error (List (Key × Json))} :
      reference? fields = none → EndsFields opened location fields outcome →
        Ends opened location (.object fields) (outcome.map .object)
  | cyclic {opened : List (String × String)} {location reference : String} {fields : List (Key × Json)} :
      reference? fields = some reference → target reference location ∈ opened →
        Ends opened location (.object fields) (.error (.cyclic reference))
  | document {opened : List (String × String)} {location reference : String} {fields : List (Key × Json)}
      {cause : Document.Error} :
      reference? fields = some reference → target reference location ∉ opened →
        library.supply root (target reference location).1 = .error cause →
          Ends opened location (.object fields) (.error (.document cause))
  | pointer {opened : List (String × String)} {location reference : String} {fields : List (Key × Json)}
      {place : Json} {cause : Pointer.Error} :
      reference? fields = some reference → target reference location ∉ opened →
        library.supply root (target reference location).1 = .ok place →
          Pointer.lead place (target reference location).2 = .error cause →
            Ends opened location (.object fields) (.error (.pointer reference cause))
  | follow {opened : List (String × String)} {location reference : String} {fields : List (Key × Json)}
      {place found : Json} {outcome : Except Error Json} :
      reference? fields = some reference → target reference location ∉ opened →
        library.supply root (target reference location).1 = .ok place →
          Pointer.lead place (target reference location).2 = .ok found →
            Ends (target reference location :: opened) (target reference location).1 found outcome →
              Ends opened location (.object fields) outcome

/-- Inlining items, one after the other, ends with their results or the first error. -/
inductive EndsItems : List (String × String) → String → List Json → Except Error (List Json) → Prop
  | nil {opened : List (String × String)} {location : String} : EndsItems opened location [] (.ok [])
  | stop {opened : List (String × String)} {location : String} {item : Json} {rest : List Json} {error : Error} :
      Ends opened location item (.error error) → EndsItems opened location (item :: rest) (.error error)
  | cons {opened : List (String × String)} {location : String} {item result : Json} {rest : List Json}
      {outcome : Except Error (List Json)} :
      Ends opened location item (.ok result) → EndsItems opened location rest outcome →
        EndsItems opened location (item :: rest) (outcome.map (result :: ·))

/-- Inlining members, one after the other, ends with their results or the first error; data is kept as it is. -/
inductive EndsFields : List (String × String) → String → List (Key × Json) →
    Except Error (List (Key × Json)) → Prop
  | nil {opened : List (String × String)} {location : String} : EndsFields opened location [] (.ok [])
  | data {opened : List (String × String)} {location : String} {key : Key} {value : Json}
      {rest : List (Key × Json)} {outcome : Except Error (List (Key × Json))} :
      key ∈ dataKeywords.map Key.text → EndsFields opened location rest outcome →
        EndsFields opened location ((key, value) :: rest) (outcome.map ((key, value) :: ·))
  | stop {opened : List (String × String)} {location : String} {key : Key} {value : Json}
      {rest : List (Key × Json)} {error : Error} :
      key ∉ dataKeywords.map Key.text → Ends opened location value (.error error) →
        EndsFields opened location ((key, value) :: rest) (.error error)
  | cons {opened : List (String × String)} {location : String} {key : Key} {value result : Json}
      {rest : List (Key × Json)} {outcome : Except Error (List (Key × Json))} :
      key ∉ dataKeywords.map Key.text → Ends opened location value (.ok result) →
        EndsFields opened location rest outcome →
          EndsFields opened location ((key, value) :: rest) (outcome.map ((key, result) :: ·))

end

end

/-- Inlining a schema at a base location or, if a string is given, the document at that location, ends. -/
def EndsTo (library : Library) (base : String) : Json → Except Error Json → Prop
  | .string location, outcome =>
      match library.fetch location with
      | .ok document => Ends library none [] location document outcome
      | .error cause => outcome = .error (.document cause)
  | schema, outcome => Ends library (some ⟨base, schema⟩) [] base schema outcome

variable {library : Library} {root : Option Root} {opened : List (String × String)} {location reference base : String}
  {schema : Json}

/-! Every recursion ends. -/

theorem exists_endsItems {items : List Json}
    (each : ∀ item ∈ items, ∃ outcome, Ends library root opened location item outcome) :
    ∃ outcome, EndsItems library root opened location items outcome := by
  induction items with
  | nil => exact ⟨_, .nil⟩
  | cons item rest ih =>
      obtain ⟨first | result, ended⟩ := each item (by simp)
      · exact ⟨_, .stop ended⟩
      · obtain ⟨outcome, later⟩ := ih fun other listed => each other (by simp [listed])
        exact ⟨_, .cons ended later⟩

theorem exists_endsFields {fields : List (Key × Json)}
    (each : ∀ entry ∈ fields, ∃ outcome, Ends library root opened location entry.2 outcome) :
    ∃ outcome, EndsFields library root opened location fields outcome := by
  induction fields with
  | nil => exact ⟨_, .nil⟩
  | cons entry rest ih =>
      obtain ⟨key, value⟩ := entry
      obtain ⟨outcome, later⟩ := ih fun other listed => each other (by simp [listed])
      by_cases data : key ∈ dataKeywords.map Key.text
      · exact ⟨_, .data data later⟩
      · obtain ⟨first | result, ended⟩ := each (key, value) (by simp)
        · exact ⟨_, .stop data ended⟩
        · exact ⟨_, .cons data ended later⟩

/-- A finite value is done with as soon as its references are. -/
theorem exists_ends_of_references {node : Json} (acyclic : Acyclic node)
    (each : ∀ fields reference, reference? fields = some reference → reference ∈ references node →
      ∃ outcome, Ends library root opened location (.object fields) outcome) :
    ∃ outcome, Ends library root opened location node outcome := by
  induction acyclic with
  | leaf leaf => exact ⟨_, .leaf leaf⟩
  | array _ ih =>
      obtain ⟨outcome, ended⟩ := exists_endsItems fun item listed => ih item listed
        fun fields reference referring member =>
          each fields reference referring (mem_itemReferences.mpr ⟨item, listed, member⟩)
      exact ⟨_, .array ended⟩
  | @object fields _ ih =>
      cases referring : reference? fields with
      | some reference => exact each fields reference referring (mem_references_of_reference? referring)
      | none =>
          obtain ⟨outcome, ended⟩ := exists_endsFields fun entry listed => ih entry listed
            fun fields reference referring member =>
              each fields reference referring (mem_fieldReferences.mpr ⟨entry, listed, .inr member⟩)
          exact ⟨_, .object referring ended⟩

theorem at?_of_supply {document : Json} (supplied : library.supply root location = .ok document) :
    library.at? root location = some document := by
  unfold Library.supply at supplied
  unfold Library.at?
  cases root with
  | none => simp [supplied, Except.toOption]
  | some root =>
      by_cases own : location = root.location
      · simpa [own] using supplied
      · simp only [own, if_false] at supplied ⊢
        simp [supplied, Except.toOption]

/-- The references that are being followed: they differ, and they name some of the given targets. -/
structure Pending (targets opened : List (String × String)) : Prop where
  distinct : opened.Nodup
  listed : opened ⊆ targets

theorem Pending.cons {targets : List (String × String)} {key : String × String} (pending : Pending targets opened)
    (fresh : key ∉ opened) (listed : key ∈ targets) : Pending targets (key :: opened) :=
  ⟨List.nodup_cons.mpr ⟨fresh, pending.distinct⟩, List.cons_subset.mpr ⟨listed, pending.listed⟩⟩

theorem Pending.length_le {targets : List (String × String)} (pending : Pending targets opened) :
    opened.length ≤ targets.length :=
  pending.distinct.length_le_of_subset pending.listed

section

variable {locations : List String}

/-- What is known of a reference that leads somewhere. -/
theorem Known.followed (known : Known library root locations base schema) {place found : Json}
    (member : reference ∈ knownReferences library schema)
    (supplied : library.supply root (target reference location).1 = .ok place)
    (led : Pointer.lead place (target reference location).2 = .ok found) :
    target reference location ∈ knownTargets library locations base schema ∧
      references found ⊆ knownReferences library schema ∧ place ∈ schema :: library.documents := by
  have there := at?_of_supply supplied
  have named : named? (library.at? root) (target reference location) = some found := by
    simp [named?, there, led, Except.toOption]
  obtain ⟨listed, within⟩ := known.closed location reference member found named
  exact ⟨listed, within, (known.there there).2⟩

/-- The recursion ends: each reference that is followed leaves fewer targets. -/
theorem exists_ends (known : Known library root locations base schema)
    (acyclic : ∀ document ∈ schema :: library.documents, Acyclic document) {node : Json}
    (pending : Pending (knownTargets library locations base schema) opened)
    (inside : references node ⊆ knownReferences library schema) (finite : Acyclic node) :
    ∃ outcome, Ends library root opened location node outcome := by
  induction left : (knownTargets library locations base schema).length - opened.length using Nat.strongRecOn
    generalizing opened location node with
  | ind left ih =>
      refine exists_ends_of_references finite fun fields reference referring member => ?_
      by_cases again : target reference location ∈ opened
      · exact ⟨_, .cyclic referring again⟩
      cases supplied : library.supply root (target reference location).1 with
      | error cause => exact ⟨_, .document referring again supplied⟩
      | ok place =>
          cases led : Pointer.lead place (target reference location).2 with
          | error cause => exact ⟨_, .pointer referring again supplied led⟩
          | ok found =>
              obtain ⟨listed, within, held⟩ := known.followed (inside member) supplied led
              have pending' := pending.cons again listed
              have fewer := pending'.length_le
              rw [List.length_cons] at fewer
              obtain ⟨outcome, ended⟩ := ih _ (by rw [List.length_cons]; omega) pending' within
                (acyclic_inherited.leadTokens (acyclic place held) led) rfl
              exact ⟨outcome, .follow referring again supplied led ended⟩

end

/-! Inlining gives what the recursion ends with. -/

theorem gives_ask (library : Library) (location : String) :
    Gives (ask library location) ((library.fetch location).mapError .document) := by
  intro asked
  simp only [ask]
  cases library.fetch location <;> rfl

theorem gives_document (library : Library) (root : Option Root) (location : String) :
    Gives (document library root location) ((library.supply root location).mapError .document) := by
  rw [document_eq]
  cases root with
  | none => exact gives_ask library location
  | some root =>
      by_cases own : location = root.location
      · simp only [Library.supply, own, if_true]
        exact fun _ => rfl
      · simp only [Library.supply, own, if_false]
        exact gives_ask library location

/-! What inlining does with a reference. -/

section

variable {count : Nat} {fields : List (Key × Json)} {place : Json}

theorem inlineAt_cyclic (referring : reference? fields = some reference) (again : target reference location ∈ opened) :
    Gives (inlineAt library root (count + 1) opened location (.object fields)) (.error (.cyclic reference)) := by
  rw [inlineAt_succ, replace_object, referring]
  simp only [if_pos again]
  exact fun _ => rfl

theorem inlineAt_reference (referring : reference? fields = some reference)
    (fresh : target reference location ∉ opened) :
    inlineAt library root (count + 1) opened location (.object fields) =
      followed library root (inlineAt library root count (target reference location :: opened)) location reference := by
  rw [inlineAt_succ, replace_object, referring]
  exact if_neg fresh

theorem inlineAt_missing (referring : reference? fields = some reference) (fresh : target reference location ∉ opened)
    {cause : Document.Error} (supplied : library.supply root (target reference location).1 = .error cause) :
    Gives (inlineAt library root (count + 1) opened location (.object fields)) (.error (.document cause)) := by
  have given := gives_document library root (target reference location).1
  rw [supplied] at given
  rw [inlineAt_reference referring fresh]
  exact given.bind_error

theorem inlineAt_astray (referring : reference? fields = some reference) (fresh : target reference location ∉ opened)
    (supplied : library.supply root (target reference location).1 = .ok place) {cause : Pointer.Error}
    (led : Pointer.lead place (target reference location).2 = .error cause) :
    Gives (inlineAt library root (count + 1) opened location (.object fields)) (.error (.pointer reference cause)) := by
  have given := gives_document library root (target reference location).1
  rw [supplied] at given
  rw [inlineAt_reference referring fresh]
  refine given.bind ?_
  simp only [led]
  exact fun _ => rfl

theorem inlineAt_found (referring : reference? fields = some reference) (fresh : target reference location ∉ opened)
    (supplied : library.supply root (target reference location).1 = .ok place) {found : Json}
    (led : Pointer.lead place (target reference location).2 = .ok found) {outcome : Except Error Json}
    (inner : Gives (inlineAt library root count (target reference location :: opened) (target reference location).1
      found) outcome) :
    Gives (inlineAt library root (count + 1) opened location (.object fields)) outcome := by
  have given := gives_document library root (target reference location).1
  rw [supplied] at given
  rw [inlineAt_reference referring fresh]
  refine given.bind ?_
  simp only [led]
  exact inner

end

section

variable {locations : List String}

mutual

/-- Inlining gives what the recursion ends with, if it may follow as many references as there are targets left. -/
theorem gives_of_ends {count : Nat} {opened : List (String × String)} {location : String} {follow : String → Run Json}
    (known : Known library root locations base schema)
    (pending : Pending (knownTargets library locations base schema) opened)
    (enough : (knownTargets library locations base schema).length ≤ count + opened.length)
    (step : inlineAt library root (count + 1) opened location = replace follow) {node : Json}
    {outcome : Except Error Json} (inside : references node ⊆ knownReferences library schema) :
    Ends library root opened location node outcome → Gives (replace follow node) outcome
  | .leaf leaf => by
      rw [replace_of_isLeaf _ leaf]
      exact fun _ => rfl
  | .array ended => by
      rw [replace]
      exact (itemsGive_of_ends known pending enough step inside ended).map Json.array
  | .object plain ended => by
      rw [replace_object, plain]
      exact (fieldsGive_of_ends known pending enough step inside ended).map Json.object
  | .cyclic referring again => step ▸ inlineAt_cyclic referring again
  | .document referring fresh supplied => step ▸ inlineAt_missing referring fresh supplied
  | .pointer referring fresh supplied led => step ▸ inlineAt_astray referring fresh supplied led
  | .follow referring fresh supplied led ended => by
      obtain ⟨listed, within, -⟩ := known.followed (inside (mem_references_of_reference? referring)) supplied led
      have pending' := pending.cons fresh listed
      have fewer := pending'.length_le
      rw [List.length_cons] at fewer
      obtain ⟨rest, rfl⟩ : ∃ rest, count = rest + 1 := ⟨count - 1, by omega⟩
      rw [← step]
      refine inlineAt_found referring fresh supplied led ?_
      rw [inlineAt_succ]
      exact gives_of_ends known pending' (by rw [List.length_cons]; omega) (inlineAt_succ ..) within ended

theorem itemsGive_of_ends {count : Nat} {opened : List (String × String)} {location : String}
    {follow : String → Run Json} (known : Known library root locations base schema)
    (pending : Pending (knownTargets library locations base schema) opened)
    (enough : (knownTargets library locations base schema).length ≤ count + opened.length)
    (step : inlineAt library root (count + 1) opened location = replace follow) {items : List Json}
    {outcome : Except Error (List Json)} (inside : itemReferences items ⊆ knownReferences library schema) :
    EndsItems library root opened location items outcome → Gives (replaceItems follow items) outcome
  | .nil => fun _ => rfl
  | .stop ended => by
      have here := List.append_subset.mp inside
      exact (gives_of_ends known pending enough step here.1 ended).bind_error
  | .cons ended later => by
      have here := List.append_subset.mp inside
      exact (gives_of_ends known pending enough step here.1 ended).bind
        ((itemsGive_of_ends known pending enough step here.2 later).map _)

theorem fieldsGive_of_ends {count : Nat} {opened : List (String × String)} {location : String}
    {follow : String → Run Json} (known : Known library root locations base schema)
    (pending : Pending (knownTargets library locations base schema) opened)
    (enough : (knownTargets library locations base schema).length ≤ count + opened.length)
    (step : inlineAt library root (count + 1) opened location = replace follow) {fields : List (Key × Json)}
    {outcome : Except Error (List (Key × Json))} (inside : fieldReferences fields ⊆ knownReferences library schema) :
    EndsFields library root opened location fields outcome → Gives (replaceFields follow fields) outcome
  | .nil => fun _ => rfl
  | .data data later => by
      rw [replaceFields_cons, replaceMember, if_pos data]
      have here := List.append_subset.mp inside
      exact (fieldsGive_of_ends known pending enough step here.2 later).map _
  | .stop schema ended => by
      rw [replaceFields_cons, replaceMember, if_neg schema]
      have here := List.append_subset.mp (List.append_subset.mp inside).1
      exact (gives_of_ends known pending enough step here.2 ended).bind_error
  | .cons schema ended later => by
      rw [replaceFields_cons, replaceMember, if_neg schema]
      obtain ⟨here, there⟩ := List.append_subset.mp inside
      exact (gives_of_ends known pending enough step (List.append_subset.mp here).2 ended).bind
        ((fieldsGive_of_ends known pending enough step there later).map _)

end

/-- The bound is never met: inlining a known schema ends, and gives what it ends with. -/
theorem inlineAt_ends (known : Known library root locations base schema)
    (acyclic : ∀ document ∈ schema :: library.documents, Acyclic document) :
    ∃ outcome, Ends library root [] base schema outcome ∧
      Gives (inlineAt library root (bound library schema) [] base schema) outcome := by
  have inside := references_known library schema
  have pending : Pending (knownTargets library locations base schema) [] := ⟨List.nodup_nil, List.nil_subset _⟩
  obtain ⟨outcome, ended⟩ := exists_ends known acyclic pending inside (acyclic schema (by simp))
  refine ⟨outcome, ended, ?_⟩
  have room := known.length_targets_lt
  obtain ⟨count, bounded⟩ : ∃ count, bound library schema = count + 1 := ⟨bound library schema - 1, by omega⟩
  rw [bounded, inlineAt_succ]
  exact gives_of_ends known pending (by rw [List.length_nil]; omega) (inlineAt_succ ..) inside ended

end

/-- Inlining ends with a result or an error: however finite documents refer to each other, to themselves and to what
they stand in, by whatever locations, its recursion is finite, and inlining gives what it ends with. -/
theorem inlining_ends {documents : Fields String Json} {base : String} {schema : Json}
    (acyclic : ∀ document ∈ schema :: documents.values, Acyclic document) :
    ∃ outcome, EndsTo (.ofDocuments documents) base schema outcome ∧
      ∀ asked, ((inline (.ofDocuments documents) base schema).run.run asked).1 = outcome := by
  cases schema with
  | string location =>
      have given := gives_document (.ofDocuments documents) none location
      cases fetched : (Library.ofDocuments documents).fetch location with
      | error cause =>
          simp only [Library.supply, fetched] at given
          exact ⟨.error (.document cause), by simp only [EndsTo, fetched], given.bind_error⟩
      | ok document =>
          simp only [Library.supply, fetched] at given
          have found : (Library.ofDocuments documents).at? none location = some document := at?_of_supply fetched
          rw [at?_none_ofDocuments] at found
          have held := (listed_of_get? found).2
          have each : ∀ other ∈ document :: (Library.ofDocuments documents).documents, Acyclic other := by
            intro other listed
            rcases List.mem_cons.mp listed with rfl | listed
            · exact acyclic other (List.mem_cons_of_mem _ held)
            · exact acyclic other (List.mem_cons_of_mem _ listed)
          obtain ⟨outcome, ended, gives⟩ := inlineAt_ends (known_document documents location document) each
          exact ⟨outcome, by simpa only [EndsTo, fetched] using ended, given.bind gives⟩
  | _ =>
      obtain ⟨outcome, ended, gives⟩ := inlineAt_ends (known_schema documents base _) acyclic
      exact ⟨outcome, ended, gives⟩

/-- Two documents that refer to each other and to themselves by relative locations. -/
def neighbours : Fields String Json :=
  [("a/one.json", .object [(.text "items", .object [(.text "$ref", .string "../b/two.json#/not")])]),
    ("b/two.json", .object [(.text "not", .array [.object [(.text "$ref", .string "./../a/one.json#")],
      .object [(.text "$ref", .string "#/not/0")]])])]

theorem neighbours_end :
    (∀ document ∈ .string "a/one.json" :: neighbours.values, Acyclic document) ∧
      (∃ outcome, EndsTo (.ofDocuments neighbours) "" (.string "a/one.json") outcome ∧
        ∀ asked, ((inline (.ofDocuments neighbours) "" (.string "a/one.json")).run.run asked).1 = outcome) ∧
      ((inline (.ofDocuments neighbours) "" (.string "a/one.json")).run.run []).1 =
        .error (.cyclic "../b/two.json#/not") := by
  have referring : ∀ reference, Acyclic (.object [(.text "$ref", .string reference)]) := fun reference =>
    .object (by simpa using Acyclic.leaf rfl)
  have acyclic : ∀ document ∈ .string "a/one.json" :: neighbours.values, Acyclic document := by
    simp only [neighbours, Fields.values, List.map_cons, List.map_nil, List.forall_mem_cons, List.not_mem_nil,
      false_imp_iff, implies_true, and_true]
    refine ⟨.leaf rfl, .object ?_, .object ?_⟩
    · simpa using referring _
    · simpa using Acyclic.array (by simpa using ⟨referring _, referring _⟩)
  exact ⟨acyclic, @inlining_ends neighbours "" (.string "a/one.json") acyclic, by rfl⟩

end SchemaAlgebra.Inline

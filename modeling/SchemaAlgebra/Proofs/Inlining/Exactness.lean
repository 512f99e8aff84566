import SchemaAlgebra.Proofs.Inlining.Cycles

/-!
Inlining is unfolding. Whatever the documents are, a schema is inlined exactly if it unfolds, and then to
its unfolding. If the documents are finitely many, the bound on the references that are followed at once is
enough for all of them.
-/

namespace SchemaAlgebra.Inline

theorem length_references (value : Json) : (references value).length ≤ Reference.count "$ref" value := by
  induction value using Json.treeInduction with
  | array items ih =>
      rw [references, Reference.count]
      induction items with
      | nil => simp [itemReferences]
      | cons item rest ih' =>
          have first := ih item (by simp)
          have later := ih' fun other member => ih other (by simp [member])
          rw [itemReferences, Reference.countItems, List.length_append]
          omega
  | object fields ih =>
      rw [references, Reference.count]
      induction fields with
      | nil => simp [fieldReferences]
      | cons entry rest ih' =>
          obtain ⟨key, value⟩ := entry
          have first : (references value).length ≤ Reference.count "$ref" value :=
            ih (key, value) (by simp)
          have later := ih' fun other member => ih other (by simp [member])
          have here : (entryReference (key, value)).length ≤ if key = .text "$ref" then 1 else 0 := by
            unfold entryReference
            split
            · next same =>
                obtain ⟨rfl, -⟩ := Prod.mk.inj same
                simp
            · simp
          rw [fieldReferences, Reference.countFields, List.length_append, List.length_append]
          omega
  | scalar value notArray notObject =>
      cases value <;> simp_all [references, Json.isArray, Json.isObject]

theorem length_itemReferences (items : List Json) :
    (itemReferences items).length ≤ Reference.countItems "$ref" items := by
  have listed := length_references (.array items)
  rwa [references, Reference.count] at listed

theorem listed_of_get? {documents : Fields String Json} {location : String} {document : Json}
    (found : documents.get? location = some document) :
    location ∈ documents.keys ∧ document ∈ (Library.ofDocuments documents).documents := by
  have listed := Fields.mem_of_get? found
  exact ⟨List.mem_map_of_mem listed, List.mem_map_of_mem listed⟩

variable {library : Library} {root : Option Root} {base : String} {schema result : Json}

theorem inlineAt_of_unfolds {location : String} {node : Json}
    (unfolds : Unfolds (library.at? root) location node result) :
    ∃ count, Yields (inlineAt library root count [] location node) result := by
  obtain ⟨depth, yields⟩ := exists_unfoldWithin unfolds
  exact ⟨depth, inlineAt_yields depth depth [] location node result (Nat.le_refl depth) (by simp)
    yields.reaches⟩

/-- What can be asked for is known: it is the schema or a document of the library, and stands at the base location
or at one of the given ones, of which there are no more than the library has names. -/
structure Known (library : Library) (root : Option Root) (locations : List String) (base : String) (schema : Json) :
    Prop where
  few : locations.length ≤ library.names
  there : ∀ {location document}, library.at? root location = some document →
    location ∈ base :: locations ∧ document ∈ schema :: library.documents

/-- The references of a schema and of all documents of a library. -/
def knownReferences (library : Library) (schema : Json) : List String :=
  itemReferences (schema :: library.documents)

/-- The locations with the fragments that these references name. -/
def knownTargets (library : Library) (locations : List String) (base : String) (schema : Json) :
    List (String × String) :=
  (knownReferences library schema).flatMap fun reference =>
    (base :: locations).map fun location => (location, (Text.cutAt '#' reference).2)

section

variable {locations : List String}

/-- What a known reference names is one of the known targets, and has no other references. -/
theorem Known.closed (known : Known library root locations base schema) (location : String) :
    ∀ reference ∈ knownReferences library schema, ∀ part,
      named? (library.at? root) (target reference location) = some part →
        target reference location ∈ knownTargets library locations base schema ∧
          references part ⊆ knownReferences library schema := by
  intro reference member part named
  obtain ⟨document, there, within⟩ := references_named named
  obtain ⟨listed, held⟩ := known.there there
  refine ⟨List.mem_flatMap.mpr ⟨reference, member, List.mem_map.mpr ⟨_, listed, rfl⟩⟩, ?_⟩
  exact List.Subset.trans within fun reference inside => mem_itemReferences.mpr ⟨document, held, inside⟩

/-- The references that can be followed at once are fewer than the bound. -/
theorem Known.length_targets_lt (known : Known library root locations base schema) :
    (knownTargets library locations base schema).length < bound library schema := by
  have few : (knownReferences library schema).length ≤ Reference.countItems "$ref" (schema :: library.documents) :=
    length_itemReferences _
  have named := known.few
  have size : (knownTargets library locations base schema).length =
      (knownReferences library schema).length * (locations.length + 1) := by
    simp [knownTargets, List.length_flatMap, List.map_const', List.sum_replicate_nat]
  have product := Nat.mul_le_mul (Nat.le_succ_of_le few)
    (show locations.length + 1 ≤ library.names + (Reference.countItems "$ref"
      (schema :: library.documents) + 1) + 1 by omega)
  rw [size]
  exact Nat.lt_succ_of_le product

theorem references_known (library : Library) (schema : Json) :
    references schema ⊆ knownReferences library schema :=
  fun _ inside => mem_itemReferences.mpr ⟨schema, by simp, inside⟩

/-- The bound is enough. -/
theorem inlineAt_bound (known : Known library root locations base schema) {count : Nat}
    (reaches : Reaches (inlineAt library root count [] base schema) result) :
    Yields (inlineAt library root (bound library schema) [] base schema) result :=
  inlineAt_enough known.closed count _ [] base schema result (references_known library schema) List.nodup_nil
    (List.nil_subset _) (by simpa using Nat.le_of_lt known.length_targets_lt) reaches

end

/-- A loader that also has a schema at its base location. -/
def registered (load : String → Option Json) (base : String) (schema : Json) (location : String) :
    Option Json :=
  if location = base then some schema else load location

/-- What a schema at a base location unfolds to or, if a string is given, the document at that location. -/
def UnfoldsTo (load : String → Option Json) (base : String) : Json → Json → Prop
  | .string location, result =>
      ∃ document, load location = some document ∧ Unfolds load location document result
  | schema, result => Unfolds (registered load base schema) base schema result

theorem fetched_ofDocuments (documents : Fields String Json) (location : String) :
    ((Library.ofDocuments documents).fetch location).toOption = documents.get? location := by
  simp only [Library.ofDocuments]
  cases documents.get? location <;> rfl

theorem at?_none_ofDocuments (documents : Fields String Json) :
    (Library.ofDocuments documents).at? none = documents.get? :=
  funext (fetched_ofDocuments documents)

theorem at?_some_ofDocuments (documents : Fields String Json) (base : String) (schema : Json) :
    (Library.ofDocuments documents).at? (some ⟨base, schema⟩) =
      registered documents.get? base schema := by
  funext location
  simp only [Library.at?, registered, fetched_ofDocuments]

variable {documents : Fields String Json}

theorem known_schema (documents : Fields String Json) (base : String) (schema : Json) :
    Known (.ofDocuments documents) (some ⟨base, schema⟩) documents.keys base schema where
  few := Nat.le_of_eq (List.length_map ..)
  there {location document} found := by
    rw [at?_some_ofDocuments, registered] at found
    split at found
    · next own =>
        obtain rfl := Option.some.inj found
        exact ⟨by simp [own], by simp⟩
    · obtain ⟨listed, held⟩ := listed_of_get? found
      exact ⟨List.mem_cons_of_mem base listed, List.mem_cons_of_mem schema held⟩

theorem known_document (documents : Fields String Json) (location : String) (schema : Json) :
    Known (.ofDocuments documents) none documents.keys location schema where
  few := Nat.le_of_eq (List.length_map ..)
  there found := by
    rw [at?_none_ofDocuments] at found
    obtain ⟨listed, held⟩ := listed_of_get? found
    exact ⟨List.mem_cons_of_mem _ listed, List.mem_cons_of_mem _ held⟩

theorem inlineSchema_yields (unfolds : Unfolds (registered documents.get? base schema) base schema result) :
    Yields (inlineSchema (.ofDocuments documents) base schema) result := by
  rw [← at?_some_ofDocuments] at unfolds
  obtain ⟨count, yields⟩ := inlineAt_of_unfolds unfolds
  exact inlineAt_bound (known_schema documents base schema) yields.reaches

theorem inlineDocument_yields {location : String} (found : documents.get? location = some schema)
    (unfolds : Unfolds documents.get? location schema result) :
    Yields (inlineDocument (.ofDocuments documents) location) result := by
  rw [← at?_none_ofDocuments] at found unfolds
  obtain ⟨count, yields⟩ := inlineAt_of_unfolds unfolds
  exact (yields_document found).bind (inlineAt_bound (known_document documents location schema) yields.reaches)

theorem inline_yields (unfolds : UnfoldsTo documents.get? base schema result) :
    Yields (inline (.ofDocuments documents) base schema) result := by
  cases schema with
  | string location =>
      obtain ⟨document, found, unfolds⟩ := unfolds
      exact inlineDocument_yields found unfolds
  | _ => exact inlineSchema_yields unfolds

/-- Whatever inlining returns is an unfolding. -/
theorem unfoldsTo_of_inline (reaches : Reaches (inline library base schema) result) :
    UnfoldsTo (library.at? none) base schema result := by
  cases schema with
  | string location =>
      obtain ⟨document, fetched, reaches⟩ := Reaches.of_bind reaches
      exact ⟨document, at?_of_reaches fetched, unfolds_of_inlineAt _ _ _ _ _ _ _ reaches⟩
  | _ => exact unfolds_of_inlineAt _ _ _ _ _ _ _ reaches

/-- Inlining returns a result exactly if what is inlined unfolds to it: for every library, if references can
be followed inside each other as often as it takes, and for a library of finitely many documents as it is. -/
theorem inline_iff_unfolds :
    (∀ (library : Library) (root : Option Root) (location : String) (node result : Json),
      (∃ count, ((inlineAt library root count [] location node).run.run []).1 = .ok result) ↔
        Unfolds (library.at? root) location node result) ∧
    ∀ (documents : Fields String Json) (base : String) (schema result : Json),
      ((inline (.ofDocuments documents) base schema).run.run []).1 = .ok result ↔
        UnfoldsTo documents.get? base schema result := by
  constructor
  · intro library root location node result
    constructor
    · rintro ⟨count, ended⟩
      exact unfolds_of_inlineAt library root count [] location node result ⟨[], ended⟩
    · intro unfolds
      obtain ⟨count, yields⟩ := inlineAt_of_unfolds unfolds
      exact ⟨count, yields []⟩
  · intro documents base schema result
    rw [← at?_none_ofDocuments]
    refine ⟨fun ended => unfoldsTo_of_inline ⟨[], ended⟩, fun unfolds => inline_yields ?_ []⟩
    rwa [at?_none_ofDocuments] at unfolds

end SchemaAlgebra.Inline

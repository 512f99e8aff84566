import Mathlib.Data.Nat.Find
import SchemaAlgebra.Proofs.Inlining.Unfolding
import SchemaAlgebra.Proofs.Schema.Pointers

/-!
Which references can be followed. Replacing follows the references that occur in a value, and what a
pointer leads to has no other references than the document.
-/

namespace SchemaAlgebra.Inline

/-- The reference that an entry makes. -/
def entryReference (entry : Key × Json) : List String :=
  match entry with
  | (.text "$ref", .string reference) => [reference]
  | _ => []

mutual

/-- The references in a value, those in data included. -/
def references : Json → List String
  | .object fields => fieldReferences fields
  | .array items => itemReferences items
  | _ => []

/-- The references in items. -/
def itemReferences : List Json → List String
  | [] => []
  | item :: rest => references item ++ itemReferences rest

/-- The references in members. -/
def fieldReferences : List (Key × Json) → List String
  | [] => []
  | (key, value) :: rest => entryReference (key, value) ++ references value ++ fieldReferences rest

end

theorem mem_itemReferences {items : List Json} {reference : String} :
    reference ∈ itemReferences items ↔ ∃ item ∈ items, reference ∈ references item := by
  induction items with
  | nil => simp [itemReferences]
  | cons item rest ih => simp [itemReferences, ih]

theorem mem_fieldReferences {fields : List (Key × Json)} {reference : String} :
    reference ∈ fieldReferences fields ↔
      ∃ entry ∈ fields, reference ∈ entryReference entry ∨ reference ∈ references entry.2 := by
  induction fields with
  | nil => simp [fieldReferences]
  | cons entry rest ih =>
      obtain ⟨key, value⟩ := entry
      simp [fieldReferences, ih, or_assoc]

theorem mem_references_of_reference? {fields : List (Key × Json)} {reference : String}
    (referring : reference? fields = some reference) : reference ∈ references (.object fields) := by
  rw [references, mem_fieldReferences]
  unfold reference? at referring
  split at referring
  · next found =>
      obtain rfl := Option.some.inj referring
      exact ⟨_, Fields.mem_of_get? found, .inl (List.mem_singleton.mpr rfl)⟩
  · simp at referring

theorem references_inherited (known : List String) : Pointer.Inherited fun value => references value ⊆ known where
  member := fun inside entry listed _ member => inside (mem_fieldReferences.mpr ⟨entry, listed, .inr member⟩)
  item := fun inside item listed _ member => inside (mem_itemReferences.mpr ⟨item, listed, member⟩)

theorem references_named {load : String → Option Json} {key : String × String} {found : Json}
    (named : named? load key = some found) :
    ∃ document, load key.1 = some document ∧ references found ⊆ references document := by
  obtain ⟨document, there, led⟩ := Option.bind_eq_some_iff.mp named
  refine ⟨document, there, ?_⟩
  cases ended : Pointer.lead document key.2 with
  | error cause => simp [ended, Except.toOption] at led
  | ok other =>
      obtain rfl : other = found := by simpa [ended, Except.toOption] using led
      exact (references_inherited (references document)).leadTokens (List.Subset.refl _) ended

section

variable {follow follow' : String → Run Json}

theorem replaceItems_yields {items results : List Json}
    (each : ∀ item ∈ items, ∀ result, Reaches (replace follow item) result →
      Yields (replace follow' item) result)
    (reaches : Reaches (replaceItems follow items) results) :
    Yields (replaceItems follow' items) results := by
  induction items generalizing results with
  | nil => exact reaches_pure.mp reaches ▸ yields_pure _
  | cons item rest ih =>
      obtain ⟨first, replaced, reaches⟩ := reaches.of_bind
      obtain ⟨later, others, reaches⟩ := reaches.of_bind
      obtain rfl := reaches_pure.mp reaches
      exact (each item (by simp) first replaced).bind
        ((ih (fun other member => each other (by simp [member])) others).bind (yields_pure _))

theorem replaceFields_yields {fields results : List (Key × Json)}
    (each : ∀ entry ∈ fields, ∀ result, Reaches (replace follow entry.2) result →
      Yields (replace follow' entry.2) result)
    (reaches : Reaches (replaceFields follow fields) results) :
    Yields (replaceFields follow' fields) results := by
  induction fields generalizing results with
  | nil => exact reaches_pure.mp reaches ▸ yields_pure _
  | cons entry rest ih =>
      obtain ⟨key, value⟩ := entry
      rw [replaceFields_cons] at reaches ⊢
      obtain ⟨first, replaced, reaches⟩ := reaches.of_bind
      obtain ⟨later, others, reaches⟩ := reaches.of_bind
      obtain rfl := reaches_pure.mp reaches
      have here : Yields (replaceMember follow' key value) first := by
        unfold replaceMember at replaced ⊢
        by_cases data : key ∈ dataKeywords.map Key.text
        · rw [if_pos data] at replaced ⊢
          exact reaches_pure.mp replaced ▸ yields_pure _
        · rw [if_neg data] at replaced ⊢
          exact each (key, value) (by simp) first replaced
      exact here.bind
        ((ih (fun other member => each other (by simp [member])) others).bind (yields_pure _))

/-- A value is replaced alike, if the references in it are followed alike. -/
theorem replace_yields (node : Json) :
    (∀ reference ∈ references node, ∀ result, Reaches (follow reference) result →
      Yields (follow' reference) result) →
    ∀ result, Reaches (replace follow node) result → Yields (replace follow' node) result := by
  induction node using Json.treeInduction with
  | array items ih =>
      intro alike result reaches
      obtain ⟨results, replaced, reaches⟩ := reaches.of_bind
      obtain rfl := reaches_pure.mp reaches
      have each := replaceItems_yields (fun item member => ih item member fun reference inside =>
        alike reference (mem_itemReferences.mpr ⟨item, member, inside⟩)) replaced
      exact each.bind (yields_pure _)
  | object fields ih =>
      intro alike result reaches
      rw [replace_object] at reaches ⊢
      cases referring : reference? fields with
      | some reference =>
          rw [referring] at reaches
          exact alike reference (mem_references_of_reference? referring) result reaches
      | none =>
          rw [referring] at reaches
          obtain ⟨results, replaced, reaches⟩ := reaches.of_bind
          obtain rfl := reaches_pure.mp reaches
          have each := replaceFields_yields (fun entry member => ih entry member fun reference inside =>
            alike reference (mem_fieldReferences.mpr ⟨entry, member, .inr inside⟩)) replaced
          exact each.bind (yields_pure _)
  | scalar value notArray notObject =>
      intro alike result reaches
      rw [replace_leaf _ notArray notObject] at reaches ⊢
      cases leaf : isLeaf value with
      | true =>
          rw [leaf, if_pos rfl] at reaches
          rw [if_pos rfl]
          exact reaches_pure.mp reaches ▸ yields_pure _
      | false =>
          rw [leaf, if_neg Bool.false_ne_true] at reaches
          exact absurd reaches not_reaches_throw

end

end SchemaAlgebra.Inline

/-!
Cycles. A reference that is met again while it is being followed has no finite unfolding: if it had one, a
shortest one would hold a shorter one. So refusing such references refuses nothing that unfolds, and since
the references that are being followed differ, the bound on their number is never met.
-/

namespace SchemaAlgebra.Inline

/-- Follow references without looking for cycles, so many of them inside each other. -/
def followWithin (library : Library) (root : Option Root) :
    (depth : Nat) → (location reference : String) → Run Json
  | 0, _, reference => throw (.cyclic reference)
  | depth + 1, location, reference =>
      followed library root (fun place => replace (followWithin library root depth place)) location
        reference

/-- Unfold a value, following at most so many references inside each other. -/
def unfoldWithin (library : Library) (root : Option Root) (depth : Nat) (location : String) :
    Json → Run Json :=
  replace (followWithin library root depth location)

variable {library : Library} {root : Option Root}

theorem followWithin_mono {depth more : Nat} (less : depth ≤ more) {location reference : String}
    {result : Json} (reaches : Reaches (followWithin library root depth location reference) result) :
    Yields (followWithin library root more location reference) result := by
  induction depth generalizing more location reference result with
  | zero => exact absurd reaches not_reaches_throw
  | succ depth ih =>
      obtain ⟨more, rfl⟩ : ∃ rest, more = rest + 1 := ⟨more - 1, by omega⟩
      obtain ⟨found, named, reaches⟩ := reaches_followed reaches
      refine yields_followed named ?_
      exact replace_yields found (fun _ _ _ reaches => ih (by omega) reaches) result reaches

theorem unfoldWithin_mono {depth more : Nat} (less : depth ≤ more) {location : String}
    {node result : Json} (reaches : Reaches (unfoldWithin library root depth location node) result) :
    Yields (unfoldWithin library root more location node) result :=
  replace_yields node (fun _ _ _ reaches => followWithin_mono less reaches) result reaches

mutual

/-- What unfolds can be unfolded with references inside each other up to some depth. -/
theorem exists_unfoldWithin {location : String} {node result : Json} :
    Unfolds (library.at? root) location node result →
      ∃ depth, Yields (unfoldWithin library root depth location node) result
  | .leaf leaf => by
      refine ⟨0, ?_⟩
      rw [unfoldWithin, replace_of_isLeaf _ leaf]
      exact yields_pure node
  | .array unfolds => by
      obtain ⟨depth, yields⟩ := exists_itemsWithin unfolds
      exact ⟨depth, yields.bind (yields_pure _)⟩
  | .object referring unfolds => by
      obtain ⟨depth, yields⟩ := exists_fieldsWithin unfolds
      refine ⟨depth, ?_⟩
      rw [unfoldWithin, replace_object, referring]
      exact yields.bind (yields_pure _)
  | .reference referring named unfolds => by
      obtain ⟨depth, yields⟩ := exists_unfoldWithin unfolds
      refine ⟨depth + 1, ?_⟩
      rw [unfoldWithin, replace_object, referring]
      exact yields_followed named yields

theorem exists_itemsWithin {location : String} {items results : List Json} :
    UnfoldsItems (library.at? root) location items results →
      ∃ depth, Yields (replaceItems (followWithin library root depth location) items) results
  | .nil => ⟨0, yields_pure []⟩
  | .cons first later => by
      obtain ⟨depth, yields⟩ := exists_unfoldWithin first
      obtain ⟨depth', yields'⟩ := exists_itemsWithin later
      refine ⟨max depth depth', ?_⟩
      have here := unfoldWithin_mono (Nat.le_max_left depth depth') yields.reaches
      have there := replaceItems_yields (fun item _ result reaches =>
        unfoldWithin_mono (Nat.le_max_right depth depth') reaches) yields'.reaches
      exact here.bind (there.bind (yields_pure _))

theorem exists_fieldsWithin {location : String} {fields results : List (Key × Json)} :
    UnfoldsFields (library.at? root) location fields results →
      ∃ depth, Yields (replaceFields (followWithin library root depth location) fields) results
  | .nil => ⟨0, yields_pure []⟩
  | .data data later => by
      obtain ⟨depth, yields⟩ := exists_fieldsWithin later
      refine ⟨depth, ?_⟩
      rw [replaceFields_cons, replaceMember, if_pos data]
      exact (yields_pure _).bind (yields.bind (yields_pure _))
  | .schema schema first later => by
      obtain ⟨depth, yields⟩ := exists_unfoldWithin first
      obtain ⟨depth', yields'⟩ := exists_fieldsWithin later
      refine ⟨max depth depth', ?_⟩
      have here := unfoldWithin_mono (Nat.le_max_left depth depth') yields.reaches
      have there := replaceFields_yields (fun entry _ result reaches =>
        unfoldWithin_mono (Nat.le_max_right depth depth') reaches) yields'.reaches
      rw [replaceFields_cons, replaceMember, if_neg schema]
      exact here.bind (there.bind (yields_pure _))

end

/-- What a location and a fragment name can be unfolded with references inside each other up to a depth. -/
def UnfoldsBy (library : Library) (root : Option Root) (key : String × String) (depth : Nat) : Prop :=
  ∃ found result, named? (library.at? root) key = some found ∧
    Reaches (unfoldWithin library root depth key.1 found) result

theorem inlineAt_of_count_zero {opened : List (String × String)} {location : String} {node result : Json}
    (reaches : Reaches (unfoldWithin library root 0 location node) result) (count : Nat) :
    Yields (inlineAt library root count opened location node) result := by
  have alike : ∀ follow : String → Run Json, ∀ reference ∈ references node, ∀ result,
      Reaches (followWithin library root 0 location reference) result → Yields (follow reference) result :=
    fun _ _ _ _ reaches => absurd reaches not_reaches_throw
  cases count with
  | zero => exact replace_yields node (alike _) result reaches
  | succ count =>
      rw [inlineAt_succ]
      exact replace_yields node (alike _) result reaches

theorem exists_least {library : Library} {root : Option Root} {key : String × String} {depth : Nat}
    (unfolds : UnfoldsBy library root key depth) :
    ∃ least ≤ depth, UnfoldsBy library root key least ∧
      ∀ less < least, ¬ UnfoldsBy library root key less := by
  classical
  have some : ∃ depth, UnfoldsBy library root key depth := ⟨depth, unfolds⟩
  exact ⟨Nat.find some, Nat.find_min' some unfolds, Nat.find_spec some, fun less => Nat.find_min some⟩

/-- A value is inlined, if its references need less depth than those that are being followed. -/
theorem inlineAt_yields (depth : Nat) :
    ∀ count opened location node result, depth ≤ count →
      (∀ key ∈ opened, ∀ less < depth, ¬ UnfoldsBy library root key less) →
      Reaches (unfoldWithin library root depth location node) result →
        Yields (inlineAt library root count opened location node) result := by
  induction depth using Nat.strongRecOn with
  | ind depth ih =>
      intro count opened location node result enough apart reaches
      cases depth with
      | zero => exact inlineAt_of_count_zero reaches count
      | succ depth =>
          obtain ⟨count, rfl⟩ : ∃ rest, count = rest + 1 := ⟨count - 1, by omega⟩
          rw [inlineAt_succ]
          refine replace_yields node (fun reference _ result reaches => ?_) result reaches
          obtain ⟨found, named, reaches⟩ := reaches_followed reaches
          have unfolds : UnfoldsBy library root (target reference location) depth :=
            ⟨found, result, named, reaches⟩
          have fresh : target reference location ∉ opened := fun pending =>
            apart _ pending depth (by omega) unfolds
          rw [if_neg fresh]
          -- what is named is followed with the least depth it needs, so that it is not met again below
          obtain ⟨least, small, ⟨found', result', named', reaches'⟩, minimal⟩ := exists_least unfolds
          obtain rfl : found = found' := Option.some.inj (named.symm.trans named')
          have same : result' = result :=
            (unfoldWithin_mono small reaches').unique (unfoldWithin_mono (Nat.le_refl depth) reaches)
          have apart' : ∀ key ∈ target reference location :: opened, ∀ less < least,
              ¬ UnfoldsBy library root key less := by
            intro key pending less below
            rcases List.mem_cons.mp pending with rfl | pending
            · exact minimal less below
            · exact apart key pending less (by omega)
          exact yields_followed named
            (ih least (by omega) count _ _ found result (by omega) apart' (same ▸ reaches'))

/-- References are followed enough, if there are more of them than can be followed at once. -/
theorem inlineAt_enough {known : List String} {keys : List (String × String)}
    (closed : ∀ location, ∀ reference ∈ known, ∀ found,
      named? (library.at? root) (target reference location) = some found →
        target reference location ∈ keys ∧ references found ⊆ known) (more : Nat) :
    ∀ count opened location node result, references node ⊆ known → opened.Nodup → opened ⊆ keys →
      keys.length ≤ count + opened.length →
      Reaches (inlineAt library root more opened location node) result →
        Yields (inlineAt library root count opened location node) result := by
  induction more with
  | zero =>
      intro count opened location node result _ _ _ _ reaches
      exact inlineAt_of_count_zero reaches count
  | succ more ih =>
      intro count opened location node result inside distinct among enough reaches
      have each : ∀ reference ∈ references node, ∀ result,
          Reaches (if target reference location ∈ opened then throw (.cyclic reference)
            else followed library root (inlineAt library root more (target reference location :: opened))
              location reference) result →
          ∃ rest, count = rest + 1 ∧ target reference location ∉ opened ∧
            Yields (followed library root (inlineAt library root rest (target reference location :: opened))
              location reference) result := by
        intro reference member result reaches
        by_cases pending : target reference location ∈ opened
        · rw [if_pos pending] at reaches
          exact absurd reaches not_reaches_throw
        · rw [if_neg pending] at reaches
          obtain ⟨found, named, reaches⟩ := reaches_followed reaches
          obtain ⟨listed, within⟩ := closed location reference (inside member) found named
          have distinct' := List.nodup_cons.mpr ⟨pending, distinct⟩
          have among' : target reference location :: opened ⊆ keys := List.cons_subset.mpr ⟨listed, among⟩
          -- one more reference is followed than before, and there are no more than the keys
          have room := distinct'.length_le_of_subset among'
          rw [List.length_cons] at room
          obtain ⟨rest, rfl⟩ : ∃ rest, count = rest + 1 := ⟨count - 1, by omega⟩
          refine ⟨rest, rfl, pending, yields_followed named ?_⟩
          refine ih rest _ _ found result within distinct' among' ?_ reaches
          rw [List.length_cons]
          omega
      rw [inlineAt_succ] at reaches
      cases count with
      | zero =>
          refine replace_yields node (fun reference member result reaches => ?_) result reaches
          obtain ⟨rest, same, -⟩ := each reference member result reaches
          omega
      | succ count =>
          rw [inlineAt_succ]
          refine replace_yields node (fun reference member result reaches => ?_) result reaches
          obtain ⟨rest, same, fresh, yields⟩ := each reference member result reaches
          obtain rfl : count = rest := by omega
          rw [if_neg fresh]
          exact yields

end SchemaAlgebra.Inline

import Mathlib.Data.List.Nodup
import SchemaAlgebra.Proofs.Builder.Steps
import SchemaAlgebra.Proofs.Schema.Nodes
import SchemaAlgebra.Proofs.Schema.Pointers

/-!
The pointers that the traversal gives out. Each one, read from the root of the document, leads to the node that it
was given out for, and no two nodes get the same one. So the pointer that a document is refused with names the first
node with a reference, and no other node.
-/

namespace SchemaAlgebra.Walk

open Pointer (follow? ofTokens)

/-- The listed pointers go on from a path in a document; each of them leads to what is listed with it, and they are
different. -/
structure Places (document : Json) (path : List String) (entries : List (String × Json)) : Prop where
  leads : ∀ entry ∈ entries, ∃ rest, entry.1 = ofTokens (path ++ rest) ∧
    follow? document (path ++ rest) = some entry.2
  distinct : (entries.map Prod.fst).Nodup

variable {document value : Json} {path : List String}

theorem Places.nil : Places document path [] :=
  ⟨by simp, List.nodup_nil⟩

/-- What is placed behind different tokens is placed together, and none of it at the path itself. -/
theorem Places.flatMap {α : Type} {groups : List α} {listed : α → List (String × Json)} (token : α → String)
    (apart : (groups.map token).Nodup)
    (each : ∀ group ∈ groups, Places document (path ++ [token group]) (listed group)) :
    Places document path (groups.flatMap listed) ∧
      ∀ entry ∈ groups.flatMap listed, entry.1 ≠ ofTokens path := by
  have behind : ∀ group ∈ groups, ∀ entry ∈ listed group, ∃ rest,
      entry.1 = ofTokens (path ++ token group :: rest) ∧
        follow? document (path ++ token group :: rest) = some entry.2 := by
    intro group member entry within
    obtain ⟨rest, named, led⟩ := (each group member).leads entry within
    rw [List.append_assoc, List.singleton_append] at named led
    exact ⟨rest, named, led⟩
  refine ⟨⟨fun entry within => ?_, ?_⟩, fun entry within same => ?_⟩
  · obtain ⟨group, member, within⟩ := List.mem_flatMap.mp within
    obtain ⟨rest, named, led⟩ := behind group member entry within
    exact ⟨token group :: rest, named, led⟩
  · rw [List.map_flatMap, List.nodup_flatMap]
    refine ⟨fun group member => (each group member).distinct, ?_⟩
    rw [List.Nodup, List.pairwise_map] at apart
    refine apart.imp_of_mem fun {first second} member member' other => ?_
    -- the tokens right behind the path tell the pointers of two groups apart
    refine List.disjoint_left.mpr fun pointer listed listed' => ?_
    obtain ⟨entry, within, rfl⟩ := List.mem_map.mp listed
    obtain ⟨entry', within', same⟩ := List.mem_map.mp listed'
    obtain ⟨rest, named, -⟩ := behind first member entry within
    obtain ⟨rest', named', -⟩ := behind second member' entry' within'
    have tokens := Pointer.ofTokens_injective (named.symm.trans (same.symm.trans named'))
    exact other (List.cons.inj (List.append_cancel_left tokens)).1
  · obtain ⟨group, member, within⟩ := List.mem_flatMap.mp within
    obtain ⟨rest, named, -⟩ := behind group member entry within
    have tokens := Pointer.ofTokens_injective (named.symm.trans same)
    simp at tokens

/-- A node is placed at the path, with what is placed behind it. -/
theorem Places.node {entries : List (String × Json)} (led : follow? document path = some value)
    (places : Places document path entries) (behind : ∀ entry ∈ entries, entry.1 ≠ ofTokens path) :
    Places document path ((ofTokens path, value) :: entries) := by
  obtain ⟨leads, distinct⟩ := places
  refine ⟨fun entry listed => ?_, ?_⟩
  · rcases List.mem_cons.mp listed with rfl | listed
    · exact ⟨[], by rw [List.append_nil], by rw [List.append_nil, led]⟩
    · exact leads entry listed
  · rw [List.map_cons, List.nodup_cons]
    refine ⟨fun listed => ?_, distinct⟩
    obtain ⟨entry, listed, same⟩ := List.mem_map.mp listed
    exact behind entry listed same

theorem memberNodes_eq (pointer : String) (fields : List (Key × Json)) :
    memberNodes pointer fields =
      fields.flatMap fun entry => nodesAs .schema (Pointer.extend pointer entry.1.display) entry.2 := by
  induction fields with
  | nil => rfl
  | cons entry rest ih => rw [memberNodes, ih, List.flatMap_cons]

theorem itemNodes_eq (pointer : String) (index : Nat) (items : List Json) :
    itemNodes pointer index items = (items.zipIdx index).flatMap fun entry =>
      nodesAs .schema (Pointer.extend pointer (toString entry.2)) entry.1 := by
  induction items generalizing index with
  | nil => rfl
  | cons item rest ih =>
      rw [itemNodes, ih, List.zipIdx_cons, List.flatMap_cons, Pointer.extend_toString]

/-- The keywords are written as they are. -/
theorem extend_keyword {entry : String × Role} (listed : entry ∈ keywords) (pointer : String) :
    Pointer.extend pointer entry.1 = pointer ++ "/" ++ entry.1 := by
  have plain : ∀ entry ∈ keywords, (entry.1.toList.all fun c => c ≠ '~' && c ≠ '/') = true := by decide
  refine Pointer.extend_of_plain (fun c inside => ?_) pointer
  simpa using List.all_eq_true.mp (plain entry listed) c inside

theorem nodup_keywords : (keywords.map Prod.fst).Nodup := by
  decide

section

variable {fields : List (Key × Json)} {items : List Json}

theorem places_members (formed : (Json.object fields).wellFormed = true)
    (led : follow? document path = some (.object fields))
    (each : ∀ entry ∈ fields, ∀ path, follow? document path = some entry.2 →
      Places document path (nodesAs .schema (ofTokens path) entry.2)) :
    Places document path (memberNodes (ofTokens path) fields) := by
  obtain ⟨textual, distinct, -⟩ := (Json.wellFormed_object fields).mp formed
  rw [memberNodes_eq]
  refine (Places.flatMap (fun entry => entry.1.display) ?_ fun entry listed => ?_).1
  · -- keys that are texts are shown as these texts
    rw [List.Nodup, List.pairwise_map]
    rw [Fields.keys, List.Nodup, List.pairwise_map] at distinct
    refine distinct.imp_of_mem fun {first second} listed listed' other same => other ?_
    obtain ⟨name, named⟩ := textual first listed
    obtain ⟨name', named'⟩ := textual second listed'
    rw [named, named'] at same ⊢
    exact congrArg Key.text same
  · obtain ⟨name, named⟩ := textual entry listed
    rw [← Pointer.ofTokens_concat]
    refine each entry listed _ ?_
    have found : Fields.get? fields (.text name) = some entry.2 :=
      Fields.get?_of_mem distinct (named ▸ listed)
    rw [Pointer.follow?_concat led, named]
    exact found

theorem places_items (led : follow? document path = some (.array items))
    (each : ∀ item ∈ items, ∀ path, follow? document path = some item →
      Places document path (nodesAs .schema (ofTokens path) item)) :
    Places document path (itemNodes (ofTokens path) 0 items) := by
  rw [itemNodes_eq]
  refine (Places.flatMap (fun entry => toString entry.2) ?_ fun entry listed => ?_).1
  · have indices : (items.zipIdx.map fun entry => toString entry.2) = (List.range items.length).map toString := by
      rw [List.range_eq_range', ← List.zipIdx_map_snd 0 items, List.map_map]
      rfl
    rw [indices]
    exact List.nodup_range.map fun _ _ same => Pointer.toString_injective same
  · have found := List.mem_zipIdx_iff_getElem?.mp listed
    rw [← Pointer.ofTokens_concat]
    refine each entry.1 (List.mem_of_getElem? found) _ ?_
    rw [Pointer.follow?_concat led, Pointer.part?_array, found]

theorem places_keywords (led : follow? document path = some (.object fields))
    (each : ∀ entry ∈ fields, ∀ role path, follow? document path = some entry.2 →
      Places document path (nodesAs role (ofTokens path) entry.2)) :
    Places document path ((ofTokens path, .object fields) :: keywords.flatMap fun entry =>
      nodesUnder entry.1 entry.2 (ofTokens path ++ "/" ++ entry.1) fields) := by
  have under : ∀ entry ∈ keywords, Places document (path ++ [entry.1])
      (nodesUnder entry.1 entry.2 (ofTokens path ++ "/" ++ entry.1) fields) := by
    intro entry listed
    rw [nodesUnder_eq, ← extend_keyword listed, ← Pointer.ofTokens_concat]
    cases found : Fields.get? fields (.text entry.1) with
    | none => exact .nil
    | some value =>
        refine each _ (Fields.mem_of_get? found) entry.2 _ ?_
        rw [Pointer.follow?_concat led]
        exact found
  obtain ⟨places, behind⟩ := Places.flatMap Prod.fst nodup_keywords under
  exact places.node led behind

end

/-- The traversal of a part of a document places the nodes of the part. -/
theorem places_nodesAs (value : Json) : ∀ role path, value.wellFormed = true →
    follow? document path = some value → Places document path (nodesAs role (ofTokens path) value) := by
  induction value using Json.treeInduction with
  | array items ih =>
      intro role path formed led
      have each := (Json.wellFormed_array items).mp formed
      have places := places_items led fun item listed path => ih item listed .schema path (each item listed)
      cases role with
      | branches | schemaOrList => rw [nodesAs]; exact places
      | schema | members | objectOnly => rw [nodesAs]; exact .nil
  | object fields ih =>
      intro role path formed led
      have each := ((Json.wellFormed_object fields).mp formed).2.2
      have members := places_members formed led fun entry listed path =>
        ih entry listed .schema path (each entry listed)
      have keyed := places_keywords led fun entry listed role path => ih entry listed role path (each entry listed)
      cases role with
      | members => rw [nodesAs]; exact members
      | branches => rw [nodesAs]; exact .nil
      | schema | schemaOrList | objectOnly => rw [nodesAs]; exact keyed
  | scalar value notArray notObject =>
      intro role path _ _
      have none : nodesAs role (ofTokens path) value = [] := by
        cases value <;> simp_all [nodesAs, Json.isArray, Json.isObject]
      rw [none]
      exact .nil

/-- The first node with a reference, with the nodes before and behind it. -/
theorem firstReference?_eq_some_iff {schema reference : Json} {pointer : String} :
    firstReference? schema = some (pointer, reference) ↔ ∃ before node after,
      nodes schema = before ++ (pointer, node) :: after ∧ node.get? "$ref" = some reference ∧
        ∀ entry ∈ before, entry.2.get? "$ref" = none := by
  rw [firstReference?, List.findSome?_eq_some_iff]
  constructor
  · rintro ⟨before, entry, after, split, found, free⟩
    obtain ⟨place, node⟩ := entry
    simp only [Option.map_eq_some_iff, Prod.mk.injEq] at found
    obtain ⟨_, there, rfl, rfl⟩ := found
    exact ⟨before, node, after, split, there, fun entry listed => by simpa using free entry listed⟩
  · rintro ⟨before, node, after, split, there, free⟩
    exact ⟨before, (pointer, node), after, split, by simp [there], fun entry listed => by
      simp [free entry listed]⟩

/-- The reference that a document is refused for is the first one. -/
theorem firstReference?_of_refused {schema : Json} {store : Store} (closed : store.Closed) {pointer shown : String}
    (refused : (outcome (Builder.wrap schema) store).1 = .error (.refused (.reference pointer shown))) :
    ∃ reference, firstReference? schema = some (pointer, reference) ∧ shown = reference.literal := by
  cases isObject : schema.isObject with
  | false =>
      rw [Builder.wrap, isObject, if_neg Bool.false_ne_true, Change.outcome_refuse] at refused
      simp at refused
  | true =>
      obtain ⟨address, -, wrapped⟩ := Builder.outcome_wrap closed isObject
      rw [wrapped] at refused
      cases first : firstReference? schema with
      | none => simp [first] at refused
      | some found =>
          simp only [first, Except.error.injEq, Failure.refused.injEq, Refusal.reference.injEq] at refused
          obtain ⟨rfl, rfl⟩ := refused
          exact ⟨found.2, rfl, rfl⟩

/-- In a JSON document, every pointer that the traversal gives out leads to its node, and the pointers are different. So
the pointer that a document is refused with leads to the first node with a reference, and is that of no other node. -/
theorem pointers_identify {schema : Json} (formed : schema.wellFormed = true) :
    (∀ entry ∈ nodes schema, Pointer.read? schema entry.1 = some entry.2) ∧
      ((nodes schema).map Prod.fst).Nodup ∧
      ∀ store : Store, store.Closed → ∀ pointer shown,
        (outcome (Builder.wrap schema) store).1 = .error (.refused (.reference pointer shown)) →
          ∃ before node after reference, nodes schema = before ++ (pointer, node) :: after ∧
            Pointer.read? schema pointer = some node ∧ node.get? "$ref" = some reference ∧
            shown = reference.literal ∧ (∀ entry ∈ before, entry.2.get? "$ref" = none) ∧
            ∀ entry ∈ before ++ after, entry.1 ≠ pointer := by
  have places : Places schema [] (nodes schema) := places_nodesAs schema .schema [] formed rfl
  have reads : ∀ entry ∈ nodes schema, Pointer.read? schema entry.1 = some entry.2 := by
    intro entry listed
    obtain ⟨rest, named, led⟩ := places.leads entry listed
    rw [named, Pointer.read?_ofTokens, led]
  refine ⟨reads, places.distinct, fun store closed pointer shown refused => ?_⟩
  obtain ⟨reference, first, shows⟩ := firstReference?_of_refused closed refused
  obtain ⟨before, node, after, split, there, free⟩ := firstReference?_eq_some_iff.mp first
  have led := reads (pointer, node) (by simp [split])
  have distinct := places.distinct
  rw [split, List.map_append, List.map_cons, List.nodup_middle, List.nodup_cons, ← List.map_append] at distinct
  exact ⟨before, node, after, reference, split, led, there, shows, free,
    fun entry listed same => distinct.1 (List.mem_map.mpr ⟨entry, listed, same⟩)⟩

/-- A document with properties whose names need escaping or are empty, with a tuple of items, and with two
references. -/
def awkwardNames : Json :=
  .object [("properties", .object [("", .bool true), ("~1", .object [("type", .string "null")]),
    ("a/b", .object [("items", .array [.object [], .object [("$ref", .string "x")]])]),
    ("properties", .object [("$ref", .string "y")])])]

/-- The second item is where the document is refused, and its pointer leads there. -/
theorem awkwardNames_identified :
    awkwardNames.wellFormed = true ∧ ((nodes awkwardNames).map Prod.fst).Nodup ∧
      ("/properties/~01", Json.object [("type", .string "null")]) ∈ nodes awkwardNames ∧
      Pointer.read? awkwardNames "/properties/~01" = some (.object [("type", .string "null")]) ∧
      (outcome (Builder.wrap awkwardNames) .empty).1 =
        .error (.refused (.reference "/properties/a~1b/items/1" "'x'")) ∧
      ∃ before node after reference,
        nodes awkwardNames = before ++ ("/properties/a~1b/items/1", node) :: after ∧
          Pointer.read? awkwardNames "/properties/a~1b/items/1" = some node ∧ node.get? "$ref" = some reference ∧
          (∀ entry ∈ before, entry.2.get? "$ref" = none) ∧
          ∀ entry ∈ before ++ after, entry.1 ≠ "/properties/a~1b/items/1" := by
  have formed : awkwardNames.wellFormed = true := by decide
  obtain ⟨reads, distinct, first⟩ := pointers_identify formed
  have listed : ("/properties/~01", Json.object [("type", .string "null")]) ∈ nodes awkwardNames :=
    .tail _ (.head _)
  have refused : (outcome (Builder.wrap awkwardNames) .empty).1 =
      .error (.refused (.reference "/properties/a~1b/items/1" "'x'")) := by rfl
  obtain ⟨before, node, after, reference, split, led, there, -, free, others⟩ :=
    first .empty Store.closed_empty _ _ refused
  exact ⟨formed, distinct, listed, reads _ listed, refused, before, node, after, reference, split, led, there, free,
    others⟩

end SchemaAlgebra.Walk

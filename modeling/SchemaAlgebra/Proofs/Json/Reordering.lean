import SchemaAlgebra.Json.Equality
import SchemaAlgebra.Proofs.Fields
import SchemaAlgebra.Proofs.Json.Key
import SchemaAlgebra.Proofs.Validation.Rewriting

/-!
Values that differ in the order of keys only. They are of one kind, have the same children up to the order of
keys, and nothing that compares values tells them apart: equality looks members up by their keys.
-/

namespace SchemaAlgebra

/-- Every item of either list is related to one of the other. -/
structure Matched {α β : Type} (r : α → β → Prop) (items : List α) (others : List β) : Prop where
  there : ∀ item ∈ items, ∃ other ∈ others, r item other
  back : ∀ other ∈ others, ∃ item ∈ items, r item other

namespace Matched

variable {α β γ δ : Type} {r : α → β → Prop} {s : γ → δ → Prop} {items : List α} {others : List β}

theorem of_forall₂ (related : List.Forall₂ r items others) : Matched r items others := by
  induction related with
  | nil => exact ⟨by simp, by simp⟩
  | @cons item other _ _ first _ ih =>
      constructor
      · intro item' listed
        rcases List.mem_cons.mp listed with rfl | listed
        · exact ⟨other, by simp, first⟩
        · obtain ⟨other', listed', related⟩ := ih.there item' listed
          exact ⟨other', by simp [listed'], related⟩
      · intro other' listed
        rcases List.mem_cons.mp listed with rfl | listed
        · exact ⟨item, by simp, first⟩
        · obtain ⟨item', listed', related⟩ := ih.back other' listed
          exact ⟨item', by simp [listed'], related⟩

theorem of_same {items others : List α} (same : ∀ item, item ∈ items ↔ item ∈ others) :
    Matched (fun item other => other = item) items others :=
  ⟨fun item listed => ⟨item, (same item).mp listed, rfl⟩, fun item listed => ⟨item, (same item).mpr listed, rfl⟩⟩

/-- Functions that take related items to related ones take matched lists to matched ones. -/
theorem map (matched : Matched r items others) {f : α → γ} {g : β → δ}
    (each : ∀ item ∈ items, ∀ other ∈ others, r item other → s (f item) (g other)) :
    Matched s (items.map f) (others.map g) := by
  constructor
  · intro result listed
    obtain ⟨item, present, rfl⟩ := List.mem_map.mp listed
    obtain ⟨other, present', related⟩ := matched.there item present
    exact ⟨g other, List.mem_map_of_mem present', each item present other present' related⟩
  · intro result listed
    obtain ⟨other, present, rfl⟩ := List.mem_map.mp listed
    obtain ⟨item, present', related⟩ := matched.back other present
    exact ⟨f item, List.mem_map_of_mem present', each item present' other present related⟩

theorem filter (matched : Matched r items others) {p : α → Bool} {q : β → Bool}
    (same : ∀ item other, r item other → q other = p item) : Matched r (items.filter p) (others.filter q) := by
  constructor
  · intro item listed
    obtain ⟨present, kept⟩ := List.mem_filter.mp listed
    obtain ⟨other, present', related⟩ := matched.there item present
    exact ⟨other, List.mem_filter.mpr ⟨present', (same item other related).trans kept⟩, related⟩
  · intro other listed
    obtain ⟨present, kept⟩ := List.mem_filter.mp listed
    obtain ⟨item, present', related⟩ := matched.back other present
    exact ⟨item, List.mem_filter.mpr ⟨present', (same item other related).symm.trans kept⟩, related⟩

end Matched

namespace Json

/-- Two well-formed values that differ in the order of keys only, at any depth. -/
inductive Reordered : Json → Json → Prop
  | scalar {value : Json} : value.isArray = false → value.isObject = false → Reordered value value
  | array {items others : List Json} : items.length = others.length →
      (∀ (i : Nat) item other, items[i]? = some item → others[i]? = some other → Reordered item other) →
        Reordered (.array items) (.array others)
  | object {fields others : List (Key × Json)} : (∀ key ∈ Fields.keys fields, ∃ name, key = .text name) →
      (Fields.keys fields).Nodup → (Fields.keys fields).Perm (Fields.keys others) →
        (∀ key value other, Fields.get? fields key = some value → Fields.get? others key = some other →
          Reordered value other) → Reordered (.object fields) (.object others)

theorem reordered_refl {value : Json} : value.wellFormed = true → Reordered value value := by
  induction value using treeInduction with
  | array items ih =>
      intro formed
      refine .array rfl fun i item other found found' => ?_
      obtain rfl := Option.some.inj (found.symm.trans found')
      have listed := List.mem_of_getElem? found
      exact ih item listed ((wellFormed_array items).mp formed item listed)
  | object fields ih =>
      intro formed
      obtain ⟨textual, distinct, values⟩ := (wellFormed_object fields).mp formed
      refine .object ?_ distinct (.refl _) fun key value other found found' => ?_
      · intro key listed
        obtain ⟨entry, present, rfl⟩ := List.mem_map.mp listed
        exact textual entry present
      · obtain rfl := Option.some.inj (found.symm.trans found')
        have listed := Fields.mem_of_get? found
        exact ih _ listed (values _ listed)
  | scalar value noArray noObject => exact fun _ => .scalar noArray noObject

namespace Reordered

variable {value other : Json} {fields others : List (Key × Json)} {listed listed' : List Json}

theorem symm (reordered : Reordered value other) : Reordered other value := by
  induction reordered with
  | scalar noArray noObject => exact .scalar noArray noObject
  | array lengths _ ih => exact .array lengths.symm fun i item other found found' => ih i other item found' found
  | object textual distinct keys _ ih =>
      refine .object (fun key listed => textual key (keys.mem_iff.mpr listed))
        (keys.nodup_iff.mp distinct) keys.symm ?_
      exact fun key value other found found' => ih key other value found' found

theorem get? (reordered : Reordered (.object fields) (.object others)) (key : Key) :
    (Fields.get? fields key = none ∧ Fields.get? others key = none) ∨
      ∃ value other, Fields.get? fields key = some value ∧ Fields.get? others key = some other ∧
        Reordered value other := by
  cases reordered with
  | scalar _ noObject => cases noObject
  | object _ _ keys each =>
      cases found : Fields.get? fields key with
      | none =>
          refine .inl ⟨rfl, (Fields.get?_eq_none_iff others key).mpr fun listed => ?_⟩
          exact (Fields.get?_eq_none_iff fields key).mp found (keys.mem_iff.mpr listed)
      | some value =>
          have listed : key ∈ Fields.keys others := keys.mem_iff.mp (List.mem_map_of_mem (Fields.mem_of_get? found))
          obtain ⟨other, found'⟩ := Option.isSome_iff_exists.mp ((Fields.has_iff_mem_keys others key).mpr listed)
          exact .inr ⟨value, other, rfl, found', each key value other found found'⟩

theorem argument (reordered : Reordered (.object fields) (.object others)) {key : Key} {value : Json}
    (found : Fields.get? fields key = some value) : ∃ other, Fields.get? others key = some other ∧
      Reordered value other := by
  rcases reordered.get? key with ⟨missing, -⟩ | ⟨value', other, there, there', related⟩
  · cases found.symm.trans missing
  · obtain rfl := Option.some.inj (found.symm.trans there)
    exact ⟨other, there', related⟩

theorem keys (reordered : Reordered (.object fields) (.object others)) :
    (Fields.keys fields).Perm (Fields.keys others) := by
  cases reordered with
  | scalar _ noObject => cases noObject
  | object _ _ keys _ => exact keys

theorem formed (reordered : Reordered value other) : value.wellFormed = true := by
  induction reordered with
  | @scalar value noArray noObject => cases value <;> simp_all [Json.wellFormed, Json.isArray, Json.isObject]
  | @array items others lengths _ ih =>
      refine (wellFormed_array items).mpr fun item listed => ?_
      obtain ⟨i, inside, rfl⟩ := List.getElem_of_mem listed
      exact ih i _ _ (List.getElem?_eq_getElem inside) (List.getElem?_eq_getElem (lengths ▸ inside))
  | @object fields others textual distinct keys each ih =>
      have reordered := Reordered.object textual distinct keys each
      refine (wellFormed_object fields).mpr ⟨fun entry listed => textual _ (List.mem_map_of_mem listed), distinct,
        ?_⟩
      intro entry listed
      have found := Fields.get?_of_mem distinct listed
      rcases reordered.get? entry.1 with ⟨missing, -⟩ | ⟨value, other, there, there', -⟩
      · cases found.symm.trans missing
      · exact ih entry.1 entry.2 other found there'

theorem formed' (reordered : Reordered value other) : other.wellFormed = true :=
  reordered.symm.formed

theorem of_perm (formed : (Json.object fields).wellFormed = true) (permuted : fields.Perm others) :
    Reordered (.object fields) (.object others) := by
  obtain ⟨textual, distinct, values⟩ := (wellFormed_object fields).mp formed
  refine .object (fun key listed => ?_) distinct (permuted.map Prod.fst) fun key value other found found' => ?_
  · obtain ⟨entry, present, rfl⟩ := List.mem_map.mp listed
    exact textual entry present
  · have listed := permuted.mem_iff.mpr (Fields.mem_of_get? found')
    obtain rfl := Option.some.inj (found.symm.trans (Fields.get?_of_mem distinct listed))
    exact reordered_refl (values _ listed)

theorem items (reordered : Reordered (.array listed) (.array listed')) : List.Forall₂ Reordered listed listed' := by
  cases reordered with
  | scalar noArray => cases noArray
  | array lengths each =>
      refine List.forall₂_iff_get.mpr ⟨lengths, fun i inside inside' => ?_⟩
      exact each i _ _ (List.getElem?_eq_getElem inside) (List.getElem?_eq_getElem inside')

/-- The members of objects that differ in the order of keys only are the same up to that order. -/
theorem members (reordered : Reordered (.object fields) (.object others)) :
    Matched (fun entry other => other.1 = entry.1 ∧ Reordered entry.2 other.2) fields others := by
  constructor
  · intro entry listed
    have found := Fields.get?_of_mem ((wellFormed_object fields).mp reordered.formed).2.1 listed
    rcases reordered.get? entry.1 with ⟨missing, -⟩ | ⟨value, other, there, there', related⟩
    · cases found.symm.trans missing
    · obtain rfl := Option.some.inj (found.symm.trans there)
      exact ⟨_, Fields.mem_of_get? there', rfl, related⟩
  · intro other listed
    have found := Fields.get?_of_mem ((wellFormed_object others).mp reordered.symm.formed).2.1 listed
    rcases reordered.get? other.1 with ⟨-, missing⟩ | ⟨value, other', there, there', related⟩
    · cases found.symm.trans missing
    · obtain rfl := Option.some.inj (found.symm.trans there')
      exact ⟨_, Fields.mem_of_get? there, rfl, related⟩

theorem eq (reordered : Reordered value other) (noArray : value.isArray = false)
    (noObject : value.isObject = false) : other = value := by
  cases reordered with
  | scalar => rfl
  | array => cases noArray
  | object => cases noObject

theorem trans {third : Json} (first : Reordered value other) (second : Reordered other third) :
    Reordered value third := by
  induction first generalizing third with
  | scalar noArray noObject =>
      obtain rfl := second.eq noArray noObject
      exact second
  | array lengths _ ih =>
      cases second with
      | scalar noArray => cases noArray
      | array lengths' each =>
          refine .array (lengths.trans lengths') fun i item third found found' => ?_
          have inside := (List.getElem?_eq_some_iff.mp found).1
          have between := List.getElem?_eq_getElem (lengths ▸ inside)
          exact ih i item _ found between (each i _ third between found')
  | @object fields others textual distinct keys each ih =>
      cases second with
      | scalar _ noObject => cases noObject
      | object _ _ keys' each' =>
          refine .object textual distinct (keys.trans keys') fun key value third found found' => ?_
          rcases (Reordered.object textual distinct keys each).get? key with ⟨missing, -⟩ | ⟨_, between, _, there, -⟩
          · cases found.symm.trans missing
          · exact ih key value between found there (each' key between third there found')

theorem isObject (reordered : Reordered value other) : other.isObject = value.isObject := by
  cases reordered <;> rfl

theorem isArray (reordered : Reordered value other) : other.isArray = value.isArray := by
  cases reordered <;> rfl

theorem isContainer (reordered : Reordered value other) : other.isContainer = value.isContainer := by
  cases reordered <;> rfl

theorem isString (reordered : Reordered value other) : other.isString = value.isString := by
  cases reordered <;> rfl

theorem key? (reordered : Reordered value other) : other.key? = value.key? := by
  cases reordered <;> rfl

theorem number? (reordered : Reordered value other) : other.number? = value.number? := by
  cases reordered <;> rfl

theorem plainNumber? (reordered : Reordered value other) : other.plainNumber? = value.plainNumber? := by
  cases reordered <;> rfl

theorem length (reordered : Reordered (.object fields) (.object others)) : others.length = fields.length := by
  simpa [Fields.keys] using reordered.keys.length_eq.symm

theorem isEmpty_eq_of_length {α β : Type} {items : List α} {others : List β} (same : items.length = others.length) :
    items.isEmpty = others.isEmpty := by
  rw [Bool.eq_iff_iff, List.isEmpty_iff_length_eq_zero, List.isEmpty_iff_length_eq_zero, same]

theorem isTruthy (reordered : Reordered value other) : other.isTruthy = value.isTruthy := by
  cases reordered with
  | scalar => rfl
  | array lengths => exact congrArg not (isEmpty_eq_of_length lengths.symm)
  | object textual distinct keys each =>
      exact congrArg not (isEmpty_eq_of_length (Reordered.object textual distinct keys each).length)

theorem hasType? (reordered : Reordered value other) (checker : TypeChecker) (name : String) :
    other.hasType? checker name = value.hasType? checker name := by
  cases reordered <;> unfold Json.hasType? <;> split <;> rfl

/-- What a step leads to in one value it leads to in the other, up to the order of keys. -/
theorem child? (reordered : Reordered value other) {step : Step} (exactly : IsExact step) :
    (value.child? step = none ∧ other.child? step = none) ∨
      ∃ child child', value.child? step = some child ∧ other.child? step = some child' ∧ Reordered child child' := by
  cases exactly with
  | index i =>
      cases reordered with
      | scalar noArray noObject => exact .inl (by cases value <;> simp_all [Json.child?, Json.isArray])
      | object => exact .inl ⟨rfl, rfl⟩
      | @array listed listed' lengths each =>
          simp only [Json.child?]
          cases found : listed[i]? with
          | none =>
              rw [List.getElem?_eq_none_iff] at found
              exact .inl ⟨rfl, List.getElem?_eq_none_iff.mpr (lengths ▸ found)⟩
          | some item =>
              obtain ⟨inside, -⟩ := List.getElem?_eq_some_iff.mp found
              have found' := List.getElem?_eq_getElem (lengths ▸ inside : i < listed'.length)
              exact .inr ⟨item, _, rfl, found', each i item _ found found'⟩
  | text name =>
      cases reordered with
      | scalar noArray noObject => exact .inl (by cases value <;> simp_all [Json.child?, Json.get?, Json.isObject])
      | array => exact .inl ⟨rfl, rfl⟩
      | object textual distinct keys each =>
          rw [child?_text, child?_text]
          exact (Reordered.object textual distinct keys each).get? (.text name)

theorem namesOf (reordered : Reordered value other) : (namesOf value).Perm (SchemaAlgebra.namesOf other) := by
  cases reordered with
  | scalar => exact .refl _
  | array => exact .refl _
  | object _ _ keys _ => exact keys

theorem has (reordered : Reordered value other) (key : Key) : other.has key = value.has key := by
  cases reordered with
  | scalar => rfl
  | array => rfl
  | object _ _ keys _ =>
      rw [Bool.eq_iff_iff]
      refine (Key.has_spelledIn _ key).trans (Iff.trans ?_ (Key.has_spelledIn _ key).symm)
      simp only [keys.mem_iff]

theorem default? (reordered : Reordered value other) :
    (value.default? = none ∧ other.default? = none) ∨
      ∃ default default', value.default? = some default ∧ other.default? = some default' ∧
        Reordered default default' :=
  reordered.child? (.text "default")

theorem toJson (key : Key) : Reordered key.toJson key.toJson := by
  cases key <;> exact .scalar rfl rfl

/-- What a value lists is listed by the other one too, up to the order of keys. -/
theorem elements? (reordered : Reordered value other) :
    (value.elements? = none ∧ other.elements? = none) ∨
      ∃ elements elements', value.elements? = some elements ∧ other.elements? = some elements' ∧
        Matched Reordered elements elements' := by
  cases reordered with
  | scalar noArray noObject =>
      cases value with
      | string text =>
          refine .inr ⟨_, _, rfl, rfl, (Matched.of_same fun _ => Iff.rfl).map ?_⟩
          rintro single _ _ _ rfl
          exact .scalar rfl rfl
      | array => cases noArray
      | object => cases noObject
      | _ => exact .inl ⟨rfl, rfl⟩
  | array lengths each => exact .inr ⟨_, _, rfl, rfl, .of_forall₂ (Reordered.array lengths each).items⟩
  | object _ _ keys _ =>
      refine .inr ⟨_, _, rfl, rfl, (Matched.of_same fun key => keys.mem_iff).map ?_⟩
      rintro key _ _ _ rfl
      exact toJson _

end Reordered

/-- A comparison goes through arrays item by item and through objects key by key, and tells other values from
both. -/
structure Compares (equal : Json → Json → Bool) : Prop where
  array : ∀ items others, equal (.array items) (.array others) = true ↔
    List.Forall₂ (fun item other => equal item other = true) items others
  object : ∀ fields others, equal (.object fields) (.object others) = true ↔
    fields.length = others.length ∧ ∀ entry ∈ fields, ∃ other, (Json.object others).get? entry.1 = some other ∧
      equal entry.2 other = true
  kinds : ∀ value other, equal value other = true → other.isArray = value.isArray ∧ other.isObject = value.isObject

theorem compares_same : Compares same where
  array items others := by
    rw [same]
    induction items generalizing others with
    | nil => cases others <;> simp [sameItems]
    | cons item rest ih => cases others <;> simp [sameItems, ih]
  object fields others := by
    have each : ∀ rest : List (Key × Json), sameFields rest others = true ↔ ∀ entry ∈ rest,
        ∃ other, (Json.object others).get? entry.1 = some other ∧ entry.2.same other = true := by
      intro rest
      induction rest with
      | nil => simp [sameFields]
      | cons entry rest ih =>
          obtain ⟨key, value⟩ := entry
          rw [sameFields, Bool.and_eq_true, ih, List.forall_mem_cons]
          cases (Json.object others).get? key <;> simp
    rw [same, Bool.and_eq_true, each, decide_eq_true_iff]
  kinds value other equal := by
    cases value <;> cases other <;> simp_all [same, isArray, isObject, Json.number?]

theorem compares_agrees : Compares agrees where
  array items others := by
    rw [agrees]
    induction items generalizing others with
    | nil => cases others <;> simp [agreesItems]
    | cons item rest ih => cases others <;> simp [agreesItems, ih]
  object fields others := by
    have each : ∀ rest : List (Key × Json), agreesFields rest others = true ↔ ∀ entry ∈ rest,
        ∃ other, (Json.object others).get? entry.1 = some other ∧ entry.2.agrees other = true := by
      intro rest
      induction rest with
      | nil => simp [agreesFields]
      | cons entry rest ih =>
          obtain ⟨key, value⟩ := entry
          rw [agreesFields, Bool.and_eq_true, ih, List.forall_mem_cons]
          cases (Json.object others).get? key <;> simp
    rw [agrees, Bool.and_eq_true, each, decide_eq_true_iff]
  kinds value other equal := by
    cases value <;> cases other <;> simp_all [agrees, isArray, isObject, Json.plainNumber?, Json.number?]

/-- A comparison does not see the order of keys. -/
theorem Compares.reordered {equal : Json → Json → Bool} (compares : Compares equal) {value value' : Json}
    (left : Reordered value value') : ∀ {other other'}, Reordered other other' →
      equal value' other' = true → equal value other = true := by
  induction left with
  | scalar noArray noObject =>
      intro other other' right same
      have kinds := compares.kinds _ _ same
      rwa [right.symm.eq (by rw [kinds.1, noArray]) (by rw [kinds.2, noObject])]
  | @array items items' lengths each ih =>
      intro other other' right same
      have kinds := compares.kinds _ _ same
      cases right with
      | scalar noArray _ => exact absurd (noArray.symm.trans kinds.1) Bool.false_ne_true
      | object => exact absurd kinds.1 Bool.false_ne_true
      | @array others others' lengths' each' =>
          have pairs := (compares.array _ _).mp same
          refine (compares.array _ _).mpr (List.forall₂_iff_get.mpr ⟨?_, fun i inside inside' => ?_⟩)
          · rw [lengths, pairs.length_eq, lengths']
          · have pair := (List.forall₂_iff_get.mp pairs).2 i (lengths ▸ inside) (lengths' ▸ inside')
            refine ih i _ _ (List.getElem?_eq_getElem inside) (List.getElem?_eq_getElem (lengths ▸ inside)) ?_ pair
            exact each' i _ _ (List.getElem?_eq_getElem inside') (List.getElem?_eq_getElem (lengths' ▸ inside'))
  | @object fields fields' textual distinct keys each ih =>
      intro other other' right same
      have left := Reordered.object textual distinct keys each
      have kinds := compares.kinds _ _ same
      cases right with
      | scalar _ noObject => exact absurd (noObject.symm.trans kinds.2) Bool.false_ne_true
      | array => exact absurd kinds.2 Bool.false_ne_true
      | @object others others' textual' distinct' keys' each' =>
          have right := Reordered.object textual' distinct' keys' each'
          obtain ⟨lengths, pairs⟩ := (compares.object _ _).mp same
          refine (compares.object _ _).mpr ⟨by rw [← left.length, lengths, right.length], fun entry listed => ?_⟩
          obtain ⟨entry', listed', named, -⟩ := left.members.there entry listed
          obtain ⟨found, there, equal⟩ := pairs entry' listed'
          obtain ⟨name, isText⟩ := textual entry.1 (List.mem_map_of_mem listed)
          simp only [named, isText, get?, Key.spelledIn_text] at there ⊢
          rcases right.get? (.text name) with ⟨-, missing⟩ | ⟨child, child', here, here', related⟩
          · cases there.symm.trans missing
          · obtain rfl := Option.some.inj (there.symm.trans here')
            refine ⟨child, here, ih (.text name) _ _ ?_ ?_ related equal⟩
            · rw [← isText]
              exact Fields.get?_of_mem distinct listed
            · rw [← isText, ← named]
              exact Fields.get?_of_mem (keys.nodup_iff.mp distinct) listed'

theorem Compares.eq {equal : Json → Json → Bool} (compares : Compares equal) {value value' other other' : Json}
    (left : Reordered value value') (right : Reordered other other') : equal value' other' = equal value other :=
  Bool.eq_iff_iff.mpr ⟨compares.reordered left right, compares.reordered left.symm right.symm⟩

/-- The order of values does not see the order of keys. -/
theorem before?_reordered {value value' : Json} (left : Reordered value value') :
    ∀ {other other'}, Reordered other other' → before? value' other' = before? value other := by
  induction left with
  | @scalar value noArray noObject =>
      intro other other' right
      cases right with
      | scalar => rfl
      | array => cases value <;> simp_all [before?, isArray, plainNumber?, number?]
      | object => cases value <;> simp_all [before?, isArray, plainNumber?, number?]
  | @array items items' lengths each ih =>
      intro other other' right
      cases right with
      | scalar noArray _ => cases other <;> simp_all [before?, isArray, plainNumber?, number?]
      | object => simp [before?, plainNumber?, number?]
      | @array others others' lengths' each' =>
          have left : List.Forall₂ (fun item item' => Reordered item item' ∧
            ∀ {other other'}, Reordered other other' →
              before? item' other' = before? item other) items items' := by
            refine List.forall₂_iff_get.mpr ⟨lengths, fun i inside inside' => ?_⟩
            have found := List.getElem?_eq_getElem inside
            have found' := List.getElem?_eq_getElem inside'
            exact ⟨each i _ _ found found', fun right => ih i _ _ found found' right⟩
          have right := (Reordered.array lengths' each').items
          clear ih each lengths each' lengths'
          rw [before?, before?]
          induction left generalizing others others' with
          | nil => cases right <;> rfl
          | cons first _ ih =>
              cases right with
              | nil => rfl
              | cons first' later =>
                  rw [beforeItems?, beforeItems?, compares_agrees.eq first.1 first', ih later, first.2 first']
  | object =>
      intro other other' right
      cases right with
      | scalar => cases other <;> simp_all [before?, isArray, plainNumber?, number?]
      | _ => simp [before?, plainNumber?, number?]

theorem sortsBefore?_reordered {value value' other other' : Json} (left : Reordered value value')
    (right : Reordered other other') : sortsBefore? value' other' = sortsBefore? value other := by
  have same := before?_reordered left right
  cases left with
  | @scalar value noArray noObject =>
      cases right with
      | scalar => rfl
      | _ => cases value <;> simp_all [sortsBefore?]
  | _ =>
      cases right with
      | @scalar other noArray noObject => cases other <;> simp_all [sortsBefore?]
      | _ => simpa [sortsBefore?] using same

theorem rel_bind {α β γ δ : Type} {r : α → β → Prop} {s : γ → δ → Prop} {found : Option α} {found' : Option β}
    {f : α → Option γ} {g : β → Option δ} (related : Option.Rel r found found')
    (each : ∀ a b, r a b → Option.Rel s (f a) (g b)) : Option.Rel s (found.bind f) (found'.bind g) := by
  cases related with
  | none => exact .none
  | some both => exact each _ _ both

section

variable {items items' : List Json}

theorem run?_reordered (down : Bool) (related : List.Forall₂ Reordered items items') :
    ∀ {last last'}, Reordered last last' →
      Option.Rel (fun found found' => List.Forall₂ Reordered found.1 found'.1 ∧
        List.Forall₂ Reordered found.2 found'.2)
        (run? down last items) (run? down last' items') := by
  induction related with
  | nil => exact fun _ => .some ⟨.nil, .nil⟩
  | @cons item item' rest rest' first later ih =>
      intro last last' before
      rw [run?, run?, sortsBefore?_reordered first before]
      cases item.sortsBefore? last with
      | none => exact .none
      | some answer =>
          simp only [Option.bind_eq_bind, Option.bind_some]
          split
          · exact rel_bind (ih first) fun _ _ both => .some ⟨.cons first both.1, both.2⟩
          · exact .some ⟨.nil, .cons first later⟩

theorem insert?_reordered {item item' : Json} (first : Reordered item item') (fuel : Nat) :
    ∀ {items items'}, List.Forall₂ Reordered items items' →
      Option.Rel (List.Forall₂ Reordered) (insert? item fuel items) (insert? item' fuel items') := by
  induction fuel with
  | zero => exact fun related => .some (.cons first related)
  | succ fuel ih =>
      intro items items' related
      have front := List.forall₂_take (items.length / 2) related
      have back := List.forall₂_drop (items.length / 2) related
      rw [insert?, insert?, ← related.length_eq]
      generalize List.drop (items.length / 2) items = later at back ⊢
      generalize List.drop (items.length / 2) items' = later' at back ⊢
      cases back with
      | nil => exact .some (.cons first .nil)
      | cons middle above =>
          simp only [sortsBefore?_reordered first middle, Option.bind_eq_bind]
          cases item.sortsBefore? _ with
          | none => exact .none
          | some answer =>
              simp only [Option.bind_some]
              split
              · exact rel_bind (ih front) fun _ _ both => .some (List.rel_append both (.cons middle above))
              · exact rel_bind (ih above) fun _ _ both => .some (List.rel_append front (.cons middle both))

theorem foldlM_insert?_reordered (related : List.Forall₂ Reordered items items') :
    ∀ {sorted sorted'}, List.Forall₂ Reordered sorted sorted' →
      Option.Rel (List.Forall₂ Reordered) (items.foldlM
        (fun sorted item => insert? item sorted.length sorted) sorted)
        (items'.foldlM (fun sorted item => insert? item sorted.length sorted) sorted') := by
  induction related with
  | nil => exact fun sorted => .some sorted
  | cons first _ ih =>
      intro sorted sorted' before
      rw [List.foldlM_cons, List.foldlM_cons, ← before.length_eq]
      exact rel_bind (insert?_reordered first _ before) fun _ _ both => ih both

theorem sorted?_reordered (related : List.Forall₂ Reordered items items') :
    Option.Rel (List.Forall₂ Reordered) (sorted? items) (sorted? items') := by
  cases related with
  | nil => exact .some .nil
  | cons first later =>
      cases later with
      | nil => exact .some (.cons first .nil)
      | cons second rest =>
          rw [sorted?, sorted?, sortsBefore?_reordered second first]
          cases Json.sortsBefore? _ _ with
          | none => exact .none
          | some down =>
              simp only [Option.bind_eq_bind, Option.bind_some]
              refine rel_bind (run?_reordered down (.cons second rest) first) fun _ _ both => ?_
              refine foldlM_insert?_reordered both.2 ?_
              cases down with
              | true => exact List.forall₂_reverse_iff.mpr (.cons first both.1)
              | false => exact .cons first both.1

theorem neighboursDiffer_reordered (related : List.Forall₂ Reordered items items') :
    neighboursDiffer items' = neighboursDiffer items := by
  induction related with
  | nil => rfl
  | cons first later ih =>
      cases later with
      | nil => rfl
      | cons second rest => rw [neighboursDiffer, neighboursDiffer, compares_same.eq first second, ih]

theorem pairsDiffer_reordered (related : List.Forall₂ Reordered items items') :
    pairsDiffer items' = pairsDiffer items := by
  induction related with
  | nil => rfl
  | @cons item item' rest rest' first later ih =>
      have same : rest'.any item'.same = rest.any item.same := by
        clear ih
        induction later with
        | nil => rfl
        | cons second _ ih => rw [List.any_cons, List.any_cons, compares_same.eq first second, ih]
      rw [pairsDiffer, pairsDiffer, same, ih]

/-- Whether items are different does not depend on the order of keys in them. -/
theorem allDifferent_reordered (related : List.Forall₂ Reordered items items') :
    allDifferent items' = allDifferent items := by
  have sorted := sorted?_reordered related
  rw [allDifferent, allDifferent]
  cases found : sorted? items <;> cases found' : sorted? items' <;> rw [found, found'] at sorted <;> cases sorted
  · exact pairsDiffer_reordered related
  · next both => exact neighboursDiffer_reordered both

end

end Json

end SchemaAlgebra

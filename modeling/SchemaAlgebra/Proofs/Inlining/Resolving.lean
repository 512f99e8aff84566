import SchemaAlgebra.Proofs.Inlining.Unfolding
import SchemaAlgebra.Proofs.Schema.Arguments
import SchemaAlgebra.Proofs.Schema.Locations

/-!
References into the document they stand in. Validation and inlining read a pointer in ways of their own:
validation keeps track of the schemas it passes, and inlining passes over empty tokens. In a schema that
passes the metaschema and gives no part a location, both come to the same part.
-/

namespace SchemaAlgebra

namespace Text

/-- Without percent signs there is nothing to decode. -/
theorem percentDecoded_of_notMem {text : List Char} (free : '%' ∉ text) : percentDecoded text = text := by
  rw [percentDecoded]
  induction text with
  | nil => rfl
  | cons c rest ih =>
      obtain ⟨other, later⟩ := List.ne_and_not_mem_of_not_mem_cons free
      rw [decodeFrom, ih later]
      · rfl
      · rintro a b tail rfl
        exact absurd rfl other

theorem drop_toString (text : String) (count : Nat) : (text.drop count).toString = String.ofList (text.toList.drop count) := by
  have split := (String.Slice.splits_nextn_startPos text.toSlice count).copy_sliceFrom_eq
  simpa [String.drop, String.Slice.drop, String.Slice.toString] using split

end Text

namespace Pointer

/-- A token of digits denotes no negative number. -/
theorem readWhole_digits {token : List Char} (digits : token.all Text.isDigitLike = true) {n : Int}
    (read : Numeral.readWhole token = .ok n) : 0 ≤ n := by
  have trimmed : ∀ c ∈ Text.trimNumeral token, c ∈ token := by
    intro c listed
    rw [Text.trimNumeral, List.mem_reverse] at listed
    have kept := (List.dropWhile_sublist _).subset listed
    exact (List.dropWhile_sublist _).subset (List.mem_reverse.mp kept)
  have unsigned : (Numeral.signAndRest (Text.trimNumeral token)).1 = false := by
    unfold Numeral.signAndRest
    split
    · next rest found =>
        have sign := List.all_eq_true.mp digits '-' (trimmed '-' (by simp [found]))
        exact absurd sign (by decide)
    · rfl
    · rfl
  simp only [Numeral.readWhole, unsigned] at read
  split at read
  · cases read
  · cases read
  · split at read
    · cases read
    · split at read
      · obtain rfl := Except.ok.inj read
        simp [Double.signed]
      · cases read

/-- A token that reads as digits has no tilde, so it is read as it is written. -/
theorem unescape_digits {token : List Char} (digits : (unescape token).all Text.isDigitLike = true) :
    unescape token = token := by
  have slash : Text.isDigitLike '/' = false := by decide
  have tilde : Text.isDigitLike '~' = false := by decide
  fun_induction unescape token with
  | case1 rest ih => simp [slash] at digits
  | case2 rest ih => simp [tilde] at digits
  | case3 c rest _ _ ih =>
      rw [List.all_cons, Bool.and_eq_true] at digits
      rw [ih digits.2]
  | case4 => rfl

end Pointer

namespace Reference

open Metaschema

/-- Names lead from a value to a part of it. The index of an item is no name. -/
inductive Leads : Json → List (Option String) → Json → Prop
  | here (value : Json) : Leads value [] value
  | member {fields : List (Key × Json)} {name : String} {child part : Json} {names : List (Option String)} :
      Fields.get? fields (.text name) = some child → Leads child names part →
        Leads (.object fields) (some name :: names) part
  | item {items : List Json} {child part : Json} {names : List (Option String)} :
      child ∈ items → Leads child names part → Leads (.array items) (none :: names) part

variable {whole value child : Json} {names : List (Option String)}

theorem Leads.trans {later : List (Option String)} (leads : Leads whole names value)
    (leads' : Leads value later child) : Leads whole (names ++ later) child := by
  induction leads with
  | here => exact leads'
  | member found _ ih => exact .member found (ih leads')
  | item listed _ ih => exact .item listed (ih leads')

/-- Validation comes to the same child as inlining. -/
theorem child_of_step {document : Json} {pointer : String} {token : List Char}
    (stepped : Pointer.step value (Pointer.unescape token) = .ok child) :
    ∃ name, Reference.child document pointer value token = .ok (child, name) ∧ Leads value [name] child := by
  unfold Pointer.step at stepped
  cases value with
  | object fields =>
      simp only at stepped
      split at stepped
      · next other found =>
          obtain rfl := Except.ok.inj stepped
          refine ⟨some (String.ofList (Pointer.unescape token)), ?_, .member found (.here _)⟩
          simp only [Reference.child, Json.get?, Key.spelledIn_text, found]
      · cases stepped
  | array items =>
      simp only at stepped
      split at stepped
      · next digits =>
          rw [Bool.and_eq_true] at digits
          obtain ⟨i, read, stepped⟩ := bind_eq_ok.mp stepped
          split at stepped
          · next other found =>
              obtain rfl := Except.ok.inj stepped
              rw [Pointer.unescape_digits digits.2] at read digits
              refine ⟨none, ?_, .item (List.mem_of_getElem? found) (.here _)⟩
              unfold Pointer.index at read
              split at read
              · next n ended =>
                  obtain rfl := Except.ok.inj read
                  have positive := Pointer.readWhole_digits digits.2 ended
                  simp [Reference.child, ended, itemAt?, positive, bind, Except.bind, found]
              · cases read
          · cases stepped
      · cases stepped
  | _ => cases stepped

theorem Leads.count (leads : Leads whole names value) {word : Key} (absent : count word whole = 0) :
    Reference.count word value = 0 := by
  induction leads with
  | here => exact absent
  | member found _ ih => exact ih ((count_eq_zero absent).2 _ (Fields.mem_of_get? found)).2
  | item listed _ ih => exact ih ((count_eq_zero absent).1 _ listed)

theorem mem_of_lookup {name : String} {holder : Holder} (found : holders.lookup name = some holder) :
    (name, holder) ∈ holders := by
  obtain ⟨before, after, split, -⟩ := List.lookup_eq_some_iff.mp found
  rw [split]
  simp

/-- The arguments of the keywords that hold subschemas, in a schema that passes. -/
theorem held_of_holders {fields : List (Key × Json)} {name : String} {argument : Json}
    (passes : Passes (.object fields)) (found : Fields.get? fields (.text name) = some argument) :
    (holders.lookup name = some .one → Passes argument) ∧
      (holders.lookup name = some .list → IsSchemas argument) ∧
      (holders.lookup name = some .members → IsSchemaMap argument) := by
  have suits := passes.suits found
  refine ⟨fun held => ?_, fun held => ?_, fun held => ?_⟩ <;>
    · have listed := mem_of_lookup held
      simp only [holders, List.mem_cons, Prod.mk.injEq, List.not_mem_nil, reduceCtorEq, and_true, and_false, or_false,
        false_or] at listed
      rcases listed with rfl | rfl | rfl | rfl | rfl | rfl | rfl | rfl <;> exact suits

/-- Where names lead from a schema that passes to a subschema, there is one. -/
theorem isSchema_of_leads (passes : Passes whole) (leads : Leads whole names value)
    (schema : leadsToSchema value names = true) : value.isObject = true ∨ ∃ b, value = .bool b := by
  fun_induction leadsToSchema value names generalizing whole with
  | case1 =>
      cases leads
      exact passes.isSchema
  | case2 => cases schema
  | case3 name rest held ih =>
      cases leads with
      | member found leads => exact ih ((held_of_holders passes found).1 held) leads schema
      | item listed leads => cases held
  | case4 name rest held => exact .inl schema
  | case5 name rest held => exact .inl schema
  | case6 => cases schema
  | case7 name held inner rest ih =>
      cases leads with
      | member found leads =>
          obtain ⟨items, rfl, pass⟩ := (held_of_holders passes found).2.1 held
          cases leads with
          | item listed leads => exact ih (pass _ listed) leads schema
      | item listed leads => cases held
  | case8 => cases schema
  | case9 name held inner rest ih =>
      cases leads with
      | member found leads =>
          obtain ⟨members, rfl, pass⟩ := (held_of_holders passes found).2.2 held
          cases leads with
          | member found' leads => exact ih (pass _ (Fields.mem_of_get? found')) leads schema
      | item listed leads => cases held

theorem enter_unlocated (location : String) (unlocated : count "$id" value = 0)
    (isSchema : value.isObject = true ∨ ∃ b, value = .bool b) : enter location value = .ok location := by
  rcases isSchema with isObject | ⟨b, rfl⟩
  · cases value with
    | object fields =>
        simp only [enter, locationIn, ownLocation?, get?_of_count unlocated]
        split <;> rfl
    | _ => cases isObject
  · rfl

theorem isLocated_of_count (unlocated : count "$id" value = 0) : isLocated value = false := by
  cases value with
  | object fields =>
      simp only [isLocated, ownLocation?, get?_of_count unlocated]
      split <;> rfl
  | _ => rfl

/-- Validation follows tokens to what inlining finds. -/
theorem follow_of_leadTokens {document found : Json} {pointer location : String} {tokens : List (List Char)}
    (passes : Passes document) (unlocated : count "$id" document = 0)
    (leads : Leads document names value) (tokened : ∀ token ∈ tokens, token ≠ [])
    (led : Pointer.leadTokens value tokens = .ok found) :
    ∃ names', tokens.foldlM (step document pointer) ⟨value, location, names⟩ = .ok ⟨found, location, names'⟩ ∧
      Leads document names' found := by
  induction tokens generalizing value names with
  | nil =>
      obtain rfl := Except.ok.inj led
      exact ⟨names, rfl, leads⟩
  | cons token rest ih =>
      have filled : token.isEmpty = false := by simpa using tokened token (by simp)
      rw [Pointer.leadTokens, filled, if_neg Bool.false_ne_true] at led
      obtain ⟨child, stepped, led⟩ := bind_eq_ok.mp led
      obtain ⟨name, found', inside⟩ := @child_of_step value child document pointer token stepped
      have there := leads.trans inside
      obtain ⟨names', followed, leads'⟩ := ih there (fun other member => tokened other (by simp [member])) led
      refine ⟨names', ?_, leads'⟩
      have moved : step document pointer ⟨value, location, names⟩ token = .ok ⟨child, location, names ++ [name]⟩ := by
        have here := there.count unlocated
        simp only [step, found', bind, Except.bind, isLocated_of_count here]
        split
        · next schema =>
            rw [enter_unlocated location here (isSchema_of_leads passes there schema)]
            rfl
        · rfl
      rw [List.foldlM_cons, moved]
      exact followed

end Reference

namespace Inline

/-- Whether a reference leads into the document it stands in: a number sign and then a pointer that has no empty
token and no percent sign. -/
def isLocal (reference : String) : Bool :=
  match reference.toList with
  | '#' :: '/' :: rest => !rest.contains '%' && (Text.splitAtAll '/' rest).all fun token => !token.isEmpty
  | _ => false

/-- What a local reference names in a document. -/
def named (document : Json) (reference : String) : Except Pointer.Error Json :=
  Pointer.lead document (Text.cutAt '#' reference).2

theorem eq_of_isLocal {reference : String} (own : isLocal reference = true) :
    ∃ rest, reference = String.ofList ('#' :: '/' :: rest) ∧ '%' ∉ rest ∧ ∀ token ∈ Text.splitAtAll '/' rest, token ≠ [] := by
  unfold isLocal at own
  split at own
  · next rest same =>
      refine ⟨rest, by rw [← same, String.ofList_toList], ?_⟩
      simpa using own
  · cases own

theorem cutAt_sign (rest : List Char) :
    Text.cutAt '#' (String.ofList ('#' :: rest)) = ("", String.ofList rest) := by
  simp [Text.cutAt]

theorem target_local {reference : String} (own : isLocal reference = true) (location : String) :
    target reference location = (location, (Text.cutAt '#' reference).2) := by
  obtain ⟨rest, rfl, -, -⟩ := eq_of_isLocal own
  rw [target, cutAt_sign]
  rfl

/-- Validation resolves a local reference to what inlining puts in its place. -/
theorem resolve_local {document found : Json} {reference : String} (passes : Metaschema.Passes document)
    (unlocated : Reference.count "$id" document = 0) (own : isLocal reference = true)
    (led : named document reference = .ok found) {scope : Reference.Scope}
    (there : scope.documents.get? "" = some document) :
    Reference.resolve scope "" (.string reference) = .ok ("", found) := by
  obtain ⟨rest, rfl, undecoded, filled⟩ := eq_of_isLocal own
  have read : Pointer.leadTokens document (Text.splitAtAll '/' rest) = .ok found := by
    rw [named, cutAt_sign, Pointer.lead, String.toList_ofList,
      Text.percentDecoded_of_notMem (by simp [undecoded])] at led
    rwa [Text.splitAtAll, if_pos rfl, Pointer.leadTokens, if_pos List.isEmpty_nil] at led
  obtain ⟨names, followed, -⟩ : ∃ names,
      (Text.splitAtAll '/' rest).foldlM (Reference.step document (String.ofList ('/' :: rest))) ⟨document, "", []⟩ =
        .ok ⟨found, "", names⟩ ∧ Reference.Leads document names found :=
    Reference.follow_of_leadTokens passes unlocated (.here document) filled read
  have signed : (String.ofList ('#' :: '/' :: rest)).startsWith "#" = true := by
    rw [String.startsWith_string_iff]
    simp
  have slashed : (String.ofList ('/' :: rest)).startsWith "/" = true := by
    rw [String.startsWith_string_iff]
    simp
  have present : String.ofList ('/' :: rest) ≠ "" := by
    intro empty
    simpa using congrArg String.toList empty
  have followed' : Reference.follow document "" (String.ofList ('/' :: rest)) = .ok ("", found) := by
    rw [Reference.follow, String.toList_ofList, List.drop_one, List.tail_cons,
      Text.percentDecoded_of_notMem undecoded]
    simp only [followed, bind, Except.bind]
    rfl
  have targeted : Reference.target "" (String.ofList ('#' :: '/' :: rest)) =
      ("", String.ofList ('/' :: rest)) := by
    rw [Reference.target, if_pos signed, Text.drop_toString, String.toList_ofList]
    rfl
  have documented : ∀ text, scope.document "" text = .ok document := by
    intro text
    simp only [Reference.Scope.document, there]
    rfl
  simp only [Reference.resolve, targeted, documented, bind, Except.bind, if_neg present, if_pos slashed]
  exact followed'

/-!
References from document to document. What a document that was reached through references refers to is what the first
document would refer to, if the reference were written as it is seen from there: below the directories of the
documents on the way.
-/

open Location (between resolve)

variable {base first second : String}

/-- The location in a reference: what comes before its fragment. -/
def place (reference : String) : String :=
  (Text.cutAt '#' reference).1

/-- A reference that a document can be reached through: it stays in its document, or leads to another one. -/
def Leads (reference : String) : Prop :=
  place reference = "" ∨ Location.Leads (place reference)

instance (reference : String) : Decidable (Leads reference) :=
  inferInstanceAs (Decidable (_ ∨ _))

/-- A reference as it would be written where the one stands that leads to its document. -/
def across (first second : String) : String :=
  if place first = "" then second
  else if place second = "" then place first ++ second
  else between (place first) second

theorem target_eq (reference location : String) : target reference location =
    (if place reference = "" then location else resolve location (place reference), (Text.cutAt '#' reference).2) :=
  rfl

theorem notMem_place (reference : String) : '#' ∉ (place reference).toList := by
  intro listed
  rw [place, Text.cutAt, String.toList_ofList] at listed
  have other := List.mem_takeWhile_imp listed
  simp at other

theorem cutAt_append {text : List Char} (free : '#' ∉ text) (rest : String) :
    Text.cutAt '#' (String.ofList (text ++ rest.toList)) =
      (String.ofList (text ++ (place rest).toList), (Text.cutAt '#' rest).2) := by
  have each : ∀ c ∈ text, decide (c ≠ '#') = true := fun c listed => by
    have other : c ≠ '#' := fun same => free (same ▸ listed)
    simp [other]
  simp only [Text.cutAt, place, String.toList_ofList, List.takeWhile_append_of_pos each,
    List.dropWhile_append_of_pos each]

theorem isAbsolute_place (some : place second ≠ "") :
    Location.isAbsolute (place second).toList = Location.isAbsolute second.toList := by
  rw [place, Text.cutAt, String.toList_ofList]
  cases chars : second.toList with
  | nil => rfl
  | cons c rest =>
      have other : c ≠ '#' := by
        rintro rfl
        exact some (by simp [place, Text.cutAt, chars])
      rw [List.takeWhile_cons, if_pos (by simpa using other)]
      by_cases slash : c = '/' <;> simp [Location.isAbsolute, slash]

theorem cutAt_between (some : place second ≠ "") :
    Text.cutAt '#' (between (place first) second) =
      (between (place first) (place second), (Text.cutAt '#' second).2) := by
  have free : '#' ∉ Location.directory (place first).toList := fun listed =>
    notMem_place first ((Location.directory_begins _).subset listed)
  rw [between, between, Location.below, Location.below, isAbsolute_place some]
  split
  · rw [String.ofList_toList, String.ofList_toList]
    rfl
  · split
    · exact cutAt_append free second
    · have free' : '#' ∉ Location.directory (place first).toList ++ ['/'] := by simp [free]
      rw [List.append_cons _ _ second.toList, List.append_cons _ _ (place second).toList]
      exact cutAt_append free' second

theorem cutAt_append_place (stays : place second = "") :
    Text.cutAt '#' (place first ++ second) = (place first, (Text.cutAt '#' second).2) := by
  have cut := cutAt_append (notMem_place first) second
  rwa [stays, String.toList_empty, List.append_nil, String.ofList_toList, String.ofList_append,
    String.ofList_toList, String.ofList_toList] at cut

theorem between_ne_empty (some : second ≠ "") : between first second ≠ "" := by
  have chars : second.toList ≠ [] := by simpa using some
  have filled : Location.below (Location.directory first.toList) second.toList ≠ [] := by
    unfold Location.below
    split
    · exact chars
    · split <;> simp [chars]
  intro none
  exact filled (by simpa [between] using none)

theorem place_across : place (across first second) =
    if place first = "" then place second
    else if place second = "" then place first else between (place first) (place second) := by
  rw [across]
  split
  · rfl
  · split
    next stays => rw [place, cutAt_append_place stays]
    next moves => rw [place, cutAt_between moves]

theorem isRelative_across (leads : Leads first) (relative : Location.IsRelative (place second)) :
    Location.IsRelative (place (across first second)) := by
  rw [place_across]
  split
  · exact relative
  next moves =>
    have relative' := (leads.resolve_left moves).relative
    split
    · exact relative'
    · exact Location.isRelative_between relative' relative

/-- The reference of a document that another reference names, followed from where that one stands. -/
theorem target_across (some : base ≠ "") (leads : Leads first) (relative : Location.IsRelative (place second)) :
    target (across first second) base = target second (target first base).1 := by
  rw [target_eq, place_across, target_eq second, target_eq first, across]
  by_cases stays : place first = ""
  · simp only [if_pos stays]
  obtain ⟨relative', named⟩ := leads.resolve_left stays
  by_cases stays' : place second = ""
  · simp only [if_neg stays, if_pos stays', cutAt_append_place stays']
  · simp only [if_neg stays, if_neg stays', if_neg (between_ne_empty stays'), cutAt_between stays',
      Location.resolve_resolve some relative' named relative]

/-- The document that a row of references leads to, each of them in the document that the one before it names. -/
def reached (base : String) (references : List String) : String :=
  references.foldl (fun location reference => (target reference location).1) base

theorem reached_cons (base reference : String) (rest : List String) :
    reached base (reference :: rest) = reached (target reference base).1 rest :=
  rfl

theorem target_ne_empty (some : base ≠ "") (leads : Leads first) : (target first base).1 ≠ "" := by
  rw [target_eq]
  split
  · exact some
  next moves => exact Location.resolve_ne_empty some (leads.resolve_left moves).relative

theorem isRelative_foldr_across {references : List String} {last : String}
    (each : ∀ reference ∈ references, Leads reference) (relative : Location.IsRelative (place last)) :
    Location.IsRelative (place (references.foldr across last)) := by
  induction references with
  | nil => exact relative
  | cons first rest ih =>
      obtain ⟨leads, later⟩ := List.forall_mem_cons.mp each
      exact isRelative_across leads (ih later)

/-- What a document that is reached through several references refers to, followed from the first document. -/
theorem target_reached (some : base ≠ "") {references : List String} {last : String}
    (each : ∀ reference ∈ references, Leads reference) (relative : Location.IsRelative (place last)) :
    target last (reached base references) = target (references.foldr across last) base := by
  induction references generalizing base with
  | nil => rfl
  | cons first rest ih =>
      obtain ⟨leads, later⟩ := List.forall_mem_cons.mp each
      rw [reached_cons, ih (target_ne_empty some leads) later, List.foldr_cons,
        target_across some leads (isRelative_foldr_across later relative)]

/-- Relative locations compose, from any document with a location. Two of them lead where the second one leads from the
first document, below the directory of the first one; so does any number of them. And so a document that was reached
through references refers to what the first document refers to, by the references as they are seen from there. -/
theorem chains_compose (some : base ≠ "") :
    (∀ first second, Location.IsRelative first → Location.IsName (Location.fileName first.toList) →
      Location.IsRelative second →
        resolve (resolve base first) second = resolve base (between first second)) ∧
      (∀ (locations : List String) last, (∀ location ∈ locations, Location.Leads location) →
        Location.IsRelative last →
          resolve (locations.foldl resolve base) last = resolve base (locations.foldr between last)) ∧
      ∀ (references : List String) last, (∀ reference ∈ references, Leads reference) →
        Location.IsRelative (place last) →
          target last (reached base references) = target (references.foldr across last) base :=
  ⟨fun _ _ relative named relative' => Location.resolve_resolve some relative named relative',
    fun _ _ each relative => Location.resolve_foldl some each relative,
    fun _ _ each relative => target_reached some each relative⟩

/-- A chain that climbs to the root and stays there, with a reference on it that stays in its document. -/
theorem chain_to_root :
    "memory:///s/a.json" ≠ "" ∧
      resolve (resolve "memory:///s/a.json" "../t/./b.json") "../../c.json" = "memory:///c.json" ∧
      between "../t/./b.json" "../../c.json" = "../t/./../../c.json" ∧
      resolve "memory:///s/a.json" "../t/./../../c.json" = "memory:///c.json" ∧
      reached "memory:///s/a.json" ["../t/./b.json#/x", "#/y", "../../c.json"] = "memory:///c.json" ∧
      target "../t/./../../d/e.yaml#/z" "memory:///s/a.json" = ("memory:///d/e.yaml", "/z") := by
  have some : "memory:///s/a.json" ≠ "" := by decide
  obtain ⟨two, -, reaching⟩ := chains_compose some
  have composed := two "../t/./b.json" "../../c.json" (by decide) (by decide) (by decide)
  have seen := reaching ["../t/./b.json#/x", "#/y", "../../c.json"] "d/e.yaml#/z" (by decide) (by decide)
  have together : between "../t/./b.json" "../../c.json" = "../t/./../../c.json" := by decide
  have end' : resolve "memory:///s/a.json" "../t/./../../c.json" = "memory:///c.json" := by decide
  have led : reached "memory:///s/a.json" ["../t/./b.json#/x", "#/y", "../../c.json"] = "memory:///c.json" := by
    decide
  have written : ["../t/./b.json#/x", "#/y", "../../c.json"].foldr across "d/e.yaml#/z" =
      "../t/./../../d/e.yaml#/z" := by decide
  rw [led, written] at seen
  exact ⟨some, by rw [composed, together, end'], together, end', led, by rw [← seen]; decide⟩

end Inline

end SchemaAlgebra

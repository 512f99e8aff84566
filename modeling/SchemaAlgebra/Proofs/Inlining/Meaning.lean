import SchemaAlgebra.Proofs.Inlining.Containment
import SchemaAlgebra.Proofs.Inlining.Exactness
import SchemaAlgebra.Proofs.Validation.Concurrence

/-!
Inlining keeps what a schema says. A schema that refers only to itself concurs with what inlining makes of it:
where validation follows a reference, inlining has put what the reference names. The induction is on the
references that are followed in a row, and inside it on the schema.
-/

namespace SchemaAlgebra.Inline

open Evaluation Metaschema Schema

/-- What inlining makes of a schema of a document says the same without any references, and is a truth value only
if references lead to one. -/
structure Carries (document : Json) (meaning : Meaning) (schema result : Json) : Prop where
  concurs : Concur meaning noReference "" "" schema result
  ends : ∀ b, result = .bool b → Relation.ReflTransGen (Names document) schema (.bool b)

theorem noReference_keeps : noReference.Keeps :=
  fun _ _ _ _ => rfl

variable {document : Json} {meaning : Meaning}

theorem concur_closed {schema : Json} (self : SelfContained schema) (passes : Passes schema)
    (closed : Reference.count "$ref" schema = 0) : Concur meaning noReference "" "" schema schema := by
  have same := partWith_closed closed meaning noReference "" ""
  rw [Concur, same]
  exact {
    runs := fun _ _ _ => rfl
    enters := fun _ _ _ => rfl
    keeps := partWith_keeps noReference_keeps schema ""
    keeps' := partWith_keeps noReference_keeps schema ""
    noArray := by rw [partWith_schema, passes.noArray]
    kind := by
      rw [partWith_schema]
      rcases passes.isSchema with isObject | ⟨b, rfl⟩
      · exact .inl ⟨isObject, .inl isObject⟩
      · exact .inr ⟨rfl, rfl⟩
    shown := by rw [partWith_schema, self.shown]
    shown' := by rw [partWith_schema, self.shown] }

section

variable {follow : String → Run Json} {fields results : List (Key × Json)}

/-- What becomes of a schema object that is no reference is parallel to it, if what its keywords look at is carried
over. -/
theorem parallel_of_replaced (tame : Tame document) (comes : Comes document (.object fields))
    (self : SelfContained (.object fields)) (passes : Passes (.object fields))
    (carried : ∀ keyword argument, Fields.get? fields (.text keyword) = some argument →
      ∀ schema ∈ heldBy keyword argument, ∀ result, Reaches (replace follow schema) result →
        Carries document meaning schema result)
    (replaced : Fields.RelAt (fun key value result => Reaches (replaceMember follow key value) result) fields results) :
    Parallel (Concur meaning noReference "" "") fields results where
  entries := by
    refine forall₂_of_mem replaced fun entry listed result both => ⟨both.1, fun keyword named => ?_⟩
    obtain ⟨key, argument⟩ := entry
    obtain rfl : key = .text keyword := named
    have found := Fields.get?_of_mem ((Json.wellFormed_object fields).mp self.formed).2.1 listed
    exact corresponds_of_replaced (self.entry listed) (fun schema => concur_closed)
      (fun schema held result reached => (carried keyword argument found schema held result reached).concurs)
      (passes.suits found) both.2
  counted := by
    intro extra argument other found found'
    rcases replaced.get? (.text "items") with ⟨missing, -⟩ | ⟨argument', other', here, there, reached⟩
    · rw [found] at missing
      cases missing
    · obtain rfl := Option.some.inj (here.symm.trans found)
      obtain rfl := Option.some.inj (there.symm.trans found')
      rw [replaceMember, if_neg (by decide)] at reached
      rcases passes.suits found with ⟨items, rfl, -⟩ | pass
      · obtain ⟨results, rfl, -⟩ := replaced_array reached
        rfl
      · have carries := carried "items" argument' found argument' (by simp [heldBy, pass.noArray]) other' reached
        have kind := carries.concurs.kind
        simp only [partWith_schema] at kind
        rcases kind with ⟨isObject, isObject' | ⟨b, isFlat⟩⟩ | ⟨-, same⟩
        · rw [isObject, isObject']
        · have same : other' = .bool b := by
            rw [← partWith_schema noReference "" other', isFlat]
            rfl
          exact absurd (carries.ends b same) (tame.counted fields argument' b comes extra found isObject)
        · rw [same]

/-- Replacing references by what they are carried over to carries over every schema that evaluation comes to. -/
theorem carries_of_replace (kept : meaning.Keeps) (self : SelfContained document) (checked : isSchema document = true)
    (tame : Tame document)
    (finished : ∀ fields reference, SelfContained (.object fields) → reference? fields = some reference →
      ∀ result, Reaches (follow reference) result → Finished result)
    (each : ∀ fields reference, Comes document (.object fields) → reference? fields = some reference →
      ∀ result, Reaches (follow reference) result → Carries document meaning (.object fields) result)
    (schema : Json) : Comes document schema → ∀ result, Reaches (replace follow schema) result →
      Carries document meaning schema result := by
  induction schema using Json.schemaInduction with
  | flat schema notObject =>
      intro comes result reaches
      obtain ⟨b, rfl⟩ := (comes.passes checked tame).isSchema.resolve_left (by simp [notObject])
      obtain rfl := replaced_closed (.bool b) result rfl reaches
      exact ⟨concur_bool b, fun b' same => by rw [same]⟩
  | object fields ih =>
      intro comes result reaches
      cases referring : reference? fields with
      | some reference =>
          rw [replace_object, referring] at reaches
          exact each fields reference comes referring result reaches
      | none =>
          have self' := comes.selfContained self
          have done := finished_of_replace finished (.object fields) result self' reaches
          obtain ⟨results, rfl, replaced⟩ := replaced_object referring reaches
          have parallel : Parallel (Concur meaning noReference "" "") fields results := by
            refine parallel_of_replaced tame comes self' (comes.passes checked tame) ?_ replaced
            intro keyword argument found schema held
            obtain ⟨here, items, members⟩ := ih _ (Fields.mem_of_get? found)
            have inside := Comes.held comes referring found held
            rcases heldBy_cases held with rfl | item | ⟨member, listed, rfl⟩
            · exact here inside
            · exact items schema item inside
            · exact members member listed inside
          have bare : Bare fields := by
            refine ⟨?_, ?_, ?_⟩
            · rw [Fields.has, self'.get?_of_reference? referring]
              rfl
            · rw [Fields.has, Reference.get?_of_count self'.unlocated]
              rfl
            · rw [Fields.has, Reference.get?_of_count self'.silent]
              rfl
          exact ⟨concur_object kept noReference_keeps bare parallel self'.shown done.shown, fun b same => by cases same⟩

end

section

variable {library : Library} {base : String}

/-- What following a local reference comes to. -/
theorem reaches_local {opened : List (String × String)} {fields : List (Key × Json)}
    {reference : String} {result : Json} {count : Nat} (self : SelfContained (.object fields))
    (referring : reference? fields = some reference)
    (reaches : Reaches (if target reference base ∈ opened then throw (.cyclic reference)
      else followed library (some ⟨base, document⟩)
        (inlineAt library (some ⟨base, document⟩) count (target reference base :: opened)) base reference) result) :
    ∃ found, named document reference = .ok found ∧
      Reaches (inlineAt library (some ⟨base, document⟩) count (target reference base :: opened) base found) result := by
  split at reaches
  · exact absurd reaches not_reaches_throw
  · obtain ⟨found, there, reached⟩ := reaches_followed reaches
    have own := (self.isLocal referring).2
    rw [target_local own] at there reached
    rw [target_local own]
    refine ⟨found, ?_, reached⟩
    simp only [named?, Library.at?, if_true, Option.bind_some] at there
    unfold named
    cases led : Pointer.lead document (Text.cutAt '#' reference).2 with
    | error cause => simp [led, Except.toOption] at there
    | ok other =>
        rw [led] at there
        exact congrArg Except.ok (Option.some.inj there)

/-- What inlining makes of a part of a document that refers only to itself is finished. -/
theorem finished_of_inlineAt (self : SelfContained document) (count : Nat) :
    ∀ opened value result, SelfContained value →
      Reaches (inlineAt library (some ⟨base, document⟩) count opened base value) result → Finished result := by
  induction count with
  | zero =>
      intro opened value result contained
      exact finished_of_replace (fun _ _ _ _ _ reaches => absurd reaches not_reaches_throw) value result contained
  | succ count ih =>
      intro opened value result contained reaches
      rw [inlineAt_succ] at reaches
      refine finished_of_replace (fun fields reference inside referring result reached => ?_) value result contained
        reaches
      obtain ⟨found, led, reached⟩ := reaches_local inside referring reached
      exact ih _ found result (self.leadTokens led) reached

variable {scope : Reference.Scope}

/-- What references mean where at most so many lead on in a row. -/
def meaningOf (scope : Reference.Scope) : Nat → Meaning
  | 0 => noReference
  | count + 1 => meaningIn (partIn scope count) scope

theorem partIn_eq (scope : Reference.Scope) (count : Nat) (location : String) (schema : Json) :
    partIn scope count location schema = partWith (meaningOf scope count) location schema := by
  cases count <;> rfl

theorem meaningOf_keeps (scope : Reference.Scope) (count : Nat) : (meaningOf scope count).Keeps := by
  cases count with
  | zero => exact noReference_keeps
  | succ count => exact meaningIn_partIn_keeps scope count

/-- A reference speaks as what it names does, one reference further in. -/
theorem reply_reference {fields : List (Key × Json)} {reference : String} {found : Json} {count : Nat}
    (self : SelfContained (.object fields)) (referring : reference? fields = some reference)
    (resolved : Reference.resolve scope "" (.string reference) = .ok ("", found)) (extent : Extent) (value : Json) :
    (partIn scope (count + 1) "" (.object fields)).reply extent value =
        (partIn scope count "" found).reply extent value ∧
      (partIn scope (count + 1) "" (.object fields)).replyEntered extent value =
        (partIn scope count "" found).reply extent value := by
  have present := (self.isLocal referring).1
  have inForce : optionsIn fields .plain = .ok .plain := by
    rw [optionsIn, Reference.get?_of_count self.silent]
  have runs : (partIn scope (count + 1) "" (.object fields)).reply extent value =
      (partIn scope count "" found).reply extent value := by
    simp only [partIn, partWith_object, Part.reply, runNode, inForce, Outcome.given, evaluateNode, present, meaningIn,
      resolved]
  refine ⟨runs, ?_⟩
  have enters : Reference.enter "" (.object fields) = .ok "" := by
    simp only [Reference.enter, Fields.has, present, Option.isSome_some, if_true]
  rw [← runs, partIn_eq, Part.replyEntered, enter_eq_given, enters]
  rfl

theorem replyEntered_unlocated {schema : Json} (passes : Passes schema) (unlocated : Reference.count "$id" schema = 0)
    (extent : Extent) (value : Json) :
    (partWith meaning "" schema).replyEntered extent value = (partWith meaning "" schema).reply extent value := by
  rw [Part.replyEntered, enter_eq_given, Reference.enter_unlocated "" unlocated passes.isSchema]
  rfl

/-- A reference is carried over to what inlining makes of the schema that it names. -/
theorem carries_of_named {fields : List (Key × Json)} {reference : String} {found result : Json} {count : Nat}
    (self : SelfContained (.object fields)) (self' : SelfContained found) (passes : Passes found)
    (referring : reference? fields = some reference)
    (resolved : Reference.resolve scope "" (.string reference) = .ok ("", found))
    (names : Names document (.object fields) found) (carries : Carries document (meaningOf scope count) found result) :
    Carries document (meaningOf scope (count + 1)) (.object fields) result where
  concurs := by
    have spoken := fun extent value => @reply_reference scope fields reference found count self referring resolved extent value
    simp only [partIn_eq] at spoken
    have concurs := carries.concurs
    exact {
      runs := fun extent value presentable => by rw [(spoken extent value).1, concurs.runs extent value presentable]
      enters := fun extent value presentable => by
        rw [(spoken extent value).2, ← replyEntered_unlocated passes self'.unlocated,
          concurs.enters extent value presentable]
      keeps := partWith_keeps (meaningOf_keeps scope _) _ _
      keeps' := concurs.keeps'
      noArray := rfl
      kind := by
        refine .inl ⟨rfl, ?_⟩
        rcases concurs.kind with ⟨-, either⟩ | ⟨flat, same⟩
        · exact either
        · simp only [partWith_schema] at flat same
          obtain ⟨b, rfl⟩ := passes.isSchema.resolve_left (by simp [flat])
          exact .inr ⟨b, by rw [← same]; rfl⟩
      shown := by rw [partWith_schema, self.shown]
      shown' := concurs.shown' }
  ends b same := .head names (carries.ends b same)

/-- A document carries over to what inlining makes of it, and so does everything that evaluation comes to. -/
theorem carries_of_inlineAt (self : SelfContained document) (checked : isSchema document = true) (tame : Tame document)
    (there : scope.documents.get? "" = some document) (count : Nat) :
    ∀ limit, count ≤ limit → ∀ opened schema result, Comes document schema →
      Reaches (inlineAt library (some ⟨base, document⟩) count opened base schema) result →
        Carries document (meaningOf scope limit) schema result := by
  induction count with
  | zero =>
      intro limit _ opened schema result comes
      exact carries_of_replace (meaningOf_keeps scope limit) self checked tame
        (fun _ _ _ _ _ reaches => absurd reaches not_reaches_throw)
        (fun _ _ _ _ _ reaches => absurd reaches not_reaches_throw) schema comes result
  | succ count ih =>
      intro limit within opened schema result comes reaches
      obtain ⟨limit, rfl⟩ := Nat.exists_eq_succ_of_ne_zero (Nat.ne_of_gt (Nat.lt_of_lt_of_le count.succ_pos within))
      rw [inlineAt_succ] at reaches
      refine carries_of_replace (meaningOf_keeps scope _) self checked tame ?_ ?_ schema comes result reaches
      · intro fields reference inside referring result reached
        obtain ⟨found, led, reached⟩ := reaches_local inside referring reached
        exact finished_of_inlineAt self count _ found result (self.leadTokens led) reached
      · intro fields reference comes referring result reached
        have inside := comes.selfContained self
        obtain ⟨found, led, reached⟩ := reaches_local inside referring reached
        have names : Names document (.object fields) found := ⟨fields, reference, rfl, referring, led⟩
        have comes' : Comes document found := .named comes names
        have resolved := resolve_local (passes_of_isSchema checked) self.unlocated (inside.isLocal referring).2 led there
        exact carries_of_named inside (comes'.selfContained self) (comes'.passes checked tame) referring resolved names
          (ih limit (Nat.le_of_succ_le_succ within) _ found result comes' reached)

end

section

variable {load load' : String → Option Json}

theorem named?_local {location reference : String} {found : Json} (there : load location = some document)
    (there' : load' location = some document) (own : isLocal reference = true)
    (named : named? load (target reference location) = some found) :
    named? load' (target reference location) = some found ∧
      Pointer.lead document (Text.cutAt '#' reference).2 = .ok found := by
  rw [target_local own] at named ⊢
  simp only [named?, there, there', Option.bind_some] at named ⊢
  refine ⟨named, ?_⟩
  cases led : Pointer.lead document (Text.cutAt '#' reference).2 with
  | error cause => simp [led, Except.toOption] at named
  | ok other =>
      rw [led] at named
      exact congrArg Except.ok (Option.some.inj named)

mutual

/-- What a part of a document that refers only to itself unfolds to depends on no other document. -/
theorem unfolds_elsewhere {location : String} {value result : Json} (self : SelfContained document)
    (there : load location = some document) (there' : load' location = some document)
    (inside : SelfContained value) : Unfolds load location value result → Unfolds load' location value result
  | .leaf leaf => .leaf leaf
  | .array unfolds => .array (unfoldsItems_elsewhere self there there' (fun _ listed => inside.item listed) unfolds)
  | .object plain unfolds =>
      .object plain (unfoldsFields_elsewhere self there there' (fun _ listed => inside.entry listed) unfolds)
  | @Unfolds.reference _ _ reference _ _ _ referring named unfolds => by
      have own := (inside.isLocal referring).2
      have same : (target reference location).1 = location := by rw [target_local own]
      obtain ⟨named', led⟩ := named?_local there there' own named
      exact .reference referring named' (unfolds_elsewhere self (by rw [same, there]) (by rw [same, there'])
        (self.leadTokens led) unfolds)

theorem unfoldsItems_elsewhere {location : String} {items results : List Json} (self : SelfContained document)
    (there : load location = some document) (there' : load' location = some document)
    (inside : ∀ item ∈ items, SelfContained item) :
    UnfoldsItems load location items results → UnfoldsItems load' location items results
  | .nil => .nil
  | .cons first later => .cons (unfolds_elsewhere self there there' (inside _ List.mem_cons_self) first)
      (unfoldsItems_elsewhere self there there' (fun item listed => inside item (by simp [listed])) later)

theorem unfoldsFields_elsewhere {location : String} {fields results : List (Key × Json)} (self : SelfContained document)
    (there : load location = some document) (there' : load' location = some document)
    (inside : ∀ entry ∈ fields, SelfContained entry.2) :
    UnfoldsFields load location fields results → UnfoldsFields load' location fields results
  | .nil => .nil
  | .data data later => .data data
      (unfoldsFields_elsewhere self there there' (fun entry listed => inside entry (by simp [listed])) later)
  | @UnfoldsFields.schema _ _ key value _ _ _ schema first later => .schema schema
      (unfolds_elsewhere self there there' (inside (key, value) List.mem_cons_self) first)
      (unfoldsFields_elsewhere self there there' (fun entry listed => inside entry (by simp [listed])) later)

end

end

open Validation

/-- Following as many references in a row as inlining does is within what validation follows. -/
theorem bound_le (document value : Json) :
    bound (.ofDocuments []) document ≤ (scopeOf "" document).bound value + 1 := by
  simp only [bound, Library.ofDocuments, Fields.values, List.map_nil, List.length_nil, Reference.countItems,
    Nat.zero_add, Nat.add_zero, Reference.Scope.bound, scopeOf, List.map_cons]
  generalize Reference.count "$ref" document = c
  generalize Reference.count "$ref" Draft.document = d
  generalize Reference.count "$id" document + Reference.count "$id" Draft.document = l
  generalize Json.itemsDepth _ = k
  generalize value.depth = h
  refine Nat.succ_le_succ ?_
  calc (c + 1) * (c + 1 + 1)
      ≤ (c + d + 1) * ((c + d + 1) * 2) := Nat.mul_le_mul (by omega) (by omega)
    _ ≤ (c + d + 1) * (l + 1) * (h + (c + d + 1) * (k + 2) + 1) := by
        refine Nat.mul_le_mul (Nat.le_mul_of_pos_right _ (by omega)) ?_
        have wide : (c + d + 1) * 2 ≤ (c + d + 1) * (k + 2) := Nat.mul_le_mul_left _ (by omega)
        omega

/-- A document that refers only to itself is carried over to what inlining returns, in a scope of its own. -/
theorem carries_of_inline {library : Library} {base : String} {fields : List (Key × Json)} {result : Json}
    (self : SelfContained (.object fields)) (checked : isSchema (.object fields) = true) (tame : Tame (.object fields))
    (inlined : Reaches (inline library base (.object fields)) result) (value : Json) :
    Finished result ∧ Carries (.object fields)
      (meaningOf (scopeOf "" (.object fields)) ((scopeOf "" (.object fields)).bound value + 1)) (.object fields) result := by
  have unfolds := unfolds_of_inlineAt library (some ⟨base, .object fields⟩) _ _ _ _ _ inlined
  have elsewhere : Unfolds (registered (Fields.get? []) base (.object fields)) base (.object fields) result :=
    unfolds_elsewhere self (by simp [Library.at?]) (by simp [registered]) self unfolds
  have reaches := (inlineSchema_yields elsewhere).reaches
  exact ⟨finished_of_inlineAt self _ [] _ result self reaches,
    carries_of_inlineAt self checked tame rfl _ _ (bound_le _ value) [] _ result .root reaches⟩

/-- A document that refers only to itself accepts exactly the values that what inlining makes of it accepts. -/
theorem inlined_accepts_iff (library : Library) (base : String) (fields : List (Key × Json)) (result value : Json)
    (self : SelfContained (.object fields)) (checked : isSchema (.object fields) = true) (tame : Tame (.object fields))
    (presentable : value.Presentable)
    (inlined : ((inline library base (.object fields)).run.run []).1 = .ok result) :
    Accepts (.object fields) value ↔ Accepts result value := by
  obtain ⟨finished, carries⟩ := carries_of_inline self checked tame ⟨[], inlined⟩ value
  have located : ownLocation (.object fields) = "" := by
    simp only [ownLocation, Reference.ownLocation?, Reference.get?_of_count self.unlocated]
    split <;> rfl
  have before : Accepts (.object fields) value ↔
      (partWith (meaningOf (scopeOf "" (.object fields)) ((scopeOf "" (.object fields)).bound value + 1)) ""
        (.object fields)).reply .all value = some true := by
    rw [accepts_iff, rootOutcome, located, evaluateRoot_eq_run (leavesOptions_of_count self.silent .plain)]
    exact Outcome.eq_accept_iff_answer (carries.concurs.keeps .all value).1
  have after : Accepts result value ↔ (partWith noReference "" result).reply .all value = some true := by
    rw [accepts_iff, rootOutcome_alone finished.closed (leavesOptions_of_count finished.silent .plain)]
    exact Outcome.eq_accept_iff_answer (carries.concurs.keeps' .all value).1
  rw [before, after, carries.concurs.runs .all value presentable]

/-- A property whose schema is given by reference. -/
def counting : List (Key × Json) :=
  [("properties", .object [("n", .object [("$ref", .string "#/definitions/count")])]),
    ("definitions", .object [("count", .object [("type", .string "integer")])])]

/-- The document with the schema in the place of the reference. -/
def countingInlined : Json :=
  .object [("properties", .object [("n", .object [("type", .string "integer")])]),
    ("definitions", .object [("count", .object [("type", .string "integer")])])]

theorem comes_counting {schema : Json} (comes : Comes (.object counting) schema) :
    schema = .object counting ∨ schema = .object [("$ref", .string "#/definitions/count")] ∨
      schema = .object [("type", .string "integer")] := by
  have root : nextSchemas (.object counting) (.object counting) =
      [.object [("$ref", .string "#/definitions/count")]] := rfl
  have reference : nextSchemas (.object counting) (.object [("$ref", .string "#/definitions/count")]) =
      [.object [("type", .string "integer")]] := rfl
  have leaf : nextSchemas (.object counting) (.object [("type", .string "integer")]) = [] := rfl
  have listed : schema ∈ [.object counting, .object [("$ref", .string "#/definitions/count")],
      .object [("type", .string "integer")]] :=
    comes.mem_of_closed List.mem_cons_self (by simp [root, reference, leaf])
  simpa using listed

theorem tame_counting : Tame (.object counting) where
  passes _ _ comes names := by
    rcases comes_counting (.named comes names) with rfl | rfl | rfl <;> decide +kernel
  counted fields _ _ comes extra := by
    rcases comes_counting comes with same | same | same <;> obtain rfl := Json.object.inj same <;> cases extra

theorem counting_inlined_accepts :
    Accepts countingInlined (.object [("n", .int 1)]) ∧ ¬ Accepts countingInlined (.object [("n", .string "x")]) := by
  have self : SelfContained (.object counting) :=
    ⟨by decide +kernel, by decide +kernel, by decide +kernel, by decide +kernel, by decide +kernel⟩
  have same := fun value presentable =>
    inlined_accepts_iff (.ofDocuments []) "" counting countingInlined value self (by decide +kernel) tame_counting
      presentable rfl
  constructor
  · exact (same _ ⟨by decide +kernel, by decide +kernel⟩).mp (by decide +kernel)
  · exact fun accepts => absurd ((same _ ⟨by decide +kernel, by decide +kernel⟩).mpr accepts) (by decide +kernel)

/-- Inlining a document that refers only to itself changes whether a value is accepted. -/
structure Alters (fields : List (Key × Json)) (result value : Json) : Prop where
  formed : (Json.object fields).wellFormed = true
  formedValue : value.wellFormed = true
  unlocated : Reference.count "$id" (.object fields) = 0
  silent : Reference.count "$schema" (.object fields) = 0
  locally : refersLocally (.object fields) = true
  inlined : ((inline (.ofDocuments []) "" (.object fields)).run.run []).1 = .ok result
  checked : isSchema (.object fields) = true
  checkedResult : isSchema result = true
  altered : ¬ (Accepts (.object fields) value ↔ Accepts result value)

/-- A number that is too long to be written out. -/
def long : Json :=
  .int (.ofNat (Nat.pow 10 4300))

/-- Inlining changes what is accepted where a reference names what is no schema, where `items` refers to a truth
value beside `additionalItems`, and where a number is too long, in the document or in the value. -/
theorem inlining_alters :
    Alters
      [("$ref", .string "#/foo"), ("foo", .object [("properties", .object [("$ref", .string "#/bar")])]),
        ("bar", .object [("a", .object [("type", .string "integer")])])]
      (.object [("properties", .object [("a", .object [("type", .string "integer")])])])
      (.object [("a", .string "x")]) ∧
    Alters
      [("items", .object [("$ref", .string "#/definitions/any")]), ("additionalItems", .bool true),
        ("definitions", .object [("any", .bool true)])]
      (.object [("items", .bool true), ("additionalItems", .bool true),
        ("definitions", .object [("any", .bool true)])])
      (.array []) ∧
    Alters
      [("not", .object [("not", .object [("properties", .object [("x",
          .object [("$ref", .string "#/definitions/most")])])])]),
        ("definitions", .object [("most", .object [("maximum", long)])])]
      (.object [("not", .object [("not", .object [("properties", .object [("x",
          .object [("maximum", long)])])])]),
        ("definitions", .object [("most", .object [("maximum", long)])])])
      (.object []) ∧
    Alters
      [("not", .object [("additionalProperties", .object [("$ref", .string "#/definitions/no")])]),
        ("definitions", .object [("no", .bool false)])]
      (.object [("not", .object [("additionalProperties", .bool false)]),
        ("definitions", .object [("no", .bool false)])])
      (.object [("a", long)]) := by
  refine ⟨?_, ?_, ?_, ?_⟩ <;>
    exact ⟨by decide +kernel, by decide +kernel, by decide +kernel, by decide +kernel, by decide +kernel, rfl,
      by decide +kernel, by decide +kernel, by decide +kernel⟩

end SchemaAlgebra.Inline

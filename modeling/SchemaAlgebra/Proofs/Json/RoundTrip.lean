import SchemaAlgebra.Proofs.Fields
import SchemaAlgebra.Proofs.Json.Lexemes
import SchemaAlgebra.Proofs.Json.Tree

/-!
A JSON text denotes the value it was written for. Writer and reader go through the text side by side: the
reader, given the text of a value and whatever follows it, takes up exactly the value and stops where the
rest begins. What follows must not go on with a number, and the indentation must be one the reader skips.
-/

namespace SchemaAlgebra

/-- Whether the reader skips the indentation of a layout. -/
def Layout.Blank : Layout → Prop
  | .compact => True
  | .lines unit => ∀ c ∈ unit.toList, Json.isGap c = true

namespace Json

open Text

/-- Whether a key is a text of Unicode scalar values. -/
def plainKey : Key → Bool
  | .text name => decide (Scalars name)
  | _ => false

mutual

/-- Whether a value is denoted by a text exactly: it has no doubles and no foreign values, its whole numbers
are within the limit on digits, and its texts and keys consist of Unicode scalar values. -/
def plain : Json → Bool
  | .null | .bool _ => true
  | .int n => writable n
  | .string text => decide (Scalars text)
  | .double _ | .foreign _ => false
  | .array items => itemsPlain items
  | .object fields => membersPlain fields

/-- Whether every item is plain. -/
def itemsPlain : List Json → Bool
  | [] => true
  | item :: rest => item.plain && itemsPlain rest

/-- Whether every key and every value of the members is plain. -/
def membersPlain : List (Key × Json) → Bool
  | [] => true
  | (key, value) :: rest => plainKey key && value.plain && membersPlain rest

end

theorem itemsPlain_iff (items : List Json) :
    itemsPlain items = true ↔ ∀ item ∈ items, item.plain = true := by
  induction items with
  | nil => simp [itemsPlain]
  | cons item rest ih => simp [itemsPlain, ih]

theorem membersPlain_iff (fields : List (Key × Json)) :
    membersPlain fields = true ↔ ∀ entry ∈ fields, plainKey entry.1 = true ∧ entry.2.plain = true := by
  induction fields with
  | nil => simp [membersPlain]
  | cons entry rest ih =>
      obtain ⟨key, value⟩ := entry
      simp [membersPlain, ih, and_assoc]

theorem plainKey_iff {key : Key} : plainKey key = true ↔ ∃ name, key = .text name ∧ Scalars name := by
  cases key <;> simp [plainKey]

section Writing

/-- What is plain can be written. -/
theorem obstacle?_of_plain : ∀ value : Json, value.plain = true → value.obstacle? = none := by
  intro value
  induction value using treeInduction with
  | array items ih =>
      intro plain
      rw [Json.plain, itemsPlain_iff] at plain
      rw [obstacle?]
      induction items with
      | nil => rfl
      | cons item rest later =>
          rw [itemsObstacle?, ih item (by simp) (plain item (by simp))]
          exact later (fun item listed => ih item (by simp [listed])) fun item listed => plain item (by simp [listed])
  | object fields ih =>
      intro plain
      rw [Json.plain, membersPlain_iff] at plain
      rw [obstacle?]
      induction fields with
      | nil => rfl
      | cons entry rest later =>
          obtain ⟨key, value⟩ := entry
          obtain ⟨⟨name, rfl, -⟩, inner⟩ := (plain _ (List.mem_cons_self ..)).imp_left plainKey_iff.mp
          rw [fieldsObstacle?, ih _ (List.mem_cons_self ..) inner]
          exact later (fun entry listed => ih entry (by simp [listed])) fun entry listed => plain entry (by simp [listed])
  | scalar value =>
      intro plain
      cases value <;> simp_all [Json.plain, obstacle?, isArray, isObject]

/-- Whether a character may begin the text of a value: none that is skipped, that closes a list or that marks
the order of bytes. -/
def beginsValue (c : Char) : Bool :=
  !isGap c && c ≠ ']' && c ≠ '\ufeff'

theorem beginsValue_of_isDigit {c : Char} (digit : c.isDigit = true) : beginsValue c = true := by
  by_contra other
  have excluded : (isGap c = true ∨ c = ']') ∨ c = '\ufeff' := by
    simpa [beginsValue, not_and_or, or_assoc, imp_iff_not_or] using other
  rw [isGap] at excluded
  simp only [Bool.or_eq_true, decide_eq_true_eq] at excluded
  rcases excluded with ((((rfl | rfl) | rfl) | rfl) | rfl) | rfl <;> exact absurd digit (by decide)

/-- The text of a whole number begins with a minus sign and a digit, or with a digit. -/
theorem front_toString (n : Int) : ∃ c digits, c.isDigit = true ∧
    ((toString n).toList = c :: digits ∨ (toString n).toList = '-' :: c :: digits) := by
  rcases front : Nat.toDigits 10 n.natAbs with _ | ⟨c, digits⟩
  · exact absurd front Nat.toDigits_ne_nil
  · refine ⟨c, digits, Nat.isDigit_of_mem_toDigits (by decide) (by decide) (front ▸ List.mem_cons_self ..), ?_⟩
    rw [toList_toString_int, front]
    by_cases negative : n < 0 <;> simp [negative]

/-- The text of a plain value is not empty and begins as texts of values do. -/
theorem front_chars (layout : Layout) (level : Nat) {value : Json} (plain : value.plain = true) :
    ∃ c more, value.chars layout level = c :: more ∧ beginsValue c = true := by
  cases value with
  | null => exact ⟨_, _, rfl, by decide⟩
  | bool b => cases b <;> exact ⟨_, _, rfl, by decide⟩
  | int n =>
      obtain ⟨c, digits, digit, front | front⟩ := front_toString n
      · exact ⟨c, digits, by rw [chars, front], beginsValue_of_isDigit digit⟩
      · exact ⟨'-', c :: digits, by rw [chars, front], by decide⟩
  | double d => simp [Json.plain] at plain
  | foreign value => simp [Json.plain] at plain
  | string text => exact ⟨'"', _, rfl, by decide⟩
  | array items => cases items <;> exact ⟨'[', _, rfl, by decide⟩
  | object fields => rcases fields with _ | ⟨⟨key, value⟩, rest⟩ <;> exact ⟨'{', _, rfl, by decide⟩

end Writing

section Skipping

/-- Gaps are skipped up to the first character that is none. -/
theorem skipGap_append {rest : List Char} (stop : ∀ c ∈ rest.head?, isGap c = false) :
    ∀ {gap : List Char} {offset : Nat}, (∀ c ∈ gap, isGap c = true) →
      skipGap (gap ++ rest) offset = ⟨rest, offset + gap.length⟩
  | [], offset, _ => by
      cases rest with
      | nil => rfl
      | cons c rest => simp [skipGap, stop c rfl]
  | c :: gap, offset, each => by
      have later : skipGap (gap ++ rest) (offset + 1) = ⟨rest, offset + 1 + gap.length⟩ :=
        skipGap_append stop fun other listed => each other (by simp [listed])
      simp [skipGap, each c (by simp), later, Nat.add_assoc, Nat.add_comm 1]

variable {layout : Layout} {level : Nat}

theorem isGap_lineBreak (blank : layout.Blank) : ∀ c ∈ layout.lineBreak level, isGap c = true := by
  cases layout with
  | compact => simp [Layout.lineBreak]
  | lines unit =>
      intro c listed
      rcases List.mem_cons.mp listed with rfl | inside
      · rfl
      · obtain ⟨part, repeated, member⟩ := List.mem_flatten.mp inside
        obtain rfl := (List.mem_replicate.mp repeated).2
        exact blank c member

theorem isGap_blank : ∀ c ∈ [' '], isGap c = true :=
  List.forall_mem_singleton.mpr rfl

variable (level) in
/-- What stands between two items is a comma and a gap. -/
theorem separator_eq (blank : layout.Blank) :
    ∃ gap, layout.separator level = ',' :: gap ∧ ∀ c ∈ gap, isGap c = true := by
  cases layout with
  | compact => exact ⟨[' '], rfl, isGap_blank⟩
  | lines unit => exact ⟨_, rfl, isGap_lineBreak blank⟩

/-- A line break may follow a number, and so may what comes after an empty one. -/
theorem endsNumber_lineBreak {c : Char} (stop : endsNumber c = true) {rest : List Char} :
    ∀ d ∈ (layout.lineBreak level ++ c :: rest).head?, endsNumber d = true := by
  cases layout with
  | compact => simpa [Layout.lineBreak] using stop
  | lines unit =>
      simp only [Layout.lineBreak, List.cons_append, List.head?_cons, Option.mem_def, Option.some.injEq]
      rintro d rfl
      decide

end Skipping

section Reading

/-- The reader takes up the text of a value, at any level and before any rest that does not go on with a
number, with as much fuel as the text is long. -/
def ReadsBack (layout : Layout) (value : Json) : Prop :=
  ∀ level fuel rest offset, (value.chars layout level).length ≤ fuel → (∀ c ∈ rest.head?, endsNumber c = true) →
    ∃ after, readValue (some Numeral.digitLimit) fuel ⟨value.chars layout level ++ rest, offset⟩ =
      .ok (value, ⟨rest, after⟩)

variable {layout : Layout} {inner outer : Nat}

theorem not_isGap_of_beginsValue {c : Char} (begins : beginsValue c = true) : isGap c = false := by
  rw [beginsValue, Bool.and_eq_true, Bool.and_eq_true, Bool.not_eq_true'] at begins
  exact begins.1.1

/-- Gaps before the text of a value are skipped. -/
theorem skipGap_chars {value : Json} (plain : value.plain = true) {gap rest : List Char}
    (each : ∀ c ∈ gap, isGap c = true) {level offset : Nat} :
    skipGap (gap ++ (value.chars layout level ++ rest)) offset =
      ⟨value.chars layout level ++ rest, offset + gap.length⟩ := by
  refine skipGap_append (fun c front => ?_) each
  obtain ⟨first, more, text, begins⟩ := front_chars layout level plain
  rw [text, List.cons_append, List.head?_cons, Option.mem_def, Option.some.injEq] at front
  exact front ▸ not_isGap_of_beginsValue begins

/-- The gap before the end of a container is skipped. -/
theorem skipGap_lineBreak (blank : layout.Blank) {c : Char} (stop : isGap c = false) {rest : List Char}
    {offset : Nat} : skipGap (layout.lineBreak outer ++ c :: rest) offset =
      ⟨c :: rest, offset + (layout.lineBreak outer).length⟩ :=
  skipGap_append (by simpa using stop) (isGap_lineBreak blank)

theorem endsNumber_itemsChars (blank : layout.Blank) (items : List Json) {rest : List Char} :
    ∀ d ∈ (itemsChars layout inner items ++ (layout.lineBreak outer ++ ']' :: rest)).head?, endsNumber d = true := by
  cases items with
  | nil => exact endsNumber_lineBreak (by decide)
  | cons item items =>
      obtain ⟨gap, separator, -⟩ := separator_eq inner blank
      simp only [itemsChars, separator, List.cons_append, List.head?_cons, Option.mem_def, Option.some.injEq]
      rintro d rfl
      decide

/-- What follows a name or a value is not skipped if it is no gap. -/
theorem skip_stop {c : Char} (stop : isGap c = false) {rest : List Char} {offset : Nat} :
    (Cursor.mk (c :: rest) offset).skip = ⟨c :: rest, offset⟩ := by
  simp [Cursor.skip, skipGap, stop]

section Steps

variable {fuel : Nat} {cursor after last : Cursor} {rest : List Char} {offset : Nat} {limit : Option Nat}

/-- The last item is followed by the closing bracket. -/
theorem readItems_last {item : Json} (read : readValue limit fuel cursor = .ok (item, after))
    (closed : after.skip = ⟨']' :: rest, offset⟩) :
    readItems limit (fuel + 1) cursor = .ok ([item], ⟨rest, offset + 1⟩) := by
  rw [readItems.eq_2, read]
  simp only [bind, Except.bind, closed]
  rfl

/-- An item that is not the last is followed by a comma. -/
theorem readItems_more {item : Json} {items : List Json} (read : readValue limit fuel cursor = .ok (item, after))
    (continued : after.skip = ⟨',' :: rest, offset⟩)
    (later : readItems limit fuel (skipGap rest (offset + 1)) = .ok (items, last)) :
    readItems limit (fuel + 1) cursor = .ok (item :: items, last) := by
  rw [readItems.eq_2, read]
  simp only [bind, Except.bind, continued, later]
  rfl

end Steps

variable (inner outer) in
/-- The items of an array are read one after the other, up to the closing bracket. -/
theorem readItems_chars (blank : layout.Blank) (rest : List Char) {items : List Json} :
    ∀ (item : Json) (fuel offset : Nat),
      (∀ other ∈ item :: items, other.plain = true ∧ other.ReadsBack layout) →
      (item.chars layout inner).length + (itemsChars layout inner items).length < fuel →
        ∃ after, readItems (some Numeral.digitLimit) fuel
          ⟨item.chars layout inner ++ (itemsChars layout inner items ++ (layout.lineBreak outer ++ ']' :: rest)),
            offset⟩ = .ok (item :: items, ⟨rest, after⟩) := by
  induction items with
  | nil =>
      intro item fuel offset each enough
      obtain ⟨fuel, rfl⟩ := Nat.exists_eq_succ_of_ne_zero (Nat.ne_zero_of_lt enough)
      obtain ⟨after, read⟩ := (each item (by simp)).2 inner fuel _ offset (by omega)
        (endsNumber_itemsChars blank [])
      exact ⟨_, readItems_last read (skipGap_lineBreak blank (by decide))⟩
  | cons next items ih =>
      intro item fuel offset each enough
      obtain ⟨fuel, rfl⟩ := Nat.exists_eq_succ_of_ne_zero (Nat.ne_zero_of_lt enough)
      obtain ⟨gap, separator, skipped⟩ := separator_eq inner blank
      obtain ⟨after, read⟩ := (each item (by simp)).2 inner fuel _ offset (by omega)
        (endsNumber_itemsChars blank (next :: items))
      obtain ⟨last, later⟩ := ih next fuel (after + 1 + gap.length) (fun other listed => each other (by simp [listed]))
        (by simp only [itemsChars, separator, List.length_append, List.length_cons] at enough; omega)
      rw [← skipGap_chars (each next (by simp)).1 skipped] at later
      refine ⟨last, readItems_more read ?_ later⟩
      simp only [itemsChars, separator, List.cons_append, List.append_assoc]
      exact skip_stop (by decide)

/-- A member is read up to the end of its value; then the object ends or goes on. -/
theorem readMembers_member (inner : Nat) {name : String} (scalars : Scalars name) {value : Json} (plain : value.plain = true)
    (readsBack : value.ReadsBack layout) (fuel : Nat) (enough : (value.chars layout inner).length ≤ fuel)
    {rest : List Char} (stop : ∀ c ∈ rest.head?, endsNumber c = true) (offset : Nat) :
    ∃ after, readMembers (some Numeral.digitLimit) (fuel + 1)
        ⟨keyChars (.text name) ++ (':' :: ' ' :: (value.chars layout inner ++ rest)), offset⟩ =
      (let next := (Cursor.mk rest after).skip
      match next.rest with
      | '}' :: rest => .ok ([(.text name, value)], ⟨rest, next.offset + 1⟩)
      | ',' :: rest => do
          let (fields, last) ← readMembers (some Numeral.digitLimit) fuel (skipGap rest (next.offset + 1))
          return ((.text name, value) :: fields, last)
      | _ => .error (.defect .comma next.offset)) := by
  obtain ⟨quoted, text, named⟩ := readString_jsonQuoted offset (offset + 1)
    (':' :: ' ' :: (value.chars layout inner ++ rest)) scalars
  have gap : skipGap ([' '] ++ (value.chars layout inner ++ rest))
      (offset + 1 + (jsonQuoted name.toList).length - 1 + 1) = _ := skipGap_chars plain isGap_blank
  obtain ⟨after, read⟩ := readsBack inner fuel rest _ enough stop
  refine ⟨after, ?_⟩
  rw [keyChars, nameOf, text, readMembers.eq_2]
  simp only [bind, Except.bind, named, skip_stop (show isGap ':' = false by decide)]
  rw [List.singleton_append] at gap
  rw [gap, read]
  rfl

theorem endsNumber_fieldsChars (blank : layout.Blank) (fields : List (Key × Json)) {rest : List Char} :
    ∀ d ∈ (fieldsChars layout inner fields ++ (layout.lineBreak outer ++ '}' :: rest)).head?,
      endsNumber d = true := by
  rcases fields with _ | ⟨⟨key, value⟩, fields⟩
  · exact endsNumber_lineBreak (by decide)
  · obtain ⟨gap, separator, -⟩ := separator_eq inner blank
    simp only [fieldsChars, separator, List.cons_append, List.head?_cons, Option.mem_def, Option.some.injEq]
    rintro d rfl
    decide

variable (inner outer) in
/-- The members of an object are read one after the other, up to the closing brace. -/
theorem readMembers_chars (blank : layout.Blank) (rest : List Char) {fields : List (Key × Json)} :
    ∀ (key : Key) (value : Json) (fuel offset : Nat),
      (∀ entry ∈ (key, value) :: fields,
        plainKey entry.1 = true ∧ entry.2.plain = true ∧ entry.2.ReadsBack layout) →
      (value.chars layout inner).length + (fieldsChars layout inner fields).length < fuel →
        ∃ after, readMembers (some Numeral.digitLimit) fuel
          ⟨keyChars key ++ (':' :: ' ' :: (value.chars layout inner ++ (fieldsChars layout inner fields ++
            (layout.lineBreak outer ++ '}' :: rest)))), offset⟩ = .ok ((key, value) :: fields, ⟨rest, after⟩) := by
  induction fields with
  | nil =>
      intro key value fuel offset each enough
      obtain ⟨fuel, rfl⟩ := Nat.exists_eq_succ_of_ne_zero (Nat.ne_zero_of_lt enough)
      obtain ⟨named, plain, readsBack⟩ : plainKey key = true ∧ value.plain = true ∧ value.ReadsBack layout :=
        each (key, value) (List.mem_cons_self ..)
      obtain ⟨name, rfl, scalars⟩ := plainKey_iff.mp named
      obtain ⟨after, read⟩ := readMembers_member inner scalars plain readsBack fuel (by omega)
        (endsNumber_fieldsChars blank []) offset
      refine ⟨after + (layout.lineBreak outer).length + 1, ?_⟩
      rw [read]
      simp only [fieldsChars, List.nil_append, Cursor.skip, skipGap_lineBreak blank (show isGap '}' = false by decide)]
  | cons next fields ih =>
      intro key value fuel offset each enough
      obtain ⟨fuel, rfl⟩ := Nat.exists_eq_succ_of_ne_zero (Nat.ne_zero_of_lt enough)
      obtain ⟨named, plain, readsBack⟩ : plainKey key = true ∧ value.plain = true ∧ value.ReadsBack layout :=
        each (key, value) (List.mem_cons_self ..)
      obtain ⟨name, rfl, scalars⟩ := plainKey_iff.mp named
      obtain ⟨gap, separator, skipped⟩ := separator_eq inner blank
      obtain ⟨after, read⟩ := readMembers_member inner scalars plain readsBack fuel (by omega)
        (endsNumber_fieldsChars blank (next :: fields)) offset
      obtain ⟨last, later⟩ := ih next.1 next.2 fuel (after + 1 + gap.length)
        (fun entry listed => each entry (List.mem_cons_of_mem _ listed))
        (by simp only [fieldsChars, separator, List.length_append, List.length_cons] at enough; omega)
      have following : skipGap (gap ++ (keyChars next.1 ++ (':' :: ' ' :: (next.2.chars layout inner ++
          (fieldsChars layout inner fields ++ (layout.lineBreak outer ++ '}' :: rest)))))) (after + 1) = _ :=
        skipGap_append (by simp [keyChars, jsonQuoted, isGap]) skipped
      refine ⟨last, ?_⟩
      rw [read, fieldsChars, separator]
      simp only [List.cons_append, List.append_assoc, List.nil_append, skip_stop (show isGap ',' = false by decide),
        following, later]
      rfl

/-- A number is neither a word nor quoted. -/
theorem readValue_toString (n : Int) (fuel : Nat) (rest : List Char) (offset : Nat) (limit : Option Nat) :
    readValue limit (fuel + 1) ⟨(toString n).toList ++ rest, offset⟩ =
      readNumber limit ⟨(toString n).toList ++ rest, offset⟩ := by
  -- the reader looks for words first; none of them begins with a digit, or with a minus sign and a digit
  obtain ⟨c, digits, digit, front | front⟩ := front_toString n
  · rw [front, List.cons_append, readValue.eq_2]
    split <;> first | rfl | simp_all
  · rw [front, List.cons_append, List.cons_append, readValue.eq_2]
    split <;> first | rfl | simp_all

theorem collect_eq {fields : List (Key × Json)} (distinct : (Fields.keys fields).Nodup) :
    Fields.collect fields = fields := by
  suffices ∀ (done left : List (Key × Json)), (Fields.keys (done ++ left)).Nodup →
      left.foldl (fun fields entry => Fields.put fields entry.1 entry.2) done = done ++ left from
    this [] fields distinct
  intro done left
  induction left generalizing done with
  | nil => simp
  | cons entry left ih =>
      intro distinct
      have missing : Fields.get? done entry.1 = none := by
        rw [Fields.get?_eq_none_iff]
        rw [Fields.keys, List.map_append, List.map_cons, List.nodup_append] at distinct
        exact fun listed => distinct.2.2 _ listed _ (List.mem_cons_self ..) rfl
      rw [List.foldl_cons, Fields.put_of_get?_eq_none missing, ih _ (by simpa using distinct)]
      simp

theorem readsBack_array (blank : layout.Blank) {items : List Json}
    (each : ∀ item ∈ items, item.plain = true ∧ item.ReadsBack layout) : (Json.array items).ReadsBack layout := by
  intro level fuel rest offset enough stop
  cases items with
  | nil =>
      obtain ⟨fuel, rfl⟩ := Nat.exists_eq_succ_of_ne_zero (Nat.ne_zero_of_lt enough)
      exact ⟨_, rfl⟩
  | cons item items =>
      obtain ⟨fuel, rfl⟩ := Nat.exists_eq_succ_of_ne_zero (Nat.ne_zero_of_lt enough)
      simp only [chars, List.length_cons, List.length_append] at enough
      obtain ⟨after, read⟩ := readItems_chars (level + 1) level blank rest item fuel
        (offset + 1 + (layout.lineBreak (level + 1)).length) each (by omega)
      have plain := (each item (by simp)).1
      obtain ⟨c, more, front, begins⟩ := front_chars layout (level + 1) plain
      refine ⟨after, ?_⟩
      simp only [chars, readValue.eq_2, List.cons_append, List.append_assoc, List.nil_append,
        skipGap_chars plain (isGap_lineBreak blank), read, bind, Except.bind]
      split
      · simp_all [beginsValue]
      · rfl

theorem readsBack_object (blank : layout.Blank) {fields : List (Key × Json)}
    (distinct : (Fields.keys fields).Nodup)
    (each : ∀ entry ∈ fields, plainKey entry.1 = true ∧ entry.2.plain = true ∧ entry.2.ReadsBack layout) :
    (Json.object fields).ReadsBack layout := by
  intro level fuel rest offset enough stop
  rcases fields with _ | ⟨⟨key, value⟩, fields⟩
  · obtain ⟨fuel, rfl⟩ := Nat.exists_eq_succ_of_ne_zero (Nat.ne_zero_of_lt enough)
    exact ⟨_, rfl⟩
  · obtain ⟨fuel, rfl⟩ := Nat.exists_eq_succ_of_ne_zero (Nat.ne_zero_of_lt enough)
    simp only [chars, List.length_cons, List.length_append] at enough
    obtain ⟨after, read⟩ := readMembers_chars (level + 1) level blank rest key value fuel
      (offset + 1 + (layout.lineBreak (level + 1)).length) each (by omega)
    have begun : skipGap (layout.lineBreak (level + 1) ++ (keyChars key ++ (':' :: ' ' ::
        (value.chars layout (level + 1) ++ (fieldsChars layout (level + 1) fields ++
          (layout.lineBreak level ++ '}' :: rest)))))) (offset + 1) = _ :=
      skipGap_append (by simp [keyChars, jsonQuoted, isGap]) (isGap_lineBreak blank)
    refine ⟨after, ?_⟩
    simp only [chars, readValue.eq_2, List.cons_append, List.append_assoc, List.nil_append, begun, read, bind,
      Except.bind, collect_eq distinct]
    split
    · simp_all [keyChars, jsonQuoted]
    · rfl

theorem readsBack_scalar {value : Json} (plain : value.plain = true) (notArray : value.isArray = false)
    (notObject : value.isObject = false) : value.ReadsBack layout := by
  intro level fuel rest offset enough stop
  obtain ⟨fuel, rfl⟩ : ∃ more, fuel = more + 1 := by
    obtain ⟨c, more, front, -⟩ := front_chars layout level plain
    rw [front] at enough
    exact Nat.exists_eq_succ_of_ne_zero (Nat.ne_zero_of_lt enough)
  cases value with
  | null => exact ⟨_, rfl⟩
  | bool b => cases b <;> exact ⟨_, rfl⟩
  | int n =>
      rw [chars, readValue_toString]
      exact readNumber_toString plain stop offset
  | string text =>
      rw [Json.plain, decide_eq_true_eq] at plain
      obtain ⟨quoted, front, read⟩ := readString_jsonQuoted offset (offset + 1) rest plain
      rw [chars, front, readValue.eq_2]
      simp only [read, bind, Except.bind]
      exact ⟨_, rfl⟩
  | double d => simp [Json.plain] at plain
  | foreign value => simp [Json.plain] at plain
  | array items => simp [isArray] at notArray
  | object fields => simp [isObject] at notObject

/-- The text of every plain value is read back, in every layout whose indentation is skipped. -/
theorem readsBack (blank : layout.Blank) :
    ∀ value : Json, value.wellFormed = true → value.plain = true → value.ReadsBack layout := by
  intro value
  induction value using treeInduction with
  | array items ih =>
      intro formed plain
      rw [wellFormed_array] at formed
      rw [Json.plain, itemsPlain_iff] at plain
      exact readsBack_array blank fun item listed =>
        ⟨plain item listed, ih item listed (formed item listed) (plain item listed)⟩
  | object fields ih =>
      intro formed plain
      rw [wellFormed_object] at formed
      rw [Json.plain, membersPlain_iff] at plain
      exact readsBack_object blank formed.2.1 fun entry listed =>
        ⟨(plain entry listed).1, (plain entry listed).2,
          ih entry listed (formed.2.2 entry listed) (plain entry listed).2⟩
  | scalar value notArray notObject =>
      intro _ plain
      exact readsBack_scalar plain notArray notObject

end Reading

/-- A plain value is the value that its text denotes. -/
theorem parse_render {layout : Layout} (blank : layout.Blank) {value : Json} (formed : value.wellFormed = true)
    (plain : value.plain = true) : parse (value.render layout) = .ok value := by
  obtain ⟨c, more, front, begins⟩ := front_chars layout 0 plain
  obtain ⟨after, read⟩ := readsBack blank value formed plain 0 (2 * (value.chars layout 0).length + 2) [] 0 (by omega)
    (by simp)
  have begun : skipGap ([] ++ (value.chars layout 0 ++ [])) 0 = _ := skipGap_chars plain (by simp)
  rw [List.append_nil] at read begun
  rw [List.nil_append] at begun
  rw [parse, render, String.toList_ofList, Json.read]
  · simp only [begun, List.length_nil, Nat.add_zero, read, bind, Except.bind]
    rfl
  · intro rest same
    rw [front] at same
    obtain ⟨rfl, -⟩ := List.cons.inj same
    simp [beginsValue] at begins

end Json

end SchemaAlgebra

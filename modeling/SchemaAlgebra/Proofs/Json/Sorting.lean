import Mathlib.Data.List.Lex
import Mathlib.Data.List.Nodup
import SchemaAlgebra.Json.Equality

/-!
Sorting texts. A list of texts has an order, and sorting it keeps its items. So looking at neighbours tells
whether they are different: equal texts become neighbours, unless a text is no writing of code points.
-/

namespace SchemaAlgebra

namespace Text

/-- The code points of a text, by which it is sorted. -/
def rank (text : String) : List Nat :=
  codes text.toList

/-- A text that is written as its code points are: each mark in it has a letter that goes with it. -/
def Written (text : String) : Prop :=
  ofCodes (rank text) = text.toList

instance (text : String) : Decidable (Written text) :=
  inferInstanceAs (Decidable (_ = _))

theorem Written.eq {a b : String} (written : Written a) (written' : Written b) (same : rank a = rank b) :
    a = b := by
  rw [Written] at written written'
  exact String.toList_injective (written.symm.trans ((congrArg ofCodes same).trans written'))

theorem orderCodes_eq_lt {as bs : List Nat} : orderCodes as bs = .lt ↔ as < bs := by
  induction as generalizing bs with
  | nil => cases bs <;> simp [orderCodes]
  | cons a as ih =>
      cases bs with
      | nil => simp [orderCodes]
      | cons b bs =>
          rw [orderCodes, List.cons_lt_cons_iff, ← ih]
          split
          · simp [*]
          · split
            · simp only [reduceCtorEq, false_iff]
              omega
            · next notLess notMore =>
                obtain rfl : a = b := by omega
                simp

end Text

namespace Json

open Text

/-- Texts in their order. -/
def Ascending (names : List String) : Prop :=
  names.Pairwise fun a b => rank a ≤ rank b

theorem sortsBefore?_string (a b : String) :
    sortsBefore? (.string a) (.string b) = some (decide (rank a < rank b)) := by
  have compared : decide (order a b = .lt) = decide (rank a < rank b) := decide_eq_decide.mpr orderCodes_eq_lt
  rw [← compared]
  rfl

/-- Inserting a text into texts in their order gives all of them in their order. -/
theorem insert?_strings (name : String) (fuel : Nat) : ∀ {names : List String}, names.length ≤ fuel →
    Ascending names →
    ∃ inserted : List String, insert? (.string name) fuel (names.map .string) = some (inserted.map .string) ∧
      inserted.Perm (name :: names) ∧ Ascending inserted := by
  induction fuel with
  | zero =>
      intro names short _
      obtain rfl := List.eq_nil_of_length_eq_zero (Nat.le_zero.mp short)
      exact ⟨[name], rfl, .refl _, List.pairwise_singleton _ _⟩
  | succ fuel ih =>
      intro names short ascending
      rw [insert?, List.length_map, ← List.map_drop, ← List.map_take]
      have cut := List.take_append_drop (names.length / 2) names
      have front := List.length_take_le (names.length / 2) names
      cases dropped : names.drop (names.length / 2) with
      | nil =>
          obtain rfl : names = [] := by
            rw [List.drop_eq_nil_iff] at dropped
            exact List.eq_nil_of_length_eq_zero (by omega)
          exact ⟨[name], rfl, .refl _, List.pairwise_singleton _ _⟩
      | cons middle above =>
          have length := congrArg List.length dropped
          rw [List.length_drop, List.length_cons] at length
          generalize names.take (names.length / 2) = below at cut front ⊢
          rw [dropped] at cut
          subst cut
          obtain ⟨lower, upper, across⟩ := List.pairwise_append.mp ascending
          obtain ⟨middles, higher⟩ := List.pairwise_cons.mp upper
          simp only [List.map_cons, sortsBefore?_string, Option.bind_eq_bind, Option.bind_some, decide_eq_true_eq]
          split
          · next less =>
              obtain ⟨inserted, ran, same, ordered⟩ := ih (by omega) lower
              refine ⟨inserted ++ middle :: above, by simp [ran], same.append_right _, ?_⟩
              refine List.pairwise_append.mpr ⟨ordered, upper, fun a listed b among => ?_⟩
              rcases List.mem_cons.mp (same.mem_iff.mp listed) with rfl | listed
              · rcases List.mem_cons.mp among with rfl | among
                · exact le_of_lt less
                · exact le_trans (le_of_lt less) (middles b among)
              · exact across a listed b among
          · next more =>
              obtain ⟨inserted, ran, same, ordered⟩ := ih (by omega) higher
              refine ⟨below ++ middle :: inserted, by simp [ran], ?_, ?_⟩
              · exact ((same.cons middle).trans (.swap name middle above)).append_left below |>.trans
                  List.perm_middle
              · refine List.pairwise_append.mpr ⟨lower, List.pairwise_cons.mpr ⟨fun b listed => ?_, ordered⟩,
                  fun a listed b among => ?_⟩
                · rcases List.mem_cons.mp (same.mem_iff.mp listed) with rfl | listed
                  · exact not_lt.mp more
                  · exact middles b listed
                · rcases List.mem_cons.mp among with rfl | among
                  · exact across a listed b List.mem_cons_self
                  · rcases List.mem_cons.mp (same.mem_iff.mp among) with rfl | among
                    · exact le_trans (across a listed middle List.mem_cons_self) (not_lt.mp more)
                    · exact across a listed b (List.mem_cons_of_mem middle among)

theorem foldlM_insert?_strings (names : List String) : ∀ {sorted : List String}, Ascending sorted →
    ∃ all : List String, (names.map Json.string).foldlM (fun items item => insert? item items.length items)
        (sorted.map Json.string) = some (all.map .string) ∧ all.Perm (names ++ sorted) ∧ Ascending all := by
  induction names with
  | nil => exact fun ascending => ⟨_, rfl, .refl _, ascending⟩
  | cons name rest ih =>
      intro sorted ascending
      obtain ⟨inserted, ran, same, ordered⟩ := insert?_strings name sorted.length (Nat.le_refl _) ascending
      obtain ⟨all, ran', same', ordered'⟩ := ih ordered
      refine ⟨all, ?_, same'.trans ((same.append_left rest).trans List.perm_middle), ordered'⟩
      rw [List.map_cons, List.foldlM_cons, List.length_map, ran]
      exact ran'

/-- One text follows another in a run. -/
def Runs (down : Bool) (a b : String) : Prop :=
  if down then rank b < rank a else rank a ≤ rank b

theorem Runs.trans {down : Bool} {a b c : String} (first : Runs down a b) (second : Runs down b c) :
    Runs down a c := by
  cases down with
  | true => exact lt_trans second first
  | false => exact le_trans first second

theorem decide_eq_iff_runs {down : Bool} {a b : String} : decide (rank b < rank a) = down ↔ Runs down a b := by
  cases down <;> simp [Runs]

theorem run?_strings (down : Bool) (names : List String) : ∀ last : String, ∃ run left : List String,
    run? down (.string last) (names.map .string) = some (run.map .string, left.map .string) ∧ names = run ++ left ∧
      (last :: run).Pairwise (Runs down) := by
  induction names with
  | nil => exact fun last => ⟨[], [], rfl, rfl, List.pairwise_singleton _ _⟩
  | cons name rest ih =>
      intro last
      rw [List.map_cons, run?, sortsBefore?_string]
      simp only [Option.bind_eq_bind, Option.bind_some]
      split
      · next down =>
          have runs := decide_eq_iff_runs.mp down
          obtain ⟨run, left, ran, same, ordered⟩ := ih name
          refine ⟨name :: run, left, by simp [ran], congrArg (name :: ·) same,
            List.pairwise_cons.mpr ⟨fun other listed => ?_, ordered⟩⟩
          rcases List.mem_cons.mp listed with rfl | listed
          · exact runs
          · exact runs.trans ((List.pairwise_cons.mp ordered).1 other listed)
      · exact ⟨[], name :: rest, rfl, rfl, List.pairwise_singleton _ _⟩

/-- Texts can be sorted. -/
theorem sorted?_strings (names : List String) : ∃ sorted : List String,
    sorted? (names.map .string) = some (sorted.map .string) ∧ sorted.Perm names ∧ Ascending sorted := by
  match names with
  | [] => exact ⟨[], rfl, .refl _, .nil⟩
  | [name] => exact ⟨[name], rfl, .refl _, List.pairwise_singleton _ _⟩
  | first :: second :: rest =>
      obtain ⟨run, left, ran, same, ordered⟩ :=
        run?_strings (decide (rank second < rank first)) (second :: rest) first
      obtain ⟨begun, begins, same', ascending⟩ : ∃ begun : List String,
          (if decide (rank second < rank first) then (Json.string first :: run.map .string).reverse
            else Json.string first :: run.map .string) = begun.map .string ∧
          begun.Perm (first :: run) ∧ Ascending begun := by
        cases down : decide (rank second < rank first) with
        | true =>
            refine ⟨(first :: run).reverse, by simp, List.reverse_perm _, List.pairwise_reverse.mpr ?_⟩
            rw [down] at ordered
            exact ordered.imp le_of_lt
        | false =>
            rw [down] at ordered
            exact ⟨first :: run, rfl, .refl _, ordered⟩
      obtain ⟨all, ran', same'', ascending'⟩ := foldlM_insert?_strings left ascending
      refine ⟨all, ?_, ?_, ascending'⟩
      · rw [List.map_cons, List.map_cons, sorted?, sortsBefore?_string, Option.bind_eq_bind, Option.bind_some,
          ← List.map_cons]
        rw [ran]
        simp only [Option.bind_eq_bind, Option.bind_some]
        rw [begins]
        exact ran'
      · refine same''.trans ((same'.append_left left).trans ?_)
        rw [same]
        exact List.perm_append_comm

theorem neighboursDiffer_of_nodup {names : List String} (distinct : names.Nodup) :
    neighboursDiffer (names.map .string) = true := by
  match names with
  | [] | [_] => rfl
  | first :: second :: rest =>
      obtain ⟨missing, distinct⟩ := List.nodup_cons.mp distinct
      have other : first ≠ second := fun same => missing (same ▸ List.mem_cons_self)
      rw [List.map_cons, List.map_cons, neighboursDiffer, ← List.map_cons, neighboursDiffer_of_nodup distinct]
      simp [same, other]

theorem nodup_of_neighboursDiffer {names : List String} (written : ∀ name ∈ names, Written name)
    (ascending : Ascending names) (differ : neighboursDiffer (names.map .string) = true) : names.Nodup := by
  match names with
  | [] => exact .nil
  | [name] => exact List.nodup_singleton name
  | first :: second :: rest =>
      obtain ⟨least, ascending⟩ := List.pairwise_cons.mp ascending
      rw [List.map_cons, List.map_cons, neighboursDiffer, Bool.and_eq_true, ← List.map_cons] at differ
      have distinct := nodup_of_neighboursDiffer
        (fun name listed => written name (List.mem_cons_of_mem first listed)) ascending differ.2
      have other : first ≠ second := by simpa [same] using differ.1
      refine List.nodup_cons.mpr ⟨fun listed => ?_, distinct⟩
      -- A text between two equal ones is equal to them.
      have later : rank second ≤ rank first := by
        rcases List.mem_cons.mp listed with same | listed
        · exact le_of_eq (congrArg rank same.symm)
        · exact (List.pairwise_cons.mp ascending).1 first listed
      exact other ((written first List.mem_cons_self).eq (written second (by simp))
        (le_antisymm (least second List.mem_cons_self) later))

theorem allDifferent_of_nodup {names : List String} (distinct : names.Nodup) :
    allDifferent (names.map .string) = true := by
  obtain ⟨sorted, ran, same, -⟩ := sorted?_strings names
  rw [allDifferent, ran]
  exact neighboursDiffer_of_nodup (same.nodup_iff.mpr distinct)

/-- Texts that are written as their code points are are different exactly if their neighbours are, once sorted. -/
theorem allDifferent_strings {names : List String} (written : ∀ name ∈ names, Written name) :
    allDifferent (names.map .string) = true ↔ names.Nodup := by
  refine ⟨fun differ => ?_, allDifferent_of_nodup⟩
  obtain ⟨sorted, ran, same, ascending⟩ := sorted?_strings names
  rw [allDifferent, ran] at differ
  exact same.nodup_iff.mp (nodup_of_neighboursDiffer
    (fun name listed => written name (same.mem_iff.mp listed)) ascending differ)

end Json

end SchemaAlgebra

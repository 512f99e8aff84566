import Mathlib.Data.List.DropRight
import SchemaAlgebra.Proofs.Schema.Pointers
import SchemaAlgebra.Schema.Location

/-!
Locations along a chain of documents. A path is taken component by component from the components of another one. A
normal path leads where the path did that it was made of, and a path leads to its last component from where its
directory leads. So below the directory of a normal path, a path leads where it does below the directory of the path
that was made normal: what a document names by a relative location, which was itself named by one, is what the first
document would name by the two put together.
-/

namespace SchemaAlgebra.Location

/-- The last component of a path. -/
def fileName (path : List Char) : List Char :=
  path.rtakeWhile (· ≠ '/')

/-- A component that names something: it is there, and means neither a directory itself nor the one above. -/
def IsName (component : List Char) : Prop :=
  component ≠ [] ∧ component ≠ ['.'] ∧ component ≠ ['.', '.']

instance (component : List Char) : Decidable (IsName component) :=
  inferInstanceAs (Decidable (_ ∧ _))

/-- The components that a path leads to from others, last first. -/
def follow (rooted : Bool) (done : List (List Char)) (path : List Char) : List (List Char) :=
  (Text.splitAtAll '/' path).foldl (climb rooted) done

section Paths

variable {rooted : Bool} {done : List (List Char)} {base path component : List Char}

theorem climb_of_isName (name : IsName component) : climb rooted done component = component :: done := by
  obtain ⟨some, here, up⟩ := name
  simp [climb, some, here, up]

@[simp] theorem follow_nil : follow rooted done [] = done := by
  simp [follow, Text.splitAtAll, climb]

@[simp] theorem follow_append_slash (path rest : List Char) :
    follow rooted done (path ++ '/' :: rest) = follow rooted (follow rooted done path) rest := by
  rw [follow, Text.splitAtAll_append_cons, List.foldl_append]
  rfl

@[simp] theorem follow_slash (rest : List Char) : follow rooted done ('/' :: rest) = follow rooted done rest := by
  have front : follow rooted done ([] ++ '/' :: rest) = follow rooted (follow rooted done []) rest :=
    follow_append_slash [] rest
  simpa using front

theorem follow_of_notMem (free : '/' ∉ component) : follow rooted done component = climb rooted done component := by
  rw [follow, Text.splitAtAll_of_notMem free]
  rfl

theorem follow_joinWith {components : List (List Char)} (free : ∀ component ∈ components, '/' ∉ component) :
    follow rooted done (Text.joinWith '/' components) = components.foldl (climb rooted) done := by
  cases components with
  | nil => exact follow_nil
  | cons component rest => rw [follow, Text.splitAtAll_joinWith (List.cons_ne_nil _ _) free]

/-! What stands before the last component, and the directory that it is. -/

/-- A path up to its last slash. -/
def stem (path : List Char) : List Char :=
  path.rdropWhile (· ≠ '/')

theorem directory_eq (path : List Char) :
    directory path = if (stem path).all (· = '/') then stem path else dropLastSlashes (stem path) :=
  rfl

theorem stem_append_fileName (path : List Char) : stem path ++ fileName path = path :=
  List.rdropWhile_append_rtakeWhile ..

theorem notMem_fileName (path : List Char) : '/' ∉ fileName path := by
  intro listed
  have other := List.mem_rtakeWhile_imp listed
  simp at other

theorem stem_cases (path : List Char) : stem path = [] ∨ ∃ front, stem path = front ++ ['/'] := by
  by_cases none : stem path = []
  · exact .inl none
  · have slash : (stem path).getLast none = '/' := by
      have last := List.rdropWhile_last_not (· ≠ '/') path none
      simpa only [stem, decide_eq_true_eq, not_not] using last
    exact .inr ⟨(stem path).dropLast, by rw [← slash, List.dropLast_append_getLast]⟩

theorem fileName_of_notMem {name : List Char} (free : '/' ∉ name) : fileName name = name :=
  List.rtakeWhile_eq_self_iff.mpr fun c listed => by
    have other : c ≠ '/' := fun same => free (same ▸ listed)
    simp [other]

theorem fileName_append (front : List Char) {name : List Char} (free : '/' ∉ name) :
    fileName (front ++ '/' :: name) = name := by
  have each : ∀ c ∈ name.reverse, decide (c ≠ '/') = true := fun c listed => by
    have other : c ≠ '/' := fun same => free (same ▸ List.mem_reverse.mp listed)
    simp [other]
  rw [fileName, List.rtakeWhile, List.reverse_append, List.reverse_cons, List.append_assoc,
    List.takeWhile_append_of_pos each]
  simp

theorem exists_dropLastSlashes (path : List Char) : ∃ count,
    path = dropLastSlashes path ++ List.replicate count '/' := by
  refine ⟨(path.rtakeWhile (· = '/')).length, ?_⟩
  have slashes := List.eq_replicate_of_mem fun c (listed : c ∈ path.rtakeWhile (· = '/')) =>
    show c = '/' by simpa using List.mem_rtakeWhile_imp listed
  rw [← slashes]
  exact (List.rdropWhile_append_rtakeWhile ..).symm

theorem follow_replicate (count : Nat) :
    follow rooted done (path ++ List.replicate count '/') = follow rooted done path := by
  induction count with
  | zero => simp
  | succ count ih => rw [List.replicate_succ', ← List.append_assoc, follow_append_slash, follow_nil, ih]

theorem follow_dropLastSlashes (path : List Char) :
    follow rooted done (dropLastSlashes path) = follow rooted done path := by
  obtain ⟨count, whole⟩ := exists_dropLastSlashes path
  conv_rhs => rw [whole, follow_replicate]

theorem follow_directory (path : List Char) :
    follow rooted done (directory path) = follow rooted done (stem path) := by
  rw [directory_eq]
  split
  · rfl
  · exact follow_dropLastSlashes _

/-- A path leads to its last component from where its directory leads. -/
theorem follow_fileName (path : List Char) :
    follow rooted done path = climb rooted (follow rooted done (directory path)) (fileName path) := by
  rw [follow_directory, ← follow_of_notMem (notMem_fileName path)]
  conv_lhs => rw [← stem_append_fileName path]
  rcases stem_cases path with none | ⟨front, ends⟩
  · rw [none, List.nil_append, follow_nil]
  · rw [ends, List.append_assoc, List.singleton_append, follow_append_slash, follow_append_slash, follow_nil]

theorem follow_below (relative : isAbsolute path = false) :
    follow rooted done (below base path) = follow rooted (follow rooted done base) path := by
  rw [below, if_neg (by simp [relative])]
  split
  next none =>
    rcases none with rfl | ends
    · simp
    · obtain ⟨front, rfl⟩ : ∃ front, base = front ++ ['/'] := List.getLast?_eq_some_iff.mp ends
      simp
  · exact follow_append_slash _ _

/-! The slashes at the front. -/

theorem leadingSlashes_cases (path : List Char) :
    leadingSlashes path = [] ∨ leadingSlashes path = ['/'] ∨ leadingSlashes path = ['/', '/'] := by
  unfold leadingSlashes
  split <;> simp

/-- What so many slashes at the front become. -/
def front : Nat → List Char
  | 0 => []
  | 2 => ['/', '/']
  | _ => ['/']

theorem isAbsolute_append (some : component ≠ []) (free : '/' ∉ component) (rest : List Char) :
    isAbsolute (component ++ rest) = false := by
  obtain ⟨c, later, rfl⟩ := List.exists_cons_of_ne_nil some
  have other : c ≠ '/' := fun same => free (by simp [same])
  simp [isAbsolute, other]

theorem isAbsolute_of_notMem (free : '/' ∉ component) : isAbsolute component = false := by
  by_cases none : component = []
  · rw [none]
    rfl
  · simpa using isAbsolute_append none free []

theorem takeWhile_of_ne_cons (other : ∀ rest, path ≠ '/' :: rest) : path.takeWhile (· = '/') = [] := by
  cases path with
  | nil => rfl
  | cons c rest =>
      have different : c ≠ '/' := fun same => other rest (by rw [same])
      simp [different]

theorem takeWhile_of_relative (relative : isAbsolute path = false) : path.takeWhile (· = '/') = [] :=
  takeWhile_of_ne_cons fun rest same => by
    rw [same] at relative
    cases relative

theorem leadingSlashes_eq (path : List Char) : leadingSlashes path = front (path.takeWhile (· = '/')).length := by
  unfold leadingSlashes
  split
  · simp only [List.takeWhile_cons, decide_true, if_true, List.length_cons]
    rfl
  · next other => simp [takeWhile_of_ne_cons other, front]
  · next other => simp [takeWhile_of_ne_cons other, front]
  · next other => simp [takeWhile_of_ne_cons other, front]

theorem isAbsolute_eq (path : List Char) : isAbsolute path = !(leadingSlashes path).isEmpty := by
  unfold isAbsolute leadingSlashes
  split
  · split <;> simp_all
  · split <;> simp_all

theorem leadingSlashes_append (base : List Char) (relative : isAbsolute path = false) :
    leadingSlashes (base ++ path) = leadingSlashes base := by
  rw [leadingSlashes_eq, leadingSlashes_eq, List.takeWhile_append, takeWhile_of_relative relative]
  split <;> simp_all

/-- What comes behind other characters does not matter for the slashes at the front. -/
theorem leadingSlashes_append_of_not_all (slashes : base.all (· = '/') = false) (rest : List Char) :
    leadingSlashes (base ++ rest) = leadingSlashes base := by
  have shorter : (base.takeWhile (· = '/')).length ≠ base.length := by
    intro same
    have begins : base.takeWhile (· = '/') <+: base := List.takeWhile_prefix _
    have whole := List.takeWhile_eq_self_iff.mp (begins.eq_of_length same)
    exact Bool.false_ne_true (slashes.symm.trans (List.all_eq_true.mpr whole))
  rw [leadingSlashes_eq, leadingSlashes_eq, List.takeWhile_append, if_neg shorter]

theorem leadingSlashes_dropLastSlashes (slashes : path.all (· = '/') = false) :
    leadingSlashes (dropLastSlashes path) = leadingSlashes path := by
  obtain ⟨count, whole⟩ := exists_dropLastSlashes path
  have slashes' : (dropLastSlashes path).all (· = '/') = false := by
    by_contra all
    rw [Bool.not_eq_false] at all
    rw [whole, List.all_append, all] at slashes
    simp at slashes
  conv_rhs => rw [whole, leadingSlashes_append_of_not_all slashes']

theorem leadingSlashes_directory (path : List Char) : leadingSlashes (directory path) = leadingSlashes path := by
  have relative : isAbsolute (fileName path) = false := isAbsolute_of_notMem (notMem_fileName path)
  conv_rhs => rw [← stem_append_fileName path, leadingSlashes_append _ relative]
  rw [directory_eq]
  split
  · rfl
  next slashes => exact leadingSlashes_dropLastSlashes (Bool.not_eq_true _ ▸ slashes)

theorem leadingSlashes_below (base : List Char) (relative : isAbsolute path = false) :
    leadingSlashes (below base path) = leadingSlashes base := by
  rw [below, if_neg (by simp [relative])]
  split
  · exact leadingSlashes_append base relative
  next some =>
    obtain ⟨some, last⟩ := not_or.mp some
    refine leadingSlashes_append_of_not_all (Bool.not_eq_true _ ▸ fun all => last ?_) _
    rw [List.getLast?_eq_some_getLast some]
    exact congrArg _ (by simpa using List.all_eq_true.mp all _ (List.getLast_mem some))

theorem follow_leadingSlashes (path rest : List Char) :
    follow rooted done (leadingSlashes path ++ rest) = follow rooted done rest := by
  rcases leadingSlashes_cases path with same | same | same <;> simp [same]

/-! Normal paths. -/

/-- Components, last first, that are those of a normal path: names, and ways up only where nothing is above. -/
inductive Settled (rooted : Bool) : List (List Char) → Prop
  | nil : Settled rooted []
  | name {component : List Char} {done : List (List Char)} : IsName component → '/' ∉ component →
      Settled rooted done → Settled rooted (component :: done)
  | up {done : List (List Char)} : rooted = false → (∀ last ∈ done.head?, last = ['.', '.']) →
      Settled rooted done → Settled rooted (['.', '.'] :: done)

theorem Settled.parts (settled : Settled rooted done) (listed : component ∈ done) :
    component ≠ [] ∧ '/' ∉ component := by
  induction settled with
  | nil => cases listed
  | name isName free _ ih =>
      rcases List.mem_cons.mp listed with rfl | listed
      · exact ⟨isName.1, free⟩
      · exact ih listed
  | up _ _ _ ih =>
      rcases List.mem_cons.mp listed with rfl | listed
      · simp
      · exact ih listed

theorem Settled.climb (settled : Settled rooted done) (free : '/' ∉ component) :
    Settled rooted (climb rooted done component) := by
  by_cases stays : component = [] ∨ component = ['.']
  · rwa [Location.climb.eq_def, if_pos stays]
  by_cases up : component = ['.', '.']
  · subst up
    cases settled with
    | nil =>
        cases rooted with
        | true => simpa [Location.climb.eq_def] using .nil
        | false => simpa [Location.climb.eq_def] using Settled.up rfl (by simp) .nil
    | name isName free' settled => simpa [Location.climb.eq_def, isName.2.2] using settled
    | up relative above settled =>
        simpa [Location.climb.eq_def] using Settled.up relative (by simp) (.up relative above settled)
  · obtain ⟨some, here⟩ := not_or.mp stays
    rw [climb_of_isName ⟨some, here, up⟩]
    exact .name ⟨some, here, up⟩ free settled

theorem Settled.foldl {components : List (List Char)} (free : ∀ component ∈ components, '/' ∉ component)
    (settled : Settled rooted done) : Settled rooted (components.foldl (Location.climb rooted) done) := by
  induction components generalizing done with
  | nil => exact settled
  | cons component rest ih =>
      obtain ⟨first, later⟩ := List.forall_mem_cons.mp free
      exact ih later (settled.climb first)

theorem settled_follow (path : List Char) : Settled rooted (follow rooted [] path) :=
  Settled.nil.foldl fun _ => Text.notMem_of_mem_splitAtAll

/-- The components of a normal path lead to themselves. -/
theorem Settled.foldl_climb (settled : Settled rooted done) :
    done.reverse.foldl (Location.climb rooted) [] = done := by
  induction settled with
  | nil => rfl
  | name isName _ _ ih =>
      rw [List.reverse_cons, List.foldl_append, ih]
      exact climb_of_isName isName
  | @up done relative above _ ih =>
      rw [List.reverse_cons, List.foldl_append, ih]
      cases done with
      | nil => simp [Location.climb.eq_def, relative]
      | cons last rest =>
          obtain rfl := above last (by simp)
          simp [Location.climb.eq_def]

/-- The components that a path leads to, joined. -/
def joined (path : List Char) : List Char :=
  Text.joinWith '/' (follow (isAbsolute path) [] path).reverse

theorem normalize_eq (path : List Char) : normalize path =
    if leadingSlashes path ++ joined path = [] then ['.'] else leadingSlashes path ++ joined path := by
  rw [normalize, ← isAbsolute_eq]
  rfl

theorem parts_reverse_follow (path : List Char) :
    ∀ component ∈ (follow rooted [] path).reverse, component ≠ [] ∧ '/' ∉ component :=
  fun _ listed => (settled_follow path).parts (List.mem_reverse.mp listed)

theorem follow_joined (path : List Char) :
    follow (isAbsolute path) [] (joined path) = follow (isAbsolute path) [] path := by
  rw [joined, follow_joinWith fun component listed => (parts_reverse_follow path component listed).2]
  exact (settled_follow path).foldl_climb

/-- A normal path leads where the path does that it is made of. -/
theorem follow_normalize (path : List Char) :
    follow (isAbsolute path) [] (normalize path) = follow (isAbsolute path) [] path := by
  rw [normalize_eq]
  split
  next none =>
    have nowhere := follow_joined path
    rw [(List.append_eq_nil_iff.mp none).2, follow_nil] at nowhere
    rw [follow_of_notMem (by simp), ← nowhere]
    simp [climb]
  · rw [follow_leadingSlashes, follow_joined]

theorem isAbsolute_joinWith {components : List (List Char)}
    (parts : ∀ component ∈ components, component ≠ [] ∧ '/' ∉ component) :
    isAbsolute (Text.joinWith '/' components) = false := by
  cases components with
  | nil => rfl
  | cons component rest =>
      obtain ⟨some, free⟩ := parts component List.mem_cons_self
      cases rest with
      | nil => exact isAbsolute_of_notMem free
      | cons other rest => exact isAbsolute_append some free _

theorem leadingSlashes_normalize (path : List Char) : leadingSlashes (normalize path) = leadingSlashes path := by
  have again : leadingSlashes (leadingSlashes path) = leadingSlashes path := by
    rcases leadingSlashes_cases path with same | same | same <;> rw [same] <;> rfl
  rw [normalize_eq]
  split
  next none => rw [(List.append_eq_nil_iff.mp none).1]; rfl
  · rw [joined, leadingSlashes_append _ (isAbsolute_joinWith (parts_reverse_follow path)), again]

theorem joinWith_concat (components : List (List Char)) (last : List Char) :
    Text.joinWith '/' (components ++ [last]) = last ∨
      ∃ before, Text.joinWith '/' (components ++ [last]) = before ++ '/' :: last := by
  induction components with
  | nil => exact .inl rfl
  | cons component rest ih =>
      rw [List.cons_append, Text.joinWith.eq_3 _ _ _ (by simp)]
      rcases ih with same | ⟨before, same⟩
      · exact .inr ⟨component, by rw [same]⟩
      · exact .inr ⟨component ++ '/' :: before, by rw [same]; simp⟩

/-- The name of a document stays the last component of its normal location. -/
theorem fileName_normalize {name : List Char} (leads : follow (isAbsolute path) [] path = name :: done) :
    fileName (normalize path) = name := by
  obtain ⟨some, free⟩ := (settled_follow path).parts (leads ▸ List.mem_cons_self)
  have behind : ∃ before, leadingSlashes path ++ joined path = name ∨
      leadingSlashes path ++ joined path = before ++ '/' :: name := by
    rw [joined, leads, List.reverse_cons]
    rcases joinWith_concat done.reverse name with same | ⟨before, same⟩
    · rw [same]
      rcases leadingSlashes_cases path with same | same | same <;> rw [same]
      · exact ⟨[], .inl rfl⟩
      · exact ⟨[], .inr rfl⟩
      · exact ⟨['/'], .inr rfl⟩
    · exact ⟨leadingSlashes path ++ before, .inr (by rw [same, List.append_assoc])⟩
  obtain ⟨before, same | same⟩ := behind
  · rw [normalize_eq, same, if_neg some, fileName_of_notMem free]
  · rw [normalize_eq, same, if_neg (by simp), fileName_append before free]

theorem normalize_congr {other : List Char} (slashes : leadingSlashes path = leadingSlashes other)
    (leads : follow (isAbsolute path) [] path = follow (isAbsolute path) [] other) :
    normalize path = normalize other := by
  have rooted : isAbsolute path = isAbsolute other := by rw [isAbsolute_eq, isAbsolute_eq, slashes]
  rw [normalize_eq, normalize_eq, joined, joined, slashes, ← rooted, leads]

theorem isAbsolute_below_directory {first second : List Char} (relative : isAbsolute first = false)
    (relative' : isAbsolute second = false) : isAbsolute (below (directory first) second) = false := by
  rw [isAbsolute_eq, leadingSlashes_below _ relative', leadingSlashes_directory, ← isAbsolute_eq, relative]

/-- From the directory of a document that was named by a relative path, a path leads where it does from the directory
that this path gives. -/
theorem normalize_below_directory (base : List Char) {first second : List Char} (relative : isAbsolute first = false)
    (named : IsName (fileName first)) (relative' : isAbsolute second = false) :
    normalize (below (directory (normalize (below base first))) second) =
      normalize (below base (below (directory first) second)) := by
  have relative'' := isAbsolute_below_directory relative relative'
  have slashes : leadingSlashes (below base first) = leadingSlashes base := leadingSlashes_below base relative
  have slashes' : leadingSlashes (below (directory (normalize (below base first))) second) = leadingSlashes base := by
    rw [leadingSlashes_below _ relative', leadingSlashes_directory, leadingSlashes_normalize, slashes]
  refine normalize_congr (slashes'.trans (leadingSlashes_below base relative'').symm) ?_
  have rooted : isAbsolute (below (directory (normalize (below base first))) second) =
      isAbsolute (below base first) := by
    rw [isAbsolute_eq, isAbsolute_eq, slashes', slashes]
  rw [rooted, follow_below relative', follow_below relative'', follow_below relative']
  congr 1
  -- the document goes by the last component of its path, so that its directory is where the rest of the path leads
  have leads : follow (isAbsolute (below base first)) [] (below base first) = fileName first ::
      follow (isAbsolute (below base first)) (follow (isAbsolute (below base first)) [] base) (directory first) := by
    rw [follow_below relative, follow_fileName first, climb_of_isName named]
  have last : follow (isAbsolute (below base first)) [] (normalize (below base first)) =
      climb (isAbsolute (below base first)) (follow _ [] (directory (normalize (below base first))))
        (fileName (normalize (below base first))) := follow_fileName _
  rw [follow_normalize, leads, fileName_normalize leads, climb_of_isName named] at last
  exact (List.cons.inj last).2.symm

theorem directory_begins (path : List Char) : directory path <+: path := by
  have before : stem path <+: path := List.rdropWhile_prefix ..
  have before' : dropLastSlashes (stem path) <+: stem path := List.rdropWhile_prefix ..
  rw [directory_eq]
  split
  · exact before
  · exact before'.trans before

theorem normalize_ne_nil (path : List Char) : normalize path ≠ [] := by
  rw [normalize_eq]
  split
  · simp
  · assumption

end Paths

/-!
Locations. An address keeps its scheme, and neither a normal path nor two relative locations put together can be taken
for an address.
-/

/-- A location that is resolved against the directory of the document that names it. -/
def IsRelative (location : String) : Prop :=
  hasScheme location = false ∧ isAbsolute location.toList = false

instance (location : String) : Decidable (IsRelative location) :=
  inferInstanceAs (Decidable (_ ∧ _))

/-- What a document means by a location whose own location is relative: seen from where that one starts. -/
def between (first second : String) : String :=
  String.ofList (below (directory first.toList) second.toList)

/-- The names of the schemes. -/
def words : List (List Char) :=
  schemes.map fun scheme => (cutScheme scheme.toList).1

theorem words_plain : ∀ word ∈ words, word ≠ [] ∧ '/' ∉ word ∧ ':' ∉ word := by
  decide

/-- An address begins with the name of a scheme, a colon and two slashes. -/
theorem hasScheme_iff (location : String) :
    hasScheme location = true ↔ ∃ word ∈ words, ∃ rest, location.toList = word ++ ':' :: '/' :: '/' :: rest := by
  have spelled : schemes.map String.toList = words.map (· ++ [':', '/', '/']) := by decide
  have begins : hasScheme location = (schemes.map String.toList).any fun scheme =>
      scheme.isPrefixOf location.toList := by
    rw [hasScheme, List.any_map]
    rfl
  rw [begins, spelled, List.any_map, List.any_eq_true]
  refine exists_congr fun word => and_congr_right fun _ => ?_
  rw [Function.comp_apply, List.isPrefixOf_iff_prefix]
  exact exists_congr fun rest => by simp [eq_comm]

theorem hasScheme_eq_false_iff {location : String} : hasScheme location = false ↔
    ∀ word ∈ words, ∀ rest, location.toList ≠ word ++ ':' :: '/' :: '/' :: rest := by
  rw [← Bool.not_eq_true, hasScheme_iff]
  simp only [not_exists, not_and, ne_eq]

theorem cutScheme_append {word : List Char} (free : ':' ∉ word) (rest : List Char) :
    cutScheme (word ++ ':' :: '/' :: '/' :: rest) = (word, rest) := by
  induction word with
  | nil => rfl
  | cons c word ih =>
      simp only [List.mem_cons, not_or] at free
      rw [List.cons_append, cutScheme, ih free.2]
      rintro _ rfl
      exact absurd rfl free.1

/-- A normal path has no empty component, so that it is no address. -/
theorem hasScheme_normalize (path : List Char) : hasScheme (String.ofList (normalize path)) = false := by
  refine hasScheme_eq_false_iff.mpr fun word listed rest same => ?_
  rw [String.toList_ofList] at same
  obtain ⟨some, free, -⟩ := words_plain word listed
  have relative : isAbsolute (normalize path) = false := same ▸ isAbsolute_append some free _
  have slashes : leadingSlashes path = [] := by
    rw [isAbsolute_eq, leadingSlashes_normalize] at relative
    simpa using relative
  rw [normalize_eq, slashes, List.nil_append] at same
  split at same
  · have length := congrArg List.length same
    simp only [List.length_append, List.length_cons, List.length_nil] at length
    omega
  next other =>
    have components : (follow (isAbsolute path) [] path).reverse ≠ [] := by
      intro none
      exact other (by rw [joined, none]; rfl)
    have split := congrArg (Text.splitAtAll '/') same
    rw [joined, Text.splitAtAll_joinWith components fun component listed =>
      (parts_reverse_follow path component listed).2] at split
    have behind : word ++ ':' :: '/' :: '/' :: rest = (word ++ [':']) ++ '/' :: '/' :: rest := by simp
    rw [behind, Text.splitAtAll_append_cons, Text.splitAtAll, if_pos rfl] at split
    have empty : [] ∈ (follow (isAbsolute path) [] path).reverse := split ▸ by simp
    exact (parts_reverse_follow path [] empty).1 rfl

/-- Two paths put together are no address, if neither of them is one. -/
theorem hasScheme_between {first second : String} (relative : IsRelative first) (relative' : IsRelative second) :
    hasScheme (between first second) = false := by
  refine hasScheme_eq_false_iff.mpr fun word listed rest same => ?_
  obtain ⟨-, free, -⟩ := words_plain word listed
  have plain : '/' ∉ word ++ [':'] := by simp [free]
  have start : ∀ rest : List Char, word ++ ':' :: '/' :: rest = (word ++ [':']) ++ '/' :: rest := by simp
  have inFirst : ∀ rest, first.toList ≠ word ++ ':' :: '/' :: '/' :: rest :=
    hasScheme_eq_false_iff.mp relative.1 word listed
  have inSecond : second.toList ≠ word ++ ':' :: '/' :: '/' :: rest :=
    hasScheme_eq_false_iff.mp relative'.1 word listed rest
  have behind : second.toList ≠ '/' :: rest := by
    intro same
    have relative' := relative'.2
    rw [same] at relative'
    cases relative'
  rw [between, String.toList_ofList, below, if_neg (by simp [relative'.2]), start] at same
  by_cases slash : '/' ∈ directory first.toList
  · -- the slashes of the address begin in the directory
    obtain ⟨before, after, parts, none⟩ := List.eq_append_cons_of_mem slash
    cases after with
    | nil =>
        rw [parts, if_pos (.inr (by simp)), List.append_assoc] at same
        exact behind (Text.append_cons_inj none plain same).2
    | cons c after =>
        have same' : ∃ later, before ++ '/' :: c :: later = (word ++ [':']) ++ '/' :: '/' :: rest := by
          rw [parts] at same
          split at same <;> exact ⟨_, by simpa using same⟩
        obtain ⟨later, same'⟩ := same'
        obtain ⟨rfl, tail⟩ := Text.append_cons_inj none plain same'
        obtain ⟨rfl, -⟩ := List.cons.inj tail
        obtain ⟨end', whole⟩ := directory_begins first.toList
        exact inFirst (after ++ end') (by rw [← whole, parts]; simp)
  · -- the slashes begin behind the directory, where at most one is put in
    split at same
    next whole =>
      rcases whole with none | ends
      · rw [none, List.nil_append, ← start] at same
        exact inSecond same
      · exact slash (List.mem_of_getLast? ends)
    · exact behind (Text.append_cons_inj slash plain same).2

section Chains

variable {base first second location : String}

theorem isRelative_between (relative : IsRelative first) (relative' : IsRelative second) :
    IsRelative (between first second) :=
  ⟨hasScheme_between relative relative', by
    rw [between, String.toList_ofList, isAbsolute_below_directory relative.2 relative'.2]⟩

theorem resolve_of_local (some : base ≠ "") (plain : hasScheme base = false) (relative : IsRelative location) :
    resolve base location = String.ofList (normalize (below (directory base.toList) location.toList)) := by
  simp [resolve, some, plain, relative.1, relative.2]

theorem resolve_of_scheme {word path : List Char} (listed : word ∈ words)
    (address : base.toList = word ++ ':' :: '/' :: '/' :: path) (relative : IsRelative location) :
    resolve base location =
      String.ofList (word ++ ':' :: '/' :: '/' :: normalize (below (directory path) location.toList)) := by
  have some : base ≠ "" := by
    rintro rfl
    simp at address
  have begins : hasScheme base = true := (hasScheme_iff base).mpr ⟨word, listed, path, address⟩
  rw [resolve, if_neg (by simp [some, relative.1, relative.2]), if_pos begins, address,
    cutScheme_append (words_plain word listed).2.2]
  simp

theorem resolve_ne_empty (some : base ≠ "") (relative : IsRelative location) : resolve base location ≠ "" := by
  have filled : ∀ text : List Char, text ≠ [] → String.ofList text ≠ "" := fun text some => by simpa using some
  cases begins : hasScheme base with
  | false =>
      rw [resolve_of_local some begins relative]
      exact filled _ (normalize_ne_nil _)
  | true =>
      obtain ⟨word, listed, path, address⟩ := (hasScheme_iff base).mp begins
      rw [resolve_of_scheme listed address relative]
      exact filled _ (by simp)

/-- A document that was named by a relative location means by another one what the first document does by both. -/
theorem resolve_resolve (some : base ≠ "") (relative : IsRelative first) (named : IsName (fileName first.toList))
    (relative' : IsRelative second) : resolve (resolve base first) second = resolve base (between first second) := by
  have across := isRelative_between relative relative'
  have same := fun path => normalize_below_directory (directory path) relative.2 named relative'.2
  cases begins : hasScheme base with
  | false =>
      have local' : hasScheme (resolve base first) = false := by
        rw [resolve_of_local some begins relative, hasScheme_normalize]
      rw [resolve_of_local (resolve_ne_empty some relative) local' relative', resolve_of_local some begins across,
        resolve_of_local some begins relative, String.toList_ofList, same, between, String.toList_ofList]
  | true =>
      obtain ⟨word, listed, path, address⟩ := (hasScheme_iff base).mp begins
      have address' : (resolve base first).toList =
          word ++ ':' :: '/' :: '/' :: normalize (below (directory path) first.toList) := by
        rw [resolve_of_scheme listed address relative, String.toList_ofList]
      rw [resolve_of_scheme listed address' relative', resolve_of_scheme listed address across, same, between,
        String.toList_ofList]

/-- A location that a document can be reached through: it is relative, and ends with the name of the document. -/
structure Leads (location : String) : Prop where
  relative : IsRelative location
  named : IsName (fileName location.toList)

instance (location : String) : Decidable (Leads location) :=
  decidable_of_iff (IsRelative location ∧ IsName (fileName location.toList))
    ⟨fun ⟨relative, named⟩ => ⟨relative, named⟩, fun ⟨relative, named⟩ => ⟨relative, named⟩⟩

theorem isRelative_foldr_between {locations : List String} (each : ∀ location ∈ locations, Leads location)
    (relative : IsRelative location) : IsRelative (locations.foldr between location) := by
  induction locations with
  | nil => exact relative
  | cons first rest ih =>
      obtain ⟨leads, later⟩ := List.forall_mem_cons.mp each
      exact isRelative_between leads.relative (ih later)

/-- What the last document of a chain means by a location, seen from the first one. -/
theorem resolve_foldl (some : base ≠ "") {locations : List String} (each : ∀ location ∈ locations, Leads location)
    (relative : IsRelative location) :
    resolve (locations.foldl resolve base) location = resolve base (locations.foldr between location) := by
  induction locations generalizing base with
  | nil => rfl
  | cons first rest ih =>
      obtain ⟨leads, later⟩ := List.forall_mem_cons.mp each
      rw [List.foldl_cons, ih (resolve_ne_empty some leads.relative) later, List.foldr_cons]
      exact resolve_resolve some leads.relative leads.named (isRelative_foldr_between later relative)

end Chains

end SchemaAlgebra.Location

import SchemaAlgebra.Documents.Files
import SchemaAlgebra.Proofs.Documents.Keeping
import SchemaAlgebra.Proofs.Running

/-!
How loading from a file fails. Most failures count as a missing document or as a text without a value; the others
come from a path that names no file although something is there, and from a YAML scalar that is not what its tag
says.
-/

namespace SchemaAlgebra

namespace Files

variable {files : Files} {location : String} {reason : Document.Error}

/-- The ways in which a path can name no file although something is there. -/
def obstacles : List Document.Error := [.notADirectory, .isADirectory, .belowAFile]

theorem follow_error {components done : List String} (failed : files.follow location done components = .error reason) :
    reason = .missing location ∨ reason ∈ obstacles := by
  induction components generalizing done with
  | nil => cases failed
  | cons component rest ih =>
      rw [follow.eq_def] at failed
      simp only at failed
      split at failed
      · cases failed
        simp [obstacles]
      split at failed
      · cases failed
        exact .inl rfl
      split at failed
      · exact ih failed
      split at failed
      · split at failed
        · cases failed
          exact .inl rfl
        · exact ih failed
      · exact ih failed

theorem readDisk_error (failed : files.readDisk location = .error reason) :
    reason = .missing location ∨ reason ∈ obstacles := by
  unfold readDisk at failed
  simp only at failed
  split at failed
  · cases failed
    exact .inl rfl
  · rcases bind_eq_error.mp failed with failed | ⟨found, -, failed⟩
    · exact follow_error failed
    · split at failed
      · cases failed
      · split at failed <;> cases failed
        · simp [obstacles]
        · exact .inl rfl

theorem readMemory_error (failed : files.readMemory location = .error reason) :
    reason = .missing location ∨ reason ∈ obstacles := by
  unfold readMemory at failed
  simp only at failed
  split at failed
  · cases failed
    exact .inl rfl
  split at failed
  · cases failed
    simp [obstacles]
  split at failed
  · cases failed
    simp [obstacles]
  split at failed <;> cases failed
  exact .inl rfl

/-- Reading a file fails because it is missing, or because something else is in its way. -/
theorem read_error (failed : files.read location = .error reason) :
    reason = .missing location ∨ reason ∈ obstacles := by
  unfold read at failed
  simp only at failed
  split at failed
  · rcases bind_eq_error.mp failed with failed | ⟨text, -, failed⟩
    · exact readMemory_error failed
    · cases failed
  split at failed
  · cases failed
    exact .inl rfl
  · rcases bind_eq_error.mp failed with failed | ⟨text, -, failed⟩
    · exact readDisk_error failed
    · cases failed

/-- Something is in the way of a location, or its text is YAML with a scalar that is not what its tag says and for
which there is no error of its own. -/
def Strays (files : Files) (location : String) : Prop :=
  (∃ reason ∈ obstacles, files.read location = .error reason) ∨
    ∃ text cause, files.read location = .ok text ∧ Document.isYaml location = true ∧
      Yaml.read text = .error cause ∧ cause.kind ≠ .value

end Files

namespace Document

variable {location text : String} {reason : Error}

theorem readValue_yaml (yaml : isYaml location = true) {cause : Yaml.Error} (broken : Yaml.read text = .error cause) :
    ∃ reason, readValue location text = .error reason ∧ reason.kind = .inText cause.kind := by
  simp only [readValue, yaml, if_true, broken]
  cases cause with
  | malformed => exact ⟨_, rfl, rfl⟩
  | _ => exact ⟨_, rfl, rfl⟩

/-- A text that holds no document counts as wrong, unless it is YAML with such a scalar. -/
theorem kind_of_parse (failed : parse location text = .error reason) :
    ∃ kind, reason.kind = .inText kind ∧
      (kind = .value ↔ ¬ (isYaml location = true ∧ ∃ cause, Yaml.read text = .error cause ∧ cause.kind ≠ .value)) := by
  rcases bind_eq_error.mp failed with failed | ⟨value, read, failed⟩
  · by_cases yaml : isYaml location = true
    · cases found : Yaml.read text with
      | ok value => simp [readValue, yaml, found] at failed
      | error cause =>
          obtain ⟨reason', failed', kind⟩ := readValue_yaml yaml found
          obtain rfl := Except.error.inj (failed.symm.trans failed')
          exact ⟨cause.kind, kind, by simp [yaml]⟩
    · refine ⟨.value, ?_, iff_of_true rfl fun strays => yaml strays.1⟩
      simp only [readValue, if_neg yaml] at failed
      split at failed <;> cases failed <;> rfl
  · split at failed
    · cases failed
    · cases failed
      refine ⟨.value, rfl, iff_of_true rfl ?_⟩
      rintro ⟨yaml, cause, broken, -⟩
      obtain ⟨reason, unread, -⟩ := readValue_yaml yaml broken
      cases read.symm.trans unread

end Document

/-- A document that cannot be had counts as missing or as a wrong text exactly if its location does not stray. -/
theorem Files.kind_of_document {files : Files} {location : String} {reason : Document.Error}
    (failed : files.document location = .error reason) :
    reason.kind = .missing ∨ reason.kind = .inText .value ↔ ¬ files.Strays location := by
  rcases bind_eq_error.mp failed with unread | ⟨text, read, failed⟩
  · rcases read_error unread with rfl | obstacle
    · refine iff_of_true (.inl rfl) ?_
      rintro (⟨reason, listed, unread'⟩ | ⟨text, cause, read, -⟩)
      · obtain rfl := Except.error.inj (unread.symm.trans unread')
        simp [obstacles] at listed
      · cases unread.symm.trans read
    · refine iff_of_false ?_ (not_not_intro (.inl ⟨reason, obstacle, unread⟩))
      simp only [obstacles, List.mem_cons, List.not_mem_nil, or_false] at obstacle
      rcases obstacle with rfl | rfl | rfl <;> simp [Document.Error.kind]
  · obtain ⟨kind, named, counts⟩ := Document.kind_of_parse failed
    rw [named, or_iff_right (by simp), Document.Error.Kind.inText.injEq, counts]
    refine not_congr ⟨?_, ?_⟩
    · rintro ⟨yaml, cause, broken, other⟩
      exact .inr ⟨text, cause, read, yaml, broken, other⟩
    · rintro (⟨reason, -, unread⟩ | ⟨text', cause, read', yaml, broken, other⟩)
      · cases read.symm.trans unread
      · obtain rfl := Except.ok.inj (read.symm.trans read')
        exact ⟨yaml, cause, broken, other⟩

end SchemaAlgebra

/-!
Coherence of caches over runs. Files are written and removed, caches are opened and cleared, documents are loaded
by many loaders and altered by whoever loaded them. What a load answers is decided by the files and by what its own
loader read at the same location since its cache was new, and by nothing else in the run.
-/

namespace SchemaAlgebra.Loading

variable {loading other : Loading} {who : Option String} {location : String} {event : Event} {events : List Event}
  {document : Json}

/-- The state after some events. -/
def after (loading : Loading) (events : List Event) : Loading :=
  events.foldl (fun loading event => (loading.step event).2) loading

@[simp] theorem after_nil (loading : Loading) : loading.after [] = loading := rfl

@[simp] theorem after_cons (loading : Loading) (event : Event) (events : List Event) :
    loading.after (event :: events) = (loading.step event).2.after events := rfl

theorem after_append (loading : Loading) (events more : List Event) :
    loading.after (events ++ more) = (loading.after events).after more :=
  List.foldl_append

/-- The event gives a loader a new cache, or empties the one that it has. -/
def Event.Renews (who : Option String) : Event → Prop
  | .clear => who = none
  | .open name _ => who = some name
  | _ => False

/-- The event is about the files, about the cache of a loader, or a load of a location through it. -/
def Event.concerns (who : Option String) (location : String) : Event → Bool
  | .write _ _ | .remove _ => true
  | .clear => who = none
  | .open name _ => who = some name
  | .load name place => name = who && place = location
  | .make _ | .alter _ _ => false

/-! One event. -/

theorem answer_step (sound : loading.Sound) (name : Option String) (location : String) :
    (loading.step (.load name location)).1 = some (loading.answer name location) :=
  congrArg some (sound.loaded name location).answers

/-- Whoever loads sees the answer from then on, if the cache is lasting. -/
theorem Sound.sees_load (sound : loading.Sound) (who : Option String) (location : String) :
    (loading.step (.load who location)).2.sees who location =
      if (loading.cache who).lasting = true then (loading.answer who location).toOption
      else loading.sees who location :=
  ((sound.loaded who location).sees who location).trans (by simp only [and_true])

theorem Sound.setCache_empty (sound : loading.Sound) (name : Option String) (lasting : Bool) :
    (loading.setCache name (.empty lasting)).Sound ∧ loading.Spares (loading.setCache name (.empty lasting)) := by
  have spares := spares_setCache loading name (.empty lasting)
  refine ⟨sound.of_spares spares (by simpa using sound.closed) (by simpa using sound.held)
    fun other place slot found => .inl ?_, spares⟩
  rw [cache_setCache] at found
  split at found
  · simp [Cache.empty] at found
  · exact found

theorem Sound.made {cell : Cell} (sound : loading.Sound) (able : loading.canMake cell) :
    (loading.step (.make cell)).2.Sound ∧ loading.Spares (loading.step (.make cell)).2 := by
  have within : cell.Within loading.store.size := fun entry listed address named =>
    sound.held address (able address (Cell.mem_addresses.mpr ⟨entry, listed, named⟩))
  have grows := sound.closed.grows_push within
  rw [step, if_pos able]
  have spares : loading.Spares { loading with
      store := loading.store.push cell, callers := loading.callers ++ [loading.store.size] } :=
    sound.spares_of_grows grows fun address held => by
      rcases List.mem_append.mp held with held | new
      · exact .inl held
      · exact .inr (Nat.le_of_eq (List.mem_singleton.mp new).symm)
  refine ⟨sound.of_spares spares grows.closed (fun address held => ?_) fun _ _ _ found => .inl found, spares⟩
  rw [Store.size_push]
  rcases List.mem_append.mp held with held | new
  · exact Nat.lt_succ_of_lt (sound.held address held)
  · exact Nat.lt_succ_of_le (Nat.le_of_eq (List.mem_singleton.mp new))

theorem Sound.altered {address : Nat} {cell : Cell} (sound : loading.Sound)
    (able : address ∈ loading.callers ∧ loading.canMake cell) :
    (loading.step (.alter address cell)).2.Sound ∧ loading.Spares (loading.step (.alter address cell)).2 := by
  have within : cell.Within loading.store.size := fun entry listed address named =>
    sound.held address (able.2 address (Cell.mem_addresses.mpr ⟨entry, listed, named⟩))
  rw [step, if_pos able]
  have spares := spares_replace able.1 cell
  exact ⟨sound.of_spares spares (sound.closed.replace within) (by simpa using sound.held) fun _ _ _ found => .inl found,
    spares⟩

/-- Every event keeps a state sound, and spares what is kept. -/
theorem Sound.step (sound : loading.Sound) (event : Event) :
    (loading.step event).2.Sound ∧ loading.Spares (loading.step event).2 := by
  have still : loading.Sound ∧ loading.Spares loading := ⟨sound, fun _ _ keeps => keeps⟩
  cases event with
  | write place text =>
      have spares : loading.Spares (loading.step (.write place text)).2 := spares_of_eq rfl rfl
      exact ⟨sound.of_spares spares sound.closed sound.held fun _ _ _ found => .inl found, spares⟩
  | remove place =>
      have spares : loading.Spares (loading.step (.remove place)).2 := spares_of_eq rfl rfl
      exact ⟨sound.of_spares spares sound.closed sound.held fun _ _ _ found => .inl found, spares⟩
  | clear => exact sound.setCache_empty none loading.shared.lasting
  | «open» name lasting => exact sound.setCache_empty (some name) lasting
  | load name location =>
      have loaded := sound.loaded name location
      exact ⟨loaded.sound, loaded.spares⟩
  | make cell =>
      by_cases able : loading.canMake cell
      · exact sound.made able
      · rw [Loading.step, if_neg able]
        exact still
  | alter address cell =>
      by_cases able : address ∈ loading.callers ∧ loading.canMake cell
      · exact sound.altered able
      · rw [Loading.step, if_neg able]
        exact still

theorem Sound.after (sound : loading.Sound) (events : List Event) : (loading.after events).Sound := by
  induction events generalizing loading with
  | nil => exact sound
  | cons event rest ih => exact ih (sound.step event).1

theorem sound_start : start.Sound where
  closed := Store.closed_empty
  held _ listed := absurd listed List.not_mem_nil
  keeps name location slot found := by cases name <;> simp [start, Loading.cache, Cache.empty] at found

/-- What the files are after an event. -/
def Event.rewrite (files : Files) : Event → Files
  | .write location text => files.write location text
  | .remove location => files.remove location
  | _ => files

theorem Sound.files_step (sound : loading.Sound) (event : Event) :
    (loading.step event).2.files = event.rewrite loading.files := by
  cases event with
  | write _ _ | remove _ | clear => rfl
  | «open» name lasting => exact files_setCache ..
  | load name location => exact (sound.loaded name location).files
  | make cell | alter address cell =>
      simp only [Loading.step, Event.rewrite]
      split <;> rfl

/-- Only loading, and what renews it, changes a cache. -/
theorem cache_step (loading : Loading) (unrenewed : ¬ event.Renews who) (notLoading : ∀ name place, event ≠ .load name place) :
    (loading.step event).2.cache who = loading.cache who := by
  cases event with
  | write _ _ | remove _ => rfl
  | clear =>
      cases who with
      | none => exact absurd rfl unrenewed
      | some name => rfl
  | «open» name lasting => exact (cache_setCache ..).trans (if_neg fun same => unrenewed same.symm)
  | load name place => exact absurd rfl (notLoading name place)
  | make cell | alter address cell =>
      rw [step]
      split <;> rfl

theorem cache_renewed (loading : Loading) (renews : event.Renews who) :
    ∃ lasting, (loading.step event).2.cache who = .empty lasting := by
  cases event with
  | clear => exact ⟨loading.shared.lasting, by rw [show who = none from renews]; rfl⟩
  | «open» name lasting => exact ⟨lasting, (cache_setCache ..).trans (if_pos (Eq.symm renews))⟩
  | write _ _ | remove _ | load _ _ | make _ | alter _ _ => exact renews.elim

theorem sees_renewed (renews : event.Renews who) : (loading.step event).2.sees who location = none := by
  obtain ⟨lasting, empty⟩ := cache_renewed loading renews
  simp [sees, Shelf.get?, cacheOf, empty, Cache.find?, Cache.empty]

theorem Sound.lasting_step (sound : loading.Sound) (unrenewed : ¬ event.Renews who) :
    ((loading.step event).2.cache who).lasting = (loading.cache who).lasting := by
  by_cases loads : ∃ name place, event = .load name place
  · obtain ⟨name, place, rfl⟩ := loads
    exact (sound.loaded name place).lasting who
  · rw [cache_step loading unrenewed fun name place same => loads ⟨name, place, same⟩]

/-- Apart from its own loads of a location, no event but a renewal changes what a loader sees there. -/
theorem Sound.sees_step (sound : loading.Sound) (unrenewed : ¬ event.Renews who)
    (elsewhere : event ≠ .load who location) :
    (loading.step event).2.sees who location = loading.sees who location := by
  by_cases loads : ∃ name place, event = .load name place
  · obtain ⟨name, place, rfl⟩ := loads
    refine ((sound.loaded name place).sees who location).trans (if_neg ?_)
    rintro ⟨-, rfl, rfl⟩
    exact elsewhere rfl
  · have same := cache_step loading unrenewed fun name place same => loads ⟨name, place, same⟩
    exact sound.sees_of_spares (sound.step event).1 (sound.step event).2 (by rw [same])

/-! Two runs that a loader cannot tell apart. -/

/-- Two states are the same for a loader at a location. -/
structure Alike (who : Option String) (location : String) (loading other : Loading) : Prop where
  sound : loading.Sound
  sound' : other.Sound
  files : loading.files = other.files
  lasting : (loading.cache who).lasting = (other.cache who).lasting
  sees : loading.sees who location = other.sees who location

theorem Alike.answer (alike : Alike who location loading other) :
    loading.answer who location = other.answer who location := by
  simp only [Loading.answer, alike.sees, alike.files]

theorem Alike.symm (alike : Alike who location loading other) : Alike who location other loading :=
  ⟨alike.sound', alike.sound, alike.files.symm, alike.lasting.symm, alike.sees.symm⟩

theorem Alike.trans {last : Loading} (first : Alike who location loading other)
    (second : Alike who location other last) : Alike who location loading last :=
  ⟨first.sound, second.sound', first.files.trans second.files, first.lasting.trans second.lasting,
    first.sees.trans second.sees⟩

theorem Alike.step (alike : Alike who location loading other) (event : Event) :
    Alike who location (loading.step event).2 (other.step event).2 := by
  have files : (loading.step event).2.files = (other.step event).2.files := by
    rw [alike.sound.files_step, alike.sound'.files_step, alike.files]
  by_cases renews : event.Renews who
  · refine ⟨(alike.sound.step event).1, (alike.sound'.step event).1, files, ?_,
      (sees_renewed renews).trans (sees_renewed renews).symm⟩
    cases event with
    | clear =>
        obtain rfl : who = none := renews
        exact alike.lasting
    | «open» name lasting =>
        obtain rfl : who = some name := renews
        simp [Loading.step]
    | write _ _ | remove _ | load _ _ | make _ | alter _ _ => exact renews.elim
  · refine ⟨(alike.sound.step event).1, (alike.sound'.step event).1, files, ?_, ?_⟩
    · rw [alike.sound.lasting_step renews, alike.sound'.lasting_step renews, alike.lasting]
    · by_cases own : event = .load who location
      · subst own
        rw [alike.sound.sees_load, alike.sound'.sees_load, alike.answer, alike.sees, alike.lasting]
      · rw [alike.sound.sees_step renews own, alike.sound'.sees_step renews own, alike.sees]

/-- An event that does not concern a loader is not noticed by it. -/
theorem Alike.skip (alike : Alike who location loading other) (apart : event.concerns who location = false) :
    Alike who location (loading.step event).2 other := by
  have unrenewed : ¬ event.Renews who := by
    intro renews
    cases event with
    | clear | «open» _ _ => simp_all [Event.concerns, Event.Renews]
    | write _ _ | remove _ | load _ _ | make _ | alter _ _ => exact renews.elim
  have elsewhere : event ≠ .load who location := by
    rintro rfl
    simp [Event.concerns] at apart
  refine ⟨(alike.sound.step event).1, alike.sound', ?_, (alike.sound.lasting_step unrenewed).trans alike.lasting,
    (alike.sound.sees_step unrenewed elsewhere).trans alike.sees⟩
  rw [alike.sound.files_step, ← alike.files]
  cases event with
  | write _ _ | remove _ => simp [Event.concerns] at apart
  | clear | «open» _ _ | load _ _ | make _ | alter _ _ => rfl

/-- A run is for a loader what is left of it when the events that do not concern the loader are left out. -/
theorem Alike.filter (alike : Alike who location loading other) (events : List Event) :
    Alike who location (loading.after events) (other.after (events.filter (·.concerns who location))) := by
  induction events generalizing loading other with
  | nil => exact alike
  | cons event rest ih =>
      cases concerned : event.concerns who location with
      | true =>
          rw [List.filter_cons_of_pos concerned]
          exact ih (alike.step event)
      | false =>
          rw [List.filter_cons_of_neg (by simp [concerned])]
          exact ih (alike.skip concerned)

/-! What a loader has read since its cache was new. -/

/-- Loading at a location would read the file, and would succeed. -/
def Reads (loading : Loading) (who : Option String) (location : String) (document : Json) : Prop :=
  (loading.cache who).find? location = none ∧ loading.files.document location = .ok document

/-- In a run a loader has loaded a location and read a document from the file, and was not renewed since. -/
def HasRead (who : Option String) (location : String) (events : List Event) (document : Json) : Prop :=
  ∃ earlier later, events = earlier ++ .load who location :: later ∧
    (start.after earlier).Reads who location document ∧ ∀ event ∈ later, ¬ event.Renews who

theorem HasRead.append (read : HasRead who location events document) (unrenewed : ¬ event.Renews who) :
    HasRead who location (events ++ [event]) document := by
  obtain ⟨earlier, later, rfl, reads, kept⟩ := read
  refine ⟨earlier, later ++ [event], by simp, reads, fun other listed => ?_⟩
  rcases List.mem_append.mp listed with listed | last
  · exact kept other listed
  · exact List.mem_singleton.mp last ▸ unrenewed

theorem Sound.lasting_after (sound : loading.Sound) (unrenewed : ∀ event ∈ events, ¬ event.Renews who) :
    ((loading.after events).cache who).lasting = (loading.cache who).lasting := by
  induction events generalizing loading with
  | nil => rfl
  | cons event rest ih =>
      obtain ⟨here, others⟩ := List.forall_mem_cons.mp unrenewed
      exact (ih (sound.step event).1 others).trans (sound.lasting_step here)

/-- What a loader sees it goes on seeing until it is renewed. -/
theorem Sound.sees_after (sound : loading.Sound) (unrenewed : ∀ event ∈ events, ¬ event.Renews who)
    (seen : loading.sees who location = some document) :
    (loading.after events).sees who location = some document := by
  induction events generalizing loading with
  | nil => exact seen
  | cons event rest ih =>
      obtain ⟨here, others⟩ := List.forall_mem_cons.mp unrenewed
      refine ih (sound.step event).1 others ?_
      by_cases own : event = .load who location
      · subst own
        rw [sound.sees_load, if_pos (lasting_of_sees seen), answer_of_sees seen]
        rfl
      · exact (sound.sees_step here own).trans seen

/-- A loader whose cache is lasting sees what it has read. -/
theorem HasRead.sees (read : HasRead who location events document)
    (lasting : ((start.after events).cache who).lasting = true) :
    (start.after events).sees who location = some document := by
  obtain ⟨earlier, later, rfl, ⟨missed, found⟩, unrenewed⟩ := read
  have sound := sound_start.after earlier
  have sound' := (sound.step (.load who location)).1
  rw [after_append, after_cons] at lasting ⊢
  have lasts : ((start.after earlier).cache who).lasting = true :=
    (sound.lasting_step (by simp [Event.Renews])).symm.trans ((sound'.lasting_after unrenewed).symm.trans lasting)
  refine sound'.sees_after unrenewed ?_
  rw [sound.sees_load, if_pos lasts, answer_of_blind (sound.sees_eq_none_iff.mpr missed), found]
  rfl

/-- A loader sees nothing but what it has read. -/
theorem hasRead_of_sees (seen : (start.after events).sees who location = some document) :
    HasRead who location events document := by
  -- on the events from the last one on: it was the reading load, or what is seen was seen before it
  induction events using List.reverseRecOn with
  | nil => cases who <;> cases seen
  | append_singleton earlier event ih =>
      have sound := sound_start.after earlier
      rw [after_append, after_cons, after_nil] at seen
      have unrenewed : ¬ event.Renews who := fun renews => by cases (sees_renewed renews).symm.trans seen
      by_cases own : event = .load who location
      · subst own
        rw [sound.sees_load] at seen
        split at seen
        · cases before : (start.after earlier).sees who location with
          | some other =>
              rw [answer_of_sees before] at seen
              obtain rfl := Option.some.inj seen
              exact (ih before).append unrenewed
          | none =>
              rw [answer_of_blind before] at seen
              cases found : (start.after earlier).files.document location with
              | error reason => rw [found] at seen; cases seen
              | ok other =>
                  rw [found] at seen
                  obtain rfl := Option.some.inj seen
                  exact ⟨earlier, [], rfl, ⟨sound.sees_eq_none_iff.mp before, found⟩, by simp⟩
        · exact (ih seen).append unrenewed
      · exact (ih ((sound.sees_step unrenewed own).symm.trans seen)).append unrenewed

/-- Whether the cache of a loader is lasting: the shared one is, another as it was opened last. -/
def Lasts (who : Option String) (lasting : Bool) (events : List Event) : Prop :=
  match who with
  | none => lasting = true
  | some name => ∃ earlier later, events = earlier ++ .open name lasting :: later ∧
      ∀ event ∈ later, ¬ event.Renews who

/-- The shared cache is lasting for good. -/
theorem Sound.lasting_shared (sound : loading.Sound) (events : List Event) :
    ((loading.after events).cache none).lasting = (loading.cache none).lasting := by
  induction events generalizing loading with
  | nil => rfl
  | cons event rest ih =>
      refine (ih (sound.step event).1).trans ?_
      cases event with
      | clear => rfl
      | write _ _ | remove _ | «open» _ _ | load _ _ | make _ | alter _ _ =>
          exact sound.lasting_step (by simp [Event.Renews])

theorem Lasts.lasting {lasting : Bool} (lasts : Lasts who lasting events) :
    ((start.after events).cache who).lasting = lasting := by
  cases who with
  | none => exact (sound_start.lasting_shared events).trans (Eq.symm lasts)
  | some name =>
      obtain ⟨earlier, later, rfl, unrenewed⟩ := lasts
      rw [after_append, after_cons]
      refine (((sound_start.after earlier).step _).1.lasting_after unrenewed).trans ?_
      simp [step, Cache.empty]

/-- A load that fails adds nothing to any cache. -/
theorem Sound.entries_of_failed (sound : loading.Sound) {reason : Document.Error}
    (failed : loading.answer who location = .error reason) (name : Option String) {place : String} {slot : Slot}
    (found : ((loading.step (.load who location)).2.cache name).entries.get? place = some slot) :
    (loading.cache name).entries.get? place = some slot := by
  obtain ⟨blind, unread⟩ := failed_of_answer failed
  rw [Loading.step, load_failed (sound.sees_eq_none_iff.mp blind) unread] at found
  exact entries_expired found

/-- A load that fails changes nothing that a loader sees. -/
theorem Sound.sees_of_failed (sound : loading.Sound) {reason : Document.Error}
    (failed : loading.answer who location = .error reason) (name : Option String) (place : String) :
    (loading.step (.load who location)).2.sees name place = loading.sees name place := by
  refine ((sound.loaded who location).sees name place).trans ?_
  split
  · next own =>
      obtain ⟨-, rfl, rfl⟩ := own
      rw [failed, (failed_of_answer failed).1]
      rfl
  · rfl

/-- A loader whose cache is lasting answers what it read at a location since the cache was new, whatever has become of
the file; if it has read nothing, or its cache keeps nothing, it answers what the file holds. A load that fails adds
nothing to any cache, and no cache changes what is found in it; it fails as missing or as a wrong text exactly if the
location does not stray. Any run with the same writes and removals, and the same renewals and loads of this loader at
this location, gives the same answer: loads elsewhere, other loaders and what callers do with documents play no part. -/
theorem load_coherent {lasting : Bool} (location : String) (lasts : Lasts who lasting events) :
    let loading := start.after events
    let loaded := loading.step (.load who location)
    (∀ document, lasting = true → HasRead who location events document → loaded.1 = some (.ok document)) ∧
    ((lasting = true → ∀ document, ¬ HasRead who location events document) →
      loaded.1 = some (loading.files.document location)) ∧
    (∀ reason, loaded.1 = some (.error reason) →
      (∀ name place slot, (loaded.2.cache name).entries.get? place = some slot →
        (loading.cache name).entries.get? place = some slot) ∧
      (∀ name place, loaded.2.sees name place = loading.sees name place) ∧
      (reason.kind = .missing ∨ reason.kind = .inText .value ↔ ¬ loading.files.Strays location)) ∧
    ∀ others : List Event,
      others.filter (·.concerns who location) = events.filter (·.concerns who location) →
      ((start.after others).step (.load who location)).1 = loaded.1 := by
  intro loading loaded
  have sound : loading.Sound := sound_start.after events
  have answers : loaded.1 = some (loading.answer who location) := answer_step sound who location
  refine ⟨fun document kept read => ?_, fun unread => ?_, fun reason failed => ?_, fun others same => ?_⟩
  · rw [answers, answer_of_sees (read.sees (lasts.lasting.trans kept))]
  · have blind : loading.sees who location = none := by
      by_contra found
      obtain ⟨document, seen⟩ := Option.ne_none_iff_exists'.mp found
      exact unread (lasts.lasting.symm.trans (lasting_of_sees seen)) document (hasRead_of_sees seen)
    rw [answers, answer_of_blind blind]
  · have failed : loading.answer who location = .error reason := Option.some.inj (answers.symm.trans failed)
    exact ⟨fun name place slot found => sound.entries_of_failed failed name found, sound.sees_of_failed failed,
      Files.kind_of_document (failed_of_answer failed).2⟩
  · have still : Alike who location start start := ⟨sound_start, sound_start, rfl, rfl, rfl⟩
    have alike := (still.filter others).trans (same ▸ (still.filter events).symm)
    rw [answer_step alike.sound, alike.answer, answers]

/-- A document with an object in it is written, and a loader of its own reads it. Its copy is altered, the document is
loaded by everybody's loader, the file is spoilt and the shared cache is cleared. -/
def meddling : List Event :=
  [.write "a.json" "\x7b\"a\": \x7b\x7d\x7d", .open "p" true, .load (some "p") "a.json",
    .alter 3 [("a", .bool true)], .load none "a.json", .write "a.json" "\x7b", .clear]

theorem eq_of_nested {result : Except Document.Error Json}
    (nested : (match result with | .ok (.object [(.text "a", .object [])]) => true | _ => false) = true) :
    result = .ok (.object [("a", .object [])]) := by
  split at nested
  · rfl
  · cases nested

/-- The loader answers what it read first. -/
theorem meddled_document_answered :
    Lasts (some "p") true meddling ∧ HasRead (some "p") "a.json" meddling (.object [("a", .object [])]) ∧
      ((start.after meddling).step (.load (some "p") "a.json")).1 = some (.ok (.object [("a", .object [])])) := by
  have lasts : Lasts (some "p") true meddling := ⟨meddling.take 1, meddling.drop 2, rfl, by simp [meddling, Event.Renews]⟩
  have read : HasRead (some "p") "a.json" meddling (.object [("a", .object [])]) :=
    ⟨meddling.take 2, meddling.drop 3, rfl, ⟨rfl, eq_of_nested (by decide +kernel)⟩, by simp [meddling, Event.Renews]⟩
  exact ⟨lasts, read, (load_coherent "a.json" lasts).1 _ rfl read⟩

/-- The kind of the error that a load ended with. -/
def failure? : Option (Except Document.Error Json) → Option Document.Error.Kind
  | some (.error reason) => some reason.kind
  | _ => none

theorem exists_of_failure? {answer : Option (Except Document.Error Json)} {kind : Document.Error.Kind}
    (failed : failure? answer = some kind) : ∃ reason, answer = some (.error reason) ∧ reason.kind = kind := by
  unfold failure? at failed
  split at failed
  · exact ⟨_, rfl, Option.some.inj failed⟩
  · cases failed

/-- A YAML truth value that is no word for one makes a load fail, but neither as missing nor as a wrong text. -/
theorem untrue_word_strays :
    ∃ reason, ((start.after [.write "a.yaml" "a: !!bool maybe"]).step (.load none "a.yaml")).1 = some (.error reason) ∧
      ¬ (reason.kind = .missing ∨ reason.kind = .inText .value) := by
  obtain ⟨reason, failed, kind⟩ : ∃ reason,
      ((start.after [.write "a.yaml" "a: !!bool maybe"]).step (.load none "a.yaml")).1 = some (.error reason) ∧
        reason.kind = .inText .key := exists_of_failure? (by decide +kernel)
  exact ⟨reason, failed, by simp [kind]⟩

end SchemaAlgebra.Loading

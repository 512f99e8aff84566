import SchemaAlgebra.Documents.Loader
import SchemaAlgebra.Proofs.Store.Copying
import SchemaAlgebra.Proofs.Store.Separation

/-!
What a cache keeps stays as it is. Callers hold copies only, so no object that a cache keeps is reached from one
that a caller can alter, and nothing that happens changes what a kept document denotes. So a load answers what its
loader finds, or else what the file holds, and a loader finds more only by its own successful loads.
-/

namespace SchemaAlgebra.Loading

variable {loading later : Loading} {name who : Option String} {location : String} {slot : Slot} {document : Json}

@[simp] theorem cache_setCache (loading : Loading) (name other : Option String) (cache : Cache) :
    (loading.setCache name cache).cache other = if name = other then cache else loading.cache other := by
  cases name <;> cases other <;> simp [setCache, Loading.cache, Fields.get?_put]
  split <;> rfl

@[simp] theorem files_setCache (loading : Loading) (name : Option String) (cache : Cache) :
    (loading.setCache name cache).files = loading.files := by
  cases name <;> rfl

@[simp] theorem store_setCache (loading : Loading) (name : Option String) (cache : Cache) :
    (loading.setCache name cache).store = loading.store := by
  cases name <;> rfl

@[simp] theorem callers_setCache (loading : Loading) (name : Option String) (cache : Cache) :
    (loading.setCache name cache).callers = loading.callers := by
  cases name <;> rfl

/-- A slot denotes a document and leads to no object that callers hold. -/
structure Keeps (loading : Loading) (slot : Slot) (document : Json) : Prop where
  within : slot.Within loading.store.size
  apart : loading.store.Apart (· ∈ loading.callers) slot
  denotes : loading.store.Denotes slot document

/-- Everything in a cache is kept, whether it can still be found or not. -/
structure Sound (loading : Loading) : Prop where
  closed : loading.store.Closed
  held : ∀ address ∈ loading.callers, address < loading.store.size
  keeps : ∀ name location slot, (loading.cache name).entries.get? location = some slot →
    ∃ document, loading.Keeps slot document

/-- What was kept is kept later, and denotes what it denoted. -/
def Spares (loading later : Loading) : Prop :=
  ∀ slot document, loading.Keeps slot document → later.Keeps slot document

theorem Spares.trans {last : Loading} (first : loading.Spares later) (second : later.Spares last) :
    loading.Spares last :=
  fun slot document keeps => second slot document (first slot document keeps)

/-- With the same objects, and the same of them held by callers, everything is spared. -/
theorem spares_of_eq (store : later.store = loading.store) (callers : later.callers = loading.callers) :
    loading.Spares later := by
  intro slot document keeps
  obtain ⟨within, apart, denotes⟩ := keeps
  exact ⟨store ▸ within, store ▸ callers ▸ apart, store ▸ denotes⟩

theorem spares_setCache (loading : Loading) (name : Option String) (cache : Cache) :
    loading.Spares (loading.setCache name cache) :=
  spares_of_eq (store_setCache ..) (callers_setCache ..)

/-- New objects, held by callers or not, spare what was kept. -/
theorem Sound.spares_of_grows (sound : loading.Sound) (grows : loading.store.Grows later.store)
    (new : ∀ address ∈ later.callers, address ∈ loading.callers ∨ loading.store.size ≤ address) :
    loading.Spares later := by
  intro slot document keeps
  have within := keeps.within
  have agrees := grows.extends'.agrees
  refine ⟨within.mono grows.extends'.size, fun address named other leads held => ?_,
    keeps.denotes.extend sound.closed within grows.extends'⟩
  have old := sound.closed.apart within address named
  have leads := Store.leads_of_agreesOff agrees old leads
  rcases new other held with held | outside
  · exact keeps.apart address named other leads held
  · exact old other leads outside

/-- Replacing an object that callers hold spares what is kept. -/
theorem spares_replace {address : Nat} (held : address ∈ loading.callers) (cell : Cell) :
    loading.Spares { loading with store := loading.store.replace address cell } := by
  intro slot document keeps
  have agrees : loading.store.AgreesOff (loading.store.replace address cell) (· ∈ loading.callers) := by
    intro other apart
    rw [Store.cell_replace_eq, if_neg]
    rintro ⟨rfl, -⟩
    exact apart held
  exact ⟨by simpa using keeps.within, keeps.apart.agree agrees, keeps.denotes.agree agrees keeps.apart⟩

/-- Soundness goes over to a later state whose caches hold nothing new, or only what is kept there. -/
theorem Sound.of_spares (sound : loading.Sound) (spares : loading.Spares later) (closed : later.store.Closed)
    (held : ∀ address ∈ later.callers, address < later.store.size)
    (entries : ∀ name location slot, (later.cache name).entries.get? location = some slot →
      (loading.cache name).entries.get? location = some slot ∨ ∃ document, later.Keeps slot document) :
    later.Sound where
  closed := closed
  held := held
  keeps name location slot found := by
    rcases entries name location slot found with found | keeps
    · obtain ⟨document, keeps⟩ := sound.keeps name location slot found
      exact ⟨document, spares slot document keeps⟩
    · exact keeps

/-! Handing out and keeping. -/

theorem Sound.spares_hand (sound : loading.Sound) (within : slot.Within loading.store.size) :
    loading.Spares (loading.hand slot).2 := by
  refine sound.spares_of_grows
    ⟨Store.closed_copy sound.closed within, Store.copy_extends loading.store slot⟩ fun address held => ?_
  rcases List.mem_append.mp held with held | reached
  · exact .inl held
  · have gathered := Store.gathered_reach (Store.closed_copy sound.closed within)
      (Store.copy_within sound.closed within)
    obtain ⟨seed, named, leads⟩ := gathered.reached address reached
    exact .inr (Nat.le_of_not_lt (Store.copy_apart sound.closed within seed named address leads))

theorem Sound.hand (sound : loading.Sound) (within : slot.Within loading.store.size) :
    (loading.hand slot).2.Sound := by
  refine sound.of_spares (sound.spares_hand within) (Store.closed_copy sound.closed within) (fun address held => ?_)
    fun _ _ _ found => .inl found
  rcases List.mem_append.mp held with held | reached
  · exact Nat.lt_of_lt_of_le (sound.held address held) (Store.copy_extends loading.store slot).size
  · exact (Store.gathered_reach (Store.closed_copy sound.closed within)
      (Store.copy_within sound.closed within)).within address reached

/-- A copy that is handed out has the value of what is kept. -/
theorem Sound.value_hand (sound : loading.Sound) (keeps : loading.Keeps slot document) :
    (loading.hand slot).2.value (loading.hand slot).1 = document := by
  have read : loading.store.tree? slot = some document :=
    (sound.closed.tree?_eq_some_iff keeps.within).mpr keeps.denotes
  simp only [value, Loading.hand]
  rw [Store.tree?_copy sound.closed keeps.within, read]
  rfl

theorem Sound.keeps_keep (sound : loading.Sound) (name : Option String) (location : String) (document : Json) :
    (loading.keep name location document).2.Keeps (loading.keep name location document).1 document := by
  have placed := Json.placed document loading.store sound.closed
  refine ⟨?_, ?_, ?_⟩ <;> simp only [Loading.keep, store_setCache, callers_setCache]
  · exact placed.within
  · exact Json.place_apart document sound.closed sound.held
  · exact placed.denotes

theorem Sound.spares_keep (sound : loading.Sound) (name : Option String) (location : String) (document : Json) :
    loading.Spares (loading.keep name location document).2 := by
  have placed := Json.placed document loading.store sound.closed
  exact sound.spares_of_grows (by simpa [Loading.keep] using placed.grows) fun address held =>
    .inl (by simpa [Loading.keep] using held)

@[simp] theorem cache_keep (loading : Loading) (name other : Option String) (location : String) (document : Json) :
    (loading.keep name location document).2.cache other =
      if name = other then (loading.cache name).insert location (loading.keep name location document).1
      else loading.cache other := by
  simp only [keep, cache_setCache]
  cases other <;> rfl

theorem Sound.keep (sound : loading.Sound) (name : Option String) (location : String) (document : Json) :
    (loading.keep name location document).2.Sound := by
  have placed := Json.placed document loading.store sound.closed
  refine sound.of_spares (sound.spares_keep name location document) ?_ ?_ fun other place slot found => ?_
  · simpa [Loading.keep] using placed.grows.closed
  · intro address held
    simp only [Loading.keep, store_setCache, callers_setCache] at held ⊢
    exact Nat.lt_of_lt_of_le (sound.held address held) placed.grows.extends'.size
  · rw [cache_keep] at found
    split at found
    · next same =>
        rw [Cache.insert, Fields.get?_put] at found
        split at found
        · cases found
          exact .inr ⟨document, sound.keeps_keep name location document⟩
        · exact .inl (same ▸ found)
    · exact .inl found

/-! What a loader sees. -/

/-- What a loader finds for a location. -/
def sees (loading : Loading) (who : Option String) (location : String) : Option Json :=
  (loading.cacheOf who).get? location

theorem exists_of_find? (found : (loading.cache who).find? location = some slot) :
    (loading.cache who).entries.get? location = some slot := by
  unfold Cache.find? at found
  split at found
  · exact found
  · cases found

/-- A sound loader sees exactly the documents that are found in its cache. -/
theorem Sound.sees_eq_some_iff (sound : loading.Sound) : loading.sees who location = some document ↔
    ∃ slot, (loading.cache who).find? location = some slot ∧ loading.Keeps slot document := by
  simp only [sees, Shelf.get?, cacheOf, Option.bind_eq_some_iff]
  refine exists_congr fun slot => and_congr_right fun found => ?_
  obtain ⟨other, keeps⟩ := sound.keeps who location slot (exists_of_find? found)
  rw [sound.closed.tree?_eq_some_iff keeps.within]
  refine ⟨fun denotes => ?_, fun keeps => keeps.denotes⟩
  rw [← keeps.denotes.unique denotes]
  exact keeps

theorem Sound.sees_eq_none_iff (sound : loading.Sound) :
    loading.sees who location = none ↔ (loading.cache who).find? location = none := by
  refine ⟨fun blind => ?_, fun missing => by simp [sees, Shelf.get?, cacheOf, missing]⟩
  cases found : (loading.cache who).find? location with
  | none => rfl
  | some slot =>
      obtain ⟨document, keeps⟩ := sound.keeps who location slot (exists_of_find? found)
      have seen := sound.sees_eq_some_iff.mpr ⟨slot, found, keeps⟩
      rw [seen] at blind
      cases blind

/-- A loader whose cache finds the same sees the same, if what was kept is spared. -/
theorem Sound.sees_of_spares (sound : loading.Sound) (sound' : later.Sound) (spares : loading.Spares later)
    (found : (later.cache who).find? location = (loading.cache who).find? location) :
    later.sees who location = loading.sees who location := by
  cases seen : loading.sees who location with
  | none => rw [sound'.sees_eq_none_iff, found, ← sound.sees_eq_none_iff, seen]
  | some document =>
      obtain ⟨slot, found', keeps⟩ := sound.sees_eq_some_iff.mp seen
      exact sound'.sees_eq_some_iff.mpr ⟨slot, found.trans found', spares slot document keeps⟩

theorem lasting_of_sees (seen : loading.sees who location = some document) :
    (loading.cache who).lasting = true := by
  cases lasting : (loading.cache who).lasting with
  | true => rfl
  | false => simp [sees, Shelf.get?, cacheOf, Cache.find?, lasting] at seen

/-! Three ways in which a load can go. -/

theorem load_found (found : (loading.cache name).find? location = some slot) :
    loading.load name location = (.ok (loading.hand slot).1, (loading.hand slot).2) := by
  simp [load, found]

/-- The loading state in which a document that was not found has been dropped. -/
def expired (loading : Loading) (name : Option String) (location : String) : Loading :=
  loading.setCache name ((loading.cache name).expire location)

theorem load_failed (missed : (loading.cache name).find? location = none) {reason : Document.Error}
    (failed : loading.files.document location = .error reason) :
    loading.load name location = (.error reason, loading.expired name location) := by
  simp [load, missed, failed, expired]

theorem load_read (missed : (loading.cache name).find? location = none)
    (read : loading.files.document location = .ok document) :
    loading.load name location =
      let kept := (loading.expired name location).keep name location document
      (.ok (kept.2.hand kept.1).1, (kept.2.hand kept.1).2) := by
  simp [load, missed, read, expired]

theorem find?_expire (cache : Cache) (location other : String) :
    (cache.expire location).find? other = cache.find? other := by
  unfold Cache.expire Cache.find?
  cases lasting : cache.lasting <;> simp [lasting]

theorem entries_expire {cache : Cache} {location other : String}
    (found : (cache.expire location).entries.get? other = some slot) : cache.entries.get? other = some slot := by
  unfold Cache.expire at found
  split at found
  · exact found
  · rw [Fields.get?_erase] at found
    split at found
    · cases found
    · exact found

@[simp] theorem lasting_expire (cache : Cache) (location : String) :
    (cache.expire location).lasting = cache.lasting := by
  unfold Cache.expire
  split <;> rfl

theorem find?_insert (cache : Cache) (location other : String) (slot : Slot) :
    (cache.insert location slot).find? other =
      if cache.lasting = true ∧ location = other then some slot else cache.find? other := by
  unfold Cache.insert Cache.find?
  cases cache.lasting <;> simp [Fields.get?_put]

theorem entries_expired {place : String} {other : Option String}
    (found : ((loading.expired name location).cache other).entries.get? place = some slot) :
    (loading.cache other).entries.get? place = some slot := by
  rw [expired, cache_setCache] at found
  split at found
  · next same => exact same ▸ entries_expire found
  · exact found

theorem spares_expired : loading.Spares (loading.expired name location) :=
  spares_setCache loading name _

theorem Sound.expired (sound : loading.Sound) : (loading.expired name location).Sound :=
  sound.of_spares spares_expired (by simpa [Loading.expired] using sound.closed)
    (by simpa [Loading.expired] using sound.held) fun _ _ _ found => .inl (entries_expired found)

theorem find?_expired (loading : Loading) (name : Option String) (location : String) (other : Option String)
    (place : String) :
    ((loading.expired name location).cache other).find? place = (loading.cache other).find? place := by
  rw [expired, cache_setCache]
  split
  · next same => rw [find?_expire, same]
  · rfl

@[simp] theorem lasting_expired (loading : Loading) (name : Option String) (location : String) (who : Option String) :
    ((loading.expired name location).cache who).lasting = (loading.cache who).lasting := by
  rw [expired, cache_setCache]
  split
  · next same => rw [lasting_expire, same]
  · rfl

@[simp] theorem files_expired (loading : Loading) (name : Option String) (location : String) :
    (loading.expired name location).files = loading.files := by
  simp [expired]

/-- What a loader is to answer: what it finds, or else what the file holds. -/
def answer (loading : Loading) (name : Option String) (location : String) : Except Document.Error Json :=
  match loading.sees name location with
  | some document => .ok document
  | none => loading.files.document location

theorem answer_of_sees (seen : loading.sees name location = some document) :
    loading.answer name location = .ok document := by
  simp [answer, seen]

theorem answer_of_blind (blind : loading.sees name location = none) :
    loading.answer name location = loading.files.document location := by
  simp [answer, blind]

/-- A loader that fails sees nothing, and fails as the file does. -/
theorem failed_of_answer {reason : Document.Error} (failed : loading.answer name location = .error reason) :
    loading.sees name location = none ∧ loading.files.document location = .error reason := by
  cases seen : loading.sees name location with
  | some document => cases (answer_of_sees seen).symm.trans failed
  | none => exact ⟨rfl, (answer_of_blind seen).symm.trans failed⟩

/-- What a load amounts to: the answer, and that whoever loaded finds it from then on, if its cache is lasting. -/
structure Loaded (loading : Loading) (name : Option String) (location : String)
    (result : Except Document.Error Slot) (later : Loading) : Prop where
  sound : later.Sound
  spares : loading.Spares later
  files : later.files = loading.files
  lasting : ∀ who, (later.cache who).lasting = (loading.cache who).lasting
  answers : result.map later.value = loading.answer name location
  sees : ∀ who place, later.sees who place =
    if (loading.cache who).lasting = true ∧ name = who ∧ location = place then
      (loading.answer name location).toOption
    else loading.sees who place

theorem Sound.loaded_found (sound : loading.Sound) (found : (loading.cache name).find? location = some slot)
    (keeps : loading.Keeps slot document) :
    loading.Loaded name location (.ok (loading.hand slot).1) (loading.hand slot).2 := by
  have seen := sound.sees_eq_some_iff.mpr ⟨slot, found, keeps⟩
  refine ⟨sound.hand keeps.within, sound.spares_hand keeps.within, rfl, fun _ => rfl, ?_, fun who place => ?_⟩
  · rw [answer_of_sees seen, ← sound.value_hand keeps]
    rfl
  · rw [sound.sees_of_spares (sound.hand keeps.within) (sound.spares_hand keeps.within) rfl, answer_of_sees seen]
    split
    · next same =>
        obtain ⟨-, rfl, rfl⟩ := same
        exact seen
    · rfl

theorem Sound.loaded_failed (sound : loading.Sound) (missed : (loading.cache name).find? location = none)
    {reason : Document.Error} (failed : loading.files.document location = .error reason) :
    loading.Loaded name location (.error reason) (loading.expired name location) := by
  have blind := sound.sees_eq_none_iff.mpr missed
  refine ⟨sound.expired, spares_expired, files_expired .., lasting_expired loading name location, ?_, fun who place => ?_⟩
  · rw [answer_of_blind blind, failed]
    rfl
  · rw [sound.sees_of_spares sound.expired spares_expired (find?_expired loading name location who place), answer_of_blind blind, failed]
    split
    · next same =>
        obtain ⟨-, rfl, rfl⟩ := same
        exact blind
    · rfl

theorem Sound.loaded_read (sound : loading.Sound) (missed : (loading.cache name).find? location = none)
    (read : loading.files.document location = .ok document) :
    let kept := (loading.expired name location).keep name location document
    loading.Loaded name location (.ok (kept.2.hand kept.1).1) (kept.2.hand kept.1).2 := by
  intro kept
  have blind := sound.sees_eq_none_iff.mpr missed
  have answers : loading.answer name location = .ok document := (answer_of_blind blind).trans read
  have sound' : kept.2.Sound := sound.expired.keep name location document
  have keeps : kept.2.Keeps kept.1 document := sound.expired.keeps_keep name location document
  have spares : loading.Spares kept.2 := spares_expired.trans (sound.expired.spares_keep name location document)
  have handed := sound'.spares_hand keeps.within
  have caches who : (kept.2.hand kept.1).2.cache who =
      if name = who then ((loading.expired name location).cache name).insert location kept.1
      else (loading.expired name location).cache who :=
    cache_keep (loading.expired name location) name who location document
  have files : (kept.2.hand kept.1).2.files = loading.files :=
    (files_setCache ..).trans (files_expired loading name location)
  refine ⟨sound'.hand keeps.within, spares.trans handed, files, fun who => ?_, ?_, fun who place => ?_⟩
  · rw [caches]
    split
    · next same => exact same ▸ lasting_expired loading name location name
    · exact lasting_expired loading name location who
  · rw [answers, ← sound'.value_hand keeps]
    rfl
  · rw [answers]
    split
    · next same =>
        obtain ⟨lasts, rfl, rfl⟩ := same
        refine (sound'.hand keeps.within).sees_eq_some_iff.mpr ⟨kept.1, ?_, handed _ _ keeps⟩
        rw [caches, if_pos rfl, find?_insert, if_pos ⟨(lasting_expired ..).trans lasts, rfl⟩]
    · next other =>
        refine sound.sees_of_spares (sound'.hand keeps.within) (spares.trans handed) ?_
        rw [caches, ← find?_expired loading name location]
        split
        · next same =>
            subst same
            rw [find?_insert, if_neg]
            exact fun both => other ⟨(lasting_expired ..).symm.trans both.1, rfl, both.2⟩
        · rfl

theorem Sound.loaded (sound : loading.Sound) (name : Option String) (location : String) :
    loading.Loaded name location (loading.load name location).1 (loading.load name location).2 := by
  cases found : (loading.cache name).find? location with
  | some slot =>
      obtain ⟨document, keeps⟩ := sound.keeps name location slot (exists_of_find? found)
      rw [load_found found]
      exact sound.loaded_found found keeps
  | none =>
      cases read : loading.files.document location with
      | error reason =>
          rw [load_failed found read]
          exact sound.loaded_failed found read
      | ok document =>
          rw [load_read found read]
          exact sound.loaded_read found read

end SchemaAlgebra.Loading

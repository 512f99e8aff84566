import SchemaAlgebra.Documents.Files
import SchemaAlgebra.Store.Basic
import SchemaAlgebra.Store.Tree

/-!
Loading documents through caches. A cache keeps what was read through it until it is cleared, or keeps
nothing at all; a document enters it only after it has been read without error. A cache holds documents
as objects, and whoever loads one is handed a copy: callers may change the objects that they hold, which
are never those that a cache keeps.
-/

namespace SchemaAlgebra

/-- Documents kept by location; one that is not lasting forgets them at once. -/
structure Cache where
  lasting : Bool
  entries : Fields String Slot

namespace Cache

/-- An empty cache. -/
def empty (lasting : Bool) : Cache := ⟨lasting, []⟩

/-- The document that is found for a location. -/
def find? (cache : Cache) (location : String) : Option Slot :=
  if cache.lasting then cache.entries.get? location else none

/-- Drop the document of a location if its time is over. -/
def expire (cache : Cache) (location : String) : Cache :=
  if cache.lasting then cache else { cache with entries := cache.entries.erase location }

/-- Keep a document. -/
def insert (cache : Cache) (location : String) (document : Slot) : Cache :=
  { cache with entries := cache.entries.put location document }

end Cache

/-- A cache with the objects that its documents are made of. -/
structure Shelf where
  cache : Cache
  store : Store

/-- The document kept for a location. -/
def Shelf.get? (shelf : Shelf) (location : String) : Option Json :=
  (shelf.cache.find? location).bind shelf.store.tree?

/-- Files, all objects, the cache that everybody shares, private caches by name, and the addresses of
the objects that callers hold. -/
structure Loading where
  files : Files
  store : Store
  shared : Cache
  own : Fields String Cache
  callers : List Nat

namespace Loading

/-- No files and no objects, and a shared cache that is lasting and empty. -/
def start : Loading := ⟨.empty, .empty, .empty true, [], []⟩

/-- An event in a run of loading. Callers make objects of what they hold, and alter those that they
hold. -/
inductive Event
  | write (location text : String)
  | remove (location : String)
  | clear
  | open (name : String) (lasting : Bool)
  | load (name : Option String) (location : String)
  | make (cell : Cell)
  | alter (address : Nat) (cell : Cell)

/-- The cache of a name, or the shared one without a name. -/
def cache (loading : Loading) : Option String → Cache
  | none => loading.shared
  | some name => (loading.own.get? name).getD (.empty true)

/-- The cache of a name with its documents. -/
def cacheOf (loading : Loading) (name : Option String) : Shelf :=
  ⟨loading.cache name, loading.store⟩

/-- Replace the cache of a name, or the shared one. -/
def setCache (loading : Loading) (name : Option String) (cache : Cache) : Loading :=
  match name with
  | none => { loading with shared := cache }
  | some name => { loading with own := loading.own.put name cache }

/-- Put a document that was read into a cache. -/
def keep (loading : Loading) (name : Option String) (location : String) (document : Json) :
    Slot × Loading :=
  let placed := document.place loading.store
  (placed.1, { loading with store := placed.2 }.setCache name
    ((loading.cache name).insert location placed.1))

/-- Hand a copy of a document to a caller, who holds all its objects from then on. -/
def hand (loading : Loading) (document : Slot) : Slot × Loading :=
  let copied := loading.store.copy document
  (copied.1, { loading with
    store := copied.2, callers := loading.callers ++ copied.2.reach copied.1 })

/-- Load a document: from the cache if it keeps one, otherwise from its file. -/
def load (loading : Loading) (name : Option String) (location : String) :
    Except Document.Error Slot × Loading :=
  match (loading.cache name).find? location with
  | some kept =>
      let handed := loading.hand kept
      (.ok handed.1, handed.2)
  | none =>
      let expired := loading.setCache name ((loading.cache name).expire location)
      match loading.files.document location with
      | .error reason => (.error reason, expired)
      | .ok document =>
          let kept := expired.keep name location document
          let handed := kept.2.hand kept.1
          (.ok handed.1, handed.2)

/-- The value of a document that was handed out. -/
def value (loading : Loading) (document : Slot) : Json :=
  (loading.store.tree? document).getD .null

/-- Whether callers hold all objects that an object names. -/
def canMake (loading : Loading) (cell : Cell) : Prop :=
  ∀ address ∈ cell.addresses, address ∈ loading.callers

instance (loading : Loading) (cell : Cell) : Decidable (loading.canMake cell) :=
  inferInstanceAs (Decidable (∀ address ∈ cell.addresses, address ∈ loading.callers))

/-- Take one event; only loading has a result. -/
def step (loading : Loading) : Event → Option (Except Document.Error Json) × Loading
  | .write location text => (none, { loading with files := loading.files.write location text })
  | .remove location => (none, { loading with files := loading.files.remove location })
  | .clear => (none, { loading with shared := .empty loading.shared.lasting })
  | .open name lasting => (none, loading.setCache (some name) (.empty lasting))
  | .load name location =>
      let loaded := loading.load name location
      (some (loaded.1.map loaded.2.value), loaded.2)
  | .make cell =>
      if loading.canMake cell then
        (none, { loading with
          store := loading.store.push cell, callers := loading.callers ++ [loading.store.size] })
      else (none, loading)
  | .alter address cell =>
      if address ∈ loading.callers ∧ loading.canMake cell then
        (none, { loading with store := loading.store.replace address cell })
      else (none, loading)

end Loading

end SchemaAlgebra

import SchemaAlgebra.Documents.Document
import SchemaAlgebra.Fields
import SchemaAlgebra.Schema.Location

/-!
The files that documents are read from: local ones, by their path from the present directory, and ones
kept in memory, by an address. Different spellings of a path name the same file. Directories are made
when a file is put into them, and stay.
-/

namespace SchemaAlgebra

/-- Where a file is kept: in the components of a local path, or under a path in memory. -/
inductive Spot
  | onDisk (components : List String)
  | inMemory (path : String)
  deriving DecidableEq, Inhabited

/-- The texts of files, and the directories that were made. -/
structure Files where
  texts : Fields Spot String
  directories : List (List String)

namespace Files

/-- No files. -/
def empty : Files := ⟨[], []⟩

/-- What an address in memory begins with. -/
def memoryScheme : String := "memory://"

/-- What the path of a local file may begin with; it does not count. -/
def localSchemes : List String := ["file://", "file:", "local://", "local:"]

/-- A path without the scheme of local files. -/
def dropLocalScheme (path : List Char) : List Char :=
  match localSchemes.find? fun scheme => scheme.toList.isPrefixOf path with
  | some scheme => path.drop scheme.length
  | none => path

/-- The components of a local path. -/
def componentsOf (path : List Char) : List String :=
  (Text.splitAtAll '/' (Location.dropLastSlashes (dropLocalScheme path))).map String.ofList

/-- The canonical spelling of a path in memory: one slash before it and none after it. -/
def memoryPath (path : List Char) : String :=
  String.ofList ('/' :: Location.dropLastSlashes (path.dropWhile (· = '/')))

/-- Whether an address lies in memory. -/
def isInMemory (location : String) : Bool :=
  memoryScheme.toList.isPrefixOf location.toList

/-- Where a file is put, whatever is there: each component leads further down, or up if it is `..`. -/
def spotOf (location : String) : Spot :=
  if isInMemory location then .inMemory (memoryPath (location.toList.drop memoryScheme.length))
  else
    .onDisk ((componentsOf location.toList).foldl (fun done component =>
      if component = "" ∨ component = "." then done
      else if component = ".." then done.dropLast
      else done ++ [component]) [])

/-- The directories above a file. -/
def above : Spot → List (List String)
  | .onDisk components => (List.range components.length).map fun n => components.take n
  | .inMemory _ => []

/-- Put a text into a file. -/
def write (files : Files) (location text : String) : Files :=
  let spot := spotOf location
  ⟨files.texts.put spot text, files.directories ++ above spot⟩

/-- Remove a file. -/
def remove (files : Files) (location : String) : Files :=
  { files with texts := files.texts.erase (spotOf location) }

/-- Whether a directory is there; the present one is. -/
def hasDirectory (files : Files) (components : List String) : Bool :=
  components.isEmpty || files.directories.contains components

/-- Follow the components of a local path, `done` being the ones followed so far, last first. Only a
directory that is there can be gone through, and the present one cannot be left upward. -/
def follow (files : Files) (location : String) (done : List String) :
    List String → Except Document.Error (List String)
  | [] => .ok done.reverse
  | component :: rest =>
      if files.texts.has (.onDisk done.reverse) then .error .notADirectory
      else if !files.hasDirectory done.reverse then .error (.missing location)
      else if component = "" ∨ component = "." then follow files location done rest
      else if component = ".." then
        match done with
        | [] => .error (.missing location)
        | _ :: before => follow files location before rest
      else follow files location (component :: done) rest

/-- The text of a local file. A path that begins with a tilde leads to another directory, which holds
no files. -/
def readDisk (files : Files) (location : String) : Except Document.Error String := do
  let components := componentsOf location.toList
  if components.head? = some "~" then throw (.missing location)
  else
    let found ← files.follow location [] components
    match files.texts.get? (.onDisk found) with
    | some text => return text
    | none =>
        if files.hasDirectory found then throw .isADirectory else throw (.missing location)

/-- Whether a path in memory goes on behind a file. -/
def isBelowFile (files : Files) (path : String) : Bool :=
  files.texts.any fun entry =>
    match entry.1 with
    | .inMemory file => (file.toList ++ ['/']).isPrefixOf path.toList
    | .onDisk _ => false

/-- The text of a file in memory. A path with a scheme or two colons inside it names no file. -/
def readMemory (files : Files) (location : String) : Except Document.Error String :=
  let rest := String.ofList (location.toList.drop memoryScheme.length)
  let path := memoryPath rest.toList
  if Text.isPart "::" rest || Text.isPart "://" rest then .error (.missing location)
  else if path = "/" then .error .isADirectory
  else if files.isBelowFile path then .error .belowAFile
  else
    match files.texts.get? (.inMemory path) with
    | some text => .ok text
    | none => .error (.missing location)

/-- Read every kind of line end as a line feed. -/
def unifyLines : List Char → List Char
  | '\r' :: '\n' :: rest => '\n' :: unifyLines rest
  | '\r' :: rest => '\n' :: unifyLines rest
  | c :: rest => c :: unifyLines rest
  | [] => []

/-- The text at a location. -/
def read (files : Files) (location : String) : Except Document.Error String := do
  let text ← if isInMemory location then files.readMemory location
    else if Location.isAbsolute location.toList then throw (.missing location)
    else files.readDisk location
  return String.ofList (unifyLines text.toList)

/-- The document at a location. -/
def document (files : Files) (location : String) : Except Document.Error Json := do
  Document.parse location (← files.read location)

/-- Every document that can be read, by any location. -/
def documents (files : Files) : List Json :=
  files.texts.filterMap fun entry =>
    let location := match entry.1 with
      | .onDisk components => "/".intercalate components
      | .inMemory path => memoryScheme ++ path
    match Document.parse location entry.2 with
    | .ok document => some document
    | .error _ => none

end Files

end SchemaAlgebra

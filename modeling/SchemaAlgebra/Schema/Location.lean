import SchemaAlgebra.Text.Split

/-!
Locations of documents: local paths with slashes, and addresses with one of a few schemes in front. A
relative location is resolved against the directory of the document that names it.
-/

namespace SchemaAlgebra.Location

/-- What an address begins with. -/
def schemes : List String :=
  ["s3://", "gs://", "gcs://", "az://", "abfs://", "http://", "https://", "file://", "memory://"]

/-- Whether a location is an address with a scheme. -/
def hasScheme (location : String) : Bool :=
  schemes.any fun scheme => scheme.toList.isPrefixOf location.toList

/-- Whether a path begins at the root. -/
def isAbsolute : List Char → Bool
  | '/' :: _ => true
  | _ => false

/-- Remove the slashes at the end of a path. -/
def dropLastSlashes (path : List Char) : List Char :=
  (path.reverse.dropWhile (· = '/')).reverse

/-- The directory of a path: what comes before its last component. -/
def directory (path : List Char) : List Char :=
  let head := (path.reverse.dropWhile (· ≠ '/')).reverse
  if head.all (· = '/') then head else dropLastSlashes head

/-- A path below a directory; an absolute path stands for itself. -/
def below (base path : List Char) : List Char :=
  if isAbsolute path then path
  else if base = [] ∨ base.getLast? = some '/' then base ++ path
  else base ++ '/' :: path

/-- Take one more component into a normal path, whose components are held last first. Going up
removes a component, stays at the root, and is kept at the front of a relative path. -/
def climb (rooted : Bool) (done : List (List Char)) (component : List Char) : List (List Char) :=
  if component = [] ∨ component = ['.'] then done
  else if component = ['.', '.'] then
    match done with
    | [] => if rooted then [] else [component]
    | last :: before => if last = ['.', '.'] then component :: done else before
  else component :: done

/-- The slashes at the front of a normal path: two stay two, more become one. -/
def leadingSlashes : List Char → List Char
  | '/' :: '/' :: '/' :: _ => ['/']
  | '/' :: '/' :: _ => ['/', '/']
  | '/' :: _ => ['/']
  | _ => []

/-- A path without empty components, `.`, and `..` after a name. -/
def normalize (path : List Char) : List Char :=
  let slashes := leadingSlashes path
  let components := (Text.splitAtAll '/' path).foldl (climb !slashes.isEmpty) []
  let result := slashes ++ Text.joinWith '/' components.reverse
  if result = [] then ['.'] else result

/-- Cut an address after its scheme. -/
def cutScheme : List Char → List Char × List Char
  | ':' :: '/' :: '/' :: rest => ([], rest)
  | c :: rest => let (scheme, path) := cutScheme rest; (c :: scheme, path)
  | [] => ([], [])

/-- The location that a document at `base` means by `location`. -/
def resolve (base location : String) : String :=
  if hasScheme location || isAbsolute location.toList || base = "" then location
  else if hasScheme base then
    let (scheme, path) := cutScheme base.toList
    String.ofList (scheme ++ "://".toList ++
      normalize (below (directory path) location.toList))
  else String.ofList (normalize (below (directory base.toList) location.toList))

example : resolve "schemas/a.json" "../b.json" = "b.json" := by decide
example : resolve "memory://m/a.json" "b.json" = "memory://m/b.json" := by decide

end SchemaAlgebra.Location

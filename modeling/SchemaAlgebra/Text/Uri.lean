import SchemaAlgebra.Text.Split

/-!
Uniform resource identifiers: a scheme, an authority, a path with parameters, a query and a fragment.
A reference is joined to the identifier it is relative to; only identifiers of hierarchical schemes
have references relative to them.
-/

namespace SchemaAlgebra

/-- The parts of an identifier; an absent part is empty. -/
structure Uri where
  scheme : List Char
  authority : List Char
  path : List Char
  parameters : List Char
  query : List Char
  fragment : List Char

namespace Uri

/-- The schemes whose identifiers have references relative to them. -/
def relativeSchemes : List String :=
  ["", "ftp", "http", "gopher", "nntp", "imap", "wais", "file", "https", "shttp", "mms", "prospero",
    "rtsp", "rtsps", "rtspu", "sftp", "svn", "svn+ssh", "ws", "wss"]

/-- The schemes whose identifiers have an authority. -/
def authoritySchemes : List String :=
  ["", "ftp", "http", "gopher", "nntp", "telnet", "imap", "wais", "file", "mms", "https", "shttp",
    "snews", "prospero", "rtsp", "rtsps", "rtspu", "rsync", "svn", "svn+ssh", "sftp", "nfs", "git", "git+ssh",
    "ws", "wss"]

/-- The schemes whose paths have parameters. -/
def parameterSchemes : List String :=
  ["", "ftp", "hdl", "prospero", "http", "imap", "https", "shttp", "rtsp", "rtsps", "rtspu", "sip", "sips",
    "mms", "sftp", "tel"]

/-- Whether a scheme is in a list. -/
def isOneOf (scheme : List Char) (schemes : List String) : Bool :=
  String.ofList scheme ∈ schemes

/-- Whether a character can stand in a scheme. -/
def isSchemeChar (c : Char) : Bool :=
  c.isAlphanum || c = '+' || c = '-' || c = '.'

/-- Cut a text at the first occurrence of a character, if there is one. -/
def cutIfThere (separator : Char) (text : List Char) : List Char × List Char :=
  (text.takeWhile (· ≠ separator), (text.dropWhile (· ≠ separator)).drop 1)

/-- Cut the scheme off an identifier; one without a scheme has a given one. -/
def cutScheme (default : List Char) (text : List Char) : List Char × List Char :=
  let (scheme, rest) := cutIfThere ':' text
  match scheme with
  | [] => (default, text)
  | first :: _ =>
      if text.contains ':' && first.isAlpha && scheme.all isSchemeChar then
        (scheme.map Char.toLower, rest)
      else (default, text)

/-- Cut the parameters off a path: they follow a semicolon in its last component. -/
def cutParameters (path : List Char) : List Char × List Char :=
  let last := (path.reverse.takeWhile (· ≠ '/')).reverse
  if last.contains ';' then
    let (kept, parameters) := cutIfThere ';' last
    (path.take (path.length - last.length) ++ kept, parameters)
  else (path, [])

/-- Take an identifier apart. Controls and blanks at the front do not count, nor do tabs and line ends
anywhere. -/
def parse (default : List Char) (text : List Char) : Uri :=
  let clean := (text.dropWhile fun c => c.toNat ≤ 32).filter fun c =>
    !(c = '\t' || c = '\n' || c = '\r')
  let (scheme, afterScheme) := cutScheme default clean
  let (authority, afterAuthority) := match afterScheme with
    | '/' :: '/' :: rest =>
        let isEnd := fun c => c = '/' || c = '?' || c = '#'
        (rest.takeWhile (!isEnd ·), rest.dropWhile (!isEnd ·))
    | rest => ([], rest)
  let (afterFragment, fragment) := cutIfThere '#' afterAuthority
  let (place, query) := cutIfThere '?' afterFragment
  let (path, parameters) := if isOneOf scheme parameterSchemes then cutParameters place
    else (place, [])
  ⟨scheme, authority, path, parameters, query, fragment⟩

/-- Put a text behind a mark, unless it is empty. -/
def marked (mark : Char) (text : List Char) : List Char :=
  if text.isEmpty then [] else mark :: text

/-- Put the parts of an identifier together. -/
def render (uri : Uri) : List Char :=
  let path := uri.path ++ marked ';' uri.parameters
  let place :=
    if !uri.authority.isEmpty || (!uri.scheme.isEmpty && isOneOf uri.scheme authoritySchemes) ||
        path.take 2 = ['/', '/'] then
      let path := if path.isEmpty || path.head? = some '/' then path else '/' :: path
      '/' :: '/' :: (uri.authority ++ path)
    else path
  let whole := if uri.scheme.isEmpty then place else uri.scheme ++ ':' :: place
  whole ++ marked '?' uri.query ++ marked '#' uri.fragment

/-- Take one more component into a path, whose components are held last first. -/
def climb (done : List (List Char)) (component : List Char) : List (List Char) :=
  if component = ['.', '.'] then done.drop 1
  else if component = ['.'] then done
  else component :: done

/-- Remove the empty components of a path, except the first and the last. -/
def dropInnerEmpty : List (List Char) → List (List Char)
  | [] => []
  | first :: rest =>
      match rest.getLast? with
      | none => [first]
      | some last => first :: (rest.dropLast.filter (· ≠ []) ++ [last])

/-- The path that a relative path leads to from another one. -/
def joinPath (base path : List Char) : List Char :=
  let parts := Text.splitAtAll '/' base
  let before := if parts.getLast? = some [] then parts else parts.dropLast
  let segments := if path.head? = some '/' then Text.splitAtAll '/' path
    else dropInnerEmpty (before ++ Text.splitAtAll '/' path)
  let resolved := (segments.foldl climb []).reverse
  let ended := match segments.getLast? with
    | some last => if last = ['.'] ∨ last = ['.', '.'] then resolved ++ [[]] else resolved
    | none => resolved
  let joined := Text.joinWith '/' ended
  if joined.isEmpty then ['/'] else joined

/-- The identifier that a reference means, relative to another one. -/
def join (base reference : String) : String :=
  if base = "" then reference
  else if reference = "" then base
  else
    let source := parse [] base.toList
    let aim := parse source.scheme reference.toList
    if aim.scheme ≠ source.scheme || !isOneOf aim.scheme relativeSchemes then reference
    else
      let hasAuthority := isOneOf aim.scheme authoritySchemes
      if hasAuthority && !aim.authority.isEmpty then String.ofList aim.render
      else
        let authority := if hasAuthority then source.authority else aim.authority
        if aim.path.isEmpty && aim.parameters.isEmpty then
          String.ofList (render { aim with
            authority := authority
            path := source.path
            parameters := source.parameters
            query := if aim.query.isEmpty then source.query else aim.query })
        else
          String.ofList (render { aim with
            authority := authority
            path := joinPath source.path aim.path })

/-- Whether an identifier without parameters is another spelling of a given one. -/
def spells (target text : String) : Bool :=
  !text.toList.contains ';' && String.ofList (render (parse [] text.toList)) = target

/-- An identifier without its fragment, and the fragment. -/
def cutFragment (text : String) : String × String :=
  if text.toList.contains '#' then
    let uri := parse [] text.toList
    (String.ofList (render { uri with fragment := [] }), String.ofList uri.fragment)
  else (text, "")

example : join "http://a/b/c" "../d#e" = "http://a/d#e" := by decide
example : spells "http://a/b" "HTTP://a/b?#" := by decide
example : join "a/b.json" "c.json" = "a/c.json" := by decide

end Uri

end SchemaAlgebra

import Docket.Http.Host
import Docket.Http.Path

/-!
# URLs

A URL in its parts: scheme, authority, path, query and fragment. Reading
normalises: the scheme and the host are in lower case, the usual port of the
scheme is left out, dot segments are resolved, and characters that may not
stand are escaped. Segments and query pairs are added at the end in such a
way that no text of theirs reaches into another part.
-/

namespace Docket.Http

open Text (splitAll)

/-- Who is asked, and where. -/
structure Authority where
  user : List Char
  password : List Char
  host : List Char
  port? : Option Nat

/-- A URL. -/
structure Url where
  scheme : List Char
  authority? : Option Authority
  path : Path
  query? : Option (List Char)
  fragment? : Option (List Char)

/-- The schemes that have domain names, with their usual ports. -/
def networkSchemes : List (List Char × Nat) :=
  [("http".toList, 80), ("https".toList, 443), ("ws".toList, 80), ("wss".toList, 443),
   ("ftp".toList, 21)]

/-- What a scheme says about the place. -/
def SchemeKind.ofScheme (scheme : List Char) : SchemeKind :=
  if scheme = "file".toList then .file
  else if (networkSchemes.lookup scheme).isSome then .network
  else .other

namespace Url

open Http.Path (isDropped kept)

/-- What the scheme says about the place. -/
def kind (url : Url) : SchemeKind :=
  SchemeKind.ofScheme url.scheme

/-- Adds segments at the end of the path; none when the path has no
segments. -/
def push? (url : Url) (segments : List (List Char)) : Option Url :=
  (url.path.push? url.kind segments).map fun path => { url with path }

/-- One pair of a query. -/
def pairChars (pair : List Char × List Char) : List Char :=
  Percent.formEncode pair.1 ++ '=' :: Percent.formEncode pair.2

/-- Adds pairs at the end of the query. -/
def query (url : Url) (pairs : List (List Char × List Char)) : Url :=
  if pairs.isEmpty then url
  else
    let added := ['&'].intercalate (pairs.map pairChars)
    match url.query? with
    | none | some [] => { url with query? := some added }
    | some old => { url with query? := some (old ++ '&' :: added) }

/-- The user and the password, if any. -/
def userChars (a : Authority) : List Char :=
  if a.user.isEmpty ∧ a.password.isEmpty then []
  else a.user ++ (if a.password.isEmpty then [] else ':' :: a.password) ++ ['@']

/-- The authority. -/
def authorityChars (a : Authority) : List Char :=
  userChars a ++ a.host
    ++ match a.port? with
      | some port => ':' :: (toString port).toList
      | none => []

/-- The URL as text. -/
def chars (url : Url) : List Char :=
  url.scheme ++ ':'
    :: (match url.authority? with
      | some a => '/' :: '/' :: authorityChars a
      | none => [])
    ++ url.path.chars
    ++ (match url.query? with
      | some q => '?' :: q
      | none => [])
    ++ match url.fragment? with
      | some f => '#' :: f
      | none => []

/-- The URL as text. -/
def render (url : Url) : String :=
  String.ofList url.chars

/-- The characters before the first one of a kind, and those behind it. -/
def cut (stop : Char) (cs : List Char) : List Char × Option (List Char) :=
  match cs.dropWhile (· ≠ stop) with
  | _ :: rest => (cs.takeWhile (· ≠ stop), some rest)
  | [] => (cs, none)

/-- The scheme in lower case, and what follows its colon. -/
def scheme? (cs : List Char) : Option (List Char × List Char) :=
  match cut ':' cs with
  | (before, some rest) =>
      let name := kept before
      if name.head?.any Char.isAlpha
          && name.all fun c => c.isAlphanum || c == '+' || c == '-' || c == '.' then
        some (name.map Char.toLower, rest)
      else none
  | (_, none) => none

/-- What follows a slash at the front. -/
def afterSlash? (kind : SchemeKind) (cs : List Char) : Option (List Char) :=
  match cs.dropWhile isDropped with
  | c :: rest => if kind.isSlash c then some rest else none
  | [] => none

/-- What follows two slashes at the front. -/
def afterSlashes? (kind : SchemeKind) (cs : List Char) : Option (List Char) :=
  (afterSlash? kind cs).bind (afterSlash? kind)

/-- The characters up to the last `@`, and those behind it. -/
def splitUser (cs : List Char) : Option (List Char) × List Char :=
  match (splitAll (· = '@') cs).reverse with
  | host :: part :: parts => (some (['@'].intercalate (part :: parts).reverse), host)
  | _ => (none, cs)

/-- The host, up to a colon outside brackets, and what follows. -/
def splitHost : (bracket : Bool) → List Char → List Char × List Char
  | _, [] => ([], [])
  | bracket, c :: rest =>
      if c = ':' ∧ !bracket then ([], c :: rest)
      else
        let bracket := if c = '[' then true else if c = ']' then false else bracket
        let (host, more) := splitHost bracket rest
        (c :: host, more)

/-- The port behind its colon; none when it is empty or the usual one. -/
def readPort (usual : Option Nat) (cs : List Char) : Except BadUrl (Option Nat) := do
  if cs.any fun c => !c.isDigit then .error .badPort
  let port := cs.foldl (fun n c => n * 10 + (c.toNat - 48)) 0
  if 65535 < port then .error .badPort
  return if cs.isEmpty ∨ usual = some port then none else some port

/-- The authority that stands behind the two slashes, and the path behind it. It
ends at a slash; a port ends at either kind of slash. `more` says that something
follows the path. -/
def readAuthority (scheme : List Char) (more : Bool) (cs : List Char) :
    Except BadUrl (Authority × List Char) := do
  let kind := SchemeKind.ofScheme scheme
  let path := cs.dropWhile fun c => !kind.isSlash c
  let (user?, place) := splitUser (kept (cs.takeWhile fun c => !kind.isSlash c))
  let (host, rest) := splitHost false place
  let digits := (rest.drop 1).takeWhile (· ≠ '\\')
  let named := user?.getD []
  let user := named.takeWhile (· ≠ ':')
  let password := named.drop (user.length + 1)
  if host.isEmpty then
    if kind ≠ .other ∨ !rest.isEmpty ∨ !user.isEmpty ∨ !password.isEmpty then .error .emptyHost
    if user? = some [] ∧ (more ∨ !path.isEmpty) then .error .emptyHost
  let host ← if kind = .other then Host.name host else Host.domain host
  let port? ← readPort (networkSchemes.lookup scheme) digits
  let escape := Percent.encode Percent.userSet
  return (⟨escape user, escape password, host, port?⟩, rest.drop (digits.length + 1) ++ path)

/-- The host of a file, and the path behind it. A drive is no host, and the
path begins with it. -/
def readFileHost (cs : List Char) : Except BadUrl (List Char × Path.Walk) := do
  let host := kept (cs.takeWhile fun c => !SchemeKind.file.isSlash c)
  let path := cs.dropWhile fun c => !SchemeKind.file.isSlash c
  if Path.isDrive host then return ([], Path.walk .file cs)
  let host ← if host.isEmpty then pure [] else Host.domain host
  if host.isEmpty ∨ host = "localhost".toList then return ([], Path.walk .file path)
  let walk := Path.walk .file (path.drop 1)
  return (if walk.onDrive then [] else host, walk)

/-- Authority and path from what stands between the scheme and the query. -/
def readPlace (scheme : List Char) (more : Bool) (cs : List Char) :
    Except BadUrl (Option Authority × Path) := do
  match SchemeKind.ofScheme scheme with
  | .file =>
      let (host, walk) ←
        match afterSlashes? .file cs with
        | some rest => readFileHost rest
        | none => pure ([], Path.walk .file ((afterSlash? .file cs).getD cs))
      return (some ⟨[], [], host, none⟩, .ofParts true walk.before)
  | .network =>
      let (authority, path) ← readAuthority scheme more
        (cs.dropWhile fun c => isDropped c || SchemeKind.network.isSlash c)
      return (some authority, .ofParts true (Path.walk .network (path.drop 1)).before)
  | .other =>
      match afterSlashes? .other cs, afterSlash? .other cs with
      | some rest, _ =>
          let (authority, path) ← readAuthority scheme more rest
          let parts := if path.isEmpty then []
            else (Path.walk .other ((afterSlash? .other path).getD path)).before
          return (some authority, .ofParts true parts)
      | none, some path => return (none, .ofParts false (Path.walk .other path).before)
      | none, none => return (none, .plain (Percent.encode [] (kept cs)))

/-- A URL from its text. Controls and spaces at the ends do not count, nor do
tabs and line ends anywhere. -/
def parse (s : String) : Except BadUrl Url := do
  let atEnd : Char → Bool := fun c => c.toNat ≤ 0x20
  let trimmed := ((s.toList.dropWhile atEnd).reverse.dropWhile atEnd).reverse
  let some (scheme, rest) := scheme? trimmed | .error .noScheme
  let (rest, fragment?) := cut '#' rest
  let (rest, query?) := cut '?' rest
  let (authority?, path) ← readPlace scheme (query?.isSome || fragment?.isSome) rest
  let querySet := Percent.querySet
    ++ if SchemeKind.ofScheme scheme = .other then [] else ['\'']
  return ⟨scheme, authority?, path,
    query?.map fun q => Percent.encode querySet (kept q),
    fragment?.map fun f => Percent.encode Percent.fragmentSet (kept f)⟩

end Url

end Docket.Http

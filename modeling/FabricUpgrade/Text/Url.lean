import FabricUpgrade.Text.Target
import FabricUpgrade.Text.Url.Host
import FabricUpgrade.Text.Url.Path

/-!
# URLs

`Url.parse?` reads an absolute URL by the rules of the web: white space around it and line breaks
within it do not count, the scheme and the host become lower case, the default port is left out, dot
segments of the path are resolved, and characters that may not stand in a part are percent-encoded
there.  `Url.text` writes it again.
-/

namespace FabricUpgrade.Text

open Percent

/-- Who asks for a URL: a name, and a secret if there is one. -/
structure UserInfo where
  name : String := ""
  secret : Option String := none
deriving DecidableEq, Repr

namespace UserInfo

/-- Reads user information. -/
def ofText (text : List Char) : UserInfo :=
  let shown (part : List Char) : String := String.ofList (encode inUserInfoSet part)
  let name := text.takeWhile (· ≠ ':')
  let secret := (text.drop name.length).drop 1
  ⟨shown name, if secret.isEmpty then none else some (shown secret)⟩

/-- Whether there is neither a name nor a secret. -/
def isEmpty (user : UserInfo) : Bool :=
  user.name = "" && user.secret.isNone

/-- Whether a part is a text with its percent-encodings undone. -/
def isText (part : String) : Bool :=
  (Utf8.decode (decode part.toList)).toOption.isSome

/-- Whether the information can be told to the server in a header: the name has to be a text, and
where it is empty the secret has to be one. -/
def isTellable (user : UserInfo) : Bool :=
  isText user.name && (user.name ≠ "" || user.secret.any isText)

/-- User information in front of a host. -/
def text (user : UserInfo) : String :=
  if user.isEmpty then "" else user.name ++ user.secret.elim "" (":" ++ ·) ++ "@"

end UserInfo

/-- An absolute URL in its normal form. -/
structure Url where
  scheme : String
  user : UserInfo := {}
  /-- The host; an empty one stands for an authority that names none. -/
  host : Option String
  port : Option Nat := none
  path : UrlPath
  query : Option String := none
  fragment : Option String := none
deriving DecidableEq, Repr

namespace Url

/-- The default port of the schemes of the web, which all have a host. -/
def webPort? : String → Option Nat
  | "http" => some 80
  | "https" => some 443
  | "ws" => some 80
  | "wss" => some 443
  | "ftp" => some 21
  | _ => none

/-- Whether the scheme is one of the web. -/
def isWeb (scheme : String) : Bool :=
  (webPort? scheme).isSome

/-- The scheme of files. -/
def fileScheme : String :=
  "file"

/-- Reads the scheme in front of a colon. -/
def scheme? (text : List Char) : Option (String × List Char) :=
  let name := text.takeWhile (· ≠ ':')
  match name, text.drop name.length with
  | first :: rest, ':' :: behind =>
    if first.isAlpha ∧ rest.all (fun character => character.isAlphanum
        || character = '+' || character = '-' || character = '.') then
      some (String.ofList (name.map Char.toLower), behind)
    else none
  | _, _ => none

/-- Whether a character ends an authority. -/
def endsAuthority (isSpecial : Bool) (character : Char) : Bool :=
  UrlPath.isSlash isSpecial character || character = '?' || character = '#'

/-- Splits the user information off, which stands in front of the last at sign.  Where nothing
stands on either side of a single one, no host is named. -/
def splitUser? (isSpecial : Bool) (text : List Char) : Option (UserInfo × List Char) :=
  let named := text.takeWhile fun character => !endsAuthority isSpecial character
  let parts := splitAt (· = '@') named
  let user := List.intercalate ['@'] parts.dropLast
  let place := parts.getLast?.getD []
  let behind := text.drop named.length
  if parts.length = 2 ∧ user.isEmpty ∧ place.isEmpty ∧ !behind.isEmpty then none
  else some (if parts.length = 1 then {} else UserInfo.ofText user, place ++ behind)

/-- Splits off the host in front of a port or a path; colons in brackets belong to it. -/
def splitHost (isSpecial : Bool) : Bool → List Char → List Char × List Char
  | _, [] => ([], [])
  | inBrackets, character :: rest =>
    if endsAuthority isSpecial character || (character = ':' && !inBrackets) then
      ([], character :: rest)
    else
      let inside := character = '[' || (inBrackets && character ≠ ']')
      let (host, behind) := splitHost isSpecial inside rest
      (character :: host, behind)

/-- Reads the port in front of a path; the default one is left out. -/
def port? (scheme : String) (text : List Char) : Option (Option Nat × List Char) :=
  match text with
  | ':' :: text =>
    let digits := text.takeWhile Char.isDigit
    let behind := text.drop digits.length
    let value := Nat.ofDigitChars 10 digits 0
    if 65535 < value ∨ behind.head?.any (fun character => !endsAuthority true character) then none
    else if digits.isEmpty ∨ webPort? scheme = some value then some (none, behind)
    else some (some value, behind)
  | text => some (none, text)

/-- Who is asked at which host and port. -/
structure Authority where
  user : UserInfo := {}
  host : String
  port : Option Nat := none

/-- Reads an authority and gives back what follows it.  A URL of the web names a host; without a
host there is no port and no user. -/
def authority? (scheme : String) (text : List Char) : Option (Authority × List Char) := do
  let isSpecial := isWeb scheme
  let (user, text) ← splitUser? isSpecial text
  let (host, text) := splitHost isSpecial false text
  if host.isEmpty then
    if isSpecial ∨ text.head? = some ':' ∨ !user.isEmpty then none else some ({ host := "" }, text)
  else
    let host ← Host.parse? isSpecial host
    let (port, text) ← port? scheme text
    some ({ user, host, port }, text)

/-- Takes the query and the fragment of a URL in. -/
def withTail (isSpecial : Bool) (query fragment : Option (List Char)) (url : Url) : Url :=
  let shown (set : Char → Bool) (text : List Char) : String := String.ofList (encode set text)
  { url with
    query := query.map (shown (inQuerySet isSpecial))
    fragment := fragment.map (shown inFragmentSet) }

/-- Reads a URL with an authority. -/
def withAuthority? (scheme : String) (text : List Char) : Option Url := do
  let isSpecial := isWeb scheme
  let (authority, text) ← authority? scheme text
  let (path, query, fragment) := splitTail text
  let path := UrlPath.ofText isSpecial path
  let { user, host, port } := authority
  return withTail isSpecial query fragment { scheme, user, host := some host, port, path }

/-- The URL of a file without a host. -/
def ofLocalFile (path : List Char) : Url :=
  { scheme := fileScheme, host := some "", path := .ofFile (UrlPath.fileSegments path) }

/-- Reads the URL of a file from behind two slashes.  A drive in the place of the host belongs to
the path, the host of the path of a drive does not count, and neither does `localhost`. -/
def remoteFile? (text : List Char) : Option Url := do
  let host := text.takeWhile fun character => !UrlPath.isSlash true character
  let path := text.drop host.length
  if UrlPath.isDrive host then return ofLocalFile text
  else if host.isEmpty then return ofLocalFile path
  else
    let host ← Host.parse? true host
    let segments := UrlPath.fileSegments path.tail
    if host = "localhost" then return ofLocalFile path
    else
      let isOnDrive := segments.head?.any UrlPath.isDrive
      return {
        scheme := fileScheme
        host := some (if isOnDrive then "" else host)
        path := .ofFile segments }

/-- Reads the URL of a file.  Without two slashes in front there is no host. -/
def file? (text : List Char) : Option Url := do
  let (path, query, fragment) := splitTail text
  let isSlash := UrlPath.isSlash true
  let url ← match path with
    | first :: second :: rest =>
      if isSlash first ∧ isSlash second then remoteFile? rest
      else some (ofLocalFile (if isSlash first then second :: rest else path))
    | path => some (ofLocalFile (path.dropWhile isSlash))
  return withTail true query fragment url

/-- Reads a URL of a scheme without a meaning of its own. -/
def general? (scheme : String) (text : List Char) : Option Url :=
  match text with
  | '/' :: '/' :: rest => withAuthority? scheme rest
  | text =>
    let (path, query, fragment) := splitTail text
    let path :=
      match path with
      | '/' :: _ => UrlPath.ofText false path
      | path => .opaqueText (String.ofList (encode inControlSet path))
    some (withTail false query fragment { scheme, host := none, path })

/-- Reads an absolute URL. -/
def parse? (text : String) : Option Url := do
  let around (character : Char) : Bool := character.toNat ≤ 0x20
  let trimmed := ((text.toList.dropWhile around).reverse.dropWhile around).reverse
  let kept := trimmed.filter fun character =>
    character ≠ '\t' && character ≠ '\n' && character ≠ '\r'
  let (scheme, behind) ← scheme? kept
  if scheme = fileScheme then file? behind
  else if isWeb scheme then withAuthority? scheme (behind.dropWhile (UrlPath.isSlash true))
  else general? scheme behind

/-- Whether the URL names a host. -/
def hasHost (url : Url) : Bool :=
  url.host.any fun host => host ≠ ""

/-- The URL without its user, if that can be told in a header. -/
def withoutUser (url : Url) : Url :=
  if url.user.isTellable then { url with user := {} } else url

/-- Writes a URL. -/
def text (url : Url) : String :=
  let port := url.port.elim "" fun port => s!":{port}"
  let authority := url.host.elim "" fun host => "//" ++ url.user.text ++ host ++ port
  url.scheme ++ ":" ++ authority ++ url.path.text url.host.isSome
    ++ (url.query.elim "" fun query => "?" ++ query)
    ++ url.fragment.elim "" fun fragment => "#" ++ fragment

/-- Whether a request can be sent to the URL: it may not be too long, and some characters that a
host may hold cannot be sent. -/
def isSendable (url : Url) : Bool :=
  let unsent : List Char := ['"', '\x60', '\x7b', '\x7d']
  (url.host.getD "").toList.all (fun character => character ∉ unsent)
    && url.text.utf8ByteSize ≤ Target.greatestSize

/-- Encodes one side of a query pair: a blank becomes a plus sign, and all but letters, digits and
`*-._` is percent-encoded. -/
def formEncode (text : String) : String :=
  let keeps (character : Char) : Bool :=
    character.isAlphanum || character ∈ ['*', '-', '.', '_', ' ']
  let encoded := encode (fun character => !keeps character) text.toList
  String.ofList (encoded.map fun character => if character = ' ' then '+' else character)

/-- The text of query pairs. -/
def formText (pairs : List (String × String)) : String :=
  "&".intercalate (pairs.map fun pair => formEncode pair.1 ++ "=" ++ formEncode pair.2)

/-- Appends pairs to the query; without a pair an empty query goes away. -/
def appendQuery (pairs : List (String × String)) (url : Url) : Url :=
  let old := url.query.getD ""
  let new := formText pairs
  let joined := if old = "" ∨ new = "" then old ++ new else old ++ "&" ++ new
  { url with query := if joined = "" then none else some joined }

end Url

end FabricUpgrade.Text

import FabricUpgrade.Text.Percent
import FabricUpgrade.Text.Split

/-!
# Paths of URLs

The path of a URL with a hierarchy is a list of segments, in which dot segments are resolved.  A
segment that names a drive, such as `C:`, is not left again.
-/

namespace FabricUpgrade.Text

/-- The path of a URL: its segments, or a text of its own behind a scheme without a hierarchy. -/
inductive UrlPath where
  | segments (list : List String)
  | opaqueText (text : String)
deriving DecidableEq, Repr

namespace UrlPath

/-- Whether a segment stands for the place it is in. -/
def isSingleDot (segment : List Char) : Bool :=
  String.ofList (segment.map Char.toLower) ∈ [".", "%2e"]

/-- Whether a segment leads one level up. -/
def isDoubleDot (segment : List Char) : Bool :=
  String.ofList (segment.map Char.toLower) ∈ ["..", ".%2e", "%2e.", "%2e%2e"]

/-- Whether a segment names a drive: a letter and a colon or a bar. -/
def isDrive (segment : List Char) : Bool :=
  match segment with
  | [letter, mark] => letter.isAlpha && (mark = ':' || mark = '|')
  | _ => false

/-- The segments of which the last one is left, unless it names a drive. -/
def leave (passed : List (List Char)) : List (List Char) :=
  if passed.head?.any isDrive then passed else passed.tail

/-- Resolves dot segments.  The segments passed so far are given in reverse; a dot segment at the
end leaves an empty segment. -/
def resolve : List (List Char) → List (List Char) → List (List Char)
  | passed, [] => passed.reverse
  | passed, segment :: rest =>
    if isDoubleDot segment then
      let left := leave passed
      resolve (if rest.isEmpty then [] :: left else left) rest
    else if isSingleDot segment then resolve (if rest.isEmpty then [] :: passed else passed) rest
    else resolve (segment :: passed) rest

/-- Whether a character ends a segment. -/
def isSlash (isSpecial : Bool) (character : Char) : Bool :=
  character = '/' || (isSpecial && character = '\\')

/-- The resolved segments of a path behind its first slash. -/
def segmentsOf (isSpecial : Bool) (path : List Char) : List (List Char) :=
  (resolve [] (splitAt (isSlash isSpecial) path)).map (Percent.encode Percent.inPathSet)

/-- The path of resolved segments. -/
def ofSegments (segments : List (List Char)) : UrlPath :=
  .segments (segments.map String.ofList)

/-- Reads the path behind an authority; that of a scheme of the web is never empty. -/
def ofText (isSpecial : Bool) (path : List Char) : UrlPath :=
  match path with
  | [] => .segments (if isSpecial then [""] else [])
  | first :: behind =>
    ofSegments (segmentsOf isSpecial (if isSlash isSpecial first then behind else path))

/-- The segments of a file behind the first slash.  A drive in front is written with a colon, and
empty segments in front do not count. -/
def fileSegments (path : List Char) : List (List Char) :=
  match segmentsOf true path with
  | segment :: rest => (if isDrive segment then segment.take 1 ++ [':'] else segment) :: rest
  | [] => []

/-- The path of a file, to which empty segments in front do not count. -/
def ofFile (segments : List (List Char)) : UrlPath :=
  let named := segments.dropWhile List.isEmpty
  ofSegments (if named.isEmpty then [[]] else named)

/-- Writes a path.  Behind a scheme alone, two slashes in front would be read as an authority. -/
def text (hasAuthority : Bool) : UrlPath → String
  | .segments list =>
    let shown := String.join (list.map fun segment => "/" ++ segment)
    let isMistaken := !hasAuthority && list.head? = some "" && 1 < list.length
    if isMistaken then "/." ++ shown else shown
  | .opaqueText text => text

end UrlPath

end FabricUpgrade.Text

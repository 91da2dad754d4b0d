import FabricUpgrade.Text.Split

/-!
# Targets of requests

The target of a request names a path and, behind a question mark, a query.  What follows a number
sign is for the client alone and not part of either.  `Target.ofText` takes a target apart;
`Target.isValid` tells whether one may be sent as it is.
-/

namespace FabricUpgrade.Text

/-- What a request is sent to. -/
structure Target where
  path : String
  query : Option String := none
deriving DecidableEq, Repr

namespace Target

/-- Whether a character may stand in a path. -/
def allowedInPath (character : Char) : Bool :=
  0x20 < character.toNat && character.toNat ≠ 0x7F
    && character ∉ ['#', '<', '>', '?', '\x60']

/-- Whether a character may stand in a query. -/
def allowedInQuery (character : Char) : Bool :=
  0x20 < character.toNat && character.toNat ≠ 0x7F && character ∉ ['"', '#', '<', '>']

/-- How many bytes a target may take. -/
def greatestSize : Nat :=
  65534

/-- Whether the path and the query of a text hold no character that may not stand there. -/
def isValid (text : String) : Bool :=
  let (path, query, _) := splitTail text.toList
  path.all allowedInPath && (query.getD []).all allowedInQuery && text.utf8ByteSize ≤ greatestSize

/-- Drops the scheme and the authority of a target that has both; nothing if it has no scheme. -/
def behindAuthority? : List Char → Option (List Char)
  | ':' :: '/' :: '/' :: rest =>
    some (rest.dropWhile fun character => character ≠ '/' && character ≠ '?' && character ≠ '#')
  | ':' :: _ => none
  | _ :: rest => behindAuthority? rest
  | [] => none

/-- Takes a path with its query apart. -/
def ofPath (text : List Char) : Target :=
  let (path, query, _) := splitTail text
  ⟨String.ofList path, query.map String.ofList⟩

/-- Takes a target apart.  It is a path or the whole URL of one, where no path means the root; an
asterisk stands for itself, and an authority alone has no path. -/
def ofText (text : String) : Target :=
  match text.toList with
  | '/' :: rest => ofPath ('/' :: rest)
  | ['*'] => ⟨"*", none⟩
  | characters =>
    match behindAuthority? characters with
    | none => ⟨"", none⟩
    | some rest =>
      let target := ofPath rest
      if target.path = "" then { target with path := "/" } else target

end Target

end FabricUpgrade.Text

import RebasingProxy.Uri.Authority

/-! # Request URIs

A URI is a path with an optional query, or an absolute one with scheme and authority
before them, or an authority alone. Reading drops a fragment, lower-cases the schemes
`http` and `https`, and gives an absolute URI without a path the path `/`.
-/
namespace RebasingProxy

structure Uri where
  scheme : Option String := none
  authority : Option String := none
  path : String
  query : Option String := none
deriving DecidableEq, Repr

namespace Uri

def maxLength : Nat := 65534
def maxSchemeLength : Nat := 64

def isSchemeChar (c : Char) : Bool := c.isAlphanum || "+-.~".toList.contains c

/-- Visible ASCII that may stand in a path as it is, and every character beyond ASCII. -/
def isPathChar (c : Char) : Bool :=
  (0x21 ≤ c.toNat && c.toNat < 0x7f && !"#<>?\x60".toList.contains c) || 0x80 ≤ c.toNat

/-- Visible ASCII that may stand in a query as it is, and every character beyond ASCII. -/
def isQueryChar (c : Char) : Bool :=
  (0x21 ≤ c.toNat && c.toNat < 0x7f && !"\"#<>".toList.contains c) || 0x80 ≤ c.toNat

/-- The scheme before a colon and two slashes, and what follows them; without such a
scheme the whole text remains. -/
def readScheme (text : List Char) : Except UriError (Option String × List Char) :=
  if "http://".toList.isPrefixOf (text.map Char.toLower) then .ok (some "http", text.drop 7)
  else if "https://".toList.isPrefixOf (text.map Char.toLower) then
    .ok (some "https", text.drop 8)
  else
    let scheme := text.takeWhile isSchemeChar
    let rest := text.drop scheme.length
    if text.length > 3 && "://".toList.isPrefixOf rest then
      if scheme.length > maxSchemeLength then .error .schemeTooLong
      else .ok (some (String.ofList scheme), rest.drop 3)
    else .ok (none, text)

def readPath (text : List Char) : Except UriError (String × Option String) := do
  let path := text.takeWhile fun c => c != '?' && c != '#'
  if !path.all isPathChar then throw .invalidCharacter
  match text.drop path.length with
  | '?' :: rest =>
    let query := rest.takeWhile (· != '#')
    if !query.all isQueryChar then throw .invalidCharacter
    return (String.ofList path, some (String.ofList query))
  | _ => return (String.ofList path, none)

def readAddressed (text : List Char) : Except UriError Uri := do
  let (scheme, rest) ← readScheme text
  let authority := rest.takeWhile fun c => !Authority.endsAuthority c
  let after := rest.drop authority.length
  if rest.isEmpty then throw .emptyText
  Authority.check authority
  match scheme with
  | none =>
    if !after.isEmpty then
      throw (if text.length = 1 then .invalidCharacter else .invalidFormat)
    return { authority := some (String.ofList authority), path := "" }
  | some scheme =>
    if authority.isEmpty then throw .invalidFormat
    let (path, query) ← readPath after
    return { scheme := some scheme, authority := some (String.ofList authority)
             path := if path.isEmpty then "/" else path, query := query }

def parse (text : String) : Except UriError Uri :=
  if text.utf8ByteSize > maxLength then .error .tooLong
  else if text.isEmpty then .error .emptyText
  else if text == "*" then .ok { path := "*" }
  else if text.toList.head? == some '/' then do
    let (path, query) ← readPath text.toList
    return { path := path, query := query }
  else readAddressed text.toList

def queryText (query : Option String) : String :=
  match query with
  | some q => "?" ++ q
  | none => ""

def pathAndQuery (uri : Uri) : String := uri.path ++ queryText uri.query

def text (uri : Uri) : String :=
  (match uri.scheme with
    | some scheme => scheme ++ "://"
    | none => "") ++ uri.authority.getD "" ++ uri.pathAndQuery

end Uri

end RebasingProxy

import BotOps.Remote.Host
import BotOps.Text.Base64

/-!
# Addresses

The addresses of the web. Reading one forgives much: blanks around it, tabs and line ends in it,
backslashes for slashes and characters that have to be escaped. Segments that mean the place itself
or the place above are resolved, and the fragment is dropped. What stands before the host says who
asks.
-/

namespace BotOps.Remote

open BotOps.Text

/-- Where a server is reached. -/
structure Origin where
  secure : Bool
  host : Host
  port : Nat
deriving DecidableEq, Repr

/-- The origin with its host as it is found. -/
def Origin.resolved (origin : Origin) : Origin := { origin with host := origin.host.resolved }

/-- Who asks. -/
structure Login where
  name : String
  password : Option String
deriving DecidableEq, Repr

/-- How a login is shown to a server. -/
def Login.credential (login : Login) : String :=
  let shown := login.name.toList ++ ':' :: (login.password.getD "").toList
  "Basic " ++ String.ofList (Base64.encode (Utf8.encode shown))

/-- An address: who asks which server, and what is asked of it. -/
structure Url where
  login : Option Login
  origin : Origin
  path : String
  query : Option String
deriving DecidableEq, Repr

namespace Url

/-- The characters that a path cannot hold as they are. -/
def escapedInPath : List Char := " \"#<>?`\x7b\x7d".toList

/-- The characters that a query cannot hold as they are. -/
def escapedInQuery : List Char := " \"#<>'".toList

/-- Puts a character in front of parts: one that separates opens a new first part, any other
extends the first one. -/
def pushChar (separates : Char → Bool) (c : Char) : List (List Char) → List (List Char)
  | [] => [[c]]
  | part :: parts => if separates c then [] :: part :: parts else (c :: part) :: parts

/-- The parts of a text between separators. -/
def split (separates : Char → Bool) (text : List Char) : List (List Char) :=
  text.foldr (pushChar separates) [[]]

/-- A character that separates the segments of a path. -/
def isSlash (c : Char) : Bool := c = '/' || c = '\\'

/-- The segment written plainly: an escaped point is a point. -/
def plainPoints : List Char → List Char
  | '%' :: '2' :: c :: rest =>
    if c = 'e' ∨ c = 'E' then '.' :: plainPoints rest else '%' :: '2' :: plainPoints (c :: rest)
  | c :: rest => c :: plainPoints rest
  | [] => []

/-- Goes on from some segments, last one first, by further ones. A last segment that is resolved
leaves an empty one. -/
def resolve : List (List Char) → List (List Char) → List (List Char)
  | segments, [] => segments
  | segments, segment :: rest =>
    let plain := plainPoints segment
    let segments :=
      if plain = ['.', '.'] then segments.tail
      else if plain = ['.'] then segments
      else segment :: segments
    let resolved := plain = ['.', '.'] ∨ plain = ['.']
    if rest = [] ∧ resolved then [] :: segments else resolve segments rest

/-- The path that a text writes, which is empty or begins with a slash. -/
def pathOf (text : List Char) : List Char :=
  let segments := (resolve [] (split isSlash (text.drop 1))).reverse
  segments.flatMap fun segment ↦ '/' :: Percent.encode escapedInPath segment

/-- Reads a port behind a host; without one the usual port is meant. -/
def port? (usual : Nat) (text : List Char) : Option Nat :=
  if text.all Char.isDigit then
    let port := text.foldl (fun n c ↦ 10 * n + (c.toNat - '0'.toNat)) 0
    if text = [] then some usual else if port < UInt16.size then some port else none
  else none

/-- Reads a host and a port. -/
def origin? (secure : Bool) (text : List Char) : Option Origin := do
  let usual := if secure then 443 else 80
  let host ← Host.parse? (text.takeWhile (· ≠ ':'))
  let port ← port? usual ((text.dropWhile (· ≠ ':')).drop 1)
  return ⟨secure, host, port⟩

/-- Reads who asks. A password that is empty is none, and so is one that writes no text; a name
that writes no text makes the whole worth nothing. -/
def login? (text : List Char) : Option Login := do
  let name ← Percent.decodeText? (text.takeWhile (· ≠ ':'))
  let secret := (text.dropWhile (· ≠ ':')).drop 1
  let password := if secret = [] then none else Percent.decodeText? secret
  if name = [] ∧ password = none then none
  else some ⟨String.ofList name, password.map String.ofList⟩

/-- Cuts the text before a path at its last `@` into who asks, which may be left out, and the
server. -/
def cutLogin (text : List Char) : List Char × List Char :=
  let server := (text.reverse.takeWhile (· ≠ '@')).reverse
  (text.take (text.length - server.length - 1), server)

/-- What is left of a text behind a scheme and its colon, in any case of letters. -/
def dropScheme? (scheme : String) (text : List Char) : Option (List Char) :=
  let front := text.take (scheme.length + 1)
  if front.map Char.toLower = scheme.toList ++ [':'] then some (text.drop (scheme.length + 1))
  else none

/-- Reads the scheme: whether the connection is secure, and the text behind it. -/
def scheme? (text : List Char) : Option (Bool × List Char) :=
  match dropScheme? "http" text with
  | some rest => some (false, rest)
  | none => (dropScheme? "https" text).map fun rest ↦ (true, rest)

/-- A text without controls and blanks at its ends, and without tabs and line ends. -/
def cleaned (text : List Char) : List Char :=
  let isEdge (c : Char) : Bool := c.toNat ≤ 0x20
  let trimmed := ((text.dropWhile isEdge).reverse.dropWhile isEdge).reverse
  trimmed.filter fun c ↦ c != '\t' && c != '\n' && c != '\r'

/-- The address that a text writes. -/
def parse? (text : String) : Option Url := do
  let (secure, rest) ← scheme? (cleaned text.toList)
  let rest := rest.dropWhile isSlash
  let front := rest.takeWhile fun c ↦ !isSlash c && c != '?' && c != '#'
  let (login, server) := cutLogin front
  let origin ← origin? secure server
  let rest := (rest.drop front.length).takeWhile (· != '#')
  let path := rest.takeWhile (· != '?')
  let query := match rest.drop path.length with
    | [] => none
    | _ :: query => some (String.ofList (Percent.encode escapedInQuery query))
  return ⟨login? login, origin, String.ofList (pathOf path), query⟩

/-- What is asked of the server: the path and the query. -/
def target (url : Url) : String :=
  match url.query with
  | none => url.path
  | some query => url.path ++ "?" ++ query

end Url

end BotOps.Remote

import ChatLink.Url.Host
import ChatLink.Url.Path

/-!
# Addresses in parts

An address has a scheme, and after it, for the schemes of the web, the name and password of a user,
a host, a port, a path, a query and a fragment. `Url.parse` takes an address apart and brings every
part into its normal form; `Url.text` puts it together again. Addresses of other schemes are only
checked for faults.
-/

namespace ChatLink

/-- An address of a web scheme in normal form. -/
structure Url where
  scheme : String
  username : String
  password : String
  host : Url.Host
  /-- The port, unless it is the scheme's own. -/
  port : Option Nat
  path : List String
  query : Option String
  fragment : Option String
  deriving DecidableEq, Repr

namespace Url

/-! ## Schemes -/

/-- The schemes of the web and their ports. -/
def defaultPort? (scheme : String) : Option Nat :=
  match scheme with
  | "ws" | "http" => some 80
  | "wss" | "https" => some 443
  | "ftp" => some 21
  | _ => none

/-- What a scheme has after its first letter. -/
def isSchemeChar (c : Char) : Bool := c.isAlphanum || c == '+' || c == '-' || c == '.'

/-- The scheme in lower case, and what follows its colon. -/
def splitScheme? (cs : List Char) : Option (String × List Char) :=
  match cs with
  | [] => none
  | c :: _ =>
    if c.isAlpha then
      match cs.dropWhile isSchemeChar with
      | ':' :: rest => some (String.ofList ((cs.takeWhile isSchemeChar).map Char.toLower), rest)
      | _ => none
    else none

/-! ## The authority -/

/-- What ends the part with user, host and port. The backslash counts as a slash on the web. -/
def endsAuthority (web : Bool) (c : Char) : Bool :=
  c == '/' || c == '?' || c == '#' || (web && c == '\\')

/-- What stands before the last at sign, if there is one, and what stands after it. -/
def splitUser (authority : List Char) : Option (List Char) × List Char :=
  if authority.contains '@' then
    let back := authority.reverse
    (some ((back.dropWhile (· != '@')).drop 1).reverse, (back.takeWhile (· != '@')).reverse)
  else (none, authority)

/-- The name and the password of a user; the first colon stands between them. -/
def userParts (user : List Char) : String × String :=
  (Percent.encode Percent.inUserinfo (user.takeWhile (· != ':')),
    Percent.encode Percent.inUserinfo ((user.dropWhile (· != ':')).drop 1))

/-- The host, and what follows its colon if there is one. A colon in brackets belongs to the
host. -/
def splitPort (inside : Bool) (host : List Char) : List Char → List Char × Option (List Char)
  | [] => (host.reverse, none)
  | c :: rest =>
    if c = ':' ∧ !inside then (host.reverse, some rest)
    else splitPort (if c = '[' then true else if c = ']' then false else inside) (c :: host) rest

/-- The port that digits spell; none if there are no digits. -/
def parsePort (digits : List Char) : Except Fault (Option Nat) :=
  if digits.isEmpty then .ok none
  else if digits.all Char.isDigit then
    let n := digits.foldl (fun n c => n * 10 + (c.toNat - '0'.toNat)) 0
    if n ≤ 0xffff then .ok (some n) else .error .port
  else .error .port

/-- The authority of an address of the web, from what is written of it and what follows it. -/
def parseAuthority (scheme : String) (authority : List Char) :
    Except Fault (String × String × Host × Option Nat) := do
  let (user, place) := splitUser authority
  let (host, port) := splitPort false [] place
  if host.isEmpty then throw .emptyHost
  let host ← Host.parse host
  let port ← parsePort (port.getD [])
  let (username, password) := userParts (user.getD [])
  return (username, password, host, if port = defaultPort? scheme then none else port)

/-- Whether there is a fault in the authority of an address of an unknown kind. -/
def checkForeignAuthority (authority after : List Char) : Except Fault Unit := do
  let (user, place) := splitUser authority
  let (host, port) := splitPort false [] place
  if user = some [] ∧ place.isEmpty ∧ !after.isEmpty then throw .emptyHost
  let _ ← Host.parseForeign host
  if host.isEmpty ∧ port.isSome then throw .emptyHost
  let _ ← parsePort ((port.getD []).takeWhile (· != '\\'))
  if host.isEmpty ∧ userParts (user.getD []) ≠ ("", "") then throw .emptyHost

/-- Whether there is a fault in an address of a file. Only a host can have one. -/
def checkFile (rest : List Char) : Except Fault Unit :=
  match rest with
  | a :: b :: rest =>
    let host := rest.takeWhile (!endsAuthority true ·)
    if endsAuthority true a ∧ endsAuthority true b ∧ a ≠ '?' ∧ a ≠ '#' ∧ b ≠ '?' ∧ b ≠ '#'
        ∧ !host.isEmpty ∧ !Path.isDrive (String.ofList host) then
      (Host.parse host).map fun _ => ()
    else .ok ()
  | _ => .ok ()

/-! ## Whole addresses -/

/-- An address that was taken apart. -/
inductive Parsed where
  | web (url : Url)
  /-- An address of another scheme, in which no fault was found. -/
  | foreign (scheme : String)
  deriving DecidableEq, Repr

/-- The characters of an address : without control characters and spaces around it, and without
tabs and line breaks in it. -/
def significant (text : String) : List Char :=
  let outer (c : Char) : Bool := c.toNat ≤ 0x20
  let trimmed := ((text.toList.dropWhile outer).reverse.dropWhile outer).reverse
  trimmed.filter fun c => c != '\t' && c != '\n' && c != '\r'

/-- The part after a mark, if the mark is there. -/
def partAfter (mark : Char) : List Char → Option (List Char)
  | c :: rest => if c = mark then some rest else none
  | [] => none

/-- An address of the web, from what follows the scheme's colon. -/
def parseWeb (scheme : String) (rest : List Char) : Except Fault Url := do
  let rest := rest.dropWhile fun c => c == '/' || c == '\\'
  let (username, password, host, port) ←
    parseAuthority scheme (rest.takeWhile (!endsAuthority true ·))
  let rest := rest.dropWhile (!endsAuthority true ·)
  let path := rest.takeWhile fun c => c != '?' && c != '#'
  let rest := rest.drop path.length
  let query := (partAfter '?' rest).map (·.takeWhile (· != '#'))
  let fragment := partAfter '#' (rest.dropWhile (· != '#'))
  return {
    scheme := scheme
    username := username
    password := password
    host := host
    port := port
    path := Path.parse (path.drop 1)
    query := query.map (Percent.encode Percent.inQuery)
    fragment := fragment.map (Percent.encode Percent.inFragment) }

/-- Takes an address apart. -/
def parse (text : String) : Except Fault Parsed :=
  match splitScheme? (significant text) with
  | none => .error .relative
  | some (scheme, rest) =>
    if (defaultPort? scheme).isSome then (parseWeb scheme rest).map .web
    else if scheme = "file" then (checkFile rest).map fun _ => .foreign scheme
    else
      match rest with
      | '/' :: '/' :: rest =>
        (checkForeignAuthority (rest.takeWhile (!endsAuthority false ·))
          (rest.dropWhile (!endsAuthority false ·))).map fun _ => .foreign scheme
      | _ => .ok (.foreign scheme)

/-- The user's part with its at sign. -/
def userText (u : Url) : String :=
  if u.username.isEmpty && u.password.isEmpty then ""
  else if u.password.isEmpty then u.username ++ "@"
  else u.username ++ ":" ++ u.password ++ "@"

/-- The written form of an address. -/
def text (u : Url) : String :=
  u.scheme ++ "://" ++ u.userText ++ u.host.text
    ++ (match u.port with | some n => ":" ++ toString n | none => "")
    ++ Path.text u.path
    ++ (match u.query with | some q => "?" ++ q | none => "")
    ++ (match u.fragment with | some f => "#" ++ f | none => "")

end Url

end ChatLink

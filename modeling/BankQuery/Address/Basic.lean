import BankQuery.Address.Domain

/-!
# Addresses

An address begins with a scheme. Behind two slashes follow a login, a host and a port, behind these
a path, a query behind a question mark, and a fragment behind a number sign, which does not count.
The schemes of the web are read with less care for slashes and more for the host.
-/

namespace BankQuery

inductive SchemeKind where
  /-- A scheme of the web, which needs a host. -/
  | web
  | file
  | plain
deriving DecidableEq

structure Address where
  kind : SchemeKind
  user : List Char := []
  password : List Char := []
  /-- The host as it is written, empty if there is none. -/
  host : List Char := []
  /-- The path between its slashes. -/
  path : List (List Char) := []
  query : List Char := []

namespace Address

/-- Blanks and control characters, which do not count around an address. -/
def isEdge (c : Char) : Bool := c.toNat ≤ 32

def trimEdges (cs : List Char) : List Char :=
  ((cs.dropWhile isEdge).reverse.dropWhile isEdge).reverse

/-- Characters that do not count anywhere in an address. -/
def isBreak (c : Char) : Bool := c == '\t' || c == '\n' || c == '\r'

def isSchemePart (c : Char) : Bool := c.isAlphanum || c == '+' || c == '-' || c == '.'

def readScheme? (cs : List Char) : Option (String × List Char) :=
  let scheme := cs.takeWhile isSchemePart
  match scheme, cs.drop scheme.length with
  | c :: _, ':' :: rest =>
    if c.isAlpha then some (String.ofList (scheme.map Char.toLower), rest) else none
  | _, _ => none

def schemeKind (scheme : String) : SchemeKind :=
  if scheme = "file" then .file
  else if ["http", "https", "ws", "wss", "ftp"].contains scheme then .web
  else .plain

def isSlash (c : Char) : Bool := c == '/' || c == '\\'

def isSeparator (kind : SchemeKind) (c : Char) : Bool :=
  if kind = .plain then c == '/' else isSlash c

def isTail (c : Char) : Bool := c == '?' || c == '#'

/-- A part of a path that stands for the place where it is. -/
def isHere (part : List Char) : Bool :=
  [".", "%2e"].contains (String.ofList (part.map Char.toLower))

/-- A part of a path that takes back the part before it. -/
def isBack (part : List Char) : Bool :=
  ["..", ".%2e", "%2e.", "%2e%2e"].contains (String.ofList (part.map Char.toLower))

/-- A letter and a colon or a bar, which name a drive. -/
def isDrive (part : List Char) : Bool :=
  match part with
  | [c, d] => c.isAlpha && (d == ':' || d == '|')
  | _ => false

/-- The parts of a path after one more, the last of them first. A drive is not taken back. -/
def addPart (parts : List (List Char)) (part : List Char) : List (List Char) :=
  if isBack part then
    match parts with
    | last :: rest => if isDrive last then parts else rest
    | [] => []
  else if isHere part then parts
  else part :: parts

def pathParts (kind : SchemeKind) (cs : List Char) : List (List Char) :=
  let path := cs.takeWhile (!isTail ·)
  let path := if path.head?.any (isSeparator kind) then path.tail else path
  ((pieces (isSeparator kind) path).foldl addPart []).reverse

def queryPart (cs : List Char) : List Char :=
  match cs.dropWhile (!isTail ·) with
  | '?' :: rest => rest.takeWhile (· != '#')
  | _ => []

/-- What stands before the last sign of a login, if there is one, and what stands behind it. -/
def splitLogin (cs : List Char) : Option (List Char) × List Char :=
  if cs.contains '@' then
    let behind := (cs.reverse.takeWhile (· != '@')).reverse
    (some (cs.take (cs.length - behind.length - 1)), behind)
  else (none, cs)

/-- The host, and what stands from the colon behind it on. A colon between brackets is none. -/
def splitHost (inside : Bool) : List Char → List Char × List Char
  | [] => ([], [])
  | c :: rest =>
    if c = ':' ∧ !inside then ([], c :: rest)
    else
      let (host, behind) := splitHost (if c = '[' then true else if c = ']' then false else inside)
        rest
      (c :: host, behind)

/-- What stands behind the port, if there is one and it is a port. A backslash ends it. -/
def afterPort? (cs : List Char) : Option (List Char) :=
  match cs with
  | ':' :: rest =>
    let digits := rest.takeWhile Char.isDigit
    let behind := rest.drop digits.length
    if (Number.valueIn? 10 digits).all (· ≤ 65535) && (behind.isEmpty || behind.head? == some '\\')
    then some behind
    else none
  | _ => some cs

/-- An address from behind its two slashes. A login, a port and the web need a host; a login that is
empty, or a colon alone, is none, unless something other than a host follows it. -/
def ofAuthority? (kind : SchemeKind) (cs : List Char) : Option Address := do
  let authority := cs.takeWhile fun c => !(isSeparator kind c || isTail c)
  let rest := cs.drop authority.length
  let (login, server) := splitLogin authority
  let (host, behind) := splitHost false server
  let path ← afterPort? behind
  let hasLogin := match login with
    | none => false
    | some [] => server.isEmpty && !rest.isEmpty
    | some login => login != [':']
  let valid :=
    if host.isEmpty then !(hasLogin || !behind.isEmpty || kind = .web)
    else if kind = .plain then isOpaqueHost host
    else isNamedHost host
  if !valid then none
  let login := login.getD []
  let user := login.takeWhile (· != ':')
  return { kind, user, password := login.drop (user.length + 1), host,
           path := pathParts kind (path ++ rest), query := queryPart (path ++ rest) }

/-- The address of a file, from behind the scheme. A drive is no host. -/
def ofFile? (cs : List Char) : Option Address :=
  match cs with
  | a :: b :: rest =>
    if isSlash a && isSlash b then
      let host := rest.takeWhile fun c => !(isSlash c || isTail c)
      if host.isEmpty || isDrive host then some (noHost rest)
      else if isNamedHost host then some { noHost (rest.drop host.length) with host }
      else none
    else some (noHost cs)
  | _ => some (noHost cs)
where
  noHost (cs : List Char) : Address :=
    { kind := .file, path := pathParts .file cs, query := queryPart cs }

def ofText? (text : String) : Option Address := do
  let (scheme, rest) ← readScheme? ((trimEdges text.toList).filter (!isBreak ·))
  match schemeKind scheme with
  | .web => ofAuthority? .web (rest.dropWhile isSlash)
  | .file => ofFile? rest
  | .plain =>
    match rest with
    | '/' :: '/' :: rest => ofAuthority? .plain rest
    | '/' :: _ => some { kind := .plain, path := pathParts .plain rest, query := queryPart rest }
    | _ =>
      some { kind := .plain, path := [rest.takeWhile (!isTail ·)], query := queryPart rest }

end Address

end BankQuery

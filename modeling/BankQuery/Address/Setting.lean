import BankQuery.Address.Basic
import BankQuery.Number.Nearest
import BankQuery.Text.Case

/-!
# Addresses of databases

The query of an address holds settings of the connection. A connection can be prepared for an
address when its parts are texts and its settings have values that can be used; settings with other
names do not matter.
-/

namespace BankQuery.Address

def securityModes : List String :=
  ["disable", "allow", "prefer", "require", "verify-ca", "verify-full"]

def isSetting (name value : String) : Bool :=
  if name = "sslmode" ∨ name = "ssl-mode" then securityModes.contains (Text.asciiLower value)
  else if name = "statement-cache-capacity" then
    (Number.readNat? (UInt64.size - 1) value).isSome
  else if name = "port" then (Number.readNat? 65535 value).isSome
  else if name = "hostaddr" then isInternet value.toList
  else true

/-- Stands for a value that is no text. -/
def unreadable : String := String.singleton (Char.ofNat 0xFFFD)

/-- A name and a value with a sign between them. What is no text is no value that can be used and
no name that matters. -/
def isSettingText (cs : List Char) : Bool :=
  let name := cs.takeWhile (· != '=')
  match decodeForm? name with
  | none => true
  | some known =>
    isSetting known ((decodeForm? (cs.drop (name.length + 1))).getD unreadable)

def settings (a : Address) : List (List Char) :=
  (pieces (· == '&') a.query).filter (!·.isEmpty)

/-- A host that begins with a slash is the place of a socket, and that has to be a text. -/
def isHostText (host : List Char) : Bool :=
  (octets host).head? != some (UInt8.ofNat '/'.toNat) || isText host

/-- Whether a connection can be prepared for an address. -/
def isUsable (a : Address) : Bool :=
  isText a.user && isText a.password && isHostText a.host && a.path.all isText &&
    a.settings.all isSettingText

def isValid (text : String) : Bool := (ofText? text).any isUsable

end BankQuery.Address

import Cutover.Address.Fault
import Cutover.Address.Number
import Cutover.Decimal.Numeral
import Cutover.HostName

/-!
# Addresses of services

The address of a service names a scheme, a host and perhaps a port, and a path. An address may leave
out what comes before the path.

* `Address.parts`: the parts of an address;
* `Address.check`: an address can be used.
-/

namespace Cutover

/-- The parts of an address that are looked at. -/
structure Address where
  scheme : List Char
  user : List Char
  host : List Char
  port : List Char
  path : List Char
  deriving DecidableEq, Repr

namespace Address

/-- The most characters an address has. -/
def lengthLimit : Nat := 65536

/-- A control character. -/
def isControl (c : Char) : Bool := c.toNat < 32 || c.toNat = 127

/-- A character of a scheme behind its first letter. -/
def isSchemeChar (c : Char) : Bool := c.isAlphanum || c = '+' || c = '.' || c = '-'

/-- The scheme before a colon, which may be empty, and the rest. -/
def splitScheme (cs : List Char) : List Char × List Char :=
  let scheme :=
    match cs with
    | c :: r => if c.isAlpha then c :: r.takeWhile isSchemeChar else []
    | [] => []
  match cs.drop scheme.length with
  | ':' :: r => (scheme, r)
  | _ => ([], cs)

/-- User, host and port behind two slashes, and the rest. -/
def splitAuthority (cs : List Char) : List Char × List Char :=
  match cs with
  | '/' :: '/' :: r => r.span fun c => c ≠ '/' && c ≠ '?' && c ≠ '#'
  | _ => ([], cs)

/-- What stands up to the last place of a character, that place included, and the rest. -/
def splitLast (mark : Char) (cs : List Char) : List Char × List Char :=
  let tail := (cs.reverse.takeWhile (· ≠ mark)).reverse
  (cs.take (cs.length - tail.length), tail)

/-- A host, which may stand in brackets, and the port behind it. -/
def splitHost (cs : List Char) : List Char × List Char :=
  let (bracketed, behind) := splitLast ']' cs
  let (host, rest) :=
    if cs.head? = some '[' && !bracketed.isEmpty then (bracketed, behind)
    else cs.span (· ≠ ':')
  match rest with
  | ':' :: port => (host, port)
  | port => (host, port)

/-- **The parts of an address.** -/
def parts (address : String) : Address :=
  let (scheme, rest) := splitScheme address.toList
  let (authority, rest) := splitAuthority rest
  let (user, rest') := splitLast '@' authority
  let (host, port) := splitHost rest'
  { scheme, user := user.dropLast, host, port
    path := rest.takeWhile fun c => c ≠ '?' && c ≠ '#' }

/-- The host can be used: it is empty, an address by number, of plain characters, or a name. -/
def checkHost (host : List Char) : Except AddressFault Unit :=
  let text := String.ofList host
  let inner := (host.drop 1).dropLast
  if looksNumeric host then if isFour host then .ok () else .error (.badFour text)
  else if host.head? = some '[' && 2 ≤ host.length && host.getLast? = some ']' then
    if isBracketed inner then .ok () else .error (.badBracketed text)
  else if host.all Punycode.isPlain then .ok ()
  else if HostName.isValid (host.flatMap lowerCase) then .ok ()
  else .error (.badName text)

/-- The port is left out or a number. -/
def checkPort (port : List Char) : Except AddressFault Unit :=
  if port.isEmpty then .ok ()
  else
    match readWhole (String.ofList port) with
    | .ok _ => .ok ()
    | .error _ => .error (.badPort (String.ofList port))

/-- A path with nothing before it starts neither with two slashes nor with a colon. -/
def checkPath (a : Address) : Except AddressFault Unit :=
  if !(a.scheme.isEmpty && a.user.isEmpty && a.host.isEmpty && a.port.isEmpty) then .ok ()
  else
    match a.path with
    | '/' :: '/' :: _ => .error .leadingSlashes
    | ':' :: _ => .error .leadingColon
    | _ => .ok ()

/-- No control character stands in an address. -/
def checkChars (cs : List Char) : Except AddressFault Unit :=
  match cs.dropWhile fun c => !isControl c with
  | c :: r => .error (.control c (cs.length - r.length - 1))
  | [] => .ok ()

/-- **An address can be used**, or the first thing that stands against it. -/
def check (address : String) : Except AddressFault Unit := do
  if lengthLimit < address.length then .error .tooLong
  checkChars address.toList
  let a := parts address
  checkHost a.host
  checkPort a.port
  a.checkPath

end Address

end Cutover

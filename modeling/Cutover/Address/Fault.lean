import Cutover.Text.Quoted

/-!
# Faults of addresses

* `AddressFault`: why an address cannot be used, with `AddressFault.message`.
-/

namespace Cutover

/-- Why an address cannot be used. -/
inductive AddressFault where
  /-- The address has too many characters. -/
  | tooLong
  /-- A control character stands at some position. -/
  | control (c : Char) (position : Nat)
  /-- The port is no number. -/
  | badPort (port : String)
  /-- The host looks like four numbers but is no address of that kind. -/
  | badFour (host : String)
  /-- The host stands in brackets but is no address of that kind. -/
  | badBracketed (host : String)
  /-- The host is no name. -/
  | badName (host : String)
  /-- A path without a host starts with two slashes. -/
  | leadingSlashes
  /-- A path without a host starts with a colon. -/
  | leadingColon
  deriving DecidableEq, Repr

/-- The fault in words. -/
def AddressFault.message : AddressFault → String
  | tooLong => "URL too long"
  | control c position =>
    "Invalid non-printable ASCII character in URL, " ++ quoted (String.singleton c) ++
      " at position " ++ position.repr ++ "."
  | badPort port => "Invalid port: " ++ quoted port
  | badFour host => "Invalid IPv4 address: " ++ quoted host
  | badBracketed host => "Invalid IPv6 address: " ++ quoted host
  | badName host => "Invalid IDNA hostname: " ++ quoted host
  | leadingSlashes => "Relative URLs cannot have a path starting with '//'"
  | leadingColon => "Relative URLs cannot have a path starting with ':'"

end Cutover

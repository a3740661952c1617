import SignIn.Url.Address
import SignIn.Url.Domain
import SignIn.Url.Percent

/-!
# Hosts

What a URL names a machine by, and how it is read.  Schemes with a known meaning have internet
hosts; for any other scheme a host is just a text.
-/

namespace SignIn

/-- Why a text is no URL. -/
inductive UrlError where
  /-- A reference without a scheme and nothing to resolve it against. -/
  | noBase
  /-- A reference against a URL whose path has no segments. -/
  | flatBase
  /-- A host is needed but not there. -/
  | emptyHost
  /-- The port is no number within range. -/
  | port
  /-- The host is meant as an address of four bytes but is none. -/
  | ipv4
  /-- The host is meant as an address of eight groups but is none. -/
  | ipv6
  /-- The host has a character that no host may have. -/
  | hostCharacter
  /-- The host is no domain name. -/
  | domainName
deriving DecidableEq

/-- The text of an error. -/
def UrlError.message : UrlError → String
  | .noBase => "relative URL without a base"
  | .flatBase => "relative URL with a cannot-be-a-base base"
  | .emptyHost => "empty host"
  | .port => "invalid port number"
  | .ipv4 => "invalid IPv4 address"
  | .ipv6 => "invalid IPv6 address"
  | .hostCharacter => "invalid domain character"
  | .domainName => "invalid international domain name"

/-- The machine that a URL names. -/
inductive Host where
  /-- A name. -/
  | name (text : List Char)
  /-- An address of four bytes. -/
  | ipv4 (address : Ipv4)
  /-- An address of eight groups. -/
  | ipv6 (address : Ipv6)
deriving DecidableEq

namespace Host

/-- The text of a host inside a URL. -/
def text : Host → List Char
  | .name text => text
  | .ipv4 address => address.text
  | .ipv6 address => '[' :: (address.text ++ [']'])

/-- The characters that the host of an unknown scheme must not have. -/
def isForbidden (char : Char) : Bool :=
  ['\x00', '\t', '\n', '\r', ' ', '#', '/', ':', '<', '>', '?', '@', '[', '\\', ']', '^',
    '|'].contains char

/-- Read a host that starts with a bracket. -/
def readBracketed (text : List Char) : Except UrlError Host :=
  if text.getLast? = some ']' then
    match Ipv6.parse? (text.drop 1).dropLast with
    | some address => .ok (.ipv6 address)
    | none => .error .ipv6
  else .error .ipv6

/-- Read an internet host. -/
def read (text : List Char) : Except UrlError Host :=
  if text.head? = some '[' then readBracketed text
  else
    match (Utf8.decode? (Percent.decode (Utf8.encode text))).bind Domain.toAscii? with
    | none => .error .domainName
    | some [] => .error .emptyHost
    | some domain =>
      if Ipv4.isMeant domain then
        match Ipv4.parse? domain with
        | some address => .ok (.ipv4 address)
        | none => .error .ipv4
      else .ok (.name domain)

/-- Read the host of an unknown scheme; an empty text is none. -/
def readPlain (text : List Char) : Except UrlError (Option Host) :=
  if text.isEmpty then .ok none
  else if text.head? = some '[' then (readBracketed text).map some
  else if text.any isForbidden then .error .hostCharacter
  else .ok (some (.name (Percent.encode Percent.isControl text)))

end Host

end SignIn

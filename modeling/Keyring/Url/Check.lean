import Keyring.Text.Utf8
import Keyring.Url.Address

/-!
# Absolute URLs

This module decides whether a text is an absolute URL, and if not, why.  A URL is a scheme and a
colon, and what follows depends on the scheme.  The special schemes other than `file` need a host,
before which any number of slashes and backslashes may stand; a `file` URL may have a host after two
of them; any other URL has a host only after two slashes.  Paths, queries and fragments are never
refused.

Control characters and spaces around the text do not count, nor do tabs and line breaks inside it.
-/

namespace Keyring
namespace Url

/-- Why a text is not an absolute URL. -/
inductive Fault
  | noScheme
  | emptyHost
  | domainName
  | port
  | ipv4Address
  | ipv6Address
  | hostCharacter
deriving DecidableEq, Repr

/-- The wording of a fault. -/
def Fault.message : Fault → String
  | .noScheme => "relative URL without a base"
  | .emptyHost => "empty host"
  | .domainName => "invalid international domain name"
  | .port => "invalid port number"
  | .ipv4Address => "invalid IPv4 address"
  | .ipv6Address => "invalid IPv6 address"
  | .hostCharacter => "invalid domain character"

/-- The families of schemes. -/
inductive Scheme
  | file
  | special
  | other
deriving DecidableEq, Repr

/-- The family of a scheme in lower case. -/
def Scheme.ofName (name : List Char) : Scheme :=
  if name = "file".toList then .file
  else if ["http", "https", "ws", "wss", "ftp"].contains (String.ofList name) then .special
  else .other

/-- Whether a character may stand in a scheme. -/
def isSchemeChar (c : Char) : Bool :=
  c.isAlphanum || c == '+' || c == '-' || c == '.'

/-- The scheme in lower case and what follows its colon. -/
def scheme? (s : List Char) : Option (List Char × List Char) :=
  let name := s.takeWhile isSchemeChar
  match name, s.dropWhile isSchemeChar with
  | c :: _, ':' :: rest => if c.isAlpha then some (name.map Char.toLower, rest) else none
  | _, _ => none

/-- Whether a character ends the authority of a URL. -/
def endsAuthority (scheme : Scheme) (c : Char) : Bool :=
  c == '/' || c == '?' || c == '#' || (c == '\\' && scheme != .other)

/-- The bytes of a host with percent escapes replaced by the bytes they stand for. -/
def percentDecoded : List Char → List UInt8
  | [] => []
  | '%' :: a :: b :: rest =>
      match Text.hexValue? a, Text.hexValue? b with
      | some a, some b => UInt8.ofNat (a * 16 + b) :: percentDecoded rest
      | _, _ => String.utf8EncodeChar '%' ++ percentDecoded (a :: b :: rest)
  | c :: rest => String.utf8EncodeChar c ++ percentDecoded rest

/-- The host as text, if it is text once its percent escapes are replaced. -/
def plainHost? (host : List Char) : Option (List Char) :=
  if host.contains '%' then
    (Text.decode? ⟨(percentDecoded host).toArray⟩).map String.toList
  else some host

/-- Whether a host stands in square brackets, and what stands between them when they are closed. -/
def bracketed? (host : List Char) : Option (Option (List Char)) :=
  match host with
  | '[' :: rest => some (if rest.getLast? == some ']' then some rest.dropLast else none)
  | _ => none

/-- What is wrong with an address in square brackets. -/
def bracketFault? : Option (List Char) → Option Fault
  | some address => if isIpv6 address then none else some .ipv6Address
  | none => some .ipv6Address

/-- What is wrong with the host of a special scheme. -/
def hostFault? (host : List Char) : Option Fault :=
  match bracketed? host with
  | some address => bracketFault? address
  | none =>
      match (plainHost? host).bind domain? with
      | none => some .domainName
      | some parts =>
          if parts.all List.isEmpty && parts.length ≤ 1 then some .emptyHost
          else if endsInNumber parts && !isIpv4 parts then some .ipv4Address
          else none

/-- Characters that the host of another scheme may not hold. -/
def isOpaqueForbidden (c : Char) : Bool :=
  ['\x00', '\t', '\n', '\r', ' ', '#', '/', ':', '<', '>', '?', '@', '[', '\\', ']', '^', '|'].contains c

/-- What is wrong with the host of another scheme. -/
def opaqueHostFault? (host : List Char) : Option Fault :=
  match bracketed? host with
  | some address => bracketFault? address
  | none => if host.any isOpaqueForbidden then some .hostCharacter else none

/-- The host at the front of a text and what follows it.  A colon inside square brackets does not
end it. -/
def splitHost (scheme : Scheme) : Bool → List Char → List Char × List Char
  | _, [] => ([], [])
  | inside, c :: rest =>
      if endsAuthority scheme c || (c == ':' && !inside) then ([], c :: rest)
      else
        let (host, rest) := splitHost scheme (c == '[' || (inside && c != ']')) rest
        (c :: host, rest)

/-- What is wrong with what follows the colon of a port; `port` is the number so far. -/
def portFault? (port : Nat) : List Char → Option Fault
  | [] => none
  | c :: rest =>
      if c.isDigit then
        let port := port * 10 + (c.toNat - 0x30)
        if port > 65535 then some .port else portFault? port rest
      else if c == '/' || c == '\\' || c == '?' || c == '#' then none
      else some .port

/-- What is wrong with a host and a port. -/
def hostAndPortFault? (scheme : Scheme) (s : List Char) : Option Fault :=
  let (host, rest) := splitHost scheme false s
  let fault :=
    if scheme = .special then
      if host.isEmpty then some .emptyHost else hostFault? host
    else if host.isEmpty && rest.head? == some ':' then some .emptyHost
    else opaqueHostFault? host
  match fault, rest with
  | some fault, _ => some fault
  | none, ':' :: rest => portFault? 0 rest
  | none, _ => none

/-- The user information before the last `@` of the authority, and what follows that sign. -/
def splitUser? (scheme : Scheme) (s : List Char) : Option (List Char × List Char) :=
  let authority := s.takeWhile fun c => !endsAuthority scheme c
  if authority.contains '@' then
    let host := (authority.reverse.takeWhile (· != '@')).reverse
    let user := authority.take (authority.length - host.length - 1)
    some (user, s.drop (user.length + 1))
  else none

/-- What is wrong with an authority and what follows it. -/
def authorityFault? (scheme : Scheme) (s : List Char) : Option Fault :=
  match splitUser? scheme s with
  | none => hostAndPortFault? scheme s
  | some (user, rest) =>
      let hostless := match rest with
        | c :: _ => endsAuthority scheme c
        | [] => false
      if user.isEmpty && hostless then some .emptyHost
      else
        match hostAndPortFault? scheme rest with
        | some fault => some fault
        | none =>
            if (splitHost scheme false rest).1.isEmpty && user != [] && user != [':'] then
              some .emptyHost
            else none

/-- Whether a character is a slash or a backslash. -/
def isSlash (c : Char) : Bool :=
  c == '/' || c == '\\'

/-- Whether a text is a drive letter with its colon or bar. -/
def isDrive : List Char → Bool
  | [c, d] => c.isAlpha && (d == ':' || d == '|')
  | _ => false

/-- What is wrong with what follows the scheme of a `file` URL. -/
def fileFault? : List Char → Option Fault
  | a :: b :: rest =>
      if isSlash a && isSlash b then
        let host := rest.takeWhile fun c => !endsAuthority .file c
        if host.isEmpty || isDrive host then none else hostFault? host
      else none
  | _ => none

/-- The text without what does not count. -/
def cleaned (s : List Char) : List Char :=
  let isOuter (c : Char) : Bool := c.toNat ≤ 0x20
  ((s.dropWhile isOuter).reverse.dropWhile isOuter).reverse.filter fun c =>
    c != '\t' && c != '\n' && c != '\r'

/-- What keeps a text from being an absolute URL. -/
def fault? (text : String) : Option Fault :=
  match scheme? (cleaned text.toList) with
  | none => some .noScheme
  | some (name, rest) =>
      match Scheme.ofName name with
      | .file => fileFault? rest
      | .special => authorityFault? .special (rest.dropWhile isSlash)
      | .other =>
          match rest with
          | '/' :: '/' :: rest => authorityFault? .other rest
          | _ => none

end Url
end Keyring

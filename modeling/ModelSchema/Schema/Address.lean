import ModelSchema.Pattern.Reader

/-!
# Addresses in text

The written forms of network addresses: the names of hosts, IPv4 and IPv6 addresses, addresses of
electronic mail, and URIs that begin with a scheme.
-/

namespace ModelSchema

namespace Address

open Pattern (hexValue?)

/-- The parts of a text between separators. -/
def splitOn (separator : Char) : List Char → List (List Char)
  | [] => [[]]
  | c :: rest =>
    if c = separator then [] :: splitOn separator rest
    else
      match splitOn separator rest with
      | part :: parts => (c :: part) :: parts
      | [] => [[c]]

/-- The text before the first separator and, if there is one, the text after it. -/
def splitFirst (separator : Char) (cs : List Char) : List Char × Option (List Char) :=
  let before := cs.takeWhile (· ≠ separator)
  match cs.drop before.length with
  | _ :: after => (before, some after)
  | [] => (before, none)

/-! ## Hosts -/

/-- Whether a text is the name of a host: letters, digits and hyphens in parts between points. -/
def isHostname (cs : List Char) : Bool :=
  let isLetter (c : Char) : Bool :=
    c = '-' || c = '.' || Unicode.alphabetic.contains c.toNat || Unicode.numeral.contains c.toNat
  cs.all isLetter && !cs.isEmpty && cs.length ≤ 255 && cs.head? ≠ some '-' &&
    cs.getLast? ≠ some '-' && (splitOn '.' cs).all fun part => part.length ≤ 63

/-- Whether a text is a number up to 255 without a zero before it. -/
def isOctet (cs : List Char) : Bool :=
  !cs.isEmpty && cs.length ≤ 3 && cs.all Char.isDigit && (cs.length = 1 || cs.head? ≠ some '0') &&
    cs.foldl (fun n d => 10 * n + (d.toNat - 48)) 0 ≤ 255

/-- Whether a text is an IPv4 address. -/
def isIPv4 (cs : List Char) : Bool :=
  (splitOn '.' cs).length = 4 && (splitOn '.' cs).all isOctet

/-- Whether a text is a group of an IPv6 address. -/
def isGroup (cs : List Char) : Bool :=
  !cs.isEmpty && cs.length ≤ 4 && cs.all fun c => (hexValue? c).isSome

/-- How many groups a text holds; the last one may be an IPv4 address, which counts twice. -/
def groupCount? : List (List Char) → Option Nat
  | [] => some 0
  | [last] => if isGroup last then some 1 else if isIPv4 last then some 2 else none
  | group :: rest => if isGroup group then (groupCount? rest).map (· + 1) else none

/-- The text before and after the first two colons. -/
def splitColons? : List Char → List Char → Option (List Char × List Char)
  | before, ':' :: ':' :: after => some (before.reverse, after)
  | before, c :: rest => splitColons? (c :: before) rest
  | _, [] => none

/-- Whether a text is an IPv6 address: eight groups, of which two colons leave some out. -/
def isIPv6 (cs : List Char) : Bool :=
  let groups (cs : List Char) : List (List Char) := if cs.isEmpty then [] else splitOn ':' cs
  match splitColons? [] cs with
  | some (before, after) =>
    (groups before).all isGroup &&
      (groupCount? (groups after)).any fun n => (groups before).length + n ≤ 7
  | none => groupCount? (groups cs) = some 8

/-! ## Electronic mail -/

/-- Whether a text is a row of words between points. -/
def isDotted (cs : List Char) : Bool :=
  let isLetter (c : Char) : Bool :=
    c.isAlphanum || "!#$%&'*+-/=?^_|~".toList.contains c || [0x60, 0x7b, 0x7d].contains c.toNat ||
      0x80 ≤ c.toNat
  (splitOn '.' cs).all fun part => !part.isEmpty && part.all isLetter

/-- Whether a text may stand between quotes before the sign. -/
def isQuotedContent : List Char → Bool
  | [] => true
  | '\\' :: c :: rest => 32 ≤ c.toNat && isQuotedContent rest
  | c :: rest =>
    (c = '\t' || 32 ≤ c.toNat) && c.toNat ≠ 127 && c ≠ '"' && c ≠ '\\' && isQuotedContent rest

/-- Whether a text may stand before the sign of an address. -/
def isMailbox (cs : List Char) : Bool :=
  cs.length ≤ 64 &&
    if 2 < cs.length ∧ cs.head? = some '"' ∧ cs.getLast? = some '"' then
      isQuotedContent (cs.drop 1).dropLast
    else isDotted cs

/-- Whether a text may stand after the sign: the name of a host, or a number in brackets. -/
def isMailHost (cs : List Char) : Bool :=
  match cs, cs.getLast? with
  | '[' :: rest, some ']' =>
    let inner := rest.dropLast
    if "IPv6:".toList.isPrefixOf inner then isIPv6 (inner.drop 5) else isIPv4 inner
  | _, _ => isDotted cs && isHostname cs

/-- Whether a text is an address of electronic mail.  The last sign divides it. -/
def isEmail (cs : List Char) : Bool :=
  match splitFirst '@' cs.reverse with
  | (host, some mailbox) => isMailbox mailbox.reverse && isMailHost host.reverse
  | (_, none) => false

/-! ## URIs -/

/-- Whether a text holds characters of a kind, and others by their codes. -/
def isEncoded (isPlain : Char → Bool) : List Char → Bool
  | [] => true
  | '%' :: a :: b :: rest =>
    (hexValue? a).isSome && (hexValue? b).isSome && isEncoded isPlain rest
  | c :: rest => isPlain c && isEncoded isPlain rest

/-- Letters of URIs, with some signs besides. -/
def isUriLetter (signs : String) (c : Char) : Bool :=
  c.isAlphanum || "-._~!$&'()*+,;=".toList.contains c || signs.toList.contains c

/-- Whether a text is empty, or a colon and the number of a service. -/
def isService : List Char → Bool
  | [] => true
  | ':' :: digits => digits.all Char.isDigit
  | _ => false

/-- Whether a text is a host, with the number of a service if there is one. -/
def isHost (cs : List Char) : Bool :=
  match cs with
  | '[' :: rest =>
    match splitFirst ']' rest with
    | (inner, some service) => isIPv6 inner && isService service
    | (_, none) => false
  | _ =>
    let host := cs.takeWhile (· ≠ ':')
    isEncoded (isUriLetter "") host && isService (cs.drop host.length)

/-- Whether a text names an authority: a host, after a user if there is one. -/
def isAuthority (cs : List Char) : Bool :=
  match splitFirst '@' cs with
  | (user, some host) => isEncoded (isUriLetter ":") user && isHost host
  | (host, none) => isHost host

/-- Whether a text may stand between the scheme and the query: an authority or none, and a path. -/
def isHierarchy (cs : List Char) : Bool :=
  let isPath := isEncoded (isUriLetter ":@/")
  match cs with
  | '/' :: '/' :: rest =>
    let authority := rest.takeWhile (· ≠ '/')
    isAuthority authority && isPath (rest.drop authority.length)
  | _ => isPath cs

/-- Whether a text is a URI with a scheme. -/
def isUri (cs : List Char) : Bool :=
  let isTail := isEncoded (isUriLetter ":@/?")
  let (cs, fragment) := splitFirst '#' cs
  let (cs, query) := splitFirst '?' cs
  match splitFirst ':' cs with
  | (scheme, some hierarchy) =>
    scheme.head?.any Char.isAlpha &&
      scheme.all (fun c => c.isAlphanum || c = '+' || c = '-' || c = '.') &&
      isHierarchy hierarchy && query.all isTail && fragment.all isTail
  | (_, none) => false

end Address

end ModelSchema

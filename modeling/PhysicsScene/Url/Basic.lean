import PhysicsScene.Url.Domain

/-!
# Absolute addresses

`Url.problem?` says why a text is not an absolute address, if it is none. An address starts with a
scheme; the schemes of the web need a host, others may go on with anything. Only what can make an
address invalid is looked at: the scheme, the host and the port.
-/

namespace PhysicsScene

/-- Why a text is no absolute address. -/
inductive UrlProblem where
  /-- There is no scheme. -/
  | relative
  | emptyHost
  | invalidPort
  | invalidIpv4
  | invalidIpv6
  | invalidDomain
  /-- The host of a scheme outside the web has a character that no host has. -/
  | invalidHostCharacter
deriving DecidableEq, Repr

namespace UrlProblem

/-- The wording of a problem. -/
def message : UrlProblem → String
  | relative => "relative URL without a base"
  | emptyHost => "empty host"
  | invalidPort => "invalid port number"
  | invalidIpv4 => "invalid IPv4 address"
  | invalidIpv6 => "invalid IPv6 address"
  | invalidDomain => "invalid international domain name"
  | invalidHostCharacter => "invalid domain character"

end UrlProblem

namespace Url

/-- What distinguishes schemes when an address is read. -/
inductive SchemeKind where
  | web
  | file
  | other
deriving DecidableEq, Repr

namespace SchemeKind

/-- The kind of a scheme. -/
def ofName (name : String) : SchemeKind :=
  if ["http", "https", "ws", "wss", "ftp"].contains name then .web
  else if name = "file" then .file
  else .other

end SchemeKind

/-- Drops blanks and controls at both ends, and tabs and line ends everywhere. -/
def trimmed (text : List Char) : List Char :=
  let isOuter := fun char : Char => char ≤ ' '
  ((text.dropWhile isOuter).reverse.dropWhile isOuter).reverse.filter
    fun char => char ≠ '\t' && char ≠ '\n' && char ≠ '\r'

/-- The scheme of an address and what follows its colon. -/
def scheme? (text : List Char) : Option (String × List Char) :=
  let isSchemeChar := fun char : Char =>
    char.isAlphanum || char = '+' || char = '-' || char = '.'
  let name := text.takeWhile isSchemeChar
  match name, text.drop name.length with
  | first :: _, ':' :: rest =>
      if first.isAlpha then some (String.ofList (name.map Char.toLower), rest) else none
  | _, _ => none

/-- Whether a character ends the part of an address that names a host. -/
def endsAuthority (kind : SchemeKind) (char : Char) : Bool :=
  char = '/' || char = '?' || char = '#' || (kind = .web && char = '\\')

/-- The problem of a host of the web. -/
def hostProblem? (host : List Char) : Option UrlProblem :=
  match host with
  | '[' :: inside =>
      if inside.getLast? = some ']' && Ipv6.isValid inside.dropLast then none
      else some .invalidIpv6
  | _ =>
      match Domain.ofHost? host with
      | none => some .invalidDomain
      | some domain =>
          if domain.isEmpty then some .emptyHost
          else if Ipv4.endsInNumber domain && !Ipv4.isValid domain then some .invalidIpv4
          else none

/-- Characters that no host has. -/
def forbiddenInHosts : List Char :=
  ['\x00', '\t', '\n', '\r', ' ', '#', '/', ':', '<', '>', '?', '@', '[', '\\', ']', '^', '|']

/-- The problem of a host outside the web. -/
def opaqueHostProblem? (host : List Char) : Option UrlProblem :=
  match host with
  | '[' :: _ => hostProblem? host
  | _ => if host.any forbiddenInHosts.contains then some .invalidHostCharacter else none

/-- The length of a host: up to a colon outside brackets or to the end of the authority. -/
def hostLength (kind : SchemeKind) : (inBrackets : Bool) → List Char → Nat
  | _, [] => 0
  | inBrackets, char :: rest =>
      if (char = ':' && !inBrackets) || endsAuthority kind char then 0
      else hostLength kind (char = '[' || (inBrackets && char ≠ ']')) rest + 1

/-- The problem of a port, which may be empty. -/
def portProblem? (text : List Char) : Option UrlProblem :=
  let digits := text.takeWhile Char.isDigit
  let endsWell := (text.drop digits.length).head?.all fun char =>
    char = '/' || char = '\\' || char = '?' || char = '#'
  match Digit.number? 10 digits with
  | some value => if value ≤ 65535 && endsWell then none else some .invalidPort
  | none => some .invalidPort

/-- The problem of a host and a port; `hasUser` says whether a user stands before them. -/
def hostAndPortProblem? (kind : SchemeKind) (hasUser : Bool) (text : List Char) :
    Option UrlProblem :=
  let length := hostLength kind false text
  let host := text.take length
  let rest := text.drop length
  if host.isEmpty && (kind = .web || rest.head? = some ':') then some .emptyHost
  else
    let ofHost := if kind = .web then hostProblem? host else opaqueHostProblem? host
    let ofPort :=
      match rest with
      | ':' :: port => portProblem? port
      | _ => none
    ofHost <|> ofPort <|> (if host.isEmpty && hasUser then some .emptyHost else none)

/-- The problem of what follows the two slashes after a scheme. -/
def authorityProblem? (kind : SchemeKind) (text : List Char) : Option UrlProblem :=
  let authority := text.takeWhile fun char => !endsAuthority kind char
  if authority.contains '@' then
    let hostLength := (authority.reverse.takeWhile (· ≠ '@')).length
    let user := authority.take (authority.length - hostLength - 1)
    let rest := text.drop (user.length + 1)
    if user.isEmpty && rest.head?.any (endsAuthority kind) then some .emptyHost
    else hostAndPortProblem? kind (!user.isEmpty && user ≠ [':']) rest
  else hostAndPortProblem? kind false text

/-- Whether a host is the letter of a drive. -/
def isDriveLetter (host : List Char) : Bool :=
  match host with
  | [letter, mark] => letter.isAlpha && (mark = ':' || mark = '|')
  | _ => false

/-- Whether a character is a slash of either kind. -/
def isSlash (char : Char) : Bool :=
  char = '/' || char = '\\'

/-- The problem of what follows the scheme of files. -/
def fileProblem? (text : List Char) : Option UrlProblem :=
  match text with
  | first :: second :: rest =>
      if isSlash first && isSlash second then
        let host := rest.takeWhile fun char => !(isSlash char || char = '?' || char = '#')
        if host.isEmpty || isDriveLetter host then none else hostProblem? host
      else none
  | _ => none

/-- Why a text is no absolute address, if it is none. -/
def problem? (text : String) : Option UrlProblem :=
  match scheme? (trimmed text.toList) with
  | none => some .relative
  | some (scheme, rest) =>
      match SchemeKind.ofName scheme with
      | .file => fileProblem? rest
      | .web => authorityProblem? .web (rest.dropWhile isSlash)
      | .other =>
          match rest with
          | '/' :: '/' :: after => authorityProblem? .other after
          | _ => none

end Url

end PhysicsScene

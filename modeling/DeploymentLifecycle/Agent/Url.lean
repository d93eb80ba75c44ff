import DeploymentLifecycle.Agent.Answer
import DeploymentLifecycle.Text.Basic
import DeploymentLifecycle.Text.Hex
import DeploymentLifecycle.Text.Utf8

namespace DeploymentLifecycle

/-! The URL of an agent, taken apart into what a request to it needs. -/

/-- Why a text is no URL, or none that can be used. -/
inductive UrlError where
  | empty
  | tooLong
  | schemeTooLong
  | invalidChar
  | invalidAuthority
  | invalidFormat
  | unsupportedScheme
deriving DecidableEq, Repr

def UrlError.message : UrlError → String
  | .empty => "empty string"
  | .tooLong => "uri too long"
  | .schemeTooLong => "scheme too long"
  | .invalidChar => "invalid uri character"
  | .invalidAuthority => "invalid authority"
  | .invalidFormat => "invalid format"
  | .unsupportedScheme => "only http:// endpoints are supported"

/-- A URL that is well formed. Without a scheme it is a lone path or a lone authority. -/
structure Url where
  scheme : Option String
  authority : List Char
  path : List Char
deriving DecidableEq, Repr

namespace Url

/-- The greatest length of a URL in bytes, and of a scheme. -/
def longest : Nat := 65534
def longestScheme : Nat := 64

/-- The most colons that may follow one another in an authority without an `@` or `]` between. -/
def mostColons : Nat := 8

def isSchemeChar (c : Char) : Bool :=
  c.isAlphanum || c == '+' || c == '-' || c == '.' || c == '~'

/-- Where the authority ends. -/
def endsAuthority (c : Char) : Bool :=
  c == '/' || c == '?' || c == '#'

/-- The characters of an authority; a percent sign is not among them, as it is not allowed
everywhere. -/
def isAuthorityChar (c : Char) : Bool :=
  c.isAlphanum || "!$&'()*+,-.:;=@[]_~".toList.contains c

/-- No blanks and no controls, to which U+007F belongs, but all characters beyond ASCII. -/
def isVisible (c : Char) : Bool :=
  0x21 ≤ c.toNat && c != '\x7f'

/-- The characters that a path may hold. Double quotes and braces are let through. -/
def isPathChar (c : Char) : Bool :=
  isVisible c && !"#<>?`".toList.contains c

/-- The characters that a query may hold. -/
def isQueryChar (c : Char) : Bool :=
  isVisible c && !"\"#<>".toList.contains c

/-- What has been seen of an authority since its last `@` or `]`. -/
structure AuthorityScan where
  colons : Nat := 0
  opened : Bool := false
  closed : Bool := false
  percent : Bool := false
  endsWithAt : Bool := false

def AuthorityScan.push (s : AuthorityScan) (c : Char) : Except UrlError AuthorityScan :=
  let s := { s with endsWithAt := c == '@' }
  if c = ':' then
    if s.colons ≥ mostColons then .error .invalidAuthority else .ok { s with colons := s.colons + 1 }
  else if c = '[' then
    if s.percent || s.opened then .error .invalidAuthority else .ok { s with opened := true }
  else if c = ']' then
    if !s.opened || s.closed then .error .invalidAuthority
    else .ok { s with closed := true, colons := 0, percent := false }
  else if c = '@' then .ok { s with colons := 0, percent := false }
  else if c = '%' then .ok { s with percent := true }
  else if isAuthorityChar c then .ok s
  else .error .invalidChar

/-- Checks an authority: one port at most, matching brackets, something after an `@`, and percent
signs only in front of an `@` or in brackets. -/
def checkAuthority (authority : List Char) : Except UrlError Unit := do
  let s ← authority.foldlM AuthorityScan.push {}
  if s.opened != s.closed || s.colons > 1 || s.endsWithAt || s.percent then
    throw .invalidAuthority

/-- The authority at the start of a text that is not empty, and what follows it. -/
def splitAuthority (text : List Char) : Except UrlError (List Char × List Char) := do
  if text.isEmpty then throw .empty
  let authority := text.takeWhile fun c => !endsAuthority c
  checkAuthority authority
  return (authority, text.drop authority.length)

/-- The path at the start of what follows an authority. A query is checked and dropped, a fragment
dropped. -/
def pathOf (text : List Char) : Except UrlError (List Char) := do
  let path := text.takeWhile isPathChar
  match text.drop path.length with
  | [] => return path
  | '#' :: _ => return path
  | '?' :: query =>
    match query.dropWhile isQueryChar with
    | [] => return path
    | '#' :: _ => return path
    | _ => throw .invalidChar
  | _ => throw .invalidChar

/-- The scheme in front of `://`, and what follows. The scheme may be empty if something follows. -/
def splitScheme (text : List Char) : Except UrlError (Option (List Char × List Char)) :=
  let scheme := text.takeWhile isSchemeChar
  match text.drop scheme.length with
  | ':' :: '/' :: '/' :: rest =>
    if scheme.isEmpty && rest.isEmpty then .ok none
    else if scheme.length > longestScheme then .error .schemeTooLong
    else .ok (some (scheme, rest))
  | _ => .ok none

def lower (text : List Char) : String :=
  String.ofList (text.map Char.toLower)

def parse (text : String) : Except UrlError Url := do
  let chars := text.toList
  if text.utf8ByteSize > longest then throw .tooLong
  match chars with
  | [] => throw .empty
  | ['/'] => return ⟨none, [], ['/']⟩
  | ['*'] => return ⟨none, [], ['*']⟩
  | ['?'] => throw .invalidChar
  | ['#'] => throw .invalidChar
  | '/' :: _ => return ⟨none, [], ← pathOf chars⟩
  | _ =>
    match ← splitScheme chars with
    | some (scheme, rest) =>
      let (authority, rest) ← splitAuthority rest
      if authority.isEmpty then throw .invalidFormat
      return ⟨some (lower scheme), authority, ← pathOf rest⟩
    | none =>
      let (authority, rest) ← splitAuthority chars
      if !rest.isEmpty then throw .invalidFormat
      return ⟨none, authority, []⟩

/-- The text before and after the last character of a kind. -/
def splitAtLast? (c : Char) (text : List Char) : Option (List Char × List Char) :=
  let after := (text.reverse.takeWhile (· != c)).reverse
  if after.length < text.length then
    some (text.take (text.length - after.length - 1), after)
  else none

/-- What stands before the last `@`. -/
def userinfo? (url : Url) : Option (List Char) :=
  (splitAtLast? '@' url.authority).map Prod.fst

/-- The host: up to its closing bracket, if it starts with a bracket, and else up to a colon. -/
def host (url : Url) : List Char :=
  let host := ((splitAtLast? '@' url.authority).map Prod.snd).getD url.authority
  if host.head? == some '[' then
    host.takeWhile (· != ']') ++ [']']
  else host.takeWhile (· != ':')

/-- The number after the last colon; what stands there counts only if it is a port. -/
def port? (url : Url) : Option Nat := do
  Text.natural? Text.maxUInt16 (← splitAtLast? ':' url.authority).2

end Url

/-- Where an agent is reached, and how it is told who calls. -/
structure Endpoint where
  host : String
  port : Nat
  path : String
  authorization : Option String
deriving DecidableEq, Repr

namespace Endpoint

/-- The port of a URL that names none. -/
def standardPort : Nat := 80

/-- The path that requests go to: that of the URL, without slashes at its end, and `/agent`. -/
def agentPath (path : List Char) : String :=
  String.ofList ((path.reverse.dropWhile (· == '/')).reverse) ++ "/agent"

def authorizationOf (userinfo : List Char) : String :=
  "Basic " ++ Text.base64 (Text.encode (String.ofList userinfo))

def ofUrl (text : String) : Except AgentError Endpoint :=
  match Url.parse text with
  | .error e => .error (.invalidUrl text e.message)
  | .ok url =>
    if url.scheme = some "http" then
      .ok {
        host := String.ofList url.host
        port := url.port?.getD standardPort
        path := agentPath url.path
        authorization := url.userinfo?.map authorizationOf }
    else .error (.invalidUrl text UrlError.unsupportedScheme.message)

def address (endpoint : Endpoint) : String :=
  endpoint.host ++ ":" ++ toString endpoint.port

end Endpoint

end DeploymentLifecycle

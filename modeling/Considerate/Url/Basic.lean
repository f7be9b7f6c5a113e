namespace Considerate

/-- Where a URL leads to: credentials with their `@`, the host, and a port that is not the usual
one. -/
structure Authority where
  credentials : String := ""
  host : String
  port : Option Nat := none
  deriving DecidableEq, Repr

inductive UrlPath where
  | opaque_ (text : String)
  | segments (names : List String)
  deriving DecidableEq, Repr

structure Url where
  scheme : String
  authority : Option Authority := none
  path : UrlPath
  query : Option String := none
  fragment : Option String := none
  deriving DecidableEq, Repr

namespace Authority

def text (a : Authority) : String :=
  a.credentials ++ a.host ++
    match a.port with
    | none => ""
    | some n => ":" ++ toString n

end Authority

namespace UrlPath

def text : UrlPath → String
  | opaque_ t => t
  | segments names => String.join (names.map ("/" ++ ·))

def looksLikeAuthority : UrlPath → Bool
  | segments ("" :: _ :: _) => true
  | _ => false

end UrlPath

namespace Url

def marked (mark : String) : Option String → String
  | none => ""
  | some part => mark ++ part

def text (u : Url) : String :=
  u.scheme ++ ":" ++
    (match u.authority with
    | some a => "//" ++ a.text
    | none => if u.path.looksLikeAuthority then "/." else "") ++
    u.path.text ++ marked "?" u.query ++ marked "#" u.fragment

/-- The last name in the path; without one, the URL itself. -/
def name (u : Url) : String :=
  match u.path with
  | .opaque_ _ => u.text
  | .segments names =>
    match names.getLast? with
    | none => u.text
    | some n => if n.isEmpty then u.text else n

end Url

/-- Why a text is no URL. -/
inductive UrlError where
  | noScheme
  | emptyHost
  | badDomain
  | badDomainCharacter
  | badPort
  | badIpv4
  | badIpv6
  deriving DecidableEq, Repr

def UrlError.message : UrlError → String
  | noScheme => "relative URL without a base"
  | emptyHost => "empty host"
  | badDomain => "invalid international domain name"
  | badDomainCharacter => "invalid domain character"
  | badPort => "invalid port number"
  | badIpv4 => "invalid IPv4 address"
  | badIpv6 => "invalid IPv6 address"

end Considerate

import Considerate.Url.Host

namespace Considerate.Url

/-- What the schemes that are special have in common, and what files have besides. -/
inductive SchemeKind where
  | file
  | special
  | plain
  deriving DecidableEq, Repr

def kindOf (scheme : String) : SchemeKind :=
  if scheme = "file" then .file
  else if ["http", "https", "ws", "wss", "ftp"].contains scheme then .special
  else .plain

def usualPort (scheme : String) : Option Nat :=
  match scheme with
  | "http" | "ws" => some 80
  | "https" | "wss" => some 443
  | "ftp" => some 21
  | _ => none

def isEdge (c : Char) : Bool := c.toNat ≤ 0x20

def isIgnored (c : Char) : Bool := c = '\t' || c = '\n' || c = '\r'

/-- The characters that count: blanks at the ends and all tabs and line ends are left out. -/
def significant (cs : List Char) : List Char :=
  (((cs.dropWhile isEdge).reverse.dropWhile isEdge).reverse).filter fun c => !isIgnored c

def isSchemePart (c : Char) : Bool := c.isAlphanum || c = '+' || c = '-' || c = '.'

def splitScheme (cs : List Char) : Option (String × List Char) :=
  match cs with
  | [] => none
  | c :: _ =>
    if c.isAlpha then
      let name := cs.takeWhile isSchemePart
      match cs.drop name.length with
      | ':' :: rest => some (String.ofList (name.map Char.toLower), rest)
      | _ => none
    else none

/-- What stands before the first `mark`, and what follows it. -/
def cut (mark : Char) (cs : List Char) : List Char × Option (List Char) :=
  let front := cs.takeWhile (· ≠ mark)
  match cs.drop front.length with
  | [] => (front, none)
  | _ :: rest => (front, some rest)

/-- Whether `c` separates the names of a path. -/
def isSlash (kind : SchemeKind) (c : Char) : Bool := c = '/' || (kind ≠ .plain && c = '\\')

def splitPath (kind : SchemeKind) : List Char → List (List Char)
  | [] => [[]]
  | c :: cs =>
    if isSlash kind c then [] :: splitPath kind cs
    else
      match splitPath kind cs with
      | [] => [[c]]
      | p :: ps => (c :: p) :: ps

/-- A name with its encoded points decoded, to see whether it is one or two points. -/
def points : List Char → List Char
  | '%' :: '2' :: e :: cs => if e = 'e' || e = 'E' then '.' :: points cs else '%' :: '2' :: e :: points cs
  | c :: cs => c :: points cs
  | [] => []

def isDrive (cs : List Char) : Bool :=
  match cs with
  | [c, m] => c.isAlpha && (m = ':' || m = '|')
  | _ => false

/-- The path without its last name; the letter of a drive stays. -/
def parent (kind : SchemeKind) (names : List (List Char)) : List (List Char) :=
  match kind, names with
  | .file, [name] => if isDrive name then names else []
  | _, _ => names.dropLast

def descend (kind : SchemeKind) (names : List (List Char)) (part : List Char) (last : Bool) :
    List (List Char) :=
  let encoded := Percent.encode Percent.path part
  if points encoded = ['.', '.'] then parent kind names ++ if last then [[]] else []
  else if points encoded = ['.'] then names ++ if last then [[]] else []
  else if kind = .file && names.isEmpty && isDrive encoded then [encoded.take 1 ++ [':']]
  else names ++ [encoded]

def resolve (kind : SchemeKind) (names : List (List Char)) : List (List Char) → List (List Char)
  | [] => names
  | [part] => descend kind names part true
  | part :: next :: parts => resolve kind (descend kind names part false) (next :: parts)

/-- The names without those that are empty at the start; the last one stays. -/
def withoutEmpty : List (List Char) → List (List Char)
  | [] :: name :: names => withoutEmpty (name :: names)
  | names => names

/-- The path that `cs`, the slash at its start left out, stands for. -/
def pathOf (kind : SchemeKind) (cs : List Char) : UrlPath :=
  let names := resolve kind [] (splitPath kind cs)
  .segments ((if kind = .file then withoutEmpty names else names).map String.ofList)

def behindSlash (kind : SchemeKind) (cs : List Char) : List Char :=
  match cs with
  | c :: rest => if isSlash kind c then rest else cs
  | [] => []

def credentials (cs : List Char) : String :=
  let (name, password) := cut ':' cs
  let encode (cs : List Char) := String.ofList (Percent.encode Percent.credentials cs)
  let password :=
    match password with
    | none => ""
    | some cs => if cs.isEmpty then "" else ":" ++ encode cs
  let both := encode name ++ password
  if both.isEmpty then "" else both ++ "@"

def splitCredentials (cs : List Char) : Option (List Char) × List Char :=
  let host := (cs.reverse.takeWhile (· ≠ '@')).reverse
  if host.length = cs.length then (none, host)
  else (some (cs.take (cs.length - host.length - 1)), host)

/-- Splits a host at the colon before its port. A colon in square brackets is part of the host. -/
def splitPort (inside : Bool) : List Char → List Char × Option (List Char)
  | [] => ([], none)
  | c :: cs =>
    if c = ':' && !inside then ([], some cs)
    else
      let (host, port) := splitPort (if c = '[' then true else if c = ']' then false else inside) cs
      (c :: host, port)

def portOf (scheme : String) (cs : List Char) : Except UrlError (Option Nat) :=
  if cs.all Char.isDigit then
    match Host.numeral 10 cs with
    | none => .error .badPort
    | some n =>
      if 65535 < n then .error .badPort
      else if cs.isEmpty || usualPort scheme = some n then .ok none
      else .ok (some n)
  else .error .badPort

def hostOf (kind : SchemeKind) (cs : List Char) : Except UrlError String :=
  match kind with
  | .plain => Host.plain cs
  | _ => if cs.isEmpty then .error .emptyHost else Host.special cs

def authorityOf (scheme : String) (cs : List Char) : Except UrlError Authority :=
  let (user, rest) := splitCredentials cs
  let (host, port) := splitPort false rest
  if user = some [] && rest.isEmpty then .error .emptyHost
  else
    match hostOf (kindOf scheme) host with
    | .error e => .error e
    | .ok name =>
      let written := credentials (user.getD [])
      if host.isEmpty && (port.isSome || !written.isEmpty) then .error .emptyHost
      else
        match portOf scheme (port.getD []) with
        | .error e => .error e
        | .ok n => .ok { credentials := written, host := name, port := n }

def fileAuthority (host : List Char) : Except UrlError Authority :=
  if host.isEmpty then .ok { host := "" }
  else
    match Host.special host with
    | .error e => .error e
    | .ok "localhost" => .ok { host := "" }
    | .ok name => .ok { host := name }

def fileParts (cs : List Char) : Except UrlError (Authority × UrlPath) :=
  match cs with
  | a :: b :: rest =>
    if isSlash .file a && isSlash .file b then
      let host := rest.takeWhile fun c => !isSlash .file c
      if isDrive host then .ok ({ host := "" }, pathOf .file rest)
      else
        let path := pathOf .file (behindSlash .file (rest.drop host.length))
        (fileAuthority host).map fun authority =>
          match path with
          | .segments (name :: _) =>
            (if isDrive name.toList then { host := "" } else authority, path)
          | _ => (authority, path)
    else .ok ({ host := "" }, pathOf .file (behindSlash .file cs))
  | _ => .ok ({ host := "" }, pathOf .file (behindSlash .file cs))

def hierarchy (scheme : String) (cs : List Char) : Except UrlError (Option Authority × UrlPath) :=
  let kind := kindOf scheme
  let front := cs.takeWhile fun c => !isSlash kind c
  let rest := cs.drop front.length
  let path := if kind = .plain && rest.isEmpty then .segments [] else pathOf kind (behindSlash kind rest)
  (authorityOf scheme front).map fun a => (some a, path)

/-- Authority and path of what follows a scheme, without query and fragment. -/
def parts (scheme : String) (cs : List Char) : Except UrlError (Option Authority × UrlPath) :=
  match kindOf scheme with
  | .file => (fileParts cs).map fun (a, path) => (some a, path)
  | .special => hierarchy scheme (cs.dropWhile (isSlash .special))
  | .plain =>
    match cs with
    | '/' :: '/' :: rest => hierarchy scheme rest
    | '/' :: rest => .ok (none, pathOf .plain rest)
    | _ => .ok (none, .opaque_ (String.ofList (Percent.encode [] cs)))

def parse (s : String) : Except UrlError Url :=
  match splitScheme (significant s.toList) with
  | none => .error .noScheme
  | some (scheme, rest) =>
    let (rest, fragment) := cut '#' rest
    let (rest, query) := cut '?' rest
    let encode (set cs : List Char) := String.ofList (Percent.encode set cs)
    match parts scheme rest with
    | .error e => .error e
    | .ok (authority, path) =>
      .ok {
        scheme, authority, path
        query := query.map (encode (Percent.query (kindOf scheme ≠ .plain)))
        fragment := fragment.map (encode Percent.fragment) }

end Considerate.Url

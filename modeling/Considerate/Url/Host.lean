import Considerate.Text.CaseFold
import Considerate.Url.Basic
import Considerate.Url.Percent
import Considerate.Url.Punycode

namespace Considerate.Host

open Text

def splitOn (separator : Char) : List Char → List (List Char)
  | [] => [[]]
  | c :: cs =>
    if c = separator then [] :: splitOn separator cs
    else
      match splitOn separator cs with
      | [] => [[c]]
      | p :: ps => (c :: p) :: ps

/-- The number that digits of a base stand for. -/
def numeral (base : Nat) (cs : List Char) : Option Nat :=
  cs.foldl (fun n c =>
    match n, Percent.hexValue c with
    | some n, some d => if d < base then some (n * base + d) else none
    | _, _ => none) (some 0)

/-- A part of an address of four bytes: hexadecimal behind `0x`, octal behind `0`. -/
def ipv4Part (cs : List Char) : Option Nat :=
  match cs with
  | [] => none
  | '0' :: 'x' :: ds => numeral 16 ds
  | '0' :: 'X' :: ds => numeral 16 ds
  | '0' :: d :: ds => numeral 8 (d :: ds)
  | ds => numeral 10 ds

/-- The parts of a host between points, without an empty one at the end. -/
def parts (cs : List Char) : List (List Char) :=
  let ps := splitOn '.' cs
  if ps.getLast? = some [] then ps.dropLast else ps

/-- Whether the last part of a host is a number. -/
def endsInNumber (cs : List Char) : Bool :=
  match (parts cs).getLast? with
  | none => false
  | some p => !p.isEmpty && (p.all Char.isDigit || (ipv4Part p).isSome)

/-- The value of an address of at most four parts: the last part fills what the others leave. -/
def ipv4Value (ns : List Nat) : Option Nat :=
  match ns.getLast? with
  | none => none
  | some last =>
    let front := ns.dropLast
    let room := Nat.pow 256 (4 - front.length)
    if 4 < ns.length || front.any (255 < ·) || room ≤ last then none
    else some ((front.foldl (fun v n => v * 256 + n) 0) * room + last)

/-- Four bytes with points between them. -/
def ipv4Text (v : Nat) : String :=
  ".".intercalate
    ([v / 0x1000000, v / 0x10000 % 256, v / 0x100 % 256, v % 256].map toString)

def ipv4 (cs : List Char) : Except UrlError String :=
  match (parts cs).mapM ipv4Part with
  | none => .error .badIpv4
  | some ns =>
    match ipv4Value ns with
    | none => .error .badIpv4
    | some v => .ok (ipv4Text v)

/-- A byte in decimal digits without a zero in front. -/
def decimalByte (cs : List Char) : Option Nat :=
  if cs.isEmpty || !cs.all Char.isDigit || (1 < cs.length && cs.head? = some '0') then none
  else
    match numeral 10 cs with
    | none => none
    | some n => if n < 256 then some n else none

/-- Four bytes at the end of an address of eight pieces, as two of them. -/
def ipv4Pieces (cs : List Char) : Option (List Nat) :=
  match (splitOn '.' cs).mapM decimalByte with
  | some [a, b, c, d] => some [a * 256 + b, c * 256 + d]
  | _ => none

/-- A piece: one to four hexadecimal digits. -/
def ipv6Piece (cs : List Char) : Option Nat :=
  if cs.isEmpty || 4 < cs.length then none else numeral 16 cs

/-- Pieces with colons between them. The last may be four bytes. -/
def ipv6Pieces (cs : List Char) : Option (List Nat) :=
  if cs.isEmpty then some []
  else
    let ps := splitOn ':' cs
    match ps.getLast? with
    | none => none
    | some last =>
      match ps.dropLast.mapM ipv6Piece, if last.contains '.' then ipv4Pieces last
        else (ipv6Piece last).map (fun n => [n]) with
      | some front, some back => some (front ++ back)
      | _, _ => none

def splitGap : List Char → Option (List Char × List Char)
  | ':' :: ':' :: cs => some ([], cs)
  | c :: cs => (splitGap cs).map fun (front, back) => (c :: front, back)
  | [] => none

/-- The eight pieces of an address; `::` stands for one zero or more. -/
def ipv6Address (cs : List Char) : Option (List Nat) :=
  match splitGap cs with
  | none =>
    match ipv6Pieces cs with
    | none => none
    | some ps => if ps.length = 8 then some ps else none
  | some (front, back) =>
    if front.contains '.' then none
    else
      match ipv6Pieces front, ipv6Pieces back with
      | some a, some b =>
        let n := a.length + b.length
        if n ≤ 7 then some (a ++ List.replicate (8 - n) 0 ++ b) else none
      | _, _ => none

def zeros (ps : List Nat) : Nat := (ps.takeWhile (· = 0)).length

/-- The longest run of zeros of at least `least`, the first of equals: its start and length. -/
def longestZeros (least : Nat) : Nat → List Nat → Option (Nat × Nat)
  | _, [] => none
  | i, p :: ps =>
    let here := zeros (p :: ps)
    if least ≤ here then
      match longestZeros (here + 1) (i + 1) ps with
      | some later => some later
      | none => some (i, here)
    else longestZeros least (i + 1) ps

def hexText (n : Nat) : String := String.ofList (Nat.toDigits 16 n)

/-- The pieces with colons between them, the longest run of zeros as `::`. -/
def ipv6Text (ps : List Nat) : String :=
  let shown (ps : List Nat) := ":".intercalate (ps.map hexText)
  match longestZeros 2 0 ps with
  | none => shown ps
  | some (start, length) => shown (ps.take start) ++ "::" ++ shown (ps.drop (start + length))

/-- An address in square brackets, the first of them read. -/
def ipv6 (cs : List Char) : Except UrlError String :=
  if cs.getLast? = some ']' then
    match ipv6Address cs.dropLast with
    | none => .error .badIpv6
    | some ps => .ok ("[" ++ ipv6Text ps ++ "]")
  else .error .badIpv6

def lower (c : Char) : Char :=
  if c.toNat < 0x80 then c.toLower
  else
    let source (r : CodeRange (Nat × Int)) : Nat := ((c.toNat : Int) - r.value.2).toNat
    match caseShifts.find? fun r =>
        let n := source r
        r.first ≤ n && n ≤ r.last && (n - r.first) % r.value.1 = 0 with
    | some r => Char.ofNat (source r)
    | none => c

def isStop (c : Char) : Bool := c = '\u3002' || c = '\uFF0E' || c = '\uFF61'

def softHyphen : Char := '\u00AD'

/-- The characters of a domain in the form in which domains are compared. -/
def fold (cs : List Char) : List Char :=
  (cs.filter (· ≠ softHyphen)).map fun c => if isStop c then '.' else lower c

/-- What a domain cannot hold. -/
def isForbidden (c : Char) : Bool :=
  c.toNat ≤ 0x20 || c.toNat = 0x7F || "%#/:<>?@[\\]^|".toList.contains c || c = '\uFFFD'

def asciiLabel (cs : List Char) : List Char :=
  if cs.all (·.toNat < 0x80) then cs else "xn--".toList ++ Punycode.encode cs

def domain (cs : List Char) : Except UrlError String :=
  match String.fromUTF8? ⟨(Percent.decode cs).toArray⟩ with
  | none => .error .badDomain
  | some s =>
    let folded := fold s.toList
    if folded.any isForbidden then .error .badDomain
    else
      let ascii := ((splitOn '.' folded).map asciiLabel).intersperse ['.'] |>.flatten
      if ascii.isEmpty then .error .emptyHost
      else if endsInNumber ascii then ipv4 ascii
      else .ok (String.ofList ascii)

def special (cs : List Char) : Except UrlError String :=
  match cs with
  | '[' :: rest => ipv6 rest
  | _ => domain cs

/-- What the host of any other scheme cannot hold. -/
def isDelimiter (c : Char) : Bool :=
  c = '\x00' || "\t\n\r #/:<>?@[\\]^|".toList.contains c

def plain (cs : List Char) : Except UrlError String :=
  match cs with
  | '[' :: rest => ipv6 rest
  | _ =>
    if cs.any isDelimiter then .error .badDomainCharacter
    else .ok (String.ofList (Percent.encode [] cs))

end Considerate.Host

import Considerate.Json.Basic

namespace Considerate.Decimal

/-- The parts of a number in decimal notation. -/
structure Notation where
  negative : Bool
  whole : List Char
  fraction : Option (List Char)
  exponent : Option (Bool × List Char)

def digitValue (c : Char) : Nat := c.toNat - '0'.toNat

def natOfDigits (ds : List Char) : Nat := ds.foldl (fun n c => 10 * n + digitValue c) 0

/-- Digits are taken in as long as the whole number they form fits 64 bits. The rest of them is
handed back. -/
def takeDigits (n : Nat) : List Char → Nat × List Char
  | [] => (n, [])
  | c :: cs =>
    let next := 10 * n + digitValue c
    if next < 2 ^ 64 then takeDigits next cs else (n, c :: cs)

/-- `n * 10 ^ power`; none when that is beyond the largest number. -/
def scale (n : Nat) (power : Int) : Option Float :=
  let f := Float.ofNat n
  let tens (k : Nat) := Float.ofScientific 1 false k
  if 0 ≤ power then
    if 308 < power then (if n = 0 then some 0.0 else none)
    else
      let r := f * tens power.toNat
      if r.isInf then none else some r
  else
    let k := power.natAbs
    if k ≤ 308 then some (f / tens k)
    else if k ≤ 616 then some (f / tens 308 / tens (k - 308))
    else some 0.0

def Notation.toFloat (d : Notation) : Option Float :=
  let (n, dropped) := takeDigits 0 d.whole
  let (n, used) :=
    match d.fraction with
    | none => (n, 0)
    | some ds =>
      if dropped.isEmpty then
        let (n', rest) := takeDigits n ds
        (n', ds.length - rest.length)
      else (n, 0)
  let shift :=
    match d.exponent with
    | none => 0
    | some (negative, ds) => if negative then -(natOfDigits ds : Int) else natOfDigits ds
  (scale n (shift + dropped.length - used)).map fun f => if d.negative then -f else f

/-- The value of a number; none when it is beyond the largest one. -/
def Notation.value (d : Notation) : Option Json :=
  match d.fraction, d.exponent with
  | none, none =>
    let n := natOfDigits d.whole
    if d.negative then
      if 0 < n && n ≤ 0x8000000000000000 then some (.int (-n)) else d.toFloat.map .float
    else if n < 0x10000000000000000 then some (.int n)
    else d.toFloat.map .float
  | _, _ => d.toFloat.map .float

end Considerate.Decimal

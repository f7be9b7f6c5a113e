namespace Considerate.Decimal

/-- The exact value `mantissa * 2 ^ exponent` of a finite number. -/
structure Binary where
  mantissa : Nat
  exponent : Int
  deriving DecidableEq, Repr

/-- Whether the neighbour below is only half as far away as the one above. -/
def Binary.narrowBelow (b : Binary) : Bool := b.mantissa = 1 <<< 52 && b.exponent > -1074

/-- The value of a finite number, without its sign. -/
def Binary.ofFloat (f : Float) : Binary :=
  let bits : Nat := f.toBits.toNat
  let fraction : Nat := bits % (1 <<< 52)
  let biased : Nat := (bits >>> 52) % (1 <<< 11)
  if biased = 0 then ⟨fraction, -1074⟩ else ⟨(1 <<< 52) + fraction, (biased : Int) - 1075⟩

/-- A positive fraction. -/
structure Ratio where
  num : Nat
  den : Nat

def Ratio.scaled (n : Nat) (e : Int) : Ratio :=
  if 0 ≤ e then ⟨n <<< e.toNat, 1⟩ else ⟨n, 1 <<< (-e).toNat⟩

def Ratio.le (a b : Ratio) : Bool := a.num * b.den ≤ b.num * a.den

def Ratio.lt (a b : Ratio) : Bool := a.num * b.den < b.num * a.den

def Ratio.decimal (d : Nat) (k : Int) : Ratio :=
  if 0 ≤ k then ⟨d * Nat.pow 10 k.toNat, 1⟩ else ⟨d, Nat.pow 10 (-k).toNat⟩

def leastPower (r : Ratio) : (limit : Nat) → (n : Nat) → Nat
  | 0, n => n
  | limit + 1, n => if r.den ≤ r.num * 10 ^ n then n else leastPower r limit (n + 1)

/-- The power of ten of the first digit. -/
def leadingPower (r : Ratio) : Int :=
  if r.den ≤ r.num then ((Nat.toDigits 10 (r.num / r.den)).length : Int) - 1
  else -(leastPower r 400 1 : Int)

/-- The numbers that round to `b`: from the first to the second, both included if the mantissa is
even. -/
def Binary.rounding (b : Binary) : Ratio × Ratio :=
  let low := if b.narrowBelow then Ratio.scaled (4 * b.mantissa - 1) (b.exponent - 2)
    else Ratio.scaled (2 * b.mantissa - 1) (b.exponent - 1)
  (low, Ratio.scaled (2 * b.mantissa + 1) (b.exponent - 1))

def Binary.roundsTo (b : Binary) (r : Ratio) : Bool :=
  let (low, high) := b.rounding
  if b.mantissa % 2 = 0 then low.le r && r.le high else low.lt r && r.lt high

structure Digits where
  digits : Nat
  power : Int
  deriving DecidableEq, Repr

/-- The nearer of the two neighbours of `b` on the grid of `10 ^ k` that round to `b`. -/
def Binary.onGrid (b : Binary) (k : Int) : Option Digits :=
  let r := Ratio.scaled b.mantissa b.exponent
  let unit := Ratio.decimal 1 k
  let below := r.num * unit.den / (r.den * unit.num)
  let twice := 2 * r.num * unit.den
  let middle := (2 * below + 1) * r.den * unit.num
  let first := if twice < middle || (twice = middle && below % 2 = 0) then below else below + 1
  let second := if first = below then below + 1 else below
  if b.roundsTo (.decimal first k) then some ⟨first, k⟩
  else if b.roundsTo (.decimal second k) then some ⟨second, k⟩
  else none

def Binary.search (b : Binary) (k : Int) : Nat → Digits
  | 0 => ⟨b.mantissa, 0⟩
  | n + 1 => (b.onGrid k).getD (b.search (k - 1) n)

/-- Drops final zeros. -/
def Digits.trim (d : Digits) : Nat → Digits
  | 0 => d
  | n + 1 => if d.digits % 10 = 0 && d.digits ≠ 0 then Digits.trim ⟨d.digits / 10, d.power + 1⟩ n else d

def Binary.shortest (b : Binary) : Digits :=
  if b.mantissa = 0 then ⟨0, 0⟩
  else (b.search (leadingPower (.scaled b.mantissa b.exponent)) 18).trim 20

/-- Numbers from `10 ^ -5` up to `10 ^ 16` are written out with a point, all others with an
exponent and its sign. -/
def Digits.text (d : Digits) : String :=
  let ds := Nat.toDigits 10 d.digits
  let point := (ds.length : Int) + d.power
  if d.digits = 0 then "0.0"
  else if 0 ≤ d.power && point ≤ 16 then
    String.ofList (ds ++ List.replicate d.power.toNat '0') ++ ".0"
  else if 0 < point && point ≤ 16 then
    String.ofList (ds.take point.toNat) ++ "." ++ String.ofList (ds.drop point.toNat)
  else if -5 < point && point ≤ 0 then
    "0." ++ String.ofList (List.replicate (-point).toNat '0' ++ ds)
  else
    let exponent := point - 1
    let sign := if exponent < 0 then "e-" else "e+"
    let fraction := if ds.length = 1 then "" else "." ++ String.ofList (ds.drop 1)
    String.ofList (ds.take 1) ++ fraction ++ sign ++ toString exponent.natAbs

def text (f : Float) : String :=
  let sign := if f.toBits.toNat >>> 63 = 1 then "-" else ""
  sign ++ (Binary.ofFloat f).shortest.text

end Considerate.Decimal

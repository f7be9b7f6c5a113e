namespace Considerate.Punycode

def digit (n : Nat) : Char := if n < 26 then Char.ofNat (97 + n) else Char.ofNat (22 + n)

/-- How often 35 goes into `delta` until it is at most 455, and what is left. -/
def shrink (delta count : Nat) : Nat × Nat :=
  if 455 < delta then shrink (delta / 35) (count + 36) else (delta, count)
termination_by delta
decreasing_by omega

/-- The bias for the next distance. -/
def adapt (delta length : Nat) (first : Bool) : Nat :=
  let delta := if first then delta / 700 else delta / 2
  let (delta, count) := shrink (delta + delta / length) 0
  count + 36 * delta / (delta + 38)

/-- The first value of a digit that is the last one, in place `k`. -/
def threshold (bias k : Nat) : Nat := if k ≤ bias then 1 else if bias + 26 ≤ k then 26 else k - bias

def digits (bias : Nat) : Nat → Nat → Nat → List Char
  | 0, _, _ => []
  | fuel + 1, k, q =>
    let t := threshold bias k
    if q < t then [digit q]
    else digit (t + (q - t) % (36 - t)) :: digits bias fuel (k + 36) ((q - t) / (36 - t))

/-- What encoding has come to: the distance so far, the bias, and how many characters are there. -/
structure Progress where
  delta : Nat
  bias : Nat
  handled : Nat
  first : Bool
  out : List Char

/-- Passes the character `c` of the label while `n` is added. -/
def Progress.pass (n : Nat) (p : Progress) (c : Char) : Progress :=
  if c.toNat < n then { p with delta := p.delta + 1 }
  else if c.toNat = n then
    { delta := 0, bias := adapt p.delta (p.handled + 1) p.first, handled := p.handled + 1,
      first := false, out := p.out ++ digits p.bias (p.delta + 1) 36 p.delta }
  else p

/-- Adds the code points `ns`, in ascending order, the one before them being `last`. -/
def addAll (label : List Char) (last : Nat) (p : Progress) : List Nat → Progress
  | [] => p
  | n :: ns =>
    let p := { p with delta := p.delta + (n - last) * (p.handled + 1) }
    let p := label.foldl (Progress.pass n) p
    addAll label (n + 1) { p with delta := p.delta + 1 } ns

/-- Inserts a number into ascending numbers, unless it is there. -/
def insert (n : Nat) : List Nat → List Nat
  | [] => [n]
  | m :: ms => if n < m then n :: m :: ms else if n = m then m :: ms else m :: insert n ms

/-- The label in ASCII, without the mark that tells that it is encoded. -/
def encode (label : List Char) : List Char :=
  let plain := label.filter (·.toNat < 0x80)
  let others := (label.filter (0x80 ≤ ·.toNat)).foldl (fun ns c => insert c.toNat ns) []
  let start := plain ++ if plain.isEmpty then [] else ['-']
  (addAll label 0x80 ⟨0, 72, plain.length, true, start⟩ others).out

end Considerate.Punycode

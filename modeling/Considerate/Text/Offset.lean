namespace Considerate.Text

/-- The number of bytes that `cs` takes in UTF-8. -/
def byteSize : List Char → Nat
  | [] => 0
  | c :: cs => c.utf8Size + byteSize cs

@[simp] theorem byteSize_append (a b : List Char) : byteSize (a ++ b) = byteSize a + byteSize b := by
  induction a with
  | nil => simp [byteSize]
  | cons c cs ih => simp [byteSize, ih, Nat.add_assoc]

/-- What is left of `cs` after its first `n` bytes; a character cut in two is dropped whole. -/
def dropBytes : Nat → List Char → List Char
  | _, [] => []
  | n, c :: cs => if n = 0 then c :: cs else dropBytes (n - c.utf8Size) cs

/-- The characters of `cs` that end within its first `n` bytes. -/
def takeBytes : Nat → List Char → List Char
  | _, [] => []
  | n, c :: cs => if c.utf8Size ≤ n then c :: takeBytes (n - c.utf8Size) cs else []

/-- The bytes of a text from `start` up to `stop`. -/
structure Span where
  start : Nat
  stop : Nat
  deriving DecidableEq, Repr

def Span.slice (s : Span) (cs : List Char) : List Char :=
  takeBytes (s.stop - s.start) (dropBytes s.start cs)

theorem dropBytes_append (a b : List Char) : dropBytes (byteSize a) (a ++ b) = b := by
  induction a with
  | nil => cases b <;> simp [byteSize, dropBytes]
  | cons c cs ih =>
    have h : 0 < c.utf8Size := Char.utf8Size_pos c
    simp [byteSize, dropBytes, Nat.pos_iff_ne_zero.mp h, ih]

theorem takeBytes_append (a b : List Char) : takeBytes (byteSize a) (a ++ b) = a := by
  induction a with
  | nil =>
    cases b with
    | nil => rfl
    | cons c cs =>
      have h : ¬ (c.utf8Size ≤ 0) := by have := Char.utf8Size_pos c; omega
      simp [byteSize, takeBytes, h]
  | cons c cs ih => simp [byteSize, takeBytes, ih]

theorem Span.slice_append (a b c : List Char) :
    (Span.mk (byteSize a) (byteSize a + byteSize b)).slice (a ++ (b ++ c)) = b := by
  simp [Span.slice, dropBytes_append, takeBytes_append]

end Considerate.Text

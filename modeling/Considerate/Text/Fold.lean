namespace Considerate.Text

/-- The lower case of `c` where that is an ASCII letter, else `c`. The Kelvin sign is a `k`. -/
def foldChar (c : Char) : Char :=
  if c = '\u212a' then 'k' else c.toLower

def fold (cs : List Char) : List Char := cs.map foldChar

@[simp] theorem fold_cons (c : Char) (cs : List Char) : fold (c :: cs) = foldChar c :: fold cs := rfl

@[simp] theorem fold_append (a b : List Char) : fold (a ++ b) = fold a ++ fold b := by
  simp [fold]

end Considerate.Text

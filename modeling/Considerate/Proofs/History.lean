namespace Considerate

variable {σ α β : Type}

/-- What `f` sees of each action, from the state `s` on; an action takes a state to the next. -/
def gather (next : σ → α → σ) (f : σ → α → List β) (s : σ) : List α → List β
  | [] => []
  | a :: as => f s a ++ gather next f (next s a) as

theorem gather_snoc (next : σ → α → σ) (f : σ → α → List β) (s : σ) (as : List α) (a : α) :
    gather next f s (as ++ [a]) = gather next f s as ++ f (as.foldl next s) a := by
  induction as generalizing s with
  | nil => simp [gather]
  | cons b as ih => simp [gather, ih]

end Considerate

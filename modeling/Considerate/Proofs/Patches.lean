import Considerate.Proofs.Words

namespace Considerate.Text

/-- A part of a text, and what takes its place. -/
structure Patch where
  span : Span
  newText : List Char

/-- The text with the part replaced. -/
def Patch.splice (p : Patch) (cs : List Char) : List Char :=
  takeBytes p.span.start cs ++ (p.newText ++ dropBytes p.span.stop cs)

/-- The text after all patches, made in their order. -/
def spliceAll (ps : List Patch) (cs : List Char) : List Char :=
  ps.foldl (fun cs p => p.splice cs) cs

theorem Patch.splice_append (before old rest new : List Char) :
    (Patch.mk ⟨byteSize before, byteSize before + byteSize old⟩ new).splice
      (before ++ (old ++ rest)) = before ++ (new ++ rest) := by
  have behind : dropBytes (byteSize before + byteSize old) (before ++ (old ++ rest)) = rest := by
    rw [← byteSize_append, ← List.append_assoc, dropBytes_append]
  rw [splice, takeBytes_append, behind]

/-- From byte `at_` on, the first text becomes the second one by the patches. -/
inductive Woven : Nat → List Char → List Char → List Patch → Prop
  | nil (at_ : Nat) : Woven at_ [] [] []
  | keep (at_ : Nat) (same : List Char) (cs cs' : List Char) (ps : List Patch)
      (later : Woven (at_ + byteSize same) cs cs' ps) : Woven at_ (same ++ cs) (same ++ cs') ps
  | swap (at_ : Nat) (old new : List Char) (cs cs' : List Char) (ps : List Patch)
      (later : Woven (at_ + byteSize old) cs cs' ps) :
      Woven at_ (old ++ cs) (new ++ cs') (⟨⟨at_, at_ + byteSize old⟩, new⟩ :: ps)

variable {at_ : Nat} {a a' b b' : List Char} {ps qs : List Patch}

theorem Woven.refl (at_ : Nat) (cs : List Char) : Woven at_ cs cs [] := by
  have h := Woven.keep at_ cs [] [] [] (.nil _)
  rwa [List.append_nil] at h

theorem Woven.append (h : Woven at_ a a' ps) (later : Woven (at_ + byteSize a) b b' qs) :
    Woven at_ (a ++ b) (a' ++ b') (ps ++ qs) := by
  induction h with
  | nil at_ => exact later
  | keep at_ same cs cs' ps _ ih =>
    rw [List.append_assoc, List.append_assoc]
    refine .keep at_ same _ _ _ (ih ?_)
    rwa [Nat.add_assoc, ← byteSize_append]
  | swap at_ old new cs cs' ps _ ih =>
    rw [List.append_assoc, List.append_assoc]
    refine .swap at_ old new _ _ _ (ih ?_)
    rwa [Nat.add_assoc, ← byteSize_append]

/-- Each part stands behind those of the patches before. -/
theorem Woven.ordered (h : Woven at_ a a' ps) :
    (∀ p ∈ ps, at_ ≤ p.span.start ∧ p.span.start ≤ p.span.stop) ∧
      ps.Pairwise fun p q => p.span.stop ≤ q.span.start := by
  induction h with
  | nil => exact ⟨nofun, .nil⟩
  | keep at_ same cs cs' ps _ ih =>
    refine ⟨fun p hp => ?_, ih.2⟩
    have := ih.1 p hp
    omega
  | swap at_ old new cs cs' ps _ ih =>
    obtain ⟨bounds, ordered⟩ := ih
    refine ⟨fun p hp => ?_, List.pairwise_cons.mpr ⟨fun p hp => (bounds p hp).1, ordered⟩⟩
    rcases List.mem_cons.mp hp with rfl | hp
    · exact ⟨Nat.le_refl _, Nat.le_add_right _ _⟩
    · have := bounds p hp
      omega

theorem Woven.splice (before : List Char) (h : Woven (byteSize before) a a' ps) :
    spliceAll ps.reverse (before ++ a) = before ++ a' := by
  generalize hb : byteSize before = at_ at h
  rw [spliceAll, List.foldl_reverse]
  induction h generalizing before with
  | nil => rfl
  | keep at_ same cs cs' ps _ ih =>
    rw [← List.append_assoc, ih (before ++ same) (by simp [hb]), List.append_assoc]
  | swap at_ old new cs cs' ps _ ih =>
    have later := ih (before ++ old) (by simp [hb])
    rw [List.append_assoc, List.append_assoc] at later
    rw [List.foldr_cons, later, ← hb]
    exact Patch.splice_append before old cs' new

/-- Made the last one first, the patches make the second text of the first one. -/
theorem Woven.spliceAll_eq (h : Woven 0 a a' ps) : spliceAll ps.reverse a = a' :=
  Woven.splice [] h

end Considerate.Text

import Considerate.Proofs.Replacement
import Considerate.Proofs.Separation

namespace Considerate

open Text Markup

variable {s : Settings} {cs : List Char} {prose : List Span} {ws vs : List Word} {m : Match}
  {n : Message}

/-- Lines that are `k` further down have numbers. -/
structure Message.HasRoom (k : Nat) (m : Message) : Prop where
  line : ∃ l, m.line = some l ∧ l.toNat + k < UInt32.size
  start : ∃ l, m.location.start.line = some l ∧ l.toNat + k < UInt32.size
  stop : ∃ l, m.location.stop.line = some l ∧ l.toNat + k < UInt32.size

/-- Two texts of 2³² - 1 bytes together may have a line for which there is no number: the first has
nothing but line feeds, and the other is a word of two letters. -/
theorem last_line_without_room :
    let a := List.replicate 4294967293 '\n'
    byteSize a + byteSize "he".toList < UInt32.size ∧
    ∃ n, check { noBinary := true } .text "he" = .ok [n] ∧ ¬ n.HasRoom (a.count '\n' + 2) := by
  intro a
  have feeds : byteSize a = 4294967293 := byteSize_replicate (by decide) _
  have word : byteSize "he".toList = 2 := rfl
  refine ⟨by rw [feeds, word]; decide, ⟨_, by with_unfolding_all rfl, ?_⟩⟩
  rintro ⟨⟨line, first, room⟩, -, -⟩
  cases first
  rw [List.count_replicate_self] at room
  revert room
  decide

end Considerate

import Considerate.Files
import Mathlib.Data.String.Basic

namespace Considerate

open String in
theorem Path.splitOn_slash {path : String} (plain : '/' ∉ path.toList) :
    path.splitOn "/" = [path] := by
  -- The position goes over `rest`, while what is `done` has been found to hold no slash.
  have run : ∀ rest done : List Char, '/' ∉ rest →
      splitOnAux (ofList (done ++ rest)) "/" 0 ⟨utf8Len done⟩ 0 [] = [ofList (done ++ rest)] := by
    intro rest
    induction rest with
    | nil =>
      intro done _
      have whole := extract_of_valid [] done []
      rw [splitOnAux, if_pos ((atEnd_of_valid done []).mpr rfl)]
      simpa using whole
    | cons c rest ih =>
      intro done plain
      rw [List.mem_cons, not_or] at plain
      have more : ¬ Pos.Raw.atEnd (ofList (done ++ c :: rest)) ⟨utf8Len done⟩ = true :=
        fun ended => List.cons_ne_nil c rest ((atEnd_of_valid done _).mp ended)
      have here : Pos.Raw.get (ofList (done ++ c :: rest)) ⟨utf8Len done⟩ = c := get_of_valid ..
      have slash : Pos.Raw.get "/" 0 = '/' := rfl
      have apart : ¬ (c == '/') = true := by simpa using Ne.symm plain.1
      have later := ih (done ++ [c]) plain.2
      rw [splitOnAux, if_neg more, here, slash, if_neg apart, Pos.Raw.unoffsetBy_zero,
        next_of_valid]
      simpa using later
  rw [splitOn, if_neg (by decide)]
  simpa using run path.toList [] plain

section

variable {name : String}

structure Path.IsName (name : String) : Prop where
  plain : '/' ∉ name.toList
  real : name ∉ ["", ".", ".."]

theorem Path.IsName.fileName (h : IsName name) : fileName name = some name := by
  have real := h.real
  simp only [List.mem_cons, List.not_mem_nil, or_false, not_or] at real
  simp [Path.fileName, names, splitOn_slash h.plain, real]

theorem Path.IsName.entry (h : IsName name) (f : Files) :
    f.entry name = ((f.find? (f.current ++ [name])).map Except.ok).getD (.error .notFound) := by
  have real := h.real
  simp only [List.mem_cons, List.not_mem_nil, or_false, not_or] at real
  have relative : name.startsWith "/" = false := by
    rw [String.startsWith_string_eq_false_iff]
    exact fun starts => h.plain (starts.subset (by decide))
  have here : f.find? f.current = some .directory := by simp [Files.find?]
  simp only [Files.entry, splitOn_slash h.plain, relative, Files.follow, here, real, if_false,
    Bool.false_eq_true, decide_false, Bool.or_self]
  cases f.find? (f.current ++ [name]) <;> rfl

end

end Considerate

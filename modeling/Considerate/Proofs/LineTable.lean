import Considerate.Proofs.DocumentOrder
import Mathlib.Data.List.DropRight

namespace Considerate

namespace Text

def lastLine (cs : List Char) : List Char := cs.rtakeWhile (· ≠ '\n')

/-- The place behind a text: its line is one more than the line feeds, and its column is one more
than the columns that the last line takes up. -/
def Place.behind (cs : List Char) : Place := ⟨1 + cs.count '\n', 1 + columns (lastLine cs)⟩

variable {p q : Place} {cs a b : List Char} {m n : Nat}

theorem columns_append (a b : List Char) : columns (a ++ b) = columns a + columns b := by
  induction a with
  | nil => simp [columns]
  | cons c a ih => simp [columns, ih, Nat.add_assoc]

theorem foldl_step_eq_behind (cs : List Char) : cs.foldl Place.step ⟨1, 1⟩ = .behind cs := by
  induction cs using List.reverseRecOn with
  | nil => rfl
  | append_singleton cs c ih =>
    rw [List.foldl_append, ih, List.foldl_cons, List.foldl_nil]
    by_cases feed : c = '\n'
    · simp [Place.step, Place.behind, lastLine, feed, columns, Nat.add_assoc]
    · by_cases back : c = '\r' <;>
        simp [Place.step, Place.behind, lastLine, feed, back, columns_append, columns, Nat.add_assoc]

theorem placeAt_eq_some_iff :
    placeAt cs n = some p ↔ ∃ a b, cs = a ++ b ∧ byteSize a = n ∧ Place.behind a = p := by
  constructor
  · intro h
    obtain ⟨a, b, parts, size, reached⟩ := Place.exists_of_advance h
    exact ⟨a, b, parts, size, by rw [← foldl_step_eq_behind, reached]⟩
  · rintro ⟨a, b, rfl, rfl, rfl⟩
    rw [placeAt, Place.advance_append, foldl_step_eq_behind]

theorem placeAt_zero (cs : List Char) : placeAt cs 0 = some ⟨1, 1⟩ :=
  placeAt_eq_some_iff.mpr ⟨[], cs, rfl, rfl, rfl⟩

/-- Only carriage returns leave a place where it is. -/
theorem foldl_step_eq_self_iff (p : Place) (cs : List Char) :
    cs.foldl Place.step p = p ↔ ∀ c ∈ cs, c = '\r' := by
  induction cs generalizing p with
  | nil => simp
  | cons c cs ih =>
    rw [List.foldl_cons, List.forall_mem_cons]
    by_cases back : c = '\r'
    · subst back
      have stays : p.step '\r' = p := rfl
      rw [stays, ih, and_iff_right rfl]
    · have lt := (Place.lt_step back p).trans_le ((p.step c).le_foldl_step cs)
      refine iff_of_false (fun same => ?_) fun h => back h.1
      rw [same] at lt
      unfold Place.Lt at lt
      omega

/-- Two bytes have the same place if only carriage returns are between them. -/
theorem place_eq_iff (hp : placeAt cs m = some p) (hq : placeAt cs n = some q) (le : m ≤ n) :
    p = q ↔ ∀ c ∈ (Span.mk m n).slice cs, c = '\r' := by
  obtain ⟨a, b, rfl, rfl, rfl⟩ := Place.exists_of_advance hp
  obtain ⟨a', b', parts, rfl, rfl⟩ := Place.exists_of_advance hq
  obtain ⟨e, rfl, rfl⟩ := append_inj_of_byteSize parts le
  rw [byteSize_append, Span.slice_append, List.foldl_append, eq_comm, foldl_step_eq_self_iff]

theorem utf8ByteSize_ofList (cs : List Char) : (String.ofList cs).utf8ByteSize = byteSize cs := by
  induction cs with
  | nil => rfl
  | cons c cs ih =>
    have first : String.ofList (c :: cs) = String.singleton c ++ String.ofList cs := by simp
    rw [first, String.utf8ByteSize_append, ih, String.utf8ByteSize_singleton, byteSize]

theorem utf8ByteSize_eq (text : String) : text.utf8ByteSize = byteSize text.toList := by
  rw [← utf8ByteSize_ofList, String.ofList_toList]

/-- There are places at the positions of a text between its characters. -/
theorem isSome_placeAt_iff (text : String) (n : Nat) :
    (placeAt text.toList n).isSome ↔ (String.Pos.Raw.mk n).IsValid text := by
  rw [Option.isSome_iff_exists, String.Pos.Raw.isValid_iff_exists_append]
  constructor
  · rintro ⟨p, hp⟩
    obtain ⟨a, b, parts, size, _⟩ := placeAt_eq_some_iff.mp hp
    refine ⟨.ofList a, .ofList b, ?_, ?_⟩
    · rw [← String.ofList_append, ← parts, String.ofList_toList]
    · rw [← size, ← utf8ByteSize_ofList]
      rfl
  · rintro ⟨a, b, rfl, position⟩
    rw [String.toList_append, show n = byteSize a.toList by
      rw [← utf8ByteSize_eq]
      exact congrArg String.Pos.Raw.byteIdx position]
    exact exists_placeAt ..

/-- Where a number stands in an ascending table. -/
inductive Standing where
  | found (index : Nat)
  | missing (index : Nat)
  deriving DecidableEq, Repr

def Standing.last : Standing → Nat
  | found i => i
  | missing i => i - 1

/-- Looks a number up in an ascending table by halving, from index `lo` up to `hi`. -/
def locate (table : Array Nat) (n lo hi : Nat) (bound : hi ≤ table.size) : Standing :=
  if more : lo < hi then
    let mid := (lo + hi) / 2
    have : mid < table.size := by omega
    if table[mid] = n then .found mid
    else if table[mid] < n then locate table n (mid + 1) hi bound
    else locate table n lo mid (by omega)
  else .missing lo
termination_by hi - lo

def Below (table : Array Nat) (n i : Nat) : Prop := ∀ j x, j < i → table[j]? = some x → x < n

def Above (table : Array Nat) (n i : Nat) : Prop := ∀ j x, i ≤ j → table[j]? = some x → n < x

inductive Standing.IsOf (table : Array Nat) (n : Nat) : Standing → Prop
  | found (i : Nat) (same : table[i]? = some n) : IsOf table n (.found i)
  | missing (i : Nat) (bound : i ≤ table.size) (below : Below table n i) (above : Above table n i) :
      IsOf table n (.missing i)

variable {table : Array Nat} {lo hi i j x y : Nat}

theorem lt_of_ascending (ascending : table.toList.Pairwise (· < ·)) (lt : i < j)
    (hx : table[i]? = some x) (hy : table[j]? = some y) : x < y := by
  obtain ⟨hi, rfl⟩ := Array.getElem?_eq_some_iff.mp hx
  obtain ⟨hj, rfl⟩ := Array.getElem?_eq_some_iff.mp hy
  exact List.pairwise_iff_getElem.mp ascending i j hi hj lt

theorem Below.of_less (ascending : table.toList.Pairwise (· < ·)) (hx : table[i]? = some x)
    (less : x < n) : Below table n (i + 1) := by
  intro j y lt hy
  rcases Nat.lt_or_eq_of_le (Nat.le_of_lt_succ lt) with lt | rfl
  · exact (lt_of_ascending ascending lt hy hx).trans less
  · rwa [← Option.some.inj (hx.symm.trans hy)]

theorem Above.of_greater (ascending : table.toList.Pairwise (· < ·)) (hx : table[i]? = some x)
    (greater : n < x) : Above table n i := by
  intro j y le hy
  rcases Nat.lt_or_eq_of_le le with lt | rfl
  · exact greater.trans (lt_of_ascending ascending lt hx hy)
  · rwa [← Option.some.inj (hx.symm.trans hy)]

theorem isOf_locate {bound : hi ≤ table.size} (ascending : table.toList.Pairwise (· < ·))
    (le : lo ≤ hi) (below : Below table n lo) (above : Above table n hi) :
    (locate table n lo hi bound).IsOf table n := by
  fun_induction locate table n lo hi bound with
  | case1 lo hi bound more mid inside same =>
    exact .found mid (by rw [Array.getElem?_eq_getElem inside, same])
  | case2 lo hi bound more mid inside _ less ih =>
    exact ih (by omega) (.of_less ascending (Array.getElem?_eq_getElem inside) less) above
  | case3 lo hi bound more mid inside other notLess ih =>
    have greater : n < table[mid] := by omega
    exact ih (by omega) below (.of_greater ascending (Array.getElem?_eq_getElem inside) greater)
  | case4 lo hi bound done =>
    obtain rfl : lo = hi := by omega
    exact .missing lo bound below above

/-- The index is that of a number that is not greater, where all behind it are. -/
theorem Standing.IsOf.last_eq {standing : Standing} (h : standing.IsOf table n)
    (ascending : table.toList.Pairwise (· < ·)) (hx : table[i]? = some x) (le : x ≤ n)
    (above : Above table n (i + 1)) : standing.last = i := by
  cases h with
  | found j same =>
    rcases Nat.lt_trichotomy j i with before | rfl | behind
    · have := lt_of_ascending ascending before same hx
      omega
    · rfl
    · exact (Nat.lt_irrefl n (above j n behind same)).elim
  | missing j bound below above' =>
    have behind : i < j := by
      by_contra before
      have := above' i x (by omega) hx
      omega
    have next : j ≤ i + 1 := by
      by_contra later
      have hy := Array.getElem?_eq_getElem (show i + 1 < table.size by omega)
      have := below _ _ (by omega) hy
      have := above _ _ (Nat.le_refl _) hy
      omega
    rw [last]
    omega

/-- The index of the last number of an ascending table that is not greater than `n`. -/
def lastUpTo (table : Array Nat) (n : Nat) : Nat :=
  (locate table n 0 table.size (Nat.le_refl _)).last

theorem lastUpTo_eq (ascending : table.toList.Pairwise (· < ·)) (hx : table[i]? = some x)
    (le : x ≤ n) (above : Above table n (i + 1)) : lastUpTo table n = i := by
  refine (isOf_locate ascending (Nat.zero_le _) ?_ ?_).last_eq ascending hx le above
  · exact fun j x lt _ => (Nat.not_lt_zero j lt).elim
  · intro j x le hx
    rw [Array.getElem?_eq_none le] at hx
    cases hx

end Text

open Text

/-- The place of a byte by a table of where lines start. Nothing is left if the table has no such
line or the text no slice from its start. -/
def placeInLines? (cs : List Char) (n : Nat) : Option (Option Place) :=
  match splitAt? n cs with
  | none => some none
  | some _ =>
    let starts := (0 :: lineStartsFrom 0 cs).toArray
    let line := lastUpTo starts n
    starts[line]?.bind fun start =>
      (slice? cs start n).map fun text => some ⟨line + 1, columns text + 1⟩

variable {p q : Place} {cs : List Char} {m n : Nat}

theorem length_lineStartsFrom (n : Nat) (cs : List Char) :
    (lineStartsFrom n cs).length = cs.count '\n' := by
  induction cs generalizing n with
  | nil => rfl
  | cons c cs ih =>
    rw [lineStartsFrom]
    by_cases feed : c = '\n'
    · rw [if_pos feed, List.length_cons, ih, feed, List.count_cons_self]
    · rw [if_neg feed, ih, List.count_cons_of_ne feed]

/-- The table has all the lines of the text. -/
theorem length_lineStarts (cs : List Char) : (0 :: lineStartsFrom 0 cs).length = lineCount cs := by
  rw [List.length_cons, length_lineStartsFrom, lineCount]

theorem pairwise_lineStartsFrom (n : Nat) (cs : List Char) :
    (n :: lineStartsFrom n cs).Pairwise (· < ·) := by
  refine List.pairwise_cons.mpr ⟨fun m hm => (lt_of_mem_lineStartsFrom hm).1, ?_⟩
  induction cs generalizing n with
  | nil => exact .nil
  | cons c cs ih =>
    rw [lineStartsFrom]
    split
    · exact List.pairwise_cons.mpr ⟨fun m hm => (lt_of_mem_lineStartsFrom hm).1, ih _⟩
    · exact ih _

theorem lineStarts_append (a b : List Char) : 0 :: lineStartsFrom 0 (a ++ b) =
    (0 :: lineStartsFrom 0 a) ++ lineStartsFrom (byteSize a) b := by
  rw [lineStartsFrom_append, List.cons_append, Nat.zero_add]

/-- What the table has for the line that a text ends in is where its last line starts. -/
theorem getElem?_lineStarts (a b : List Char) :
    (0 :: lineStartsFrom 0 (a ++ b)).toArray[a.count '\n']? =
      some (byteSize (a.rdropWhile (· ≠ '\n'))) := by
  have last := getLast?_lineStarts a
  rw [List.getLast?_eq_getElem?, length_lineStarts, lineCount, Nat.add_sub_cancel] at last
  have inside : a.count '\n' < (0 :: lineStartsFrom 0 a).length := by
    rw [length_lineStarts]
    exact Nat.lt_succ_self _
  rw [List.getElem?_toArray, lineStarts_append, List.getElem?_append_left inside, last]

/-- The search finds the line that a text ends in. -/
theorem lastUpTo_lineStarts (a b : List Char) :
    lastUpTo (0 :: lineStartsFrom 0 (a ++ b)).toArray (byteSize a) = a.count '\n' := by
  refine lastUpTo_eq (pairwise_lineStartsFrom 0 (a ++ b)) (getElem?_lineStarts a b) ?_ ?_
  · have parts : a.rdropWhile (· ≠ '\n') ++ lastLine a = a := List.rdropWhile_append_rtakeWhile
    have size := congrArg byteSize parts
    rw [byteSize_append] at size
    omega
  · intro j m le hm
    rw [List.getElem?_toArray, lineStarts_append,
      List.getElem?_append_right (by rwa [length_lineStarts])] at hm
    exact (lt_of_mem_lineStartsFrom (List.mem_of_getElem? hm)).1

theorem slice?_lastLine (a b : List Char) :
    slice? (a ++ b) (byteSize (a.rdropWhile (· ≠ '\n'))) (byteSize a) = some (lastLine a) := by
  have sliced := slice?_append (a.rdropWhile (· ≠ '\n')) (lastLine a) b
  rwa [← List.append_assoc, ← byteSize_append, lastLine, List.rdropWhile_append_rtakeWhile]
    at sliced

theorem placeInLines?_eq (cs : List Char) (n : Nat) : placeInLines? cs n = some (placeAt cs n) := by
  unfold placeInLines?
  split
  · rename_i missing
    cases hp : placeAt cs n with
    | none => rfl
    | some p =>
      obtain ⟨a, b, rfl, rfl, _⟩ := placeAt_eq_some_iff.mp hp
      rw [splitAt?_append] at missing
      cases missing
  · rename_i parts found
    obtain ⟨a, b⟩ := parts
    obtain ⟨rfl, rfl⟩ := of_splitAt? found
    have place : placeAt (a ++ b) (byteSize a) = some (.behind a) :=
      placeAt_eq_some_iff.mpr ⟨a, b, rfl, rfl, rfl⟩
    simp only [lastUpTo_lineStarts, getElem?_lineStarts, slice?_lastLine, place, Option.bind_some,
      Option.map_some, Place.behind, Nat.add_comm 1]

def Point.Shows (point : Point) (p : Place) : Prop :=
  ∃ line column, point = ⟨some line, some column⟩ ∧ line.toNat = p.line ∧ column.toNat = p.column

theorem Point.shows_ofPlace (line : p.line < UInt32.size) (column : p.column < UInt32.size) :
    (ofPlace p).Shows p :=
  ⟨_, _, rfl, UInt32.toNat_ofNat_of_lt' line, UInt32.toNat_ofNat_of_lt' column⟩

theorem Point.Shows.inj {point : Point} (hp : point.Shows p) (hq : point.Shows q) : p = q := by
  obtain ⟨line, column, rfl, hl, hc⟩ := hp
  obtain ⟨_, _, same, hl', hc'⟩ := hq
  cases same
  rw [Place.mk.injEq]
  exact ⟨hl.symm.trans hl', hc.symm.trans hc'⟩

/-- The points of the text have the numbers of its places, and their order. Two of them are the same
if there are only carriage returns between them. -/
structure Text.Numbered (cs : List Char) : Prop where
  numbers : ∀ n p, placeAt cs n = some p → (Point.ofPlace p).Shows p
  upTo : ∀ m n p q, m ≤ n → placeAt cs m = some p → placeAt cs n = some q →
    (Point.ofPlace p).UpTo (.ofPlace q)
  same : ∀ m n p q, m ≤ n → placeAt cs m = some p → placeAt cs n = some q →
    (Point.ofPlace p = .ofPlace q ↔ ∀ c ∈ (Span.mk m n).slice cs, c = '\r')

theorem numbered_of_short (short : byteSize cs + 1 < UInt32.size) : Numbered cs := by
  have numbers : ∀ n p, placeAt cs n = some p → (Point.ofPlace p).Shows p := fun n p hp =>
    have fits := Place.fits_of_short short hp
    Point.shows_ofPlace fits.1 fits.2
  refine ⟨numbers, fun m n p q le hp hq => ?_, fun m n p q le hp hq => ?_⟩
  · have fits := Place.fits_of_short short hq
    exact Point.upTo_ofPlace (Place.le_of_le hp hq le) fits.1 fits.2
  · rw [← place_eq_iff hp hq le]
    refine ⟨fun same => ?_, congrArg _⟩
    exact (same ▸ numbers m p hp).inj (numbers n q hq)

/-- A byte of a text has a place if and only if a character starts there or the text ends. Its line
is one more than the line feeds before it, and its column one more than the code units between the
last of them and it that are no carriage returns. A later byte has a later place, or the same one if
there are only carriage returns between them. The search in the table of lines finds these places.

The points of a text of less than 2³² - 1 bytes have the numbers of these places and their order. -/
theorem places_of_bytes (text : String) :
    (∀ n, (placeAt text.toList n).isSome ↔ (String.Pos.Raw.mk n).IsValid text) ∧
    (∀ n p, placeAt text.toList n = some p → p = .behind (takeBytes n text.toList)) ∧
    (∀ m n p q, m ≤ n → placeAt text.toList m = some p → placeAt text.toList n = some q →
      p.Le q ∧ (p = q ↔ ∀ c ∈ (Span.mk m n).slice text.toList, c = '\r')) ∧
    (∀ n, placeInLines? text.toList n = some (placeAt text.toList n)) ∧
    (text.utf8ByteSize + 1 < UInt32.size → Numbered text.toList) := by
  refine ⟨isSome_placeAt_iff text, fun n p hp => ?_, fun m n p q le hp hq => ?_,
    placeInLines?_eq _, fun short => ?_⟩
  · obtain ⟨a, b, parts, rfl, rfl⟩ := placeAt_eq_some_iff.mp hp
    rw [parts, takeBytes_append]
  · exact ⟨Place.le_of_le hp hq le, place_eq_iff hp hq le⟩
  · rw [utf8ByteSize_eq] at short
    exact numbered_of_short short

/-- A text with characters of one and two code units, and a carriage return that takes no column. -/
theorem places_of_bytes_mixed :
    ("é\r\n😀".utf8ByteSize + 1 < UInt32.size ∧ placeAt "é\r\n😀".toList 2 = some ⟨1, 2⟩ ∧
      placeAt "é\r\n😀".toList 3 = some ⟨1, 2⟩ ∧ placeAt "é\r\n😀".toList 8 = some ⟨2, 3⟩) ∧
    ¬ (String.Pos.Raw.mk 1).IsValid "é\r\n😀" ∧
    (⟨2, 3⟩ : Place) = .behind (takeBytes 8 "é\r\n😀".toList) ∧
    ((⟨1, 2⟩ : Place).Le ⟨1, 2⟩ ∧ ((⟨1, 2⟩ : Place) = ⟨1, 2⟩ ↔
      ∀ c ∈ (Span.mk 2 3).slice "é\r\n😀".toList, c = '\r')) ∧
    placeInLines? "é\r\n😀".toList 8 = some (some ⟨2, 3⟩) ∧
    (Point.ofPlace ⟨2, 3⟩).Shows ⟨2, 3⟩ ∧
    (Point.ofPlace ⟨1, 2⟩).UpTo (.ofPlace ⟨2, 3⟩) ∧
    (Point.ofPlace ⟨1, 2⟩ = .ofPlace ⟨2, 3⟩ ↔
      ∀ c ∈ (Span.mk 3 8).slice "é\r\n😀".toList, c = '\r') := by
  have short : "é\r\n😀".utf8ByteSize + 1 < UInt32.size := by decide
  have second : placeAt "é\r\n😀".toList 2 = some ⟨1, 2⟩ := by decide
  have third : placeAt "é\r\n😀".toList 3 = some ⟨1, 2⟩ := by decide
  have last : placeAt "é\r\n😀".toList 8 = some ⟨2, 3⟩ := by decide
  obtain ⟨valid, behind, order, table, numbered⟩ := places_of_bytes "é\r\n😀"
  obtain ⟨numbers, upTo, same⟩ := numbered short
  refine ⟨⟨short, second, third, last⟩, fun h => ?_, behind 8 _ last,
    order 2 3 _ _ (by decide) second third, ?_, numbers 8 _ last,
    upTo 3 8 _ _ (by decide) third last, same 3 8 _ _ (by decide) third last⟩
  · have inside : placeAt "é\r\n😀".toList 1 = none := by decide
    have := (valid 1).mpr h
    rw [inside] at this
    cases this
  · rw [table, last]

/-- The end of the longest text of line feeds has a line for which there is no number, so that its
point comes before the one at the start. -/
theorem last_line_not_numbered :
    let text := String.ofList (List.replicate 4294967295 '\n')
    text.utf8ByteSize < UInt32.size ∧
    ∃ p q, placeAt text.toList 0 = some p ∧ placeAt text.toList text.utf8ByteSize = some q ∧
      q.line = 1 + text.toList.count '\n' ∧ Point.ofPlace q = ⟨some 0, some 1⟩ ∧
      ¬ (Point.ofPlace p).UpTo (.ofPlace q) := by
  intro text
  have feeds : text.toList = List.replicate 4294967295 '\n' := String.toList_ofList
  have size : text.utf8ByteSize = 4294967295 := by
    rw [utf8ByteSize_eq, feeds]
    exact byteSize_replicate (by decide) _
  have last : placeAt text.toList text.utf8ByteSize = some ⟨4294967296, 1⟩ := by
    refine placeAt_eq_some_iff.mpr ⟨text.toList, [], by simp, (utf8ByteSize_eq text).symm, ?_⟩
    have line : lastLine text.toList = [] := by
      rw [feeds, lastLine, List.replicate_succ']
      exact List.rtakeWhile_concat_neg _ _ _ (by simp)
    rw [Place.behind, line, feeds, List.count_replicate_self]
    rfl
  refine ⟨by rw [size]; decide, ⟨1, 1⟩, _, placeAt_zero _, last, ?_, rfl, ?_⟩
  · rw [feeds, List.count_replicate_self]
  · rintro ⟨line, column, line', column', starts, stops, upTo⟩
    cases starts
    cases stops
    revert upTo
    decide

end Considerate

import Considerate.Json.Reader
import Considerate.Proofs.Json.Lexemes
import Mathlib.Data.String.Basic

namespace Considerate.Json

open Text (isBlank)

variable {j : Json} {t : Token} {cs rest text gap close : List Char} {r : Reading}
  {outer : List Frame}

/-- White space, as it may stand between lexemes. -/
def Gap (gap : List Char) : Prop := ∀ c ∈ gap, c.isWhitespace = true

theorem Gap.append {gap' : List Char} (h : Gap gap) (h' : Gap gap') : Gap (gap ++ gap') := by
  intro c hc
  rcases List.mem_append.mp hc with hc | hc
  · exact h c hc
  · exact h' c hc

theorem Gap.ends (h : Gap gap) : Ends gap := by
  intro c hc
  have blank := h c (List.mem_of_mem_head? hc)
  simp only [Char.isWhitespace, Bool.or_eq_true, decide_eq_true_eq] at blank
  rcases blank with ((rfl | rfl) | rfl) | rfl <;> decide

theorem Gap.ends_append (h : Gap gap) (ends : Ends rest) : Ends (gap ++ rest) := by
  cases gap with
  | nil => exact ends
  | cons c gap => exact fun d hd => h.ends d hd

theorem ends_cons {c : Char} (closes : c ∈ closers) (rest : List Char) : Ends (c :: rest) := by
  intro d hd
  cases hd
  exact closes

/-- A field of an object: its key with white space before it, and its value with a text of that. -/
structure Entry where
  before : List Char
  key : String
  value : Json
  text : List Char

def Entry.field (e : Entry) : String × Json := (e.key, e.value)

def Entry.written (e : Entry) : List Char := e.before ++ (quote e.key ++ ':' :: e.text)

/-- The text is one of the value: white space may stand before values and keys, and before what
closes an array or an object. Whole numbers fit 64 bits, and keys are in order. -/
inductive Written : Json → List Char → Prop
  | null : Written .null (scalar .null)
  | bool (b : Bool) : Written (.bool b) (scalar (.bool b))
  | int (n : Int) (low : -0x8000000000000000 ≤ n) (high : n < 0x10000000000000000) :
      Written (.int n) (scalar (.int n))
  | str (s : String) : Written (.str s) (scalar (.str s))
  | arr (items : List (Json × List Char)) (close : List Char) (blank : Gap close)
      (inner : ∀ i ∈ items, Written i.1 i.2) :
      Written (.arr (items.map Prod.fst))
        ('[' :: ([','].intercalate (items.map Prod.snd) ++ (close ++ [']'])))
  | obj (entries : List Entry) (close : List Char) (blank : Gap close)
      (blanks : ∀ e ∈ entries, Gap e.before)
      (sorted : (entries.map Entry.field).Pairwise fun a b => a.1 < b.1)
      (inner : ∀ e ∈ entries, Written e.value e.text) :
      Written (.obj (entries.map Entry.field))
        ('\x7b' :: ([','].intercalate (entries.map Entry.written) ++ (close ++ ['\x7d'])))
  | behind (gap : List Char) (blank : Gap gap) {j : Json} {cs : List Char} (h : Written j cs) :
      Written j (gap ++ cs)

def readFrom (r : Reading) (cs : List Char) : Except (Fault × Nat) Reading :=
  (lexemes cs).foldlM Reading.step r

/-- In the state a value may come, of which `outer` is open. -/
def Awaits (r : Reading) (outer : List Frame) : Prop :=
  ∀ t left, t ≠ .closeBracket → t ≠ .comma →
    r.next t left = (beginValue outer t).map fun f => f left

/-- Wherever a value may come, the text is read as the value. -/
def Reads (j : Json) (cs : List Char) : Prop :=
  ∀ {r outer gap rest}, Awaits r outer → Gap gap → Ends rest →
    readFrom r (gap ++ (cs ++ rest)) = readFrom (deliver j outer) rest

theorem awaits_empty : Awaits .empty [] := fun _ _ _ _ => rfl

theorem awaits_inArray (start : Nat) (done : List Json) (comma : Bool) (outer : List Frame) :
    Awaits (.inArray start done comma outer) (.items start done :: outer) := by
  intro t left bracket mark
  cases t <;> first | rfl | contradiction

theorem awaits_afterColon (start : Nat) (done : List (String × Json)) (key : String)
    (outer : List Frame) :
    Awaits (.afterColon start done key outer) (.property start done key :: outer) :=
  fun _ _ _ _ => rfl

theorem Gap.dropWhile (h : Gap gap) (cs : List Char) :
    (gap ++ cs).dropWhile isBlank = cs.dropWhile isBlank :=
  List.dropWhile_append_of_pos fun c hc => Text.isBlank_of_isWhitespace (h c hc)

theorem readFrom_gap (h : Gap gap) (r : Reading) : readFrom r gap = .ok r := by
  have none : gap.dropWhile isBlank = [] := by simpa using h.dropWhile []
  rw [readFrom, lexemes]
  simp only [none, List.isEmpty_nil, if_true]
  rfl

/-- One lexeme is taken by the state. -/
theorem readFrom_token {c : Char} (text : List Char) (next : Nat → Reading) (h : Gap gap)
    (visible : isBlank c = false)
    (scan : scanToken (c :: text ++ rest) = .ok (some t, rest)) (sound : ∀ f, t ≠ .bad f)
    (takes : ∀ left, r.next t left = .ok (next left)) :
    readFrom r (gap ++ (c :: text ++ rest)) = readFrom (next (c :: text ++ rest).length) rest := by
  have start : (gap ++ (c :: text ++ rest)).dropWhile isBlank = c :: text ++ rest := by
    rw [h.dropWhile, List.cons_append, List.dropWhile_cons_of_neg (by simp [visible])]
  have shorter : rest.length < (gap ++ (c :: text ++ rest)).length := by
    simp only [List.length_append, List.length_cons]
    omega
  have step : r.step ⟨t, (c :: text ++ rest).length⟩ = .ok (next (c :: text ++ rest).length) := by
    cases t with
    | bad f => exact (sound f rfl).elim
    | _ => simp only [Reading.step, takes]
  have lexeme : lexemes (gap ++ (c :: text ++ rest)) =
      ⟨t, (c :: text ++ rest).length⟩ :: lexemes rest := by
    rw [lexemes, start, scan]
    simp only [List.cons_append, List.isEmpty_cons, Bool.false_eq_true, if_false]
    exact if_pos shorter
  rw [readFrom, lexeme, List.foldlM_cons, step]
  rfl

/-- A character that is a lexeme by itself. -/
theorem readFrom_mark (c : Char) (t : Token) (next : Nat → Reading) (h : Gap gap)
    (scan : ∀ rest, scanToken (c :: rest) = .ok (some t, rest))
    (takes : ∀ left, r.next t left = .ok (next left)) (rest : List Char)
    (visible : isBlank c = false := by decide) (sound : ∀ f, t ≠ .bad f := by simp) :
    ∃ left, readFrom r (gap ++ c :: rest) = readFrom (next left) rest :=
  ⟨_, readFrom_token [] _ h visible (scan rest) sound takes⟩

theorem intercalate_comma (a b : List Char) (cs : List (List Char)) :
    [','].intercalate (a :: b :: cs) = a ++ ',' :: [','].intercalate (b :: cs) := by
  simp [List.intercalate]

theorem gap_nil : Gap [] := by simp [Gap]

theorem readFrom_items {items : List (Json × List Char)} (blank : Gap close)
    (inner : ∀ i ∈ items, Reads i.1 i.2) (start : Nat) (done : List Json) (comma : Bool)
    (outer : List Frame) (rest : List Char) :
    readFrom (.inArray start done comma outer)
        ([','].intercalate (items.map Prod.snd) ++ (close ++ ']' :: rest)) =
      readFrom (deliver (.arr (done.reverse ++ items.map Prod.fst)) outer) rest := by
  have finish : ∀ (done : List Json) (comma : Bool),
      readFrom (.inArray start done comma outer) (close ++ ']' :: rest) =
        readFrom (deliver (.arr done.reverse) outer) rest := by
    intro done comma
    obtain ⟨_, read⟩ := readFrom_mark (r := .inArray start done comma outer) ']' .closeBracket
      (fun _ => deliver (.arr done.reverse) outer) blank (fun _ => rfl) (fun _ => rfl) rest
    exact read
  induction items generalizing done comma with
  | nil => simpa [List.intercalate] using finish done comma
  | cons i items ih =>
    have first : Reads i.1 i.2 := inner i List.mem_cons_self
    have later := ih fun i hi => inner i (List.mem_cons_of_mem _ hi)
    have waits := awaits_inArray start done comma outer
    cases items with
    | nil =>
      have ends := blank.ends_append (ends_cons (by decide : ']' ∈ closers) rest)
      have read := first waits gap_nil ends
      rw [List.nil_append] at read
      simp [List.intercalate, read, deliver, finish]
    | cons k items =>
      have read := first waits gap_nil (ends_cons (by decide : ',' ∈ closers)
        ([','].intercalate ((k :: items).map Prod.snd) ++ (close ++ ']' :: rest)))
      obtain ⟨_, next⟩ := readFrom_mark (r := .inArray start (i.1 :: done) true outer) ',' .comma
        (fun _ => .inArray start (i.1 :: done) false outer) gap_nil (fun _ => rfl) (fun _ => rfl)
        ([','].intercalate ((k :: items).map Prod.snd) ++ (close ++ ']' :: rest))
      rw [List.nil_append] at read next
      rw [List.map_cons, List.map_cons, intercalate_comma, List.append_assoc, List.cons_append,
        ← List.map_cons, read, deliver, next, later]
      simp

theorem readFrom_entry {e : Entry} (blank : Gap e.before) (inner : Reads e.value e.text)
    (ends : Ends rest) (start : Nat) (done : List (String × Json)) (comma : Bool)
    (outer : List Frame) :
    readFrom (.inObject start done comma outer) (e.written ++ rest) =
      readFrom (.inObject start (e.field :: done) true outer) rest := by
  have key := readFrom_token (r := .inObject start done comma outer) _
    (fun _ => .afterKey start done e.key outer) blank (by decide)
    (scanToken_quote e.key (':' :: (e.text ++ rest))) (by simp) (fun _ => by cases comma <;> rfl)
  obtain ⟨_, colon⟩ := readFrom_mark (r := .afterKey start done e.key outer) ':' .colon
    (fun _ => .afterColon start done e.key outer) gap_nil (fun _ => rfl) (fun _ => rfl)
    (e.text ++ rest)
  have value := inner (awaits_afterColon start done e.key outer) gap_nil ends
  rw [List.nil_append] at colon value
  have text : e.written ++ rest = e.before ++ (quote e.key ++ ':' :: (e.text ++ rest)) := by
    simp [Entry.written]
  rw [text]
  exact key.trans (colon.trans value)

/-- Fields with commas between them, and the end of their object. -/
theorem readFrom_entries {entries : List Entry} (blank : Gap close)
    (blanks : ∀ e ∈ entries, Gap e.before) (inner : ∀ e ∈ entries, Reads e.value e.text)
    (start : Nat) (done : List (String × Json)) (comma : Bool) (outer : List Frame)
    (rest : List Char) :
    readFrom (.inObject start done comma outer)
        ([','].intercalate (entries.map Entry.written) ++ (close ++ '\x7d' :: rest)) =
      readFrom (deliver (.ofFields (done.reverse ++ entries.map Entry.field)) outer) rest := by
  have finish : ∀ (done : List (String × Json)) (comma : Bool),
      readFrom (.inObject start done comma outer) (close ++ '\x7d' :: rest) =
        readFrom (deliver (.ofFields done.reverse) outer) rest := by
    intro done comma
    obtain ⟨_, read⟩ := readFrom_mark (r := .inObject start done comma outer) '\x7d' .closeBrace
      (fun _ => deliver (.ofFields done.reverse) outer) blank (fun _ => rfl) (fun _ => rfl) rest
    exact read
  induction entries generalizing done comma with
  | nil => simpa [List.intercalate] using finish done comma
  | cons e entries ih =>
    have self : Reads e.value e.text := inner e List.mem_cons_self
    have later := ih (fun e he => blanks e (List.mem_cons_of_mem _ he))
      fun e he => inner e (List.mem_cons_of_mem _ he)
    cases entries with
    | nil =>
      have ends := blank.ends_append (ends_cons (by decide : '\x7d' ∈ closers) rest)
      have read := readFrom_entry (blanks e List.mem_cons_self) self ends start done comma outer
      simp [List.intercalate, read, finish]
    | cons k entries =>
      have ends := ends_cons (by decide : ',' ∈ closers)
        ([','].intercalate ((k :: entries).map Entry.written) ++ (close ++ '\x7d' :: rest))
      have read := readFrom_entry (blanks e List.mem_cons_self) self ends start done comma outer
      obtain ⟨_, next⟩ := readFrom_mark (r := .inObject start (e.field :: done) true outer) ','
        .comma (fun _ => .inObject start (e.field :: done) false outer) gap_nil (fun _ => rfl)
        (fun _ => rfl)
        ([','].intercalate ((k :: entries).map Entry.written) ++ (close ++ '\x7d' :: rest))
      rw [List.nil_append] at next
      rw [List.map_cons, List.map_cons, intercalate_comma, List.append_assoc, List.cons_append,
        ← List.map_cons, read, next, later]
      simp

theorem put_of_lt {fields : List (String × Json)} {key : String}
    (h : ∀ f ∈ fields, f.1 < key) (value : Json) :
    put key value fields = fields ++ [(key, value)] := by
  induction fields with
  | nil => rfl
  | cons f fields ih =>
    have lt := h f List.mem_cons_self
    have later := ih fun f hf => h f (List.mem_cons_of_mem _ hf)
    rw [put, if_neg (lt_asymm lt), if_neg lt.ne', later, List.cons_append]

theorem ofFields_of_sorted {fields : List (String × Json)}
    (sorted : fields.Pairwise fun a b => a.1 < b.1) : ofFields fields = .obj fields := by
  have all : ∀ before : List (String × Json), (before ++ fields).Pairwise (fun a b => a.1 < b.1) →
      fields.foldl (fun acc f => put f.1 f.2 acc) before = before ++ fields := by
    clear sorted
    induction fields with
    | nil => simp
    | cons f fields ih =>
      intro before sorted
      have lt : ∀ b ∈ before, b.1 < f.1 := fun b hb =>
        (List.pairwise_append.mp sorted).2.2 b hb f List.mem_cons_self
      have placed : put f.1 f.2 before = before ++ [f] := put_of_lt lt f.2
      refine (ih (put f.1 f.2 before) ?_).trans ?_
      · simpa [placed] using sorted
      · simp [placed]
  exact congrArg Json.obj (all [] sorted)

/-- A text of a value is read as the value. -/
theorem Written.reads (h : Written j cs) : Reads j cs := by
  induction h with
  | null =>
    intro r outer gap rest awaits blank ends
    exact readFrom_token _ _ blank (by decide) (scanToken_null ends) (by simp)
      fun left => awaits .null left (by simp) (by simp)
  | bool b =>
    intro r outer gap rest awaits blank ends
    have scan := scanToken_bool ends b
    have takes := fun left => awaits (.bool b) left (by simp) (by simp)
    cases b <;> exact readFrom_token _ _ blank (by decide) scan (by simp) takes
  | int n low high =>
    intro r outer gap rest awaits blank ends
    obtain ⟨written, scan⟩ := scanToken_int low high ends
    obtain ⟨c, text, eq, visible⟩ := exists_cons_toString n
    rw [eq] at scan
    rw [scalar, eq]
    exact readFrom_token _ _ blank visible scan (by simp)
      fun left => awaits (.number written (.int n)) left (by simp) (by simp)
  | str s =>
    intro r outer gap rest awaits blank ends
    exact readFrom_token _ _ blank (by decide) (scanToken_quote s rest) (by simp)
      fun left => awaits (.text s) left (by simp) (by simp)
  | arr items close blank inner ih =>
    intro r outer gap rest awaits before ends
    obtain ⟨left, opened⟩ := readFrom_mark (r := r) '[' .openBracket
      (fun left => .inArray left [] false outer) before (fun _ => rfl)
      (fun left => awaits .openBracket left (by simp) (by simp))
      ([','].intercalate (items.map Prod.snd) ++ (close ++ ']' :: rest))
    have read := readFrom_items blank ih left [] false outer rest
    simp only [List.cons_append, List.append_assoc, List.nil_append]
    rw [opened, read]
    rfl
  | obj entries close blank blanks sorted inner ih =>
    intro r outer gap rest awaits before ends
    obtain ⟨left, opened⟩ := readFrom_mark (r := r) '\x7b' .openBrace
      (fun left => .inObject left [] false outer) before (fun _ => rfl)
      (fun left => awaits .openBrace left (by simp) (by simp))
      ([','].intercalate (entries.map Entry.written) ++ (close ++ '\x7d' :: rest))
    have read := readFrom_entries blank blanks ih left [] false outer rest
    simp only [List.cons_append, List.append_assoc, List.nil_append]
    rw [opened, read, List.reverse_nil, List.nil_append, ofFields_of_sorted sorted]
  | behind gap' blank' h ih =>
    intro r outer gap rest awaits blank ends
    have read := ih awaits (blank.append blank') ends
    simpa using read

/-- A text of a value, with white space behind it, is read as the value. -/
theorem read_of_written (h : Written j cs) (blank : Gap gap) :
    read (String.ofList (cs ++ gap)) = .ok (some j) := by
  have whole := h.reads awaits_empty gap_nil blank.ends
  rw [List.nil_append, readFrom_gap blank] at whole
  have lexed : readLexemes (lexemes (cs ++ gap)) = .ok (some j) := by
    rw [readFrom] at whole
    rw [readLexemes, whole]
    rfl
  simp only [read, String.toList_ofList, lexed]

/-- The value has no fractions in it, whole numbers that fit 64 bits, and objects whose keys are in
order. -/
inductive Plain : Json → Prop
  | null : Plain .null
  | bool (b : Bool) : Plain (.bool b)
  | int (n : Int) (low : -0x8000000000000000 ≤ n) (high : n < 0x10000000000000000) : Plain (.int n)
  | str (s : String) : Plain (.str s)
  | arr (items : List Json) (inner : ∀ v ∈ items, Plain v) : Plain (.arr items)
  | obj (fields : List (String × Json)) (sorted : fields.Pairwise fun a b => a.1 < b.1)
      (inner : ∀ f ∈ fields, Plain f.2) : Plain (.obj fields)

theorem Plain.object {fields : List (String × Json)} (sorted : (fields.map Prod.fst).Pairwise (· < ·))
    (inner : ∀ f ∈ fields, Plain f.2) : Plain (.obj fields) :=
  .obj fields (List.pairwise_map.mp sorted) inner

theorem eq_intercalate {α : Type} {f : List α → List Char} {g : α → List Char} (nil : f [] = [])
    (one : ∀ v, f [v] = g v) (more : ∀ v w vs, f (v :: w :: vs) = g v ++ ',' :: f (w :: vs))
    (vs : List α) : f vs = [','].intercalate (vs.map g) := by
  induction vs with
  | nil => exact nil
  | cons v vs ih =>
    cases vs with
    | nil => simp [List.intercalate, one]
    | cons w vs =>
      rw [more, ih]
      exact (intercalate_comma (g v) (g w) (vs.map g)).symm

theorem printItems_eq (vs : List Json) : printItems vs = [','].intercalate (vs.map print) :=
  eq_intercalate rfl (fun _ => rfl) (fun _ _ _ => rfl) vs

theorem printFields_eq (fs : List (String × Json)) :
    printFields fs = [','].intercalate (fs.map fun f => quote f.1 ++ ':' :: print f.2) :=
  eq_intercalate rfl (fun _ => rfl) (fun _ _ _ => by simp [printFields]) fs

theorem indentedItems_eq (level : Nat) (vs : List Json) :
    indentedItems level vs =
      [','].intercalate (vs.map fun v => newLine level ++ indented level v) :=
  eq_intercalate rfl (fun _ => rfl) (fun _ _ _ => by simp [indentedItems]) vs

theorem indentedFields_eq (level : Nat) (fs : List (String × Json)) :
    indentedFields level fs = [','].intercalate
      (fs.map fun f => newLine level ++ (quote f.1 ++ ':' :: ' ' :: indented level f.2)) :=
  eq_intercalate rfl (fun _ => by simp [indentedFields]) (fun _ _ _ => by simp [indentedFields]) fs

theorem gap_newLine (level : Nat) : Gap (newLine level) := by
  intro c hc
  rcases List.mem_cons.mp hc with rfl | hc
  · rfl
  · rw [List.eq_of_mem_replicate hc]
    rfl

/-- The text on one line is one of the value. -/
theorem Plain.print (h : Plain j) : Written j (print j) := by
  induction h with
  | null => exact .null
  | bool b => exact .bool b
  | int n low high => exact .int n low high
  | str s => exact .str s
  | arr items inner ih =>
    have written := Written.arr (items.map fun v => (v, Json.print v)) [] gap_nil
      (List.forall_mem_map.mpr ih)
    simpa [Json.print, printItems_eq, Function.comp_def] using written
  | obj fields sorted inner ih =>
    have written := Written.obj (fields.map fun f => ⟨[], f.1, f.2, Json.print f.2⟩) [] gap_nil
      (List.forall_mem_map.mpr fun _ _ => gap_nil)
      (by simpa [Function.comp_def, Entry.field] using sorted) (List.forall_mem_map.mpr ih)
    simpa [Json.print, printFields_eq, Function.comp_def, Entry.field, Entry.written] using written

theorem Plain.indented (h : Plain j) (level : Nat) : Written j (indented level j) := by
  induction h generalizing level with
  | null => exact .null
  | bool b => exact .bool b
  | int n low high => exact .int n low high
  | str s => exact .str s
  | arr items inner ih =>
    cases items with
    | nil => exact .arr [] [] gap_nil (by simp)
    | cons v vs =>
      have lines : ∀ w ∈ v :: vs, Written w (newLine (level + 1) ++ Json.indented (level + 1) w) :=
        fun w hw => .behind _ (gap_newLine _) (ih w hw _)
      have written := Written.arr
        ((v :: vs).map fun w => (w, newLine (level + 1) ++ Json.indented (level + 1) w))
        (newLine level) (gap_newLine level) (List.forall_mem_map.mpr lines)
      simpa [Json.indented, indentedItems_eq, Function.comp_def] using written
  | obj fields sorted inner ih =>
    cases fields with
    | nil => exact .obj [] [] gap_nil (by simp) (by simp) (by simp)
    | cons f fs =>
      have lines : ∀ g ∈ f :: fs, Written g.2 (' ' :: Json.indented (level + 1) g.2) :=
        fun g hg => .behind [' '] (by simp [Gap]) (ih g hg _)
      have written := Written.obj ((f :: fs).map fun g =>
          ⟨newLine (level + 1), g.1, g.2, ' ' :: Json.indented (level + 1) g.2⟩)
        (newLine level) (gap_newLine level) (List.forall_mem_map.mpr fun _ _ => gap_newLine _)
        (by simpa [Function.comp_def, Entry.field] using sorted) (List.forall_mem_map.mpr lines)
      simpa [Json.indented, indentedFields_eq, Function.comp_def, Entry.field, Entry.written]
        using written

/-- A value is read from the texts that are printed of it. -/
theorem Plain.read (h : Plain j) :
    Json.read (compact j) = .ok (some j) ∧ Json.read (pretty j) = .ok (some j) := by
  have line := read_of_written h.print gap_nil
  have lines := read_of_written (h.indented 0) gap_nil
  rw [List.append_nil] at line lines
  exact ⟨line, lines⟩

end Considerate.Json

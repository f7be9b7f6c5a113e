import Considerate.Json.Printer
import Considerate.Json.Lexeme

namespace Considerate.Json

open Text (isAlphanumeric isBlank)

variable {c : Char} {cs rest : List Char} {n whole : Nat}

/-- What a text that follows a value may start with: a comma, the end of an array or an object, or
white space. -/
def closers : List Char := [',', ']', '\x7d', ' ', '\t', '\r', '\n']

def Ends (rest : List Char) : Prop := ∀ c ∈ rest.head?, c ∈ closers

theorem unicodeEscape_control (h : n < 0x20) (rest : List Char) :
    unicodeEscape ('0' :: '0' :: hexDigit (n / 16) :: hexDigit (n % 16) :: rest) =
      .ok (Char.ofNat n, rest) := by
  have digits : ∀ n < 0x20, isHexDigit (hexDigit (n / 16)) = true ∧
      isHexDigit (hexDigit (n % 16)) = true ∧
      natOfHex ['0', '0', hexDigit (n / 16), hexDigit (n % 16)] = n := by decide
  obtain ⟨high, low, value⟩ := digits n h
  have zero : isHexDigit '0' = true := by decide
  have plain : ¬ 0xD800 ≤ n := by omega
  have plain' : ¬ 0xDC00 ≤ n := by omega
  simp [unicodeEscape, fourDigits, high, low, zero, value, plain, plain']

theorem stringBody_unicode {cs : List Char} (h : unicodeEscape cs = .ok (c, rest)) :
    stringBody '"' whole ('\\' :: 'u' :: cs) =
      (stringBody '"' whole rest).map fun (s, r) => (c :: s, r) := by
  rw [stringBody, if_neg (by decide), if_pos rfl, if_neg (by decide), if_neg (by decide),
    if_pos rfl]
  split
  · rename_i failed
    rw [h] at failed
    cases failed
  · rename_i read
    rw [h] at read
    cases read
    rfl

/-- What has been quoted of a character is read as the character. -/
theorem stringBody_quoteChar (c d : Char) (rest : List Char) :
    stringBody '"' whole (quoteChar c ++ d :: rest) =
      (stringBody '"' whole (d :: rest)).map fun (s, r) => (c :: s, r) := by
  unfold quoteChar
  repeat' split
  case isFalse.isFalse.isFalse.isFalse.isFalse.isFalse.isFalse.isTrue control =>
    have escaped := unicodeEscape_control control (d :: rest)
    rw [Char.ofNat_toNat] at escaped
    exact stringBody_unicode escaped
  case isFalse.isFalse.isFalse.isFalse.isFalse.isFalse.isFalse.isFalse quoteMark slash _ _ _ _ _ _ =>
    rw [List.singleton_append, stringBody, if_neg quoteMark, if_neg slash]
  all_goals
    subst c
    simp [stringBody, simpleEscape]

theorem stringBody_quote (s rest : List Char) :
    stringBody '"' whole (s.flatMap quoteChar ++ '"' :: rest) = .ok (s, rest) := by
  induction s with
  | nil => cases rest <;> simp [stringBody]
  | cons c s ih =>
    have more : ∃ d tail, s.flatMap quoteChar ++ '"' :: rest = d :: tail := by
      cases s.flatMap quoteChar with
      | nil => exact ⟨_, _, rfl⟩
      | cons d tail => exact ⟨_, _, rfl⟩
    obtain ⟨d, tail, eq⟩ := more
    rw [List.flatMap_cons, List.append_assoc, eq, stringBody_quoteChar, ← eq, ih]
    rfl

/-- Where neither a mark nor a comment starts, there is a string, a number or a word. -/
theorem scanToken_cons (unmarked : c ∉ ['\x7b', '\x7d', '[', ']', ',', ':', '/']) (cs : List Char) :
    scanToken (c :: cs) =
      if c = '"' || c = '\'' then
        (stringBody c (cs.length + 1) cs).map fun (s, r) => (some (.text (String.ofList s)), r)
      else if c = '-' || c = '+' || c.isDigit then (number (c :: cs)).map fun (t, r) => (some t, r)
      else (keywordOrWord (c :: cs)).map fun (t, r) => (some t, r) := by
  unfold scanToken
  split
  case h_11 =>
    rename_i eq
    cases eq
    rfl
  case h_1 none => cases none
  all_goals
    rename_i eq
    cases eq
    simp at unmarked

theorem scanToken_quote (s : String) (rest : List Char) :
    scanToken (quote s ++ rest) = .ok (some (.text s), rest) := by
  have text : quote s ++ rest = '"' :: (s.toList.flatMap quoteChar ++ '"' :: rest) := by
    simp [quote]
  rw [text, scanToken_cons (by decide), if_pos (by decide), stringBody_quote]
  exact congrArg (fun s => Except.ok (some (Token.text s), rest)) String.ofList_toList

/-- The digits of a number. -/
abbrev digits (n : Nat) : List Char := Nat.toDigits 10 n

theorem natOfDigits_digits (n : Nat) : Decimal.natOfDigits (digits n) = n := by
  have read := Nat.ofDigitChars_ten_toDigits (n := n)
  rwa [Nat.ofDigitChars_eq_foldl] at read

theorem isDigit_of_mem_digits (h : c ∈ digits n) : c.isDigit = true :=
  Nat.isDigit_of_mem_toDigits (by decide) (by decide) h

theorem exists_cons_digits (n : Nat) : ∃ c cs, digits n = c :: cs ∧ c.isDigit = true := by
  obtain ⟨c, cs, eq⟩ := List.exists_cons_of_ne_nil (Nat.toDigits_ne_nil (n := n) (b := 10))
  exact ⟨c, cs, eq, isDigit_of_mem_digits (n := n) (by simp [digits, eq])⟩

theorem head?_digits_ne_zero (pos : n ≠ 0) : (digits n).head? ≠ some '0' := by
  induction n using Nat.strongRecOn with
  | ind n ih =>
    rw [digits, Nat.toDigits_eq_if (by decide)]
    split
    · simpa using pos
    · have more : n / 10 ≠ 0 := by omega
      obtain ⟨c, cs, eq, _⟩ := exists_cons_digits (n / 10)
      have first := ih (n / 10) (by omega) more
      rw [eq] at first
      rw [← digits, eq]
      exact first

theorem takeWhile_digits (ends : Ends rest) (n : Nat) :
    (digits n ++ rest).takeWhile Char.isDigit = digits n ∧
      (digits n ++ rest).dropWhile Char.isDigit = rest := by
  have closed : ∀ c ∈ closers, c.isDigit = false := by simp [closers]
  have all : ∀ c ∈ digits n, c.isDigit = true := fun c => isDigit_of_mem_digits
  rw [List.takeWhile_append_of_pos all, List.dropWhile_append_of_pos all]
  cases rest with
  | nil => simp
  | cons c rest => simp [closed c (ends c rfl)]

theorem wholePart_digits (ends : Ends rest) (n : Nat) :
    wholePart (digits n ++ rest) = .ok (digits n, rest) := by
  by_cases zero : n = 0
  · subst n
    rfl
  · obtain ⟨taken, left⟩ := takeWhile_digits ends n
    obtain ⟨c, cs, eq, _⟩ := exists_cons_digits n
    have first := head?_digits_ne_zero zero
    unfold wholePart
    split
    · rename_i starts
      rw [eq] at starts first
      cases starts
      exact (first rfl).elim
    · rw [taken, left]
      simp only [eq]

theorem fractionPart_of_ends (ends : Ends rest) : fractionPart rest = .ok (none, rest) := by
  unfold fractionPart
  split
  · exact absurd (ends _ rfl) (by decide)
  · rfl

theorem exponentPart_of_ends (ends : Ends rest) : exponentPart rest = .ok (none, rest) := by
  unfold exponentPart
  split
  · exact absurd (ends _ rfl) (by decide)
  · exact absurd (ends _ rfl) (by decide)
  · rfl

theorem unsignedNumber_digits (ends : Ends rest) (sign : List Char) (negative : Bool) {value : Int}
    (known : Decimal.Notation.value ⟨negative, digits n, none, none⟩ = some (.int value)) :
    ∃ written, unsignedNumber sign negative (digits n ++ rest) =
      .ok (.number written (.int value), rest) := by
  have decimal : ∃ written, decimalNumber sign negative (digits n ++ rest) =
      .ok (.number written (.int value), rest) := by
    simp only [decimalNumber, wholePart_digits ends, fractionPart_of_ends ends,
      exponentPart_of_ends ends, known, Option.getD_some]
    exact ⟨_, rfl⟩
  have alone : ∀ x more, digits n ++ rest = '0' :: x :: more → x ∈ closers := by
    intro x more eq
    by_cases zero : n = 0
    · subst n
      cases eq
      exact ends x rfl
    · have first := head?_digits_ne_zero zero
      obtain ⟨c, cs, eq', _⟩ := exists_cons_digits n
      rw [eq'] at first eq
      exact absurd (congrArg some (List.cons.inj eq).1) first
  unfold unsignedNumber
  split
  · rename_i more eq
    exact absurd (alone _ _ eq) (by decide)
  · rename_i more eq
    exact absurd (alone _ _ eq) (by decide)
  · exact decimal

theorem toList_toString_int (n : Int) :
    (toString n).toList = if 0 ≤ n then digits n.toNat else '-' :: digits (-n).toNat := by
  rw [Int.toString_eq_repr, Int.repr_eq_if]
  split
  · rw [Nat.toList_repr]
  · rw [String.toList_append, Nat.toList_repr]
    rfl

theorem scanToken_digit (digit : c.isDigit = true) (cs : List Char) :
    scanToken (c :: cs) = (unsignedNumber [] false (c :: cs)).map fun (t, r) => (some t, r) := by
  have marks : ∀ m ∈ ['\x7b', '\x7d', '[', ']', ',', ':', '/', '"', '\'', '-', '+'],
      m.isDigit = false := by simp
  have other : c ∉ ['\x7b', '\x7d', '[', ']', ',', ':', '/', '"', '\'', '-', '+'] := by
    intro marked
    rw [marks c marked] at digit
    cases digit
  simp only [List.mem_cons, List.not_mem_nil, or_false, not_or] at other
  rw [scanToken_cons (by simp [other]), if_neg (by simp [other]), if_pos (by simp [digit])]
  unfold number
  split
  · rename_i eq
    simp [other] at eq
  · rename_i eq
    simp [other] at eq
  · rfl

theorem isBlank_of_isDigit (digit : c.isDigit = true) : isBlank c = false := by
  simp only [Char.isDigit, Bool.and_eq_true, decide_eq_true_eq, ge_iff_le,
    UInt32.le_iff_toNat_le] at digit
  have low : 48 ≤ c.toNat := digit.1
  have high : c.toNat ≤ 57 := digit.2
  simp only [isBlank]
  simp
  omega

theorem exists_cons_toString (n : Int) :
    ∃ c text, (toString n).toList = c :: text ∧ isBlank c = false := by
  rw [toList_toString_int]
  split
  · obtain ⟨c, cs, eq, digit⟩ := exists_cons_digits n.toNat
    exact ⟨c, cs, eq, isBlank_of_isDigit digit⟩
  · exact ⟨_, _, rfl, by decide⟩

theorem scanToken_int {n : Int} (low : -0x8000000000000000 ≤ n) (high : n < 0x10000000000000000)
    (ends : Ends rest) :
    ∃ written, scanToken ((toString n).toList ++ rest) =
      .ok (some (.number written (.int n)), rest) := by
  rw [toList_toString_int]
  split
  · rename_i nonneg
    have fits : n.toNat < 0x10000000000000000 := by omega
    have known : Decimal.Notation.value ⟨false, digits n.toNat, none, none⟩ = some (.int n) := by
      simp [Decimal.Notation.value, natOfDigits_digits, fits, Int.max_eq_left nonneg]
    obtain ⟨written, read⟩ := unsignedNumber_digits ends [] false known
    obtain ⟨c, cs, eq, digit⟩ := exists_cons_digits n.toNat
    rw [eq, List.cons_append] at read ⊢
    exact ⟨written, by rw [scanToken_digit digit, read]; rfl⟩
  · rename_i negative
    have known : Decimal.Notation.value ⟨true, digits (-n).toNat, none, none⟩ = some (.int n) := by
      have pos : 0 < (-n).toNat := by omega
      have fits : (-n).toNat ≤ 0x8000000000000000 := by omega
      have value : -((-n).toNat : Int) = n := by omega
      simp only [Decimal.Notation.value, natOfDigits_digits, pos, fits, value, decide_true,
        Bool.and_self, if_true]
    obtain ⟨written, read⟩ := unsignedNumber_digits ends ['-'] true known
    refine ⟨written, ?_⟩
    rw [List.cons_append, scanToken_cons (by decide), if_neg (by decide), if_pos (by decide),
      number, read]
    rfl

theorem afterKeyword_self (ends : Ends rest) (keyword : List Char) :
    afterKeyword keyword (keyword ++ rest) = some rest := by
  have closed : ∀ c ∈ closers, isAlphanumeric c = false := by
    simp only [closers, List.forall_mem_cons, List.not_mem_nil, false_implies, implies_true]
    decide
  have starts : keyword.isPrefixOf (keyword ++ rest) = true := by simp
  rw [afterKeyword, if_pos starts, List.drop_left]
  cases rest with
  | nil => rfl
  | cons c rest => simp [closed c (ends c rfl)]

theorem scanToken_bool (ends : Ends rest) (b : Bool) :
    scanToken (scalar (.bool b) ++ rest) = .ok (some (.bool b), rest) := by
  cases b with
  | false =>
    have other : afterKeyword "true".toList (scalar (.bool false) ++ rest) = none := rfl
    have read : afterKeyword "false".toList (scalar (.bool false) ++ rest) = some rest :=
      afterKeyword_self ends _
    have word : keywordOrWord (scalar (.bool false) ++ rest) = .ok (.bool false, rest) := by
      rw [keywordOrWord, other, read]
    exact (scanToken_cons (by decide) _).trans (congrArg (Except.map _) word)
  | true =>
    have read : afterKeyword "true".toList (scalar (.bool true) ++ rest) = some rest :=
      afterKeyword_self ends _
    have word : keywordOrWord (scalar (.bool true) ++ rest) = .ok (.bool true, rest) := by
      rw [keywordOrWord, read]
    exact (scanToken_cons (by decide) _).trans (congrArg (Except.map _) word)

theorem scanToken_null (ends : Ends rest) :
    scanToken (scalar .null ++ rest) = .ok (some .null, rest) := by
  have other : afterKeyword "true".toList (scalar .null ++ rest) = none := rfl
  have other' : afterKeyword "false".toList (scalar .null ++ rest) = none := rfl
  have read : afterKeyword "null".toList (scalar .null ++ rest) = some rest :=
    afterKeyword_self ends _
  have word : keywordOrWord (scalar .null ++ rest) = .ok (.null, rest) := by
    rw [keywordOrWord, other, other', read]
  exact (scanToken_cons (by decide) _).trans (congrArg (Except.map _) word)

end Considerate.Json

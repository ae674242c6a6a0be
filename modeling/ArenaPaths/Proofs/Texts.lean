import ArenaPaths.Text.Blank
import ArenaPaths.Text.Numeral
import Mathlib.Data.List.Forall2

/-!
# Numerals and fields

What is read from a text, said without reading it. A numeral has the positional value of
its digits, whatever stops the reader early; the fields of a text are the words that it
was put together from. Both are led back to the printers of the standard library.
-/

namespace ArenaPaths.Text

/-! ## Numerals -/

/-- A text is a decimal numeral of a value: it has at least one digit and perhaps a plus
sign in front of them. -/
def IsDecimal (text : String) (value : Nat) : Prop :=
  ∃ digits : List Char, digits ≠ [] ∧ (∀ c ∈ digits, c.isDigit) ∧
    (text.toList = digits ∨ text.toList = '+' :: digits) ∧
    value = Nat.ofDigitChars 10 digits 0

/-- A numeral starts with a digit or a sign. -/
theorem IsDecimal.exists_first {text : String} {value : Nat}
    (isDecimal : IsDecimal text value) :
    ∃ c rest, text.toList = c :: rest ∧ (c.isDigit ∨ c = '+') := by
  obtain ⟨digits, nonempty, areDigits, unsigned | signed, _⟩ := isDecimal
  · cases digits with
    | nil => exact absurd rfl nonempty
    | cons c rest => exact ⟨c, rest, unsigned, .inl (areDigits c List.mem_cons_self)⟩
  · exact ⟨'+', digits, signed, .inr rfl⟩

namespace Numeral

variable {radix limit value result : Nat} {chars : List Char}

/-- Characters are digits of the given values. -/
def Spells (radix : Nat) : List Char → List Nat → Prop :=
  List.Forall₂ fun c digit => digit? radix c = some digit

/-- The value of digits that are put behind a value. -/
def append (radix value : Nat) (digits : List Nat) : Nat :=
  digits.foldl (fun value digit => value * radix + digit) value

theorem le_append (positive : 0 < radix) (value : Nat) (digits : List Nat) :
    value ≤ append radix value digits := by
  induction digits generalizing value with
  | nil => exact Nat.le_refl value
  | cons digit rest ih =>
    calc value
        ≤ value * radix := Nat.le_mul_of_pos_right value positive
      _ ≤ value * radix + digit := Nat.le_add_right _ _
      _ ≤ append radix value (digit :: rest) := ih _

/-- Digits are read if all of them are digits and the value of the whole is below the
limit. The value of a part is never above that of the whole, so there is no other reason
to stop. -/
theorem readDigits_eq_ok_iff (positive : 0 < radix) (below : value < limit) :
    readDigits radix limit value chars = .ok result ↔
      ∃ digits, Spells radix chars digits ∧ result = append radix value digits ∧
        result < limit := by
  induction chars generalizing value with
  | nil =>
    constructor
    · intro read
      cases read
      exact ⟨[], .nil, rfl, below⟩
    · rintro ⟨digits, spelled, rfl, _⟩
      cases spelled
      rfl
  | cons c rest ih =>
    rw [readDigits]
    cases isDigit : digit? radix c with
    | none =>
      constructor
      · intro read
        cases read
      · rintro ⟨digits, spelled, _⟩
        cases spelled with
        | cons first _ => cases isDigit.symm.trans first
    | some digit =>
      dsimp only
      split
      · rename_i more
        rw [ih more]
        constructor
        · rintro ⟨digits, spelled, value_eq, small⟩
          exact ⟨digit :: digits, .cons isDigit spelled, value_eq, small⟩
        · rintro ⟨digits, spelled, value_eq, small⟩
          cases spelled with
          | cons first others =>
            cases isDigit.symm.trans first
            exact ⟨_, others, value_eq, small⟩
      · rename_i large
        constructor
        · intro read
          cases read
        · rintro ⟨digits, spelled, rfl, small⟩
          cases spelled with
          | cons first others =>
            cases isDigit.symm.trans first
            exact absurd (Nat.lt_of_le_of_lt
                (le_append positive (value * radix + digit) _) small) large

/-- A numeral is read with a sign or without one; in either case there has to be a
digit. -/
theorem readChars_eq_ok_iff :
    readChars radix limit chars = .ok result ↔
      ∃ digits, digits ≠ [] ∧ (chars = digits ∨ chars = '+' :: digits) ∧
        readDigits radix limit 0 digits = .ok result := by
  fun_cases readChars radix limit chars with
  | case1 => simp
  | case2 =>
    constructor
    · intro read
      cases read
    · rintro ⟨digits, nonempty, rfl | signed, read⟩
      · -- A sign is no digit.
        cases read
      · cases signed
        exact absurd rfl nonempty
  | case3 digits nonempty =>
    constructor
    · intro read
      exact ⟨digits, nonempty, .inr rfl, read⟩
    · rintro ⟨others, _, rfl | signed, read⟩
      · cases read
      · cases signed
        exact read
  | case4 _ nonempty _ unsigned =>
    constructor
    · intro read
      exact ⟨chars, nonempty, .inl rfl, read⟩
    · rintro ⟨digits, _, rfl | signed, read⟩
      · exact read
      · exact absurd signed (unsigned digits)

/-- Digits of the decimal system are those of the standard library. -/
theorem digit?_ten (c : Char) :
    digit? 10 c = if c.isDigit then some (c.toNat - '0'.toNat) else none := by
  have isDigit_iff : c.isDigit ↔ '0' ≤ c ∧ c ≤ '9' := by
    simp [Char.isDigit, Char.le_def]
  by_cases inside : '0' ≤ c ∧ c ≤ '9'
  · have small : c.toNat - '0'.toNat < 10 := by
      have : c.toNat ≤ '9'.toNat := inside.2
      exact Nat.lt_succ_of_le (Nat.sub_le_sub_right this _)
    rw [digit?, if_pos inside, if_pos (isDigit_iff.2 inside)]
    simpa using small
  · rw [digit?, if_neg inside, if_neg (mt isDigit_iff.1 inside)]
    -- The value of a letter is ten or more.
    split
    · simp
    · split <;> simp

/-- Decimal digits are spelled in one way. -/
theorem spells_ten_iff {digits : List Nat} :
    Spells 10 chars digits ↔ (∀ c ∈ chars, c.isDigit) ∧
      digits = chars.map fun c => c.toNat - '0'.toNat := by
  induction chars generalizing digits with
  | nil => simp [Spells]
  | cons c rest ih =>
    simp only [Spells, List.forall₂_cons_left_iff, digit?_ten, List.forall_mem_cons,
      List.map_cons] at ih ⊢
    constructor
    · rintro ⟨digit, others, first, spelled, rfl⟩
      split at first
      · rename_i isDigit
        cases first
        obtain ⟨areDigits, rfl⟩ := ih.1 spelled
        exact ⟨⟨isDigit, areDigits⟩, rfl⟩
      · cases first
    · rintro ⟨⟨isDigit, areDigits⟩, rfl⟩
      exact ⟨_, _, if_pos isDigit, ih.2 ⟨areDigits, rfl⟩, rfl⟩

/-- The value of decimal digits is that of the standard library. -/
theorem append_ten (value : Nat) (chars : List Char) :
    append 10 value (chars.map fun c => c.toNat - '0'.toNat)
      = Nat.ofDigitChars 10 chars value := by
  rw [append, Nat.ofDigitChars_eq_foldl, List.foldl_map]
  simp only [Nat.mul_comm]

/-- A numeral below the limit is read as its value, and nothing else is read. -/
theorem read_eq_ok_iff (positive : 0 < radix) (someBelow : 0 < limit) {text : String} :
    read radix limit text = .ok value ↔
      ∃ chars digits, chars ≠ [] ∧ (text.toList = chars ∨ text.toList = '+' :: chars) ∧
        Spells radix chars digits ∧ value = append radix 0 digits ∧ value < limit := by
  rw [read, readChars_eq_ok_iff]
  simp only [readDigits_eq_ok_iff positive someBelow, exists_and_left]

/-- A decimal numeral below the limit is read as its value, and nothing else is read. -/
theorem read_ten_eq_ok_iff (someBelow : 0 < limit) {text : String} :
    read 10 limit text = .ok value ↔ IsDecimal text value ∧ value < limit := by
  rw [read_eq_ok_iff (by decide) someBelow]
  constructor
  · rintro ⟨chars, digits, nonempty, forms, spelled, value_eq, below⟩
    obtain ⟨areDigits, rfl⟩ := spells_ten_iff.1 spelled
    exact ⟨⟨chars, nonempty, areDigits, forms, value_eq.trans (append_ten 0 chars)⟩,
      below⟩
  · rintro ⟨⟨chars, nonempty, areDigits, forms, value_eq⟩, below⟩
    exact ⟨chars, _, nonempty, forms, spells_ten_iff.2 ⟨areDigits, rfl⟩,
      value_eq.trans (append_ten 0 chars).symm, below⟩

/-- A decimal numeral that fits a word is read as its value, and nothing else is
read. -/
theorem word32_eq_ok_iff {text : String} {word : UInt32} :
    word32 text = .ok word ↔ IsDecimal text word.toNat := by
  have read_iff : word32 text = .ok word ↔
      read 10 UInt32.size text = .ok word.toNat := by
    rw [word32]
    cases outcome : read 10 UInt32.size text with
    | error fault => exact ⟨fun read => (nomatch read), fun read => (nomatch read)⟩
    | ok value =>
      have small := ((read_ten_eq_ok_iff (by decide)).1 outcome).2
      simp only [Except.map, Except.ok.injEq]
      constructor
      · rintro rfl
        exact (UInt32.toNat_ofNat_of_lt' small).symm
      · rintro rfl
        exact UInt32.ofNat_toNat
  rw [read_iff, read_ten_eq_ok_iff (by decide)]
  exact and_iff_left word.toNat_lt

end Numeral

/-- A printed word is a numeral of its value. -/
theorem isDecimal_toString (word : UInt32) : IsDecimal (toString word) word.toNat := by
  refine ⟨Nat.toDigits 10 word.toNat, Nat.toDigits_ne_nil, ?_, .inl Nat.toList_repr, ?_⟩
  · intro c member
    exact Nat.isDigit_of_mem_toDigits (by decide) (by decide) member
  · exact Nat.ofDigitChars_ten_toDigits.symm

/-! ## Fields -/

/-- No digit is a blank. -/
theorem isBlank_of_isDigit {c : Char} (isDigit : c.isDigit) : isBlank c = false := by
  have range : 48 ≤ c.toNat ∧ c.toNat ≤ 57 := by
    simpa [Char.isDigit, UInt32.le_iff_toNat_le] using isDigit
  simp only [isBlank, inRanges, blankRanges, List.any_cons, List.any_nil, Bool.or_false,
    Bool.or_eq_false_iff, Bool.and_eq_false_iff, decide_eq_false_iff_not]
  omega

/-- A text that can be a field: not empty, and without a blank. -/
def IsWord (text : String) : Prop := text ≠ "" ∧ ∀ c ∈ text.toList, isBlank c = false

instance (text : String) : Decidable (IsWord text) :=
  decidable_of_iff (text ≠ "" ∧ (text.toList.all fun c => !isBlank c) = true)
    (by simp [IsWord])

/-- A printed word can be a field. -/
theorem isWord_toString (word : UInt32) : IsWord (toString word) := by
  have digits_eq : (toString word).toList = Nat.toDigits 10 word.toNat :=
    Nat.toList_repr
  constructor
  · intro empty
    rw [empty] at digits_eq
    exact Nat.toDigits_ne_nil digits_eq.symm
  · intro c member
    rw [digits_eq] at member
    exact isBlank_of_isDigit
      (Nat.isDigit_of_mem_toDigits (by decide) (by decide) member)

/-- Blanks around a word are cut off, and nothing else. -/
theorem trim_of_isWord {text word : String} {before after : List Char}
    (isWord : IsWord word) (blankBefore : ∀ c ∈ before, isBlank c)
    (blankAfter : ∀ c ∈ after, isBlank c)
    (text_eq : text.toList = before ++ word.toList ++ after) : trim text = word := by
  have dropWhile_of_clean {chars : List Char} (rest : List Char) (nonempty : chars ≠ [])
      (clean : ∀ c ∈ chars, isBlank c = false) :
        (chars ++ rest).dropWhile isBlank = chars ++ rest := by
    obtain ⟨c, others, rfl⟩ := List.exists_cons_of_ne_nil nonempty
    exact List.dropWhile_cons_of_neg (by simp [clean c])
  have nonempty : word.toList ≠ [] := by simpa using isWord.1
  have trimmed : trimChars (before ++ word.toList ++ after) = word.toList := by
    rw [trimChars, List.append_assoc, List.dropWhile_append_of_pos blankBefore,
      dropWhile_of_clean after nonempty isWord.2,
      List.reverse_append, List.dropWhile_append_of_pos (by simpa using blankAfter),
      ← List.append_nil word.toList.reverse,
      dropWhile_of_clean [] (by simpa using nonempty) (by simpa using isWord.2),
      List.append_nil, List.reverse_reverse]
  rw [trim, text_eq, trimmed, String.ofList_toList]

/-- Characters that are not blank go to the field being read. -/
theorem fieldsFrom_append {word : List Char} (clean : ∀ c ∈ word, isBlank c = false)
    (current rest : List Char) :
    fieldsFrom current (word ++ rest) = fieldsFrom (word.reverse ++ current) rest := by
  induction word generalizing current with
  | nil => rfl
  | cons c word ih =>
    obtain ⟨cleanFirst, cleanRest⟩ := List.forall_mem_cons.1 clean
    rw [List.cons_append, fieldsFrom, if_neg (by simp [cleanFirst]), ih cleanRest]
    simp

/-- The fields of words with a blank between them are the words. -/
theorem fields_intercalate {words : List String}
    (areWords : ∀ word ∈ words, IsWord word) :
    fields (" ".intercalate words) = words := by
  suffices fieldsFrom [] (" ".intercalate words).toList = words.map String.toList by
    rw [fields, this, List.map_map]
    simp [Function.comp_def]
  induction words with
  | nil => rfl
  | cons word rest ih =>
    obtain ⟨isWord, areRest⟩ := List.forall_mem_cons.1 areWords
    have nonempty : word.toList ≠ [] := by
      simpa using isWord.1
    cases rest with
    | nil =>
      have alone := fieldsFrom_append isWord.2 [] []
      rw [List.append_nil, List.append_nil] at alone
      rw [String.intercalate_singleton, alone, fieldsFrom,
        if_neg (by simpa using nonempty)]
      simp
    | cons next others =>
      rw [String.intercalate_cons_cons, String.toList_append, String.toList_append,
        List.append_assoc, fieldsFrom_append isWord.2, List.append_nil]
      change fieldsFrom _ (' ' :: (" ".intercalate (next :: others)).toList) = _
      rw [fieldsFrom, if_pos (by decide), if_neg (by simpa using nonempty),
        List.reverse_reverse, ih areRest]
      rfl

end ArenaPaths.Text

import ArenaPaths.Backing.Device
import ArenaPaths.Proofs.Texts
import Mathlib

/-!
# Hexadecimal attributes

An attribute with a hexadecimal numeral is read as its value. A numeral is a mark and a
sign, either of which may be absent, and digits of either case, with blanks around all
of it. Nothing else is read, and a value that does not fit 64 bits is refused. So all
ways to write a number down lead back to it.

Main statement: `Attribute.hexadecimal_decodes_exactly`.
-/

namespace ArenaPaths

namespace Text

/-! ## Digits -/

/-- A character is the hexadecimal digit of a value, in either case. -/
def IsHexDigit (c : Char) (value : Nat) : Prop := value < 16 ∧
    c.toLower = Nat.digitChar value

/-- What holds of all characters of the ASCII table can be read off the table. -/
@[elab_as_elim]
theorem of_ascii {motive : Char → Prop} {c : Char} (ascii : c.toNat < 128)
    (table : ∀ code < 128, motive (Char.ofNat code)) : motive c := by
  have entry := table c.toNat ascii
  rwa [Char.ofNat_toNat] at entry

theorem IsHexDigit.toNat_lt {c : Char} {value : Nat} (isDigit : IsHexDigit c value) :
    c.toNat < 128 := by
  obtain ⟨small, lower_eq⟩ := isDigit
  have table : ∀ value < 16, (Nat.digitChar value).toNat < 128 := by decide
  have bound := table value small
  rw [← lower_eq, Char.toLower] at bound
  split at bound
  · rename_i upper
    exact Nat.lt_of_le_of_lt upper.2 (by decide)
  · exact bound

/-- No hexadecimal digit is a blank. -/
theorem IsHexDigit.isBlank_eq_false {c : Char} {value : Nat}
    (isDigit : IsHexDigit c value) : isBlank c = false := by
  have clean : ∀ value < 16, c.toLower = Nat.digitChar value → isBlank c = false := by
    refine of_ascii isDigit.toNat_lt ?_
    decide +kernel
  exact clean value isDigit.1 isDigit.2

namespace Numeral

theorem toNat_lt_of_digit? {radix value : Nat} {c : Char}
    (found : digit? radix c = some value) : c.toNat < 128 := by
  have lt_of_le {last : Char} (le : c ≤ last) (ascii : last.toNat < 128) :
      c.toNat < 128 := Nat.lt_of_le_of_lt le ascii
  simp only [digit?, Option.filter_eq_some_iff] at found
  obtain ⟨found, _⟩ := found
  split at found
  · rename_i inside
    exact lt_of_le inside.2 (by decide)
  · split at found
    · rename_i inside
      exact lt_of_le inside.2 (by decide)
    · split at found
      · rename_i inside
        exact lt_of_le inside.2 (by decide)
      · cases found

/-- The reader knows the hexadecimal digits and no others. -/
theorem digit?_sixteen_eq_some_iff (c : Char) (value : Nat) :
    digit? 16 c = some value ↔ IsHexDigit c value := by
  have known (ascii : c.toNat < 128) :
      ∀ value < 16, (digit? 16 c = some value ↔ c.toLower = Nat.digitChar value) := by
    refine of_ascii ascii ?_
    decide +kernel
  constructor
  · intro found
    have small := digit?_lt found
    exact ⟨small, (known (toNat_lt_of_digit? found) value small).mp found⟩
  · intro isDigit
    exact (known isDigit.toNat_lt value isDigit.1).mpr isDigit.2

/-- Digits that are put behind nothing have their positional value. -/
theorem append_zero (radix : Nat) (digits : List Nat) :
    append radix 0 digits = Nat.ofDigits radix digits.reverse := by
  rw [Nat.ofDigits_eq_foldr, List.foldr_reverse, append]
  simp only [Nat.mul_comm, Nat.add_comm, Nat.cast_id]

end Numeral

/-! ## Numerals -/

/-- What may stand in front of the digits. -/
def plusSigns : List String := ["", "+"]

/-- Characters are a hexadecimal numeral of a value: at least one digit, of which the
first counts most, and perhaps a plus sign in front of them. -/
def IsHexNumeral (chars : List Char) (value : Nat) : Prop :=
  ∃ sign ∈ plusSigns, ∃ digits values, digits ≠ [] ∧ chars = sign.toList ++ digits ∧
    List.Forall₂ IsHexDigit digits values ∧ value = Nat.ofDigits 16 values.reverse

/-- What may stand in front of a hexadecimal numeral to mark it as one. -/
def hexMarks : List String := ["", "0x", "0X"]

/-- A text is a hexadecimal numeral of a value, perhaps with a mark in front of it. -/
def IsHexadecimal (text : String) (value : Nat) : Prop :=
  ∃ mark ∈ hexMarks, ∃ numeral, text.toList = mark.toList ++ numeral ∧
    IsHexNumeral numeral value

/-- A numeral below the limit is read as its value, and nothing else is read. -/
theorem Numeral.read_sixteen_eq_ok_iff {limit value : Nat} (someBelow : 0 < limit)
    {text : String} :
    read 16 limit text = .ok value ↔ IsHexNumeral text.toList value ∧
    value < limit := by
  rw [read_eq_ok_iff (by decide) someBelow]
  simp only [Spells, digit?_sixteen_eq_some_iff, append_zero]
  constructor
  · rintro ⟨chars, values, nonempty, unsigned | signed, spelled, value_eq, below⟩
    · exact ⟨⟨"", by simp [plusSigns], chars, values, nonempty, unsigned, spelled,
          value_eq⟩, below⟩
    · exact ⟨⟨"+", by simp [plusSigns], chars, values, nonempty, signed, spelled,
          value_eq⟩, below⟩
  · rintro ⟨⟨sign, isSign, chars, values, nonempty, chars_eq, spelled, value_eq⟩, below⟩
    refine ⟨chars, values, nonempty, ?_, spelled, value_eq, below⟩
    simp only [plusSigns, List.mem_cons, List.not_mem_nil, or_false] at isSign
    rcases isSign with rfl | rfl
    · exact .inl chars_eq
    · exact .inr chars_eq

/-- A numeral has only digits behind its first character. -/
theorem IsHexNumeral.exists_isHexDigit {first second : Char} {rest : List Char}
    {value : Nat} (isNumeral : IsHexNumeral (first :: second :: rest) value) :
    ∃ digit, IsHexDigit second digit := by
  obtain ⟨sign, isSign, digits, values, _, chars_eq, spelled, _⟩ := isNumeral
  simp only [plusSigns, List.mem_cons, List.not_mem_nil, or_false] at isSign
  rcases isSign with rfl | rfl
  · obtain rfl : first :: second :: rest = digits := chars_eq
    cases spelled with
    | cons _ others =>
      cases others with
      | cons isDigit _ => exact ⟨_, isDigit⟩
  · obtain rfl : second :: rest = digits := (List.cons.inj chars_eq).2
    cases spelled with
    | cons isDigit _ => exact ⟨_, isDigit⟩

theorem not_isHexDigit_of_digit? {c : Char} (unknown : Numeral.digit? 16 c = none)
    (value : Nat) :
    ¬ IsHexDigit c value := by
  intro isDigit
  cases unknown.symm.trans ((Numeral.digit?_sixteen_eq_some_iff c value).mpr isDigit)

/-- A numeral holds no blank. -/
theorem IsHexadecimal.isWord {text : String} {value : Nat}
    (isHexadecimal : IsHexadecimal text value) :
    IsWord text := by
  obtain ⟨mark, isMark, _, text_eq, sign, isSign, digits, values, nonempty, rfl,
      spelled, _⟩ := isHexadecimal
  have cleanMark : ∀ mark ∈ hexMarks, mark.toList.all (!isBlank ·) := by decide
  have cleanSign : ∀ sign ∈ plusSigns, sign.toList.all (!isBlank ·) := by decide
  constructor
  · rintro rfl
    simp [nonempty] at text_eq
  · intro c member
    rw [text_eq, List.mem_append, List.mem_append] at member
    rcases member with inMark | inSign | inDigits
    · simpa using List.all_eq_true.mp (cleanMark mark isMark) c inMark
    · simpa using List.all_eq_true.mp (cleanSign sign isSign) c inSign
    · have clean := spelled.imp
          fun c value isDigit => And.intro (IsHexDigit.isBlank_eq_false isDigit) isDigit
      exact ((List.forall₂_and_left digits values).mp clean).1 c inDigits

/-! ## Printed numbers -/

/-- The printed digits of a number are digits that have it as their value. -/
theorem exists_values_toDigits (value : Nat) :
    ∃ values : List Nat, Nat.toDigits 16 value = values.map Nat.digitChar ∧
      (∀ digit ∈ values, digit < 16) ∧
      Nat.ofDigits 16 values.reverse = value := by
  induction value using Nat.strongRecOn with
  | ind value ih =>
    by_cases single : value < 16
    · refine ⟨[value], Nat.toDigits_of_lt_base single, by simpa using single, ?_⟩
      exact Nat.ofDigits_singleton
    · obtain ⟨values, digits_eq, small, value_eq⟩ := ih (value / 16) (by omega)
      refine ⟨values ++ [value % 16], ?_, ?_, ?_⟩
      · rw [Nat.toDigits_of_base_le (by decide) (by omega), digits_eq, List.map_append,
          List.map_singleton]
      · intro digit member
        rcases List.mem_append.mp member with inFront | isLast
        · exact small digit inFront
        · rw [List.mem_singleton.mp isLast]
          exact Nat.mod_lt value (by decide)
      · rw [List.reverse_append, List.reverse_singleton, List.singleton_append,
          Nat.ofDigits_cons, value_eq]
        exact Nat.mod_add_div value 16

theorem forall₂_isHexDigit {digits : List Char} {values : List Nat}
    (small : ∀ digit ∈ values, digit < 16)
    (digits_eq : digits.map Char.toLower = values.map Nat.digitChar) :
    List.Forall₂ IsHexDigit digits values := by
  induction values generalizing digits with
  | nil =>
    obtain rfl := List.map_eq_nil_iff.mp digits_eq
    exact .nil
  | cons value values ih =>
    obtain ⟨c, rest, rfl, lower_eq, rest_eq⟩ := List.map_eq_cons_iff.mp digits_eq
    obtain ⟨smallFirst, smallRest⟩ := List.forall_mem_cons.mp small
    exact .cons ⟨smallFirst, lower_eq⟩ (ih smallRest rest_eq)

/-- Printed digits, any of them in capitals and with zeros in front of them, are a
numeral of the number. -/
theorem isHexNumeral_of_printed {sign : String} {digits : List Char} {value : Nat}
    (isSign : sign ∈ plusSigns) (zeros : Nat)
    (digits_eq : digits.map Char.toLower = Nat.toDigits 16 value) :
    IsHexNumeral (sign.toList ++ (List.replicate zeros '0' ++ digits)) value := by
  obtain ⟨values, printed_eq, small, value_eq⟩ := exists_values_toDigits value
  have nonempty : digits ≠ [] := by
    rintro rfl
    exact Nat.toDigits_ne_nil digits_eq.symm
  refine ⟨sign, isSign, _, List.replicate zeros 0 ++ values, by simp [nonempty], rfl,
    ?_, ?_⟩
  · refine forall₂_isHexDigit ?_ ?_
    · intro digit member
      rcases List.mem_append.mp member with isZero | inValues
      · rw [List.eq_of_mem_replicate isZero]
        decide
      · exact small digit inValues
    · rw [List.map_append, List.map_append, List.map_replicate, List.map_replicate,
        digits_eq, printed_eq]
      rfl
  · rw [List.reverse_append, List.reverse_replicate, Nat.ofDigits_append_replicate_zero,
      value_eq]

/-- A text is a number as it may be written down: printed digits, any of them in
capitals, with zeros, a sign and a mark in front of them and blanks around all of it. -/
def WritesHexadecimal (text : String) (value : Nat) : Prop :=
  ∃ before after digits : List Char, ∃ mark ∈ hexMarks, ∃ sign ∈ plusSigns,
    ∃ zeros : Nat,
    (∀ c ∈ before, isBlank c) ∧ (∀ c ∈ after, isBlank c) ∧
      digits.map Char.toLower = Nat.toDigits 16 value ∧
    text.toList = before
      ++ (mark.toList ++ (sign.toList ++ (List.replicate zeros '0' ++ digits))) ++ after

/-- Without its blanks, a number that is written down is a numeral of it. -/
theorem WritesHexadecimal.isHexadecimal_trim {text : String} {value : Nat}
    (written : WritesHexadecimal text value) :
    IsHexadecimal (trim text) value := by
  obtain ⟨before, after, digits, mark, isMark, sign, isSign, zeros, blankBefore,
      blankAfter, digits_eq, text_eq⟩ :=
    written
  have isHexadecimal {word : String}
      (word_eq : word.toList
        = mark.toList ++ (sign.toList ++ (List.replicate zeros '0' ++ digits))) :
      IsHexadecimal word value :=
    ⟨mark, isMark, _, word_eq, isHexNumeral_of_printed isSign zeros digits_eq⟩
  rw [← String.toList_ofList (l := mark.toList
      ++ (sign.toList ++ (List.replicate zeros '0' ++ digits)))] at text_eq
  have isWord := (isHexadecimal String.toList_ofList).isWord
  rw [trim_of_isWord isWord blankBefore blankAfter text_eq]
  exact isHexadecimal String.toList_ofList

end Text

open Text

namespace Attribute

/-- What is left of a text without its mark is a numeral exactly if the text is one with
a mark or without. A mark cannot be taken for digits, since its letter is none. -/
theorem isHexNumeral_stripMark_iff (text : String) (value : Nat) :
    IsHexNumeral (stripMark text).toList value ↔ IsHexadecimal text value := by
  have notMarked {letter : Char} {rest : List Char}
      (unknown : Numeral.digit? 16 letter = none) :
      ¬ IsHexNumeral ('0' :: letter :: rest) value := by
    intro isNumeral
    obtain ⟨digit, isDigit⟩ := isNumeral.exists_isHexDigit
    exact not_isHexDigit_of_digit? unknown digit isDigit
  have unmarked_or_marked : IsHexadecimal text value ↔ IsHexNumeral text.toList value ∨
      ∃ numeral,
        (text.toList = '0' :: 'x' :: numeral ∨ text.toList = '0' :: 'X' :: numeral) ∧
        IsHexNumeral numeral value := by
    simp [IsHexadecimal, hexMarks, or_and_right, exists_or]
  rw [unmarked_or_marked]
  fun_cases stripMark text with
  | case1 digits chars_eq =>
    rw [String.toList_ofList, chars_eq]
    constructor
    · intro isNumeral
      exact .inr ⟨digits, .inl rfl, isNumeral⟩
    · rintro (unmarked | ⟨numeral, marked | marked, isNumeral⟩)
      · exact absurd unmarked (notMarked (by decide))
      · cases marked
        exact isNumeral
      · cases marked
  | case2 digits chars_eq =>
    rw [String.toList_ofList, chars_eq]
    constructor
    · intro isNumeral
      exact .inr ⟨digits, .inr rfl, isNumeral⟩
    · rintro (unmarked | ⟨numeral, marked | marked, isNumeral⟩)
      · exact absurd unmarked (notMarked (by decide))
      · cases marked
      · cases marked
        exact isNumeral
  | case3 notLower notUpper =>
    constructor
    · exact .inl
    · rintro (unmarked | ⟨numeral, marked | marked, _⟩)
      · exact unmarked
      · exact absurd marked (notLower numeral)
      · exact absurd marked (notUpper numeral)

theorem parseHexadecimal_eq_ok_iff {text : String} {value : Nat} :
    parseHexadecimal text = .ok value ↔ IsHexadecimal text value ∧
    value < UInt64.size := by
  rw [parseHexadecimal, Numeral.hexadecimal64,
    Numeral.read_sixteen_eq_ok_iff (by decide), isHexNumeral_stripMark_iff]

variable {files : Files} {path text : String}

theorem read_of_content (content : files.readBytes path = .ok text.toUTF8.data.toList) :
    read files path = .ok (trim text) := by
  have text_eq : files.readText path = .ok text := by
    have decoded : String.fromUTF8? ⟨text.toUTF8.data.toList.toArray⟩ = some text :=
      dif_pos text.isValidUTF8
    simp only [Files.readText, content, bind, Except.bind, decoded]
  have contained : files.contains path = true := by
    rw [Files.contains]
    cases found : files.lookup path with
    | ok inode => rfl
    | error cause =>
      rw [Files.readBytes, Files.file, found] at content
      cases content
  rw [read, contained, text_eq]
  rfl

theorem hexadecimal_of_ok {value : Nat}
    (content : files.readBytes path = .ok text.toUTF8.data.toList)
    (parsed : parseHexadecimal (trim text) = .ok value) :
    hexadecimal files path = .ok value := by
  simp only [hexadecimal, readNumeral, read_of_content content, bind, Except.bind,
    parsed]

theorem hexadecimal_of_error {cause : NumeralFault}
    (content : files.readBytes path = .ok text.toUTF8.data.toList)
    (parsed : parseHexadecimal (trim text) = .error cause) :
    hexadecimal files path = .error (.attribute path (.numeral (trim text) cause)) := by
  simp only [hexadecimal, readNumeral, read_of_content content, bind, Except.bind,
    parsed]

/-- Files with an attribute that holds a text. -/
def filesWith (text : String) : Files :=
  Files.add {} "/b" (.file (File.ofBytes text.toUTF8.data.toList))

theorem lookup_filesWith (text : String) :
    (filesWith text).lookup "/b"
      = .ok (.file (File.ofBytes text.toUTF8.data.toList)) := by
  have lookup_add (inode : Inode) : (Files.add {} "/b" inode).lookup "/b"
      = .ok inode := by cbv
  exact lookup_add _

theorem readBytes_filesWith (text : String) : (filesWith text).readBytes "/b" =
    .ok ((File.ofBytes text.toUTF8.data.toList).content 0
      text.toUTF8.data.toList.length) := by
  rw [Files.readBytes, Files.file, lookup_filesWith]
  rfl

/-- An attribute that holds a text is read as a value exactly if the text, without the
blanks around it, is a hexadecimal numeral of that value and the value fits 64 bits.
Every other text is refused as the attribute's fault. So each number that fits is read
back, however it is written down. -/
theorem hexadecimal_decodes_exactly
    (content : files.readBytes path = .ok text.toUTF8.data.toList) :
    (∀ value, hexadecimal files path = .ok value ↔
      IsHexadecimal (trim text) value ∧ value < UInt64.size) ∧
    ((¬ ∃ value, IsHexadecimal (trim text) value ∧ value < UInt64.size) →
      ∃ cause, hexadecimal files path
        = .error (.attribute path (.numeral (trim text) cause))) ∧
    ∀ value < UInt64.size, WritesHexadecimal text value →
      hexadecimal files path = .ok value := by
  have eq_ok_iff (value : Nat) :
      hexadecimal files path = .ok value ↔ IsHexadecimal (trim text) value ∧
      value < UInt64.size := by
    rw [← parseHexadecimal_eq_ok_iff]
    cases parsed : parseHexadecimal (trim text) with
    | ok value =>
      rw [hexadecimal_of_ok content parsed, Except.ok.injEq, Except.ok.injEq]
    | error cause =>
      rw [hexadecimal_of_error content parsed]
      simp
  refine ⟨eq_ok_iff, ?_, ?_⟩
  · intro noValue
    cases parsed : parseHexadecimal (trim text) with
    | ok value => exact absurd ⟨value, parseHexadecimal_eq_ok_iff.mp parsed⟩ noValue
    | error cause => exact ⟨cause, hexadecimal_of_error content parsed⟩
  · intro value small written
    exact (eq_ok_iff value).mpr ⟨written.isHexadecimal_trim, small⟩

/-- The largest word is read back from a text with a mark, a sign, a zero, letters of
both cases and blanks. The number after it is refused. -/
theorem hexadecimal_decodes_exactly_at_limit :
    WritesHexadecimal "\t0X+0fFfFFFFFffffffFF\n" 0xFFFFFFFFFFFFFFFF ∧
    hexadecimal (filesWith "\t0X+0fFfFFFFFffffffFF\n") "/b" = .ok 0xFFFFFFFFFFFFFFFF ∧
    ∃ cause, hexadecimal (filesWith "0x10000000000000000") "/b" =
      .error (.attribute "/b" (.numeral (trim "0x10000000000000000") cause)) := by
  have content : (filesWith "\t0X+0fFfFFFFFffffffFF\n").readBytes "/b" =
      .ok "\t0X+0fFfFFFFFffffffFF\n".toUTF8.data.toList := by
    rw [readBytes_filesWith]
    decide +kernel
  have contentAfter : (filesWith "0x10000000000000000").readBytes "/b" =
      .ok "0x10000000000000000".toUTF8.data.toList := by
    rw [readBytes_filesWith]
    decide +kernel
  have written : WritesHexadecimal "\t0X+0fFfFFFFFffffffFF\n" 0xFFFFFFFFFFFFFFFF :=
    ⟨['\t'], ['\n'], "fFfFFFFFffffffFF".toList, "0X", by decide, "+", by decide, 1,
      List.all_eq_true.mp (by decide),
      List.all_eq_true.mp (by decide), by decide +kernel, by decide +kernel⟩
  have tooLarge : parseHexadecimal (trim "0x10000000000000000") = .error .tooLarge := by
    decide +kernel
  obtain ⟨_, _, readBack⟩ := hexadecimal_decodes_exactly content
  obtain ⟨_, refused, _⟩ := hexadecimal_decodes_exactly contentAfter
  refine ⟨written, readBack _ (by decide) written, refused ?_⟩
  rintro ⟨value, fits⟩
  cases tooLarge.symm.trans (parseHexadecimal_eq_ok_iff.mpr fits)

end Attribute

end ArenaPaths

import Mathlib
import Offload.Machine.Config

/-! Sizes in bytes as they are written: digits and a unit, with blanks around them and between them. A text is
read as a size exactly when it is written so and the size fits 64 bits; every other text is refused, and the
refusal quotes it. -/
namespace Offload
namespace Text

/-- The digit that a character is. -/
def digit (c : Char) : Nat :=
  c.toNat - '0'.toNat

/-- The number that decimal digits stand for: each counts as many powers of ten as digits follow it. -/
def decimal : List Char → Nat
  | [] => 0
  | c :: rest => digit c * Nat.pow 10 rest.length + decimal rest

/-- The units in small letters, each with the power of 1024 that it stands for. -/
def sizeUnits : List (String × Nat) :=
  [("", 0), ("b", 0), ("k", 1), ("kb", 1), ("m", 2), ("mb", 2), ("g", 3), ("gb", 3), ("t", 4), ("tb", 4)]

/-- A size as it is written. The unit may be left out, and its case does not matter. -/
structure WrittenSize where
  before : List Char
  digits : List Char
  gap : List Char
  unit : List Char
  after : List Char
  power : Nat
  blank_before : isAllBlank before = true
  blank_gap : isAllBlank gap = true
  blank_after : isAllBlank after = true
  some_digits : digits ≠ []
  all_digits : digits.all Char.isDigit = true
  known_unit : (lowered unit, power) ∈ sizeUnits

namespace WrittenSize

def text (w : WrittenSize) : List Char :=
  w.before ++ (w.digits ++ (w.gap ++ w.unit)) ++ w.after

def size (w : WrittenSize) : Nat :=
  decimal w.digits * Nat.pow 1024 w.power

end WrittenSize

/-! ### Digits -/

private theorem digitsValue_from (digits : List Char) (value : Nat) :
    digits.foldl (fun value c => 10 * value + (c.toNat - '0'.toNat)) value =
      value * Nat.pow 10 digits.length + decimal digits := by
  induction digits generalizing value with
  | nil => simp [decimal]
  | cons c rest ih =>
    have more : Nat.pow 10 (rest.length + 1) = 10 * Nat.pow 10 rest.length := Nat.mul_comm _ _
    rw [List.foldl_cons, ih, List.length_cons, more, decimal, digit, Nat.add_mul, Nat.mul_assoc,
      Nat.mul_left_comm 10]
    omega

private theorem digitsValue_eq_decimal (digits : List Char) : digitsValue digits = decimal digits := by
  rw [digitsValue, digitsValue_from, Nat.zero_mul, Nat.zero_add]

private theorem natural?_eq_some_iff {bound n : Nat} {text : List Char} :
    natural? bound text = some n ↔
      text ≠ [] ∧ text.all Char.isDigit = true ∧ decimal text = n ∧ n ≤ bound := by
  rw [natural?, digitsValue_eq_decimal]
  split
  · next reads =>
    obtain ⟨some, all, fits⟩ := reads
    simp only [Option.some.injEq, some, all, ne_eq, not_false_eq_true, true_and]
    exact ⟨fun same => ⟨same, same ▸ fits⟩, And.left⟩
  · next refused =>
    simp only [reduceCtorEq, false_iff]
    rintro ⟨some, all, rfl, fits⟩
    exact refused ⟨some, all, fits⟩

private theorem decimal_zeros (count : Nat) (digits : List Char) :
    decimal (List.replicate count '0' ++ digits) = decimal digits := by
  induction count with
  | zero => rfl
  | succ count ih => rw [List.replicate_succ, List.cons_append, decimal, ih]; simp [digit]

/-! ### Units -/

/-- What a unit is in small letters can be read off its capitals. -/
theorem lowered_capitals (unit : List Char) :
    lowered (String.ofList (unit.map Char.toUpper)).toList = lowered unit := by
  simp [lowered, Function.comp_def]

/-- The power is read off the capitals, so small letters have the same. -/
theorem unitPower?_lowered (unit : List Char) : unitPower? (lowered unit).toList = unitPower? unit := by
  simp [unitPower?, lowered, Function.comp_def]

private theorem unitPower?_eq_some_iff {unit : List Char} {power : Nat} :
    unitPower? unit = some power ↔ (lowered unit, power) ∈ sizeUnits := by
  constructor
  · rw [← lowered_capitals]
    unfold unitPower?
    split
    case h_11 => exact nofun
    all_goals
      next capitals =>
      rw [capitals, Option.some.injEq]
      rintro rfl
      decide +kernel
  · intro member
    have listed : ∀ entry ∈ sizeUnits, unitPower? entry.1.toList = some entry.2 := by decide +kernel
    rw [← unitPower?_lowered]
    exact listed (lowered unit, power) member

/-- A unit is made of letters. -/
theorem letters_of_unit {unit : List Char} {power : Nat} (known : (lowered unit, power) ∈ sizeUnits) :
    ∀ c ∈ unit, c.isAlpha = true := by
  have listed : ∀ entry ∈ sizeUnits, ∀ c ∈ entry.1.toList, c.isAlpha = true := by simp [sizeUnits]
  intro c member
  have small := listed (lowered unit, power) known c.toLower (by simpa [lowered] using List.mem_map_of_mem member)
  simpa using small

/-! ### Blanks -/

/-- There is no blank at either end. -/
def Tight (text : List Char) : Prop :=
  (∀ c, text.head? = some c → isBlank c = false) ∧ ∀ c, text.getLast? = some c → isBlank c = false

variable {text before after : List Char}

/-- No blank stands between the digits and the letters. -/
theorem isBlank_between {c : Char} (low : '0'.toNat ≤ c.toNat) (high : c.toNat ≤ 'z'.toNat) : isBlank c = false := by
  have apart : ∀ range ∈ blanks.ranges, range.2 < '0'.toNat ∨ 'z'.toNat < range.1 := by decide
  refine Bool.eq_false_iff.2 fun blank => ?_
  obtain ⟨range, listed, first, last⟩ := blanks.has_iff.1 blank
  rcases apart range listed with below | above <;> omega

private theorem isBlank_digit {c : Char} (digit : c.isDigit = true) : isBlank c = false := by
  simp only [Char.isDigit, ge_iff_le, Bool.and_eq_true, decide_eq_true_eq, UInt32.le_iff_toNat_le] at digit
  have inside : 48 ≤ c.toNat ∧ c.toNat ≤ 57 := digit
  exact isBlank_between inside.1 (Nat.le_trans inside.2 (by decide))

private theorem isBlank_letter {c : Char} (letter : c.isAlpha = true) : isBlank c = false := by
  simp only [Char.isAlpha, Char.isUpper, Char.isLower, ge_iff_le, Bool.and_eq_true, Bool.or_eq_true,
    decide_eq_true_eq, UInt32.le_iff_toNat_le] at letter
  have inside : 65 ≤ c.toNat ∧ c.toNat ≤ 90 ∨ 97 ≤ c.toNat ∧ c.toNat ≤ 122 := letter
  rcases inside with capital | small
  · exact isBlank_between (Nat.le_trans (by decide) capital.1) (Nat.le_trans capital.2 (by decide))
  · exact isBlank_between (Nat.le_trans (by decide) small.1) small.2

private theorem trimLeft_blank (blank : isAllBlank before = true) : trimLeft (before ++ text) = trimLeft text :=
  List.dropWhile_append_of_pos (List.all_eq_true.1 blank)

private theorem trimRight_blank (blank : isAllBlank after = true) : trimRight (text ++ after) = trimRight text := by
  have blanks : ∀ c ∈ after.reverse, isBlank c = true := by simpa [isAllBlank] using blank
  rw [trimRight, List.reverse_append, List.dropWhile_append_of_pos blanks, trimRight]

private theorem trimLeft_tight (tight : ∀ c, text.head? = some c → isBlank c = false) : trimLeft text = text := by
  cases text with
  | nil => rfl
  | cons c rest => rw [trimLeft, List.dropWhile_cons_of_neg (by simp [tight c rfl])]

private theorem trimRight_tight (tight : ∀ c, text.getLast? = some c → isBlank c = false) : trimRight text = text := by
  have same : text.reverse.dropWhile isBlank = text.reverse :=
    trimLeft_tight fun c first => tight c (by rwa [List.head?_reverse] at first)
  rw [trimRight, same, List.reverse_reverse]

/-- Exactly the blanks around a text are trimmed off. -/
theorem trim_surrounded (front : isAllBlank before = true) (tight : Tight text) (back : isAllBlank after = true) :
    trim (before ++ text ++ after) = text := by
  rw [trim, List.append_assoc, trimLeft_blank front]
  cases text with
  | nil =>
    have none : trimLeft after = [] := List.dropWhile_eq_nil_iff.2 (List.all_eq_true.1 back)
    rw [List.nil_append, none]
    rfl
  | cons c rest =>
    have first : trimLeft (c :: rest ++ after) = c :: rest ++ after := trimLeft_tight tight.1
    rw [first, trimRight_blank back, trimRight_tight tight.2]

private theorem trim_splits (text : List Char) :
    ∃ before after, isAllBlank before = true ∧ isAllBlank after = true ∧ before ++ trim text ++ after = text := by
  refine ⟨text.takeWhile isBlank, ((trimLeft text).reverse.takeWhile isBlank).reverse, ?_, ?_, ?_⟩
  · exact List.all_takeWhile
  · rw [isAllBlank, List.all_reverse]
    exact List.all_takeWhile
  · rw [trim, trimRight, List.append_assoc, ← List.reverse_append, List.takeWhile_append_dropWhile,
      List.reverse_reverse, trimLeft, List.takeWhile_append_dropWhile]

/-! ### Whole texts -/

private theorem isDigit_blank {c : Char} (blank : isBlank c = true) : c.isDigit = false :=
  Bool.eq_false_iff.2 fun digit => by simp [isBlank_digit digit] at blank

private theorem isDigit_letter {c : Char} (letter : c.isAlpha = true) : c.isDigit = false := by
  simp only [Char.isAlpha, Char.isUpper, Char.isLower, ge_iff_le, Bool.and_eq_true, Bool.or_eq_true,
    decide_eq_true_eq, UInt32.le_iff_toNat_le] at letter
  have inside : 65 ≤ c.toNat ∧ c.toNat ≤ 90 ∨ 97 ≤ c.toNat ∧ c.toNat ≤ 122 := letter
  refine Bool.eq_false_iff.2 fun digit => ?_
  simp only [Char.isDigit, ge_iff_le, Bool.and_eq_true, decide_eq_true_eq, UInt32.le_iff_toNat_le] at digit
  have outside : 48 ≤ c.toNat ∧ c.toNat ≤ 57 := digit
  omega

namespace WrittenSize

variable (w : WrittenSize)

private theorem tight_unit : Tight w.unit := by
  have letters := letters_of_unit w.known_unit
  exact ⟨fun c first => isBlank_letter (letters c (List.mem_of_head? first)),
    fun c last => isBlank_letter (letters c (List.mem_of_getLast? last))⟩

/-- What is left of the text between the blanks around it. Without a unit the blanks behind the digits are
around it too. -/
theorem trim_text : ∃ rest, trim w.text = w.digits ++ rest ∧ trim rest = w.unit ∧
    ∀ c ∈ rest, c.isDigit = false := by
  have digits := List.all_eq_true.1 w.all_digits
  have first (rest : List Char) (c : Char) (head : (w.digits ++ rest).head? = some c) : isBlank c = false := by
    obtain ⟨d, others, same⟩ := List.exists_cons_of_ne_nil w.some_digits
    rw [same, List.cons_append, List.head?_cons, Option.some.injEq] at head
    exact isBlank_digit (digits c (by simp [same, head]))
  by_cases none : w.unit = []
  · refine ⟨[], ?_, by rw [none]; rfl, nofun⟩
    have tight : Tight w.digits :=
      ⟨by simpa using first [], fun c last => isBlank_digit (digits c (List.mem_of_getLast? last))⟩
    have back : isAllBlank (w.gap ++ w.after) = true := by
      rw [isAllBlank, List.all_append, Bool.and_eq_true]
      exact ⟨w.blank_gap, w.blank_after⟩
    have trimmed := trim_surrounded w.blank_before tight back
    simpa [text, none] using trimmed
  · refine ⟨w.gap ++ w.unit, ?_, ?_, fun c member => ?_⟩
    · refine trim_surrounded w.blank_before ⟨first _, fun c last => ?_⟩ w.blank_after
      rw [← List.append_assoc, List.getLast?_append_of_ne_nil _ none] at last
      exact w.tight_unit.2 c last
    · simpa using trim_surrounded w.blank_gap w.tight_unit (rfl : isAllBlank [] = true)
    · rcases List.mem_append.1 member with blank | letter
      · exact isDigit_blank (List.all_eq_true.1 w.blank_gap c blank)
      · exact isDigit_letter (letters_of_unit w.known_unit c letter)

/-- The digits and the unit are found. -/
theorem parts_text : (trim w.text).takeWhile Char.isDigit = w.digits ∧
    trim ((trim w.text).dropWhile Char.isDigit) = w.unit := by
  obtain ⟨rest, trimmed, unit, others⟩ := w.trim_text
  have digits := List.all_eq_true.1 w.all_digits
  have none : rest.takeWhile Char.isDigit = [] := by
    cases rest with
    | nil => rfl
    | cons c rest => rw [List.takeWhile_cons_of_neg (by simp [others c])]
  have all : rest.dropWhile Char.isDigit = rest := by
    have split := List.takeWhile_append_dropWhile (p := Char.isDigit) (l := rest)
    rwa [none, List.nil_append] at split
  rw [trimmed, List.takeWhile_append_of_pos digits, List.dropWhile_append_of_pos digits, none, all]
  exact ⟨List.append_nil _, unit⟩

/-- A size is at least the number in front of its unit. -/
theorem decimal_le_size : decimal w.digits ≤ w.size :=
  Nat.le_mul_of_pos_right _ (Nat.pow_pos (by decide))

end WrittenSize

/-- A text that is read as a size is written as one. -/
theorem written_of_parts {text : List Char} {power : Nat} (some : text.takeWhile Char.isDigit ≠ [])
    (known : (lowered (trim (text.dropWhile Char.isDigit)), power) ∈ sizeUnits) {front back : List Char}
    (blankFront : isAllBlank front = true) (blankBack : isAllBlank back = true) :
    ∃ w : WrittenSize, w.text = front ++ text ++ back ∧ w.digits = text.takeWhile Char.isDigit ∧ w.power = power := by
  obtain ⟨gap, after, blankGap, blankAfter, rest⟩ := trim_splits (text.dropWhile Char.isDigit)
  have blanks : isAllBlank (after ++ back) = true := by
    rw [isAllBlank, List.all_append, Bool.and_eq_true]
    exact ⟨blankAfter, blankBack⟩
  refine ⟨⟨front, _, gap, _, after ++ back, power, blankFront, blankGap, blanks, some, List.all_takeWhile, known⟩,
    ?_, rfl, rfl⟩
  have split := List.takeWhile_append_dropWhile (p := Char.isDigit) (l := text)
  rw [← rest] at split
  have regroup (digits unit : List Char) : front ++ (digits ++ (gap ++ unit)) ++ (after ++ back) =
      front ++ (digits ++ (gap ++ unit ++ after)) ++ back := by simp
  exact (regroup _ _).trans (by rw [split])

private theorem parseSize?_eq_some_iff {text : String} {size : Nat} :
    parseSize? text = some size ↔ ∃ w : WrittenSize, w.text = text.toList ∧ w.size = size ∧ size ≤ maxUInt64 := by
  simp only [parseSize?, bind, Option.bind_eq_some_iff, natural?_eq_some_iff, unitPower?_eq_some_iff]
  constructor
  · rintro ⟨value, ⟨some, _, rfl, _⟩, power, known, fits⟩
    obtain ⟨front, back, blankFront, blankBack, whole⟩ := trim_splits text.toList
    obtain ⟨w, same, digits, rfl⟩ := written_of_parts some known blankFront blankBack
    split at fits
    · next within =>
      obtain rfl := Option.some.inj fits
      exact ⟨w, same.trans whole, by rw [WrittenSize.size, digits], within⟩
    · cases fits
  · rintro ⟨w, same, rfl, within⟩
    obtain ⟨digits, unit⟩ := w.parts_text
    rw [same] at digits unit
    rw [digits, unit]
    have fits := Nat.le_trans w.decimal_le_size within
    refine ⟨_, ⟨w.some_digits, w.all_digits, rfl, fits⟩, w.power, w.known_unit, ?_⟩
    exact if_pos within

/-- The same size with zeros in front of its digits. -/
def WrittenSize.padded (w : WrittenSize) (zeros : Nat) : WrittenSize :=
  { w with
    digits := List.replicate zeros '0' ++ w.digits
    some_digits := List.append_ne_nil_of_right_ne_nil _ w.some_digits
    all_digits := by simp [w.all_digits] }

theorem WrittenSize.size_padded (w : WrittenSize) (zeros : Nat) : (w.padded zeros).size = w.size :=
  congrArg (· * Nat.pow 1024 w.power) (decimal_zeros zeros w.digits)

/-- However a text is taken apart, it is of one size. -/
theorem WrittenSize.size_congr {w w' : WrittenSize} (same : w.text = w'.text) : w.size = w'.size := by
  obtain ⟨digits, unit⟩ := w.parts_text
  obtain ⟨digits', unit'⟩ := w'.parts_text
  rw [same] at digits unit
  have power : some w.power = some w'.power := by
    rw [← unitPower?_eq_some_iff.2 w.known_unit, ← unitPower?_eq_some_iff.2 w'.known_unit, ← unit, ← unit']
  rw [size, size, ← digits, ← digits', Option.some.inj power]

end Text

open Text (WrittenSize maxUInt64)

variable {text : String} {size : Nat}

private theorem parseByteSize_ok_iff : parseByteSize text = .ok size ↔
    ∃ w : WrittenSize, w.text = text.toList ∧ w.size = size ∧ size ≤ maxUInt64 := by
  rw [← Text.parseSize?_eq_some_iff, parseByteSize]
  cases Text.parseSize? text <;> simp

/-- Any other text is refused, and the error quotes it. -/
theorem parseByteSize_error_iff : parseByteSize text = .error (.invalidConfig ("invalid size '" ++ text ++ "'")) ↔
    ¬ ∃ w : WrittenSize, w.text = text.toList ∧ w.size ≤ maxUInt64 := by
  have read : (∃ size, Text.parseSize? text = some size) ↔
      ∃ w : WrittenSize, w.text = text.toList ∧ w.size ≤ maxUInt64 := by
    simp only [Text.parseSize?_eq_some_iff]
    constructor
    · rintro ⟨_, w, same, rfl, fits⟩
      exact ⟨w, same, fits⟩
    · rintro ⟨w, same, fits⟩
      exact ⟨_, w, same, rfl, fits⟩
  rw [← read, parseByteSize]
  cases Text.parseSize? text <;> simp

/-- What is read is the size that is written. -/
theorem parseByteSize_text {w : WrittenSize} (same : w.text = text.toList) :
    parseByteSize text = .ok size ↔ w.size = size ∧ size ≤ maxUInt64 := by
  rw [parseByteSize_ok_iff]
  constructor
  · rintro ⟨w', same', rfl, fits⟩
    exact ⟨WrittenSize.size_congr (same.trans same'.symm), fits⟩
  · rintro ⟨rfl, fits⟩
    exact ⟨w, same, rfl, fits⟩

/-- A text is read as a size of 64 bits exactly when it is written as one: digits and a unit, with blanks
anywhere but between the digits. Any other text is refused with an error that quotes it, and zeros in front of
the digits do not matter. -/
theorem parseByteSize_written (text : String) :
    (∀ size, parseByteSize text = .ok size ↔
      ∃ w : WrittenSize, w.text = text.toList ∧ w.size = size ∧ size ≤ maxUInt64) ∧
    (parseByteSize text = .error (.invalidConfig ("invalid size '" ++ text ++ "'")) ↔
      ¬ ∃ w : WrittenSize, w.text = text.toList ∧ w.size ≤ maxUInt64) ∧
    ∀ w : WrittenSize, w.text = text.toList → ∀ zeros size,
      parseByteSize (.ofList (w.padded zeros).text) = .ok size ↔ parseByteSize text = .ok size := by
  refine ⟨fun size => parseByteSize_ok_iff, parseByteSize_error_iff, fun w same zeros size => ?_⟩
  have padded : (w.padded zeros).text = (String.ofList (w.padded zeros).text).toList := by simp
  rw [parseByteSize_text padded, parseByteSize_text same, WrittenSize.size_padded]

namespace Text.WrittenSize

/-- The largest number of whole kilobytes that 64 bits hold, with a blank that is no ASCII character. -/
def kilobytes : WrittenSize where
  before := [' ']
  digits := "18014398509481983".toList
  gap := ['\u2003']
  unit := ['K', 'b']
  after := ['\n']
  power := 1
  blank_before := rfl
  blank_gap := rfl
  blank_after := rfl
  some_digits := by decide
  all_digits := by decide
  known_unit := by decide +kernel

end Text.WrittenSize

/-- The most kilobytes that fit 64 bits, with blanks of three kinds and any number of zeros in front. -/
theorem kilobytes_written :
    parseByteSize " 18014398509481983\u2003Kb\n" = .ok 18446744073709550592 ∧
      ∀ zeros, parseByteSize (.ofList (WrittenSize.kilobytes.padded zeros).text) = .ok 18446744073709550592 := by
  have same : WrittenSize.kilobytes.text = " 18014398509481983\u2003Kb\n".toList := by decide +kernel
  have size : WrittenSize.kilobytes.size = 18446744073709550592 := by decide +kernel
  have written := parseByteSize_written " 18014398509481983\u2003Kb\n"
  have read := (written.1 18446744073709550592).2 ⟨_, same, size, by decide⟩
  exact ⟨read, fun zeros => (written.2.2 _ same zeros _).2 read⟩

/-- One kilobyte more does not fit. -/
example : parseByteSize "18014398509481984KB" =
    .error (.invalidConfig "invalid size '18014398509481984KB'") := by decide +kernel

end Offload

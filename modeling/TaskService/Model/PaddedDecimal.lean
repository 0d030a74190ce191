import TaskService.Model.TaskRecord

/-!
# Text keys of task identities

The SQLite store keeps identities as 20-digit zero-padded decimal text and
orders rows by comparing that text.
-/

namespace TaskService.Model

open List

def TaskId.toPaddedDecimal (id : TaskId) : String :=
  let digits := Nat.toDigits 10 id.value.toNat
  String.ofList (List.replicate (20 - digits.length) '0' ++ digits)

def charsLe : List Char → List Char → Bool
  | [], _ => true
  | _ :: _, [] => false
  | left :: lefts, right :: rights =>
      decide (left.toNat < right.toNat) ||
        (decide (left.toNat = right.toNat) && charsLe lefts rights)

def textLe (left right : String) : Bool :=
  charsLe left.toList right.toList

def textLt (left right : String) : Bool :=
  !textLe right left

/-- The UTF-8 bytes that the store keeps and compares. -/
def textBytes (text : String) : List UInt8 := text.toUTF8.data.toList

inductive IntErrorKind where
  | empty
  | invalidDigit
  | posOverflow
  deriving DecidableEq, Repr

/-- The loop of `str::parse::<u64>`: the digit is checked before the overflow. -/
def parseDigits : List UInt8 → Nat → Except IntErrorKind Nat
  | [], value => .ok value
  | byte :: rest, value =>
      if 48 ≤ byte.toNat ∧ byte.toNat ≤ 57 then
        let next := 10 * value + (byte.toNat - 48)
        if next < 2 ^ 64 then parseDigits rest next else .error .posOverflow
      else .error .invalidDigit

def parseU64 (text : String) : Except IntErrorKind UInt64 :=
  match textBytes text with
  | [] => .error .empty
  | [43] | [45] => .error .invalidDigit
  -- A leading plus sign is skipped; a minus sign is no digit of an unsigned number.
  | 43 :: digits => (parseDigits digits 0).map UInt64.ofNat
  | digits => (parseDigits digits 0).map UInt64.ofNat

def digitByte (character : Char) : UInt8 := character.val.toUInt8

section Digits

def DigitChars (chars : List Char) : Prop :=
  ∀ character ∈ chars, 48 ≤ character.toNat ∧ character.toNat ≤ 57

theorem digit_chars_value (chars : List Char) (start : Nat) :
    Nat.ofDigitChars 10 chars start =
      start * 10 ^ chars.length + Nat.ofDigitChars 10 chars 0 := by
  induction chars generalizing start with
  | nil => simp [Nat.ofDigitChars_nil]
  | cons head tail ih =>
    rw [Nat.ofDigitChars_cons, Nat.ofDigitChars_cons, ih, ih (10 * 0 + _), length_cons,
      Nat.pow_succ]
    ring

theorem digit_chars_value_lt {chars : List Char} (digits : DigitChars chars) :
    Nat.ofDigitChars 10 chars 0 < 10 ^ chars.length := by
  induction chars with
  | nil => simp [Nat.ofDigitChars_nil]
  | cons head tail ih =>
    have tailBound := ih fun character member => digits character (mem_cons_of_mem _ member)
    obtain ⟨_, high⟩ := digits head (by simp)
    have zero : '0'.toNat = 48 := rfl
    rw [Nat.ofDigitChars_cons, digit_chars_value, length_cons, Nat.pow_succ]
    have scaled : (10 * 0 + (head.toNat - '0'.toNat)) * 10 ^ tail.length ≤
        9 * 10 ^ tail.length := Nat.mul_le_mul_right _ (by omega)
    omega

/-- Digit texts of one length compare as the numbers they write. -/
theorem chars_le_iff_value {left right : List Char} (leftDigits : DigitChars left)
    (rightDigits : DigitChars right) (lengths : left.length = right.length) :
    charsLe left right = true ↔
      Nat.ofDigitChars 10 left 0 ≤ Nat.ofDigitChars 10 right 0 := by
  induction left generalizing right with
  | nil =>
    cases right with
    | nil => simp [charsLe]
    | cons head tail => cases lengths
  | cons head tail ih =>
    cases right with
    | nil => cases lengths
    | cons other rest =>
      have tailDigits : DigitChars tail :=
        fun character member => leftDigits character (mem_cons_of_mem _ member)
      have restDigits : DigitChars rest :=
        fun character member => rightDigits character (mem_cons_of_mem _ member)
      have lengths : tail.length = rest.length := Nat.succ.inj lengths
      have tailBound := digit_chars_value_lt tailDigits
      have restBound := digit_chars_value_lt restDigits
      obtain ⟨low, _⟩ := leftDigits head (by simp)
      obtain ⟨otherLow, _⟩ := rightDigits other (by simp)
      have zero : '0'.toNat = 48 := rfl
      rw [Nat.ofDigitChars_cons, Nat.ofDigitChars_cons, digit_chars_value tail,
        digit_chars_value rest, ← lengths]
      rw [← lengths] at restBound
      simp only [charsLe, Bool.or_eq_true, Bool.and_eq_true, decide_eq_true_eq,
        ih tailDigits restDigits lengths, zero, Nat.mul_zero, Nat.zero_add]
      -- The leading digits decide unless they are equal.
      rcases Nat.lt_trichotomy head.toNat other.toNat with below | same | above
      · have step : (head.toNat - 48 + 1) * 10 ^ tail.length ≤
            (other.toNat - 48) * 10 ^ tail.length := Nat.mul_le_mul_right _ (by omega)
        rw [Nat.add_mul, Nat.one_mul] at step
        omega
      · rw [same]
        omega
      · have step : (other.toNat - 48 + 1) * 10 ^ tail.length ≤
            (head.toNat - 48) * 10 ^ tail.length := Nat.mul_le_mul_right _ (by omega)
        rw [Nat.add_mul, Nat.one_mul] at step
        omega

theorem digit_of_is_digit {character : Char} (digit : character.isDigit = true) :
    48 ≤ character.toNat ∧ character.toNat ≤ 57 := by
  simp only [Char.isDigit, ge_iff_le, Bool.and_eq_true, decide_eq_true_eq] at digit
  exact ⟨UInt32.le_iff_toNat_le.mp digit.1, UInt32.le_iff_toNat_le.mp digit.2⟩

theorem padded_digits (id : TaskId) :
    DigitChars id.toPaddedDecimal.toList ∧ id.toPaddedDecimal.toList.length = 20 ∧
      Nat.ofDigitChars 10 id.toPaddedDecimal.toList 0 = id.value.toNat := by
  have digits : DigitChars (Nat.toDigits 10 id.value.toNat) := fun character member =>
    digit_of_is_digit (Nat.isDigit_of_mem_toDigits (by decide) (by decide) member)
  have short : (Nat.toDigits 10 id.value.toNat).length ≤ 20 := by
    rw [Nat.length_toDigits_le_iff (by decide) (by decide)]
    exact Nat.lt_trans id.value.toNat_lt (by decide)
  unfold TaskId.toPaddedDecimal
  rw [String.toList_ofList]
  refine ⟨?_, ?_, ?_⟩
  · intro character member
    rcases mem_append.mp member with padding | digit
    · rw [eq_of_mem_replicate padding]
      decide
    · exact digits character digit
  · rw [length_append, length_replicate]
    omega
  · have padding : ∀ count, Nat.ofDigitChars 10 (List.replicate count '0') 0 = 0 := by
      intro count
      induction count with
      | zero => rfl
      | succ count ih =>
        rw [replicate_succ, Nat.ofDigitChars_cons]
        exact ih
    rw [Nat.ofDigitChars_append, padding, Nat.ofDigitChars_toDigits (by decide) (by decide)]

theorem padded_text_le_iff (left right : TaskId) :
    textLe left.toPaddedDecimal right.toPaddedDecimal = true ↔ left.value ≤ right.value := by
  obtain ⟨leftDigits, leftLength, leftValue⟩ := padded_digits left
  obtain ⟨rightDigits, rightLength, rightValue⟩ := padded_digits right
  rw [textLe, chars_le_iff_value leftDigits rightDigits (leftLength.trans rightLength.symm),
    leftValue, rightValue, UInt64.le_iff_toNat_le]

theorem padded_text_lt_iff (left right : TaskId) :
    textLt left.toPaddedDecimal right.toPaddedDecimal = true ↔ left.value < right.value := by
  rw [textLt, Bool.not_eq_true', ← Bool.not_eq_true, padded_text_le_iff, UInt64.not_le]

theorem digit_byte_value {character : Char} (high : character.toNat ≤ 57) :
    (digitByte character).toNat = character.toNat := by
  rw [digitByte, UInt32.toNat_toUInt8]
  exact Nat.mod_eq_of_lt (Nat.lt_of_le_of_lt high (by decide))

theorem text_bytes_digits {text : String} (digits : DigitChars text.toList) :
    textBytes text = text.toList.map digitByte := by
  have bytes : textBytes text = text.toList.flatMap String.utf8EncodeChar := by
    rw [textBytes, String.toUTF8, ← String.utf8Encode_toList, List.utf8Encode, data_toByteArray]
  rw [bytes, map_eq_flatMap]
  apply flatMap_congr
  intro character member
  have high := (digits character member).2
  apply String.utf8EncodeChar_eq_singleton
  rw [Char.utf8Size_eq_one_iff, UInt32.le_iff_toNat_le]
  exact Nat.le_trans high (by decide)

theorem compare_digits {left right : List Char} (leftDigits : DigitChars left)
    (rightDigits : DigitChars right) :
    (compare (left.map digitByte) (right.map digitByte)).isLE = charsLe left right := by
  induction left generalizing right with
  | nil => cases right <;> rfl
  | cons head tail ih =>
    cases right with
    | nil => rfl
    | cons other rest =>
      have behind := @ih rest (fun character member => leftDigits character (.tail _ member))
        fun character member => rightDigits character (.tail _ member)
      have bytes : compare (digitByte head) (digitByte other) =
          compare head.toNat other.toNat := by
        rw [← digit_byte_value (leftDigits head (.head _)).2,
          ← digit_byte_value (rightDigits other (.head _)).2]
        simp only [compare, compareOfLessAndEq, UInt8.lt_iff_toNat_lt, ← UInt8.toNat_inj]
      rw [map_cons, map_cons, List.compare_cons_cons, bytes, charsLe, ← behind]
      rcases Nat.lt_trichotomy head.toNat other.toNat with below | same | above
      · simp [Nat.compare_eq_lt.mpr below, below]
      · simp [same]
      · have apart : head.toNat ≠ other.toNat := by omega
        have notBelow : ¬ head.toNat < other.toNat := by omega
        simp [Nat.compare_eq_gt.mpr above, apart, notBelow]

theorem parse_digits_value {chars : List Char} (digits : DigitChars chars) (start : Nat)
    (fits : Nat.ofDigitChars 10 chars start < 2 ^ 64) :
    parseDigits (chars.map digitByte) start = .ok (Nat.ofDigitChars 10 chars start) := by
  induction chars generalizing start with
  | nil => rfl
  | cons head tail ih =>
    have digit := digits head (.head _)
    have tailDigits : DigitChars tail := fun character member => digits character (.tail _ member)
    rw [Nat.ofDigitChars_cons] at fits ⊢
    have later := ih tailDigits _ fits
    rw [digit_chars_value] at fits
    have grows : 10 * start + (head.toNat - 48) ≤
        (10 * start + (head.toNat - 48)) * 10 ^ tail.length :=
      Nat.le_mul_of_pos_right _ (Nat.pow_pos (by decide))
    have zero : '0'.toNat = 48 := rfl
    rw [zero] at fits
    have bounded : 10 * start + (head.toNat - 48) < 2 ^ 64 := by omega
    rw [map_cons, parseDigits, digit_byte_value digit.2, if_pos digit]
    dsimp only
    rw [if_pos bounded]
    exact later

theorem padded_bytes (id : TaskId) :
    (textBytes id.toPaddedDecimal).length = 20 ∧
      ∀ byte ∈ textBytes id.toPaddedDecimal, 48 ≤ byte.toNat ∧ byte.toNat ≤ 57 := by
  obtain ⟨digits, length, -⟩ := padded_digits id
  rw [text_bytes_digits digits, length_map]
  refine ⟨length, ?_⟩
  intro byte member
  obtain ⟨character, inside, rfl⟩ := mem_map.mp member
  rw [digit_byte_value (digits character inside).2]
  exact digits character inside

theorem padded_parses (id : TaskId) : parseU64 id.toPaddedDecimal = .ok id.value := by
  obtain ⟨digits, -, value⟩ := padded_digits id
  obtain ⟨length, digital⟩ := padded_bytes id
  have parsed := parse_digits_value digits 0 (value ▸ id.value.toNat_lt)
  rw [value, ← text_bytes_digits digits] at parsed
  have unsigned : ∀ sign ∈ textBytes id.toPaddedDecimal, sign ≠ 43 ∧ sign ≠ 45 := by
    intro sign member
    have low := (digital sign member).1
    constructor
    · rintro rfl
      exact absurd low (by decide)
    · rintro rfl
      exact absurd low (by decide)
  unfold parseU64
  split
  · rename_i empty
    rw [empty] at length
    cases length
  · rename_i sign
    exact absurd rfl (unsigned 43 (by simp [sign])).1
  · rename_i sign
    exact absurd rfl (unsigned 45 (by simp [sign])).2
  · rename_i sign
    exact absurd rfl (unsigned 43 (by simp [sign])).1
  · rw [parsed]
    simp [Except.map]

theorem padded_text_le_bytes (left right : TaskId) :
    textLe left.toPaddedDecimal right.toPaddedDecimal =
      (compare (textBytes left.toPaddedDecimal) (textBytes right.toPaddedDecimal)).isLE := by
  have leftDigits := (padded_digits left).1
  have rightDigits := (padded_digits right).1
  rw [text_bytes_digits leftDigits, text_bytes_digits rightDigits,
    compare_digits leftDigits rightDigits]
  rfl

theorem padded_compare (left right : TaskId) :
    compare (textBytes left.toPaddedDecimal) (textBytes right.toPaddedDecimal) =
      compare left.value right.value := by
  have order : ∀ first second : TaskId,
      (compare (textBytes first.toPaddedDecimal) (textBytes second.toPaddedDecimal)).isLE =
        (compare first.value second.value).isLE := by
    intro first second
    rw [← padded_text_le_bytes, Bool.eq_iff_iff, Std.isLE_compare]
    exact padded_text_le_iff first second
  have backward := order right left
  rw [@Std.OrientedCmp.eq_swap (List UInt8) compare, @Std.OrientedCmp.eq_swap UInt64 compare]
    at backward
  have forward := order left right
  revert forward backward
  generalize compare (textBytes _) _ = bytes
  generalize compare left.value right.value = numbers
  cases bytes <;> cases numbers <;> simp

end Digits

end TaskService.Model

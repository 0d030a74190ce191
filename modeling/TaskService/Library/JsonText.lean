import Mathlib.Data.List.Basic
import Mathlib.Data.String.Basic
import Mathlib.Tactic.IntervalCases
import Mathlib.Tactic.Ring

/-!
# Compact JSON text

The text a compact JSON serializer produces: no whitespace, object members in
declaration order, strings with the short escapes for the quote, the backslash
and the five named control characters and a four-digit escape for the other
control characters.  Its bytes are counted: what a value adds to an object, how
much an escaped string can grow, and how many digits a number has.
-/

namespace TaskService.Library

def hexDigit (value : Nat) : Char :=
  if value < 10 then Char.ofNat (48 + value) else Char.ofNat (87 + value)

def jsonEscape (character : Char) : List Char :=
  match character.toNat with
  | 8 => ['\\', 'b']
  | 9 => ['\\', 't']
  | 10 => ['\\', 'n']
  | 12 => ['\\', 'f']
  | 13 => ['\\', 'r']
  | 34 => ['\\', Char.ofNat 34]
  | 92 => ['\\', '\\']
  | code =>
      if code < 32 then ['\\', 'u', '0', '0', hexDigit (code / 16), hexDigit (code % 16)]
      else [character]

def jsonString (text : String) : String :=
  "\x22" ++ String.ofList (text.toList.flatMap jsonEscape) ++ "\x22"

def jsonNat (value : Nat) : String :=
  toString value

def jsonOption {α : Type} (render : α → String) : Option α → String
  | none => "null"
  | some value => render value

def jsonMember (member : String × String) : String :=
  jsonString member.1 ++ ":" ++ member.2

def jsonObject (members : List (String × String)) : String :=
  "\x7b" ++ ",".intercalate (members.map jsonMember) ++ "\x7d"

def jsonArray (items : List String) : String :=
  "[" ++ ",".intercalate items ++ "]"

open List

def memberSize (member : String × String) : Nat :=
  (jsonString member.1).utf8ByteSize + 1 + member.2.utf8ByteSize

theorem joined_size (first : String) (rest : List String) :
    (",".intercalate (first :: rest)).utf8ByteSize =
      first.utf8ByteSize + (rest.map fun text => 1 + text.utf8ByteSize).sum := by
  induction rest generalizing first with
  | nil => simp [String.intercalate_singleton]
  | cons second rest ih =>
    rw [String.intercalate_cons_cons, String.utf8ByteSize_append, String.utf8ByteSize_append,
      ih second, map_cons, sum_cons]
    have comma : ",".utf8ByteSize = 1 := by decide
    omega

theorem json_object_size (first : String × String) (rest : List (String × String)) :
    (jsonObject (first :: rest)).utf8ByteSize =
      2 + memberSize first + (rest.map fun member => 1 + memberSize member).sum := by
  have member_size : ∀ member, (jsonMember member).utf8ByteSize = memberSize member := by
    intro member
    have colon : ":".utf8ByteSize = 1 := by decide
    simp only [jsonMember, memberSize, String.utf8ByteSize_append, colon]
  have brackets : "\x7b".utf8ByteSize = 1 ∧ "\x7d".utf8ByteSize = 1 := by decide
  simp only [jsonObject, map_cons, String.utf8ByteSize_append, joined_size, member_size,
    map_map, Function.comp_def, brackets]
  omega

theorem json_string_size (text : String) :
    (jsonString text).utf8ByteSize = 2 + String.utf8Len (text.toList.flatMap jsonEscape) := by
  have quote : "\x22".utf8ByteSize = 1 := by decide
  simp only [jsonString, String.utf8ByteSize_append, String.utf8ByteSize_ofList, quote]
  omega

theorem hex_digit_size {value : Nat} (small : value < 16) : (hexDigit value).utf8Size = 1 := by
  interval_cases value <;> rfl

theorem json_escape_size (character : Char) :
    String.utf8Len (jsonEscape character) ≤ 6 * character.utf8Size := by
  have positive := character.utf8Size_pos
  have marks : '\\'.utf8Size = 1 ∧ 'u'.utf8Size = 1 ∧ '0'.utf8Size = 1 := by decide
  unfold jsonEscape
  split
  case h_8 =>
    split_ifs with control
    · have high := @hex_digit_size (character.toNat / 16) (by omega)
      have low := @hex_digit_size (character.toNat % 16) (by omega)
      simp only [String.utf8Len_cons, String.utf8Len_nil, marks, high, low]
      omega
    · simp only [String.utf8Len_cons, String.utf8Len_nil]
      omega
  -- The short escapes take two bytes.
  all_goals
    have short : ∀ letter : Char, letter.utf8Size = 1 →
        String.utf8Len ['\\', letter] ≤ 6 * character.utf8Size := by
      intro letter single
      simp only [String.utf8Len_cons, String.utf8Len_nil, marks, single]
      omega
    exact short _ (by decide)

theorem escaped_size_le (characters : List Char) :
    String.utf8Len (characters.flatMap jsonEscape) ≤ 6 * String.utf8Len characters := by
  induction characters with
  | nil => simp
  | cons first rest ih =>
    have own := json_escape_size first
    rw [flatMap_cons, String.utf8Len_append, String.utf8Len_cons]
    omega

theorem json_string_size_le (text : String) :
    (jsonString text).utf8ByteSize ≤ 2 + 6 * text.utf8ByteSize := by
  have escaped := escaped_size_le text.toList
  rw [← String.utf8ByteSize_ofList, ← String.utf8ByteSize_ofList, String.ofList_toList] at escaped
  rw [json_string_size, ← String.utf8ByteSize_ofList]
  omega

def repeated (count : Nat) (character : Char) : String :=
  String.ofList (List.replicate count character)

theorem repeated_size (count : Nat) (character : Char) :
    (repeated count character).utf8ByteSize = count * character.utf8Size := by
  unfold repeated
  rw [String.utf8ByteSize_ofList]
  induction count with
  | zero => simp
  | succ count ih =>
    rw [replicate_succ, String.utf8Len_cons, ih]
    ring

theorem json_repeated_size (count : Nat) (character : Char) :
    (jsonString (repeated count character)).utf8ByteSize =
      2 + count * String.utf8Len (jsonEscape character) := by
  rw [json_string_size]
  unfold repeated
  rw [String.toList_ofList]
  congr 1
  induction count with
  | zero => simp
  | succ count ih =>
    rw [replicate_succ, flatMap_cons, String.utf8Len_append, ih]
    ring

theorem json_nat_size (value : Nat) :
    (jsonNat value).utf8ByteSize = (Nat.toDigits 10 value).length := by
  have single : ∀ digits : List Char, (∀ digit ∈ digits, digit.isDigit = true) →
      String.utf8Len digits = digits.length := by
    intro digits all
    induction digits with
    | nil => rfl
    | cons first rest ih =>
      have digit := all first mem_cons_self
      have size : first.utf8Size = 1 := by
        rw [Char.utf8Size_eq_one_iff]
        simp only [Char.isDigit, Bool.and_eq_true, decide_eq_true_eq] at digit
        exact UInt32.le_trans digit.2 (by decide)
      rw [String.utf8Len_cons, ih fun digit member => all digit (mem_cons_of_mem _ member),
        size, length_cons]
  unfold jsonNat
  rw [Nat.toString_eq_ofList_toDigits, String.utf8ByteSize_ofList]
  exact single _ fun digit member => Nat.isDigit_of_mem_toDigits (by decide) (by decide) member

theorem json_nat_size_le {value digits : Nat} (positive : 0 < digits)
    (small : value < 10 ^ digits) : (jsonNat value).utf8ByteSize ≤ digits := by
  rw [json_nat_size]
  exact (Nat.length_toDigits_le_iff (by decide) positive).mpr small

end TaskService.Library

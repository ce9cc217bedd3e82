import Mathlib.Data.List.DropRight
import Mathlib.Data.List.Infix

/-! # Python text

`str` values are Lean strings, that is sequences of Unicode scalar values. The case mappings are
tables of the Unicode database; the development never looks inside them, so they are fields of a
class together with their values on ASCII text. Whitespace and prefixes are computed.
-/

namespace MegaraidDashboard

/-- ASCII lower-casing, the common part of `str.lower` and `str.casefold`. -/
def asciiLower (text : String) : String := String.ofList (text.toList.map Char.toLower)

theorem asciiLower_append (first second : String) :
    asciiLower (first ++ second) = asciiLower first ++ asciiLower second := by
  rw [asciiLower, String.toList_append, List.map_append, String.ofList_append]
  rfl

def asciiUpper (text : String) : String := String.ofList (text.toList.map Char.toUpper)

/-- A test of every character reads the text, and does not enumerate the alphabet. -/
instance (priority := 2000) decidableForallChar (p : Char → Prop) [DecidablePred p] (chars : List Char) :
    Decidable (∀ c ∈ chars, p c) :=
  List.decidableBAll p chars

def IsAscii (text : String) : Prop := ∀ c ∈ text.toList, c.toNat < 128

instance (text : String) : Decidable (IsAscii text) :=
  inferInstanceAs (Decidable (∀ c ∈ text.toList, _))

/-- The Unicode case mappings of the interpreter. -/
class PyText where
  casefold : String → String
  lower : String → String
  upper : String → String
  casefold_ascii : ∀ text, IsAscii text → casefold text = asciiLower text
  lower_ascii : ∀ text, IsAscii text → lower text = asciiLower text
  upper_ascii : ∀ text, IsAscii text → upper text = asciiUpper text

/-- Case mappings that leave every non-ASCII character alone. -/
@[reducible] def PyText.ascii : PyText where
  casefold := asciiLower
  lower := asciiLower
  upper := asciiUpper
  casefold_ascii _ _ := rfl
  lower_ascii _ _ := rfl
  upper_ascii _ _ := rfl

/-- The decimal digits of the Unicode database: what `\d` matches and `int` reads. -/
class PyDigits where
  decimal : Char → Option ℕ
  decimal_lt : ∀ c digit, decimal c = some digit → digit < 10
  decimal_ascii : ∀ c, c.toNat < 128 → decimal c = if c.isDigit then some (c.toNat - 48) else none

/-- The ASCII digits alone. -/
@[reducible] def PyDigits.ascii : PyDigits where
  decimal c := if c.isDigit then some (c.toNat - 48) else none
  decimal_lt c digit found := by
    split_ifs at found with digits
    have bound : c.toNat ≤ 57 := by
      simp only [Char.isDigit, ge_iff_le, Bool.and_eq_true, decide_eq_true_eq, UInt32.le_iff_toNat_le] at digits
      exact digits.2
    have same := Option.some.inj found
    omega
  decimal_ascii _ _ := rfl

namespace Py

export PyText (casefold lower upper)

section Digits

variable [PyDigits]

def isDecimal (c : Char) : Bool := (PyDigits.decimal c).isSome

/-- `\d+` -/
def allDecimal (chars : List Char) : Bool := !chars.isEmpty && chars.all isDecimal

/-- The number that decimal digits spell. -/
def decimalValue (chars : List Char) : ℕ := chars.foldl (fun value c => 10 * value + (PyDigits.decimal c).getD 0) 0

end Digits

/-- The characters for which `str.isspace` holds. -/
def isSpace (c : Char) : Bool :=
  let n := c.toNat
  (0x09 ≤ n && n ≤ 0x0d) || (0x1c ≤ n && n ≤ 0x20) || n == 0x85 || n == 0xa0 || n == 0x1680 ||
    (0x2000 ≤ n && n ≤ 0x200a) || n == 0x2028 || n == 0x2029 || n == 0x202f || n == 0x205f || n == 0x3000

def strip (text : String) : String :=
  String.ofList ((text.toList.dropWhile isSpace).reverse.dropWhile isSpace).reverse

def startsWith (text head : String) : Bool := head.toList.isPrefixOf text.toList

def endsWith (text tail : String) : Bool := tail.toList.isSuffixOf text.toList

/-- The `in` operator between two strings. -/
def contains (text part : String) : Bool := text.toList.tails.any fun tail => part.toList.isPrefixOf tail

/-- `text.split(sep)` on characters. -/
def splitChars (sep : Char) : List Char → List (List Char)
  | [] => [[]]
  | c :: rest =>
    if c = sep then [] :: splitChars sep rest
    else match splitChars sep rest with
      | [] => [[c]]
      | part :: parts => (c :: part) :: parts

def split (text : String) (sep : Char) : List String := (splitChars sep text.toList).map String.ofList

/-- `text.split(sep, 1)` when it has two parts. -/
def splitOnce (text : String) (sep : Char) : Option (String × String) :=
  match text.toList.span (· != sep) with
  | (before, _ :: after) => some (String.ofList before, String.ofList after)
  | (_, []) => none

/-- `text.rstrip(c)` -/
def rstripChar (text : String) (c : Char) : String :=
  String.ofList (text.toList.reverse.dropWhile (· == c)).reverse

/-- `text[len(head):]` -/
def dropPrefix (text head : String) : String := String.ofList (text.toList.drop head.toList.length)

theorem contains_iff {text part : String} :
    contains text part = true ↔ ∃ before after, text.toList = before ++ part.toList ++ after := by
  simp only [contains, List.any_eq_true, List.mem_tails, List.isPrefixOf_iff_prefix]
  constructor
  · rintro ⟨tail, ⟨before, whole⟩, ⟨after, rfl⟩⟩
    exact ⟨before, after, by rw [← whole, List.append_assoc]⟩
  · rintro ⟨before, after, whole⟩
    refine ⟨part.toList ++ after, ⟨before, ?_⟩, ⟨after, rfl⟩⟩
    rw [whole, List.append_assoc]

theorem endsWith_iff {text tail : String} : endsWith text tail = true ↔ ∃ before, text.toList = before ++ tail.toList := by
  simp only [endsWith, List.isSuffixOf_iff_suffix]
  constructor
  · rintro ⟨before, whole⟩
    exact ⟨before, whole.symm⟩
  · rintro ⟨before, whole⟩
    exact ⟨before, whole.symm⟩

theorem startsWith_append (head rest : String) : startsWith (head ++ rest) head = true := by
  simp [startsWith]

/-- What follows a text that is long enough does not decide whether it starts with the head. -/
theorem startsWith_append_of_length_le {front rest head : String}
    (long : head.toList.length ≤ front.toList.length) :
    startsWith (front ++ rest) head = startsWith front head := by
  rw [Bool.eq_iff_iff]
  simp only [startsWith, List.isPrefixOf_iff_prefix, String.toList_append]
  constructor
  · intro whole
    exact List.prefix_of_prefix_length_le whole (List.prefix_append _ _) long
  · intro part
    exact part.trans (List.prefix_append _ _)

theorem dropWhile_rdropWhile {α : Type} {p : α → Bool} {entries : List α} (solid : entries.dropWhile p = entries) :
    (entries.rdropWhile p).dropWhile p = entries.rdropWhile p := by
  cases shortened : entries.rdropWhile p with
  | nil => rfl
  | cons first rest =>
    obtain ⟨tail, whole⟩ := shortened ▸ List.rdropWhile_prefix p (l := entries)
    have head : p first = false := by
      rw [← whole, List.cons_append] at solid
      by_contra blank
      rw [Bool.not_eq_false] at blank
      rw [List.dropWhile_cons_of_pos blank] at solid
      have length := congrArg List.length solid
      have shorter := (List.dropWhile_suffix p (l := rest ++ tail)).length_le
      rw [List.length_cons] at length
      omega
    rw [List.dropWhile_cons_of_neg (by simp [head])]

theorem strip_strip (text : String) : strip (strip text) = strip text := by
  have plain : (strip text).toList = (text.toList.dropWhile isSpace).rdropWhile isSpace := String.toList_ofList
  have front : ((text.toList.dropWhile isSpace).rdropWhile isSpace).dropWhile isSpace =
      (text.toList.dropWhile isSpace).rdropWhile isSpace :=
    dropWhile_rdropWhile (List.dropWhile_idempotent _ _)
  apply String.toList_injective
  change (String.ofList _).toList = _
  rw [String.toList_ofList, plain, front]
  exact List.rdropWhile_idempotent isSpace _

end Py

end MegaraidDashboard

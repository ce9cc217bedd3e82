import MegaraidDashboard.ToMathlib.Decimals
import MegaraidDashboard.ToMathlib.ListQueries
import Mathlib.Data.String.Basic
import Mathlib.Data.Nat.Notation

/-! # Canonical JSON texts

A value has one text: compact separators, ASCII escapes, and the fields of every object in the order of their
keys. The text determines the value up to the order of its fields. A finite floating-point number is its shortest
decimal text, which always has a point or an exponent and so is no integer's text.
-/

namespace JsonText

/-- The characters of a number. -/
def isNumeric (c : Char) : Bool := c.isDigit || c ∈ ['.', 'e', '+', '-']

/-- A finite floating-point number by its decimal text. -/
structure FloatText where
  chars : List Char
  numeric : chars.all isNumeric = true
  fractional : (chars.contains '.' || chars.contains 'e') = true
deriving DecidableEq

inductive NonFinite where
  | nan
  | infinity
  | negInfinity
deriving DecidableEq

inductive Scalar where
  | null
  | bool (value : Bool)
  | int (value : ℤ)
  | float (value : FloatText)
  | nonFinite (value : NonFinite)
deriving DecidableEq

inductive Value where
  | scalar (value : Scalar)
  | str (text : String)
  | arr (items : List Value)
  | obj (fields : List (String × Value))

namespace Value

/-- Induction over a value and the values inside it. -/
theorem induct {P : Value → Prop} (scalar : ∀ value, P (.scalar value)) (str : ∀ text, P (.str text))
    (arr : ∀ items, (∀ item ∈ items, P item) → P (.arr items))
    (obj : ∀ fields, (∀ field ∈ fields, P field.2) → P (.obj fields)) (value : Value) : P value :=
  Value.rec (motive_1 := P) (motive_2 := fun items => ∀ item ∈ items, P item)
    (motive_3 := fun fields => ∀ field ∈ fields, P field.2) (motive_4 := fun field => P field.2)
    scalar str arr obj (List.forall_mem_nil _) (fun _ _ first rest => List.forall_mem_cons.mpr ⟨first, rest⟩)
    (List.forall_mem_nil _) (fun _ _ first rest => List.forall_mem_cons.mpr ⟨first, rest⟩) (fun _ _ inner => inner)
    value

end Value

/-! ## Values up to the order of fields -/

/-- Two values that differ in nothing but the order of fields, at any depth. -/
inductive Same : Value → Value → Prop where
  | refl (value) : Same value value
  | symm {first second} : Same first second → Same second first
  | trans {first second third} : Same first second → Same second third → Same first third
  | order {fields others} : fields.Perm others → Same (.obj fields) (.obj others)
  | item {first second} (front back) : Same first second →
      Same (.arr (front ++ first :: back)) (.arr (front ++ second :: back))
  | field {first second} (front key back) : Same first second →
      Same (.obj (front ++ (key, first) :: back)) (.obj (front ++ (key, second) :: back))

mutual

/-- The value with the fields of every object in the order of their keys. -/
def Value.sorted : Value → Value
  | .arr items => .arr (sortedItems items)
  | .obj fields => .obj ((sortedFields fields).orderBy Prod.fst)
  | value => value

def sortedItems : List Value → List Value
  | [] => []
  | item :: rest => item.sorted :: sortedItems rest

def sortedFields : List (String × Value) → List (String × Value)
  | [] => []
  | (key, value) :: rest => (key, value.sorted) :: sortedFields rest

end

theorem same_sortedItems {items : List Value} (inner : ∀ item ∈ items, Same item item.sorted) (front : List Value) :
    Same (.arr (front ++ items)) (.arr (front ++ sortedItems items)) := by
  induction items generalizing front with
  | nil => exact .refl _
  | cons item rest ih =>
    have first := Same.item front rest (inner item List.mem_cons_self)
    have others := ih (fun other member => inner other (List.mem_cons_of_mem _ member)) (front ++ [item.sorted])
    rw [List.append_assoc, List.append_assoc] at others
    exact first.trans others

theorem same_sortedFields {fields : List (String × Value)} (inner : ∀ field ∈ fields, Same field.2 field.2.sorted)
    (front : List (String × Value)) : Same (.obj (front ++ fields)) (.obj (front ++ sortedFields fields)) := by
  induction fields generalizing front with
  | nil => exact .refl _
  | cons field rest ih =>
    have first := Same.field front field.1 rest (inner field List.mem_cons_self)
    have others := ih (fun other member => inner other (List.mem_cons_of_mem _ member))
      (front ++ [(field.1, field.2.sorted)])
    rw [List.append_assoc, List.append_assoc] at others
    exact first.trans others

theorem same_sorted (value : Value) : Same value value.sorted := by
  induction value using Value.induct with
  | scalar value => exact .refl _
  | str text => exact .refl _
  | arr items inner => exact same_sortedItems inner []
  | obj fields inner =>
    exact (same_sortedFields inner []).trans (.order (List.orderBy_perm Prod.fst _).symm)

/-! ## Quoted strings -/

def hexDigit (n : ℕ) : Char := if n < 10 then Char.ofNat (48 + n) else Char.ofNat (87 + n)

def hexValue (c : Char) : ℕ := if c.isDigit then c.toNat - 48 else c.toNat - 87

/-- Four hexadecimal digits. -/
def hex4 (n : ℕ) : List Char :=
  [hexDigit (n / 4096), hexDigit (n / 256 % 16), hexDigit (n / 16 % 16), hexDigit (n % 16)]

def readHex4 : List Char → Option (ℕ × List Char)
  | a :: b :: c :: d :: rest => some (hexValue a * 4096 + hexValue b * 256 + hexValue c * 16 + hexValue d, rest)
  | _ => none

theorem hexValue_hexDigit : ∀ n < 16, hexValue (hexDigit n) = n := by decide

theorem readHex4_hex4 {n : ℕ} (fits : n < 65536) (rest : List Char) : readHex4 (hex4 n ++ rest) = some (n, rest) := by
  have first : hexValue (hexDigit (n / 4096)) = n / 4096 := hexValue_hexDigit _ (by omega)
  have second : hexValue (hexDigit (n / 256 % 16)) = n / 256 % 16 := hexValue_hexDigit _ (by omega)
  have third : hexValue (hexDigit (n / 16 % 16)) = n / 16 % 16 := hexValue_hexDigit _ (by omega)
  have fourth : hexValue (hexDigit (n % 16)) = n % 16 := hexValue_hexDigit _ (by omega)
  simp only [hex4, List.cons_append, List.nil_append, readHex4, first, second, third, fourth]
  congr 2
  omega

/-- The short escape of a character. -/
def shortEscape (c : Char) : Option Char :=
  if c = '"' then some '"' else if c = '\\' then some '\\' else if c = '\n' then some 'n'
  else if c = '\r' then some 'r' else if c = '\t' then some 't' else if c = '\x0c' then some 'f'
  else if c = '\x08' then some 'b' else none

def readShortEscape (c : Char) : Option Char :=
  if c = '"' then some '"' else if c = '\\' then some '\\' else if c = 'n' then some '\n'
  else if c = 'r' then some '\r' else if c = 't' then some '\t' else if c = 'f' then some '\x0c'
  else if c = 'b' then some '\x08' else none

/-- A character of a string; a character beyond the basic plane becomes a surrogate pair. -/
def escape (c : Char) : List Char :=
  match shortEscape c with
  | some letter => ['\\', letter]
  | none =>
    if 0x20 ≤ c.toNat ∧ c.toNat ≤ 0x7e then [c]
    else if c.toNat < 0x10000 then '\\' :: 'u' :: hex4 c.toNat
    else '\\' :: 'u' :: (hex4 (0xd800 + (c.toNat - 0x10000) / 0x400) ++
      '\\' :: 'u' :: hex4 (0xdc00 + (c.toNat - 0x10000) % 0x400))

/-- The first character of an escaped string, and what follows. -/
def unescape : List Char → Option (Char × List Char)
  | '\\' :: 'u' :: rest =>
    match readHex4 rest with
    | none => none
    | some (high, rest) =>
      if 0xd800 ≤ high ∧ high < 0xdc00 then
        match rest with
        | '\\' :: 'u' :: rest =>
          (readHex4 rest).map fun low =>
            (Char.ofNat (0x10000 + (high - 0xd800) * 0x400 + (low.1 - 0xdc00)), low.2)
        | _ => none
      else some (Char.ofNat high, rest)
  | '\\' :: letter :: rest => (readShortEscape letter).map fun c => (c, rest)
  | c :: rest => some (c, rest)
  | [] => none

/-- A quoted string. -/
def quote (text : List Char) : List Char := '"' :: (text.flatMap escape ++ ['"'])

theorem shortEscape_cases {c letter : Char} (short : shortEscape c = some letter) :
    letter ≠ 'u' ∧ readShortEscape letter = some c := by
  rw [shortEscape] at short
  split_ifs at short with h1 h2 h3 h4 h5 h6 h7
  all_goals
    obtain rfl := Option.some.inj short
    subst_vars
    decide

theorem toNat_notSurrogate (c : Char) : c.toNat < 0xd800 ∨ 0xe000 ≤ c.toNat ∧ c.toNat < 0x110000 := by
  rcases c.valid with low | ⟨above, below⟩
  · exact .inl low
  · refine .inr ⟨?_, below⟩
    change 0xdfff < c.toNat at above
    omega

theorem unescape_escape (c : Char) (rest : List Char) : unescape (escape c ++ rest) = some (c, rest) := by
  rw [escape]
  cases short : shortEscape c with
  | some letter =>
    obtain ⟨other, back⟩ := shortEscape_cases short
    simp only [List.cons_append, List.nil_append]
    rw [unescape]
    · rw [back]
      rfl
    · exact other
  | none =>
    have plain : c ≠ '\\' := by
      rintro rfl
      exact absurd short (by decide)
    have range := toNat_notSurrogate c
    split_ifs with printable basic
    · rw [List.singleton_append, unescape]
      all_goals simp_all
    · have single : ¬(0xd800 ≤ c.toNat ∧ c.toNat < 0xdc00) := by omega
      rw [List.cons_append, List.cons_append, unescape, readHex4_hex4 basic]
      simp only [if_neg single, Char.ofNat_toNat]
    · have high : 0xd800 ≤ 0xd800 + (c.toNat - 0x10000) / 0x400 ∧
          0xd800 + (c.toNat - 0x10000) / 0x400 < 0xdc00 := by omega
      have low : 0xdc00 + (c.toNat - 0x10000) % 0x400 < 65536 := by omega
      have whole : 0x10000 + (0xd800 + (c.toNat - 0x10000) / 0x400 - 0xd800) * 0x400 +
          (0xdc00 + (c.toNat - 0x10000) % 0x400 - 0xdc00) = c.toNat := by omega
      rw [List.cons_append, List.cons_append, List.append_assoc, unescape, readHex4_hex4 (by omega)]
      simp only [if_pos high, List.cons_append, readHex4_hex4 low, Option.map_some, whole, Char.ofNat_toNat]

/-- No escape of a character starts like the end of the string. -/
theorem escape_head (c : Char) : ∃ first rest, escape c = first :: rest ∧ first ≠ '"' := by
  rw [escape]
  cases short : shortEscape c with
  | some letter => exact ⟨'\\', [letter], rfl, by decide⟩
  | none =>
    split_ifs
    · refine ⟨c, [], rfl, ?_⟩
      rintro rfl
      exact absurd short (by decide)
    · exact ⟨_, _, rfl, by decide⟩
    · exact ⟨_, _, rfl, by decide⟩

/-- Where a quoted string ends is read off its characters. -/
theorem quoted_unambiguous {text other rest after : List Char}
    (same : text.flatMap escape ++ '"' :: rest = other.flatMap escape ++ '"' :: after) :
    text = other ∧ rest = after := by
  induction text generalizing other with
  | nil =>
    cases other with
    | nil => exact ⟨rfl, (List.cons.inj same).2⟩
    | cons d other =>
      obtain ⟨first, tail, head, differs⟩ := escape_head d
      rw [List.flatMap_cons, head] at same
      exact absurd (List.cons.inj same).1.symm differs
  | cons c text ih =>
    cases other with
    | nil =>
      obtain ⟨first, tail, head, differs⟩ := escape_head c
      rw [List.flatMap_cons, head] at same
      exact absurd (List.cons.inj same).1 differs
    | cons d other =>
      rw [List.flatMap_cons, List.flatMap_cons, List.append_assoc, List.append_assoc] at same
      have read := congrArg unescape same
      rw [unescape_escape, unescape_escape] at read
      obtain ⟨rfl, later⟩ := Prod.mk.inj (Option.some.inj read)
      obtain ⟨rfl, ends⟩ := ih later
      exact ⟨rfl, ends⟩

theorem quote_unambiguous {text other rest after : List Char} (same : quote text ++ rest = quote other ++ after) :
    text = other ∧ rest = after := by
  simp only [quote, List.cons_append, List.append_assoc, List.nil_append, List.cons.injEq, true_and] at same
  exact quoted_unambiguous same

/-! ## Scalars -/

def NonFinite.text : NonFinite → List Char
  | nan => "NaN".toList
  | infinity => "Infinity".toList
  | negInfinity => "-Infinity".toList

def Scalar.text : Scalar → List Char
  | null => "null".toList
  | bool true => "true".toList
  | bool false => "false".toList
  | int value => (toString value).toList
  | float value => value.chars
  | nonFinite value => value.text

/-- The characters that end a scalar. -/
def isDelimiter (c : Char) : Bool := c ∈ [',', ']', '}']

/-- The scalars that are written as words. -/
def words : List Scalar :=
  [.null, .bool true, .bool false, .nonFinite .nan, .nonFinite .infinity, .nonFinite .negInfinity]

def readInt (text : List Char) : ℤ :=
  if text.head? = some '-' then -Nat.ofDigitChars 10 text.tail 0 else Nat.ofDigitChars 10 text 0

/-- The scalar of a text. -/
def readScalar (text : List Char) : Option Scalar :=
  match words.find? fun word => word.text == text with
  | some word => some word
  | none =>
    if numeric : text.all isNumeric = true then
      if fractional : (text.contains '.' || text.contains 'e') = true then some (.float ⟨text, numeric, fractional⟩)
      else some (.int (readInt text))
    else none

theorem intText_cases (value : ℤ) : (∃ n : ℕ, value = n ∧ (toString value).toList = Nat.toDigits 10 n) ∨
    ∃ n : ℕ, value = Int.negSucc n ∧ (toString value).toList = '-' :: Nat.toDigits 10 (n + 1) := by
  cases value with
  | ofNat n => exact .inl ⟨n, rfl, Nat.toList_toString n⟩
  | negSucc n =>
    refine .inr ⟨n, rfl, ?_⟩
    change ("-" ++ toString (n + 1)).toList = _
    rw [String.toList_append, Nat.toList_toString]
    rfl

/-- Only digits and the sign stand in an integer's text. -/
theorem mem_intText {value : ℤ} {c : Char} (member : c ∈ (toString value).toList) : c.isDigit = true ∨ c = '-' := by
  have digits (n : ℕ) (inside : c ∈ Nat.toDigits 10 n) : c.isDigit = true :=
    Nat.isDigit_of_mem_toDigits (by decide) (by decide) inside
  rcases intText_cases value with ⟨n, -, text⟩ | ⟨n, -, text⟩
  · rw [text] at member
    exact .inl (digits n member)
  · rw [text] at member
    rcases List.mem_cons.mp member with rfl | inside
    · exact .inr rfl
    · exact .inl (digits _ inside)

theorem intText_numeric (value : ℤ) : (toString value).toList.all isNumeric = true := by
  rw [List.all_eq_true]
  intro c member
  rcases mem_intText member with digit | rfl
  · rw [isNumeric, digit, Bool.true_or]
  · decide

theorem intText_ne_nil (value : ℤ) : (toString value).toList ≠ [] := by
  rcases intText_cases value with ⟨n, -, text⟩ | ⟨n, -, text⟩
  · rw [text]
    exact Nat.toDigits_ne_nil
  · rw [text]
    exact List.cons_ne_nil _ _

theorem readInt_intText (value : ℤ) : readInt (toString value).toList = value := by
  rcases intText_cases value with ⟨n, rfl, text⟩ | ⟨n, rfl, text⟩
  · have unsigned : (Nat.toDigits 10 n).head? ≠ some '-' := by
      intro head
      have digit := Nat.isDigit_of_mem_toDigits (b := 10) (by decide) (by decide) (List.mem_of_head? head)
      exact absurd digit (by decide)
    rw [text, readInt, if_neg unsigned, Nat.ofDigitChars_ten_toDigits]
  · have signed : ('-' :: Nat.toDigits 10 (n + 1)).head? = some '-' := rfl
    rw [text, readInt, if_pos signed, List.tail_cons, Nat.ofDigitChars_ten_toDigits]
    rfl

/-- No word is a number. -/
theorem find?_words_of_numeric {text : List Char} (numeric : text.all isNumeric = true) :
    (words.find? fun word => word.text == text) = none := by
  have letters : ∀ word ∈ words, word.text.any (fun c => !isNumeric c) = true := by decide
  rw [List.find?_eq_none]
  intro word member same
  obtain ⟨c, inside, letter⟩ := List.any_eq_true.mp (letters word member)
  rw [beq_iff_eq.mp same] at inside
  rw [List.all_eq_true.mp numeric c inside] at letter
  cases letter

theorem readScalar_text (value : Scalar) : readScalar value.text = some value := by
  cases value with
  | null => decide
  | bool value => cases value <;> decide
  | nonFinite value => cases value <;> decide
  | float value =>
    rw [Scalar.text, readScalar, find?_words_of_numeric value.numeric]
    simp only [value.numeric, value.fractional, ↓reduceDIte]
  | int value =>
    have numeric := intText_numeric value
    have whole : ((toString value).toList.contains '.' || (toString value).toList.contains 'e') = false := by
      rw [Bool.or_eq_false_iff, List.contains_eq_mem, List.contains_eq_mem, decide_eq_false_iff_not,
        decide_eq_false_iff_not]
      constructor
      · intro member
        exact absurd (mem_intText member) (by decide)
      · intro member
        exact absurd (mem_intText member) (by decide)
    rw [Scalar.text, readScalar, find?_words_of_numeric numeric]
    simp only [numeric, whole, ↓reduceDIte, Bool.false_eq_true, readInt_intText]

theorem Scalar.text_injective {first second : Scalar} (same : first.text = second.text) : first = second := by
  have read := congrArg readScalar same
  rw [readScalar_text, readScalar_text] at read
  exact Option.some.inj read

theorem plain_of_all {text : List Char} (all : text.all (fun c => !isDelimiter c) = true) :
    ∀ c ∈ text, isDelimiter c = false :=
  fun c member => (Bool.not_eq_true' _).mp (List.all_eq_true.mp all c member)

/-- A scalar's text has no delimiter, and begins like no string, array or object. -/
theorem Scalar.text_plain (value : Scalar) :
    (∀ c ∈ value.text, isDelimiter c = false) ∧ ∃ first rest, value.text = first :: rest ∧ first ∉ ['"', '[', '{'] := by
  have numbers {text : List Char} (numeric : text.all isNumeric = true) (some_ : text ≠ []) :
      (∀ c ∈ text, isDelimiter c = false) ∧ ∃ first rest, text = first :: rest ∧ first ∉ ['"', '[', '{'] := by
    have other (c : Char) (member : c ∈ text) (outside : isNumeric c = false) : False := by
      rw [List.all_eq_true.mp numeric c member] at outside
      cases outside
    constructor
    · intro c member
      rw [isDelimiter, decide_eq_false_iff_not]
      intro delimiter
      simp only [List.mem_cons, List.not_mem_nil, or_false] at delimiter
      rcases delimiter with rfl | rfl | rfl <;> exact other _ member (by decide)
    · obtain ⟨first, rest, rfl⟩ := List.exists_cons_of_ne_nil some_
      refine ⟨first, rest, rfl, ?_⟩
      intro opening
      simp only [List.mem_cons, List.not_mem_nil, or_false] at opening
      rcases opening with rfl | rfl | rfl <;> exact other _ List.mem_cons_self (by decide)
  cases value with
  | null => exact ⟨plain_of_all (by decide), _, _, rfl, by decide⟩
  | bool value => cases value <;> exact ⟨plain_of_all (by decide), _, _, rfl, by decide⟩
  | nonFinite value => cases value <;> exact ⟨plain_of_all (by decide), _, _, rfl, by decide⟩
  | float value =>
    have some_ : value.chars ≠ [] := by
      intro empty
      have fractional := value.fractional
      rw [empty] at fractional
      cases fractional
    exact numbers value.numeric some_
  | int value => exact numbers (intText_numeric value) (intText_ne_nil value)

/-! ## Texts -/

mutual

/-- The compact text, with the fields in their order. -/
def Value.text : Value → List Char
  | .scalar value => value.text
  | .str text => quote text.toList
  | .arr [] => ['[', ']']
  | .arr (item :: rest) => '[' :: (item.text ++ itemsText rest)
  | .obj [] => ['{', '}']
  | .obj ((key, value) :: rest) => '{' :: (quote key.toList ++ ':' :: (value.text ++ fieldsText rest))

/-- The later items of an array. -/
def itemsText : List Value → List Char
  | [] => [']']
  | item :: rest => ',' :: (item.text ++ itemsText rest)

/-- The later fields of an object. -/
def fieldsText : List (String × Value) → List Char
  | [] => ['}']
  | (key, value) :: rest => ',' :: (quote key.toList ++ ':' :: (value.text ++ fieldsText rest))

end

/-- The canonical text: `json.dumps` with sorted keys and compact separators. -/
def Value.canonical (value : Value) : List Char := value.sorted.text

/-- What may follow a value: nothing, or a delimiter. -/
def Ends (rest : List Char) : Prop := ∀ c ∈ rest.head?, isDelimiter c = true

theorem ends_itemsText (items : List Value) (rest : List Char) : Ends (itemsText items ++ rest) := by
  intro c head
  cases items with
  | nil => exact Option.some.inj head ▸ rfl
  | cons item items => exact Option.some.inj head ▸ rfl

theorem ends_fieldsText (fields : List (String × Value)) (rest : List Char) : Ends (fieldsText fields ++ rest) := by
  intro c head
  cases fields with
  | nil => exact Option.some.inj head ▸ rfl
  | cons field fields => exact Option.some.inj head ▸ rfl

/-- A text without delimiters is cut off before the delimiter that follows it. -/
theorem takeWhile_plain {text rest : List Char} (plain : ∀ c ∈ text, isDelimiter c = false) (ends : Ends rest) :
    (text ++ rest).takeWhile (fun c => !isDelimiter c) = text := by
  rw [List.takeWhile_append_of_pos (fun c member => by rw [plain c member]; rfl)]
  cases rest with
  | nil => rw [List.takeWhile_nil, List.append_nil]
  | cons c rest =>
    have delimiter : isDelimiter c = true := ends c rfl
    rw [List.takeWhile_cons_of_neg (by simp [delimiter]), List.append_nil]

theorem Scalar.text_unambiguous {first second : Scalar} {rest after : List Char} (restEnds : Ends rest)
    (afterEnds : Ends after) (same : first.text ++ rest = second.text ++ after) : first = second ∧ rest = after := by
  have cut := congrArg (List.takeWhile fun c => !isDelimiter c) same
  rw [takeWhile_plain first.text_plain.1 restEnds, takeWhile_plain second.text_plain.1 afterEnds] at cut
  obtain rfl := Scalar.text_injective cut
  exact ⟨rfl, List.append_cancel_left same⟩

/-- The value of a text, and what follows it, are determined. -/
def Value.Unambiguous (value : Value) : Prop :=
  ∀ other rest after, Ends rest → Ends after → value.text ++ rest = other.text ++ after → value = other ∧ rest = after

theorem itemsText_unambiguous {items : List Value} (inner : ∀ item ∈ items, item.Unambiguous) {others : List Value}
    {rest after : List Char} (same : itemsText items ++ rest = itemsText others ++ after) :
    items = others ∧ rest = after := by
  induction items generalizing others with
  | nil =>
    cases others with
    | nil => exact ⟨rfl, (List.cons.inj same).2⟩
    | cons other others => exact absurd (List.cons.inj same).1 (by decide)
  | cons item items ih =>
    cases others with
    | nil => exact absurd (List.cons.inj same).1 (by decide)
    | cons other others =>
      have tail : item.text ++ (itemsText items ++ rest) = other.text ++ (itemsText others ++ after) := by
        simpa only [itemsText, List.cons_append, List.append_assoc, List.cons.injEq, true_and] using same
      obtain ⟨rfl, later⟩ := inner item List.mem_cons_self other _ _ (ends_itemsText items rest)
        (ends_itemsText others after) tail
      obtain ⟨rfl, ends⟩ := ih (fun item member => inner item (List.mem_cons_of_mem _ member)) later
      exact ⟨rfl, ends⟩

theorem field_unambiguous {field other : String × Value} (inner : field.2.Unambiguous) {rest after : List Char}
    (restEnds : Ends rest) (afterEnds : Ends after) (same : quote field.1.toList ++ ':' :: (field.2.text ++ rest) =
      quote other.1.toList ++ ':' :: (other.2.text ++ after)) : field = other ∧ rest = after := by
  obtain ⟨keys, tail⟩ := quote_unambiguous same
  obtain ⟨values, ends⟩ := inner _ _ _ restEnds afterEnds (List.cons.inj tail).2
  exact ⟨Prod.ext (String.toList_injective keys) values, ends⟩

theorem fieldsText_unambiguous {fields : List (String × Value)} (inner : ∀ field ∈ fields, field.2.Unambiguous)
    {others : List (String × Value)} {rest after : List Char}
    (same : fieldsText fields ++ rest = fieldsText others ++ after) : fields = others ∧ rest = after := by
  induction fields generalizing others with
  | nil =>
    cases others with
    | nil => exact ⟨rfl, (List.cons.inj same).2⟩
    | cons other others => exact absurd (List.cons.inj same).1 (by decide)
  | cons field fields ih =>
    cases others with
    | nil => exact absurd (List.cons.inj same).1 (by decide)
    | cons other others =>
      have tail : quote field.1.toList ++ ':' :: (field.2.text ++ (fieldsText fields ++ rest)) =
          quote other.1.toList ++ ':' :: (other.2.text ++ (fieldsText others ++ after)) := by
        simpa only [fieldsText, List.cons_append, List.append_assoc, List.cons.injEq, true_and] using same
      obtain ⟨rfl, later⟩ := field_unambiguous (inner field List.mem_cons_self) (ends_fieldsText fields rest)
        (ends_fieldsText others after) tail
      obtain ⟨rfl, ends⟩ := ih (fun field member => inner field (List.mem_cons_of_mem _ member)) later
      exact ⟨rfl, ends⟩

inductive Shape where
  | scalar
  | str
  | arr
  | obj

def Value.shape : Value → Shape
  | .scalar _ => .scalar
  | .str _ => .str
  | .arr _ => .arr
  | .obj _ => .obj

/-- The shape that a first character announces. -/
def shapeOf (first : Char) : Shape :=
  if first = '"' then .str else if first = '[' then .arr else if first = '{' then .obj else .scalar

theorem Value.shape_text (value : Value) (rest : List Char) :
    (value.text ++ rest).head?.map shapeOf = some value.shape := by
  cases value with
  | scalar value =>
    obtain ⟨first, tail, text, outside⟩ := value.text_plain.2
    simp only [List.mem_cons, List.not_mem_nil, or_false, not_or] at outside
    obtain ⟨quote, bracket, brace⟩ := outside
    rw [Value.text, text, List.cons_append, List.head?_cons, Option.map_some, shapeOf, if_neg quote, if_neg bracket,
      if_neg brace]
    rfl
  | str text => rfl
  | arr items => cases items <;> rfl
  | obj fields => cases fields <;> rfl

/-- Texts that begin alike belong to values of one shape. -/
theorem Value.shape_eq {value other : Value} {rest after : List Char}
    (same : value.text ++ rest = other.text ++ after) : value.shape = other.shape := by
  have shapes := congrArg (fun text => text.head?.map shapeOf) same
  simp only [shape_text] at shapes
  exact Option.some.inj shapes

/-- No value begins with a delimiter. -/
theorem Value.text_head (value : Value) (rest : List Char) :
    ∀ c ∈ (value.text ++ rest).head?, isDelimiter c = false := by
  intro c head
  cases value with
  | scalar value =>
    obtain ⟨plain, first, tail, text, -⟩ := value.text_plain
    rw [Value.text, text] at head
    obtain rfl := Option.some.inj head
    exact plain first (text ▸ List.mem_cons_self)
  | str text => exact Option.some.inj head ▸ rfl
  | arr items => cases items <;> exact Option.some.inj head ▸ rfl
  | obj fields => cases fields <;> exact Option.some.inj head ▸ rfl

theorem arrText_unambiguous {items others : List Value} (inner : ∀ item ∈ items, item.Unambiguous)
    {rest after : List Char} (same : (Value.arr items).text ++ rest = (Value.arr others).text ++ after) :
    items = others ∧ rest = after := by
  cases items with
  | nil =>
    cases others with
    | nil => exact ⟨rfl, (List.cons.inj (List.cons.inj same).2).2⟩
    | cons other others =>
      have tail : ']' :: rest = other.text ++ (itemsText others ++ after) := by
        simpa only [Value.text, List.cons_append, List.nil_append, List.append_assoc, List.cons.injEq,
          true_and] using same
      have head := other.text_head (itemsText others ++ after) ']' (tail ▸ rfl)
      cases head
  | cons item items =>
    cases others with
    | nil =>
      have tail : item.text ++ (itemsText items ++ rest) = ']' :: after := by
        simpa only [Value.text, List.cons_append, List.nil_append, List.append_assoc, List.cons.injEq,
          true_and] using same
      have head := item.text_head (itemsText items ++ rest) ']' (tail ▸ rfl)
      cases head
    | cons other others =>
      have tail : itemsText (item :: items) ++ rest = itemsText (other :: others) ++ after := by
        simpa only [Value.text, itemsText, List.cons_append, List.append_assoc, List.cons.injEq, true_and] using same
      exact itemsText_unambiguous inner tail

theorem objText_unambiguous {fields others : List (String × Value)} (inner : ∀ field ∈ fields, field.2.Unambiguous)
    {rest after : List Char} (same : (Value.obj fields).text ++ rest = (Value.obj others).text ++ after) :
    fields = others ∧ rest = after := by
  cases fields with
  | nil =>
    cases others with
    | nil => exact ⟨rfl, (List.cons.inj (List.cons.inj same).2).2⟩
    | cons other others => exact absurd (List.cons.inj (List.cons.inj same).2).1 (by decide)
  | cons field fields =>
    cases others with
    | nil => exact absurd (List.cons.inj (List.cons.inj same).2).1 (by decide)
    | cons other others =>
      have tail : fieldsText (field :: fields) ++ rest = fieldsText (other :: others) ++ after := by
        simpa only [Value.text, fieldsText, List.cons_append, List.append_assoc, List.cons.injEq, true_and] using same
      exact fieldsText_unambiguous inner tail

/-- The text of a value is determined, whatever delimiter follows it. -/
theorem Value.unambiguous (value : Value) : value.Unambiguous := by
  induction value using Value.induct with
  | scalar value =>
    intro other rest after restEnds afterEnds same
    have shapes := Value.shape_eq same
    cases other with
    | scalar other =>
      obtain ⟨rfl, ends⟩ := Scalar.text_unambiguous restEnds afterEnds same
      exact ⟨rfl, ends⟩
    | str other => cases shapes
    | arr others => cases shapes
    | obj others => cases shapes
  | str text =>
    intro other rest after _ _ same
    have shapes := Value.shape_eq same
    cases other with
    | scalar other => cases shapes
    | str other =>
      obtain ⟨chars, ends⟩ := quote_unambiguous same
      exact ⟨congrArg Value.str (String.toList_injective chars), ends⟩
    | arr others => cases shapes
    | obj others => cases shapes
  | arr items inner =>
    intro other rest after _ _ same
    have shapes := Value.shape_eq same
    cases other with
    | scalar other => cases shapes
    | str other => cases shapes
    | arr others =>
      obtain ⟨rfl, ends⟩ := arrText_unambiguous inner same
      exact ⟨rfl, ends⟩
    | obj others => cases shapes
  | obj fields inner =>
    intro other rest after _ _ same
    have shapes := Value.shape_eq same
    cases other with
    | scalar other => cases shapes
    | str other => cases shapes
    | arr others => cases shapes
    | obj others =>
      obtain ⟨rfl, ends⟩ := objText_unambiguous inner same
      exact ⟨rfl, ends⟩

theorem ends_nil : Ends [] := fun _ head => nomatch head

/-- Values with one canonical text differ in nothing but the order of fields. -/
theorem same_of_canonical_eq {first second : Value} (texts : first.canonical = second.canonical) :
    Same first second := by
  have whole : first.sorted.text ++ [] = second.sorted.text ++ [] := by
    rw [List.append_nil, List.append_nil]
    exact texts
  have sorted := (first.sorted.unambiguous second.sorted [] [] ends_nil ends_nil whole).1
  have back := (same_sorted second).symm
  rw [← sorted] at back
  exact (same_sorted first).trans back

/-! ## Rendering -/

mutual

/-- Every number in the value is finite. -/
def Value.finite : Value → Bool
  | .scalar (.nonFinite _) => false
  | .arr items => allFinite items
  | .obj fields => fieldsFinite fields
  | _ => true

def allFinite : List Value → Bool
  | [] => true
  | first :: rest => first.finite && allFinite rest

def fieldsFinite : List (String × Value) → Bool
  | [] => true
  | (_, first) :: rest => first.finite && fieldsFinite rest

end

/-- `json.dumps` with sorted keys and compact separators; a number that is not finite is an error. -/
def dumps (value : Value) : Option (List Char) := if value.finite then some value.canonical else none

theorem same_of_dumps_eq {first second : Value} {text : List Char} (dumped : dumps first = some text)
    (other : dumps second = some text) : Same first second := by
  rw [dumps, Option.ite_none_right_eq_some] at dumped other
  exact same_of_canonical_eq (Option.some.inj (dumped.2.trans other.2.symm))

end JsonText

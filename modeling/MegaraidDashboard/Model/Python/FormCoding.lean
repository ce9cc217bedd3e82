import MegaraidDashboard.Model.Python.DateTime

/-! # Query strings of any text

`urlencode` and `parse_qsl` go through the UTF-8 bytes of a text. A text whose escapes are no UTF-8, which Python repairs
with replacement characters, does not decode here.
-/

namespace MegaraidDashboard.Py

/-- `quote_plus` of one byte -/
def quotePlusByte (b : UInt8) : List Char :=
  let c := Char.ofNat b.toNat
  if isUnreserved c && c != '/' then [c]
  else if b = 32 then ['+']
  else ['%', hexDigit (b.toNat / 16), hexDigit (b.toNat % 16)]

/-- `quote_plus` -/
def quotePlus (text : String) : List Char := text.toByteArray.data.toList.flatMap quotePlusByte

/-- The bytes that `unquote_plus` reads. -/
def unquotePlusBytes : List Char → List UInt8
  | [] => []
  | '%' :: high :: low :: rest => match hexValue high, hexValue low with
    | some high, some low => UInt8.ofNat (high * 16 + low) :: unquotePlusBytes rest
    | _, _ => 37 :: unquotePlusBytes (high :: low :: rest)
  | '+' :: rest => 32 :: unquotePlusBytes rest
  | c :: rest => String.utf8EncodeChar c ++ unquotePlusBytes rest

/-- `unquote_plus` -/
def unquotePlusText (text : String) : Option String :=
  String.fromUTF8? ⟨(unquotePlusBytes text.toList).toArray⟩

/-- `urlencode(pairs)` -/
def urlencodePairs (pairs : List (String × String)) : String :=
  String.ofList (['&'].intercalate (pairs.map fun pair => quotePlus pair.1 ++ '=' :: quotePlus pair.2))

/-- One pair of `parse_qsl`. -/
def parsePair (piece : String) : Option (String × String) :=
  match splitOnce piece '=' with
  | some (name, value) => do return (← unquotePlusText name, ← unquotePlusText value)
  | none => do return (← unquotePlusText piece, "")

/-- `parse_qsl(query, keep_blank_values=True)` -/
def parseQsl (query : String) : Option (List (String × String)) :=
  ((split query '&').filter (· ≠ "")).mapM parsePair

/-! ## The round trip -/

theorem hexDigit_separators : ∀ n < 16, hexDigit n ≠ '&' ∧ hexDigit n ≠ '=' := by decide

theorem mem_quotePlusByte {b : UInt8} {c : Char} (member : c ∈ quotePlusByte b) : c ≠ '&' ∧ c ≠ '=' := by
  have digits := UInt8.toNat_lt b
  rw [quotePlusByte] at member
  split_ifs at member with plain
  · obtain rfl := List.mem_singleton.mp member
    constructor
    · intro same
      rw [same] at plain
      exact absurd plain (by decide)
    · intro same
      rw [same] at plain
      exact absurd plain (by decide)
  · obtain rfl := List.mem_singleton.mp member
    decide
  · simp only [List.mem_cons, List.not_mem_nil, or_false] at member
    rcases member with rfl | rfl | rfl
    · decide
    · exact hexDigit_separators _ (by omega)
    · exact hexDigit_separators _ (by omega)

theorem mem_quotePlus {text : String} {c : Char} (member : c ∈ quotePlus text) : c ≠ '&' ∧ c ≠ '=' := by
  obtain ⟨b, -, quoted⟩ := List.mem_flatMap.mp member
  exact mem_quotePlusByte quoted

theorem toNat_lt_of_isUnreserved {c : Char} (plain : isUnreserved c = true) : c.toNat < 128 := by
  simp only [isUnreserved, Bool.or_eq_true, decide_eq_true_eq] at plain
  rcases plain with letter | mark
  · have ranges : c.isAlphanum = (decide (c.val ≥ 'A'.val ∧ c.val ≤ 'Z'.val) ||
        decide (c.val ≥ 'a'.val) && decide (c.val ≤ 'z'.val) || decide (c.val ≥ '0'.val) && decide (c.val ≤ '9'.val)) := rfl
    simp only [ranges, Bool.or_eq_true, Bool.and_eq_true, decide_eq_true_eq, UInt32.le_iff_toNat_le, ge_iff_le] at letter
    have bounds : (65 ≤ c.toNat ∧ c.toNat ≤ 90 ∨ 97 ≤ c.toNat ∧ c.toNat ≤ 122) ∨ 48 ≤ c.toNat ∧ c.toNat ≤ 57 := letter
    omega
  · have marks : ∀ d ∈ ['_', '.', '-', '~', '/'], d.toNat < 128 := by decide
    exact marks c mark

theorem toNat_ofNat_byte (b : UInt8) : (Char.ofNat b.toNat).toNat = b.toNat := by
  have valid : b.toNat.isValidChar := Or.inl ((UInt8.toNat_lt b).trans (by decide))
  rw [Char.ofNat, dif_pos valid]
  rfl

/-- An ASCII character is one byte. -/
theorem utf8EncodeChar_of_lt {b : UInt8} (ascii : b.toNat < 128) : String.utf8EncodeChar (Char.ofNat b.toNat) = [b] := by
  have value : (Char.ofNat b.toNat).val.toNat = b.toNat := toNat_ofNat_byte b
  rw [String.utf8EncodeChar]
  simp only [value]
  rw [if_pos (by omega)]
  simp

theorem unquotePlusBytes_quotePlusByte (b : UInt8) (rest : List Char) :
    unquotePlusBytes (quotePlusByte b ++ rest) = b :: unquotePlusBytes rest := by
  have digits := UInt8.toNat_lt b
  rw [quotePlusByte]
  split_ifs with plain space
  · have unreserved := (Bool.and_eq_true_iff.mp plain).1
    have percent : Char.ofNat b.toNat ≠ '%' := by
      intro same
      rw [same] at plain
      exact absurd plain (by decide)
    have plus : Char.ofNat b.toNat ≠ '+' := by
      intro same
      rw [same] at plain
      exact absurd plain (by decide)
    have ascii : b.toNat < 128 := toNat_ofNat_byte b ▸ toNat_lt_of_isUnreserved unreserved
    rw [List.singleton_append, unquotePlusBytes, utf8EncodeChar_of_lt ascii, List.singleton_append]
    · intro high low rest same
      exact absurd same percent
    · exact plus
  · subst space
    rfl
  · have high := hexValue_hexDigit (b.toNat / 16) (by omega)
    have low := hexValue_hexDigit (b.toNat % 16) (by omega)
    simp only [List.cons_append, List.nil_append, unquotePlusBytes, high, low]
    rw [Nat.div_add_mod' b.toNat 16, UInt8.ofNat_toNat]

theorem unquotePlusText_quotePlus (text : String) : unquotePlusText (String.ofList (quotePlus text)) = some text := by
  have bytes (data : List UInt8) : unquotePlusBytes (data.flatMap quotePlusByte) = data := by
    induction data with
    | nil => rfl
    | cons b rest ih => rw [List.flatMap_cons, unquotePlusBytes_quotePlusByte, ih]
  rw [unquotePlusText, String.toList_ofList, quotePlus, bytes, Array.toArray_toList]
  exact dif_pos text.isValidUTF8

/-- Joined parts are the parts again. -/
theorem splitChars_intercalate {sep : Char} {parts : List (List Char)} (whole : ∀ part ∈ parts, sep ∉ part)
    (some_ : parts ≠ []) : splitChars sep ([sep].intercalate parts) = parts := by
  induction parts with
  | nil => exact absurd rfl some_
  | cons part rest ih =>
    have first := whole part List.mem_cons_self
    cases rest with
    | nil => rw [List.intercalate_singleton, splitChars_eq_singleton first]
    | cons second rest =>
      rw [List.intercalate_cons_cons, List.append_assoc, List.singleton_append, splitChars_append_cons first,
        ih (fun other inside => whole other (List.mem_cons_of_mem _ inside)) (List.cons_ne_nil _ _)]

theorem parsePair_quotePlus (name value : String) :
    parsePair (String.ofList (quotePlus name ++ '=' :: quotePlus value)) = some (name, value) := by
  rw [parsePair, splitOnce_append_cons fun inside => (mem_quotePlus inside).2 rfl]
  simp only [unquotePlusText_quotePlus]
  rfl

/-- A query is read back as the pairs that it was made of, whatever the texts. -/
theorem parseQsl_urlencodePairs (pairs : List (String × String)) : parseQsl (urlencodePairs pairs) = some pairs := by
  have piece (pair : String × String) : String.ofList (quotePlus pair.1 ++ '=' :: quotePlus pair.2) ≠ "" := by
    intro empty
    have chars := congrArg String.toList empty
    rw [String.toList_ofList] at chars
    exact List.append_ne_nil_of_right_ne_nil _ (List.cons_ne_nil _ _) chars
  have pieces : ((split (urlencodePairs pairs) '&').filter (· ≠ "")) =
      pairs.map fun pair => String.ofList (quotePlus pair.1 ++ '=' :: quotePlus pair.2) := by
    rw [split, urlencodePairs, String.toList_ofList]
    cases pairs with
    | nil => decide
    | cons pair rest =>
      rw [splitChars_intercalate, List.map_map, List.filter_eq_self.mpr]
      · rfl
      · intro text member
        obtain ⟨pair, -, rfl⟩ := List.mem_map.mp member
        exact decide_eq_true (piece pair)
      · intro part member
        obtain ⟨pair, -, rfl⟩ := List.mem_map.mp member
        rw [List.mem_append, List.mem_cons, not_or, not_or]
        exact ⟨fun inside => (mem_quotePlus inside).1 rfl, by decide, fun inside => (mem_quotePlus inside).1 rfl⟩
      · exact List.cons_ne_nil _ _
  have read (items : List (String × String)) :
      (items.map fun pair => String.ofList (quotePlus pair.1 ++ '=' :: quotePlus pair.2)).mapM parsePair = some items := by
    induction items with
    | nil => rfl
    | cons pair rest ih =>
      rw [List.map_cons, List.mapM_cons, parsePair_quotePlus, ih]
      rfl
  rw [parseQsl, pieces, read]

end MegaraidDashboard.Py

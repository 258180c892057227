import Mathlib.Algebra.GroupWithZero.Nat
import Mathlib.Data.List.Basic
import Mathlib.Data.List.Infix
import Mathlib.Tactic.Common

/-!
# Code points in UTF-8 and UTF-16

A text is a list of code points.  It has a size in UTF-8 and a length in
UTF-16 units, and every list of units has a text in which a lone surrogate is
replaced.  Cutting a text to a number of bytes keeps whole code points.
-/

namespace Text

section Utf8

def utf8 (text : List Char) : List UInt8 :=
  text.flatMap String.utf8EncodeChar

def utf8Size (text : List Char) : Nat :=
  (text.map Char.utf8Size).sum

@[simp]
theorem utf8Size_nil : utf8Size [] = 0 :=
  rfl

@[simp]
theorem utf8Size_cons (char : Char) (text : List Char) :
    utf8Size (char :: text) = char.utf8Size + utf8Size text :=
  List.sum_cons

@[simp]
theorem utf8Size_append (first second : List Char) :
    utf8Size (first ++ second) = utf8Size first + utf8Size second := by
  rw [utf8Size, List.map_append, List.sum_append]
  rfl

theorem length_utf8 (text : List Char) :
    (utf8 text).length = utf8Size text := by
  induction text with
  | nil => rfl
  | cons char text inductionHypothesis =>
      have tail : (text.flatMap String.utf8EncodeChar).length =
          utf8Size text := inductionHypothesis
      rw [utf8, List.flatMap_cons, List.length_append, tail,
        String.length_utf8EncodeChar, utf8Size_cons]

theorem utf8ByteSize_ofList (text : List Char) :
    (String.ofList text).utf8ByteSize = utf8Size text := by
  have bytes : (String.ofList text).utf8ByteSize =
      (utf8 text).toByteArray.size := rfl
  rw [bytes, List.size_toByteArray, length_utf8]

/-- Decoding the bytes of a text gives the text. -/
theorem fromUTF8_utf8 (text : List Char) :
    String.fromUTF8? (utf8 text).toByteArray = some (String.ofList text) :=
  dif_pos (String.ofList text).isValidUTF8

end Utf8

section Fitting

/-- The longest start of a text whose code points all fit. -/
def fitting : Nat → List Char → List Char
  | _, [] => []
  | room, char :: text =>
      if char.utf8Size ≤ room then
        char :: fitting (room - char.utf8Size) text
      else
        []

theorem fitting_starts (room : Nat) (text : List Char) :
    fitting room text <+: text := by
  induction text generalizing room with
  | nil => exact List.prefix_refl []
  | cons char text inductionHypothesis =>
      unfold fitting
      split
      · exact List.cons_prefix_cons.mpr ⟨rfl, inductionHypothesis _⟩
      · exact List.nil_prefix

theorem utf8Size_fitting_le (room : Nat) (text : List Char) :
    utf8Size (fitting room text) ≤ room := by
  induction text generalizing room with
  | nil => exact Nat.zero_le _
  | cons char text inductionHypothesis =>
      unfold fitting
      split
      · have tail := inductionHypothesis (room - char.utf8Size)
        rw [utf8Size_cons]
        omega
      · exact Nat.zero_le _

/-- Nothing longer would have fitted. -/
theorem fitting_longest {room : Nat} {kept text : List Char}
    (start : kept <+: text) (fits : utf8Size kept ≤ room) :
    kept <+: fitting room text := by
  induction text generalizing room kept with
  | nil =>
      rw [List.prefix_nil.mp start]
      exact List.nil_prefix
  | cons char text inductionHypothesis =>
      cases kept with
      | nil => exact List.nil_prefix
      | cons first rest =>
          obtain ⟨same, tail⟩ := List.cons_prefix_cons.mp start
          subst same
          rw [utf8Size_cons] at fits
          have room : first.utf8Size ≤ room := by omega
          rw [fitting, if_pos room]
          apply List.cons_prefix_cons.mpr
          exact ⟨rfl, inductionHypothesis tail (by omega)⟩

theorem eq_fitting {room : Nat} {kept text : List Char}
    (start : kept <+: text) (fits : utf8Size kept ≤ room)
    (longest : ∀ other, other <+: text → utf8Size other ≤ room →
      other <+: kept) : kept = fitting room text := by
  have longer := fitting_longest start fits
  have shorter := longest _ (fitting_starts room text)
    (utf8Size_fitting_le room text)
  exact longer.eq_of_length_le shorter.length_le

theorem fitting_of_le {room : Nat} {text : List Char}
    (fits : utf8Size text ≤ room) : fitting room text = text :=
  (eq_fitting (List.prefix_refl text) fits fun _ start _ => start).symm

/-- Cutting twice is cutting to the smaller number of bytes. -/
theorem fitting_fitting {small large : Nat} (ordered : small ≤ large)
    (text : List Char) :
    fitting small (fitting large text) = fitting small text := by
  apply eq_fitting
  · exact (fitting_starts _ _).trans (fitting_starts _ _)
  · exact utf8Size_fitting_le _ _
  · intro other start fits
    exact fitting_longest (fitting_longest start (fits.trans ordered)) fits

theorem fitting_eq_self_iff {room : Nat} {text : List Char} :
    fitting room text = text ↔ utf8Size text ≤ room := by
  constructor
  · intro whole
    rw [← whole]
    exact utf8Size_fitting_le _ _
  · exact fitting_of_le

/-- A start of a text with all of its bytes is the whole text. -/
theorem prefix_eq_of_utf8Size {kept text : List Char} (start : kept <+: text)
    (size : utf8Size text ≤ utf8Size kept) : kept = text := by
  obtain ⟨rest, whole⟩ := start
  rw [← whole, utf8Size_append] at size
  cases rest with
  | nil => rw [← whole, List.append_nil]
  | cons char rest =>
      have bytes := char.utf8Size_pos
      rw [utf8Size_cons] at size
      omega

end Fitting

/-! ## UTF-16 -/

section Utf16

def utf16Char (char : Char) : List UInt16 :=
  if char.toNat < 0x10000 then
    [UInt16.ofNat char.toNat]
  else
    [UInt16.ofNat (0xD800 + (char.toNat - 0x10000) / 0x400),
      UInt16.ofNat (0xDC00 + (char.toNat - 0x10000) % 0x400)]

def utf16 (text : List Char) : List UInt16 :=
  text.flatMap utf16Char

def isHighSurrogate (unit : UInt16) : Bool :=
  0xD800 ≤ unit.toNat && unit.toNat < 0xDC00

def isLowSurrogate (unit : UInt16) : Bool :=
  0xDC00 ≤ unit.toNat && unit.toNat < 0xE000

/-- The code point of a unit that is not half of a pair. -/
def loneUnit (unit : UInt16) : Char :=
  if isHighSurrogate unit || isLowSurrogate unit then
    Char.ofNat 0xFFFD
  else
    Char.ofNat unit.toNat

def surrogatePair (high low : UInt16) : Char :=
  Char.ofNat
    (0x10000 + (high.toNat - 0xD800) * 0x400 + (low.toNat - 0xDC00))

/-- The text of any UTF-16 units, lone surrogates replaced. -/
def decodeUtf16 : List UInt16 → List Char
  | [] => []
  | [unit] => [loneUnit unit]
  | first :: second :: rest =>
      if isHighSurrogate first && isLowSurrogate second then
        surrogatePair first second :: decodeUtf16 rest
      else
        loneUnit first :: decodeUtf16 (second :: rest)

theorem toNat_ofNat {code : Nat} (valid : code.isValidChar) :
    (Char.ofNat code).toNat = code := by
  rw [Char.ofNat, dif_pos valid]
  rfl

theorem loneUnit_toNat_lt (unit : UInt16) :
    (loneUnit unit).toNat < 0x10000 := by
  have bound := unit.toNat_lt
  unfold loneUnit
  split
  · decide
  · rename_i whole
    simp only [isHighSurrogate, isLowSurrogate, Bool.or_eq_true,
      Bool.and_eq_true, decide_eq_true_eq, not_or, not_and, not_lt] at whole
    rw [toNat_ofNat (by unfold Nat.isValidChar; omega)]
    omega

theorem surrogatePair_toNat {high low : UInt16}
    (isHigh : isHighSurrogate high = true)
    (isLow : isLowSurrogate low = true) :
    (surrogatePair high low).toNat =
      0x10000 + (high.toNat - 0xD800) * 0x400 + (low.toNat - 0xDC00) := by
  simp only [isHighSurrogate, isLowSurrogate, Bool.and_eq_true,
    decide_eq_true_eq] at isHigh isLow
  exact toNat_ofNat (by unfold Nat.isValidChar; omega)

theorem length_utf16Char_lone (unit : UInt16) :
    (utf16Char (loneUnit unit)).length = 1 := by
  rw [utf16Char, if_pos (loneUnit_toNat_lt unit)]
  rfl

theorem length_utf16Char_pair {high low : UInt16}
    (isHigh : isHighSurrogate high = true)
    (isLow : isLowSurrogate low = true) :
    (utf16Char (surrogatePair high low)).length = 2 := by
  have code := surrogatePair_toNat isHigh isLow
  rw [utf16Char, if_neg (by omega)]
  rfl

/-- A replaced surrogate is one unit as well. -/
theorem length_utf16_decodeUtf16 (units : List UInt16) :
    (utf16 (decodeUtf16 units)).length = units.length := by
  fun_induction decodeUtf16 units with
  | case1 => rfl
  | case2 unit =>
      simp [utf16, length_utf16Char_lone]
  | case3 first second rest pair inductionHypothesis =>
      obtain ⟨isHigh, isLow⟩ := Bool.and_eq_true_iff.mp pair
      rw [utf16, List.flatMap_cons, List.length_append,
        length_utf16Char_pair isHigh isLow]
      change 2 + (utf16 (decodeUtf16 rest)).length = _
      rw [inductionHypothesis]
      simp only [List.length_cons]
      omega
  | case4 first second rest whole inductionHypothesis =>
      rw [utf16, List.flatMap_cons, List.length_append,
        length_utf16Char_lone]
      change 1 + (utf16 (decodeUtf16 (second :: rest))).length = _
      rw [inductionHypothesis]
      exact Nat.add_comm 1 _

theorem utf16Char_ne_nil (char : Char) : utf16Char char ≠ [] := by
  unfold utf16Char
  split
  · exact List.cons_ne_nil _ _
  · exact List.cons_ne_nil _ _

/-- Only the whole text has all of its units. -/
theorem length_utf16_lt_iff {kept text : List Char} (start : kept <+: text) :
    (utf16 kept).length < (utf16 text).length ↔ kept ≠ text := by
  constructor
  · intro fewer same
    rw [same] at fewer
    exact Nat.lt_irrefl _ fewer
  · intro different
    obtain ⟨rest, whole⟩ := start
    cases rest with
    | nil => exact absurd (by rw [← whole, List.append_nil]) different
    | cons char rest =>
        have units := List.length_pos_iff.mpr (utf16Char_ne_nil char)
        rw [← whole, utf16, utf16, List.flatMap_append, List.length_append,
          List.flatMap_cons, List.length_append]
        omega

/-- In a text of ASCII, bytes and units are the same in number. -/
theorem length_utf16_ascii {text : List Char}
    (ascii : ∀ char ∈ text, char.toNat < 0x80) :
    (utf16 text).length = utf8Size text := by
  induction text with
  | nil => rfl
  | cons char text inductionHypothesis =>
      obtain ⟨first, ascii⟩ := List.forall_mem_cons.mp ascii
      have tail : (text.flatMap utf16Char).length = utf8Size text :=
        inductionHypothesis ascii
      have unit : (utf16Char char).length = 1 := by
        rw [utf16Char, if_pos (by omega)]
        rfl
      have byte : char.utf8Size = 1 := by
        rw [Char.utf8Size_eq_one_iff]
        exact UInt32.le_iff_toNat_le.mpr (Nat.le_of_lt_succ first)
      rw [utf16, List.flatMap_cons, List.length_append, tail, unit,
        utf8Size_cons, byte]

theorem utf8Size_le_three {char : Char} (basic : char.toNat < 0x10000) :
    char.utf8Size ≤ 3 := by
  have bound : char.val ≤ 0xFFFF :=
    UInt32.le_iff_toNat_le.mpr (Nat.le_of_lt_succ basic)
  unfold Char.utf8Size
  dsimp only
  split
  · decide
  · split
    · decide
    · exact (if_pos bound).le

/-- No UTF-16 unit takes more than three bytes. -/
theorem utf8Size_decodeUtf16_le (units : List UInt16) :
    utf8Size (decodeUtf16 units) ≤ 3 * units.length := by
  fun_induction decodeUtf16 units with
  | case1 => exact Nat.le_refl 0
  | case2 unit =>
      rw [utf8Size_cons]
      exact utf8Size_le_three (loneUnit_toNat_lt unit)
  | case3 first second rest pair inductionHypothesis =>
      have most := (surrogatePair first second).utf8Size_le_four
      simp only [utf8Size_cons, List.length_cons]
      omega
  | case4 first second rest whole inductionHypothesis =>
      have most := utf8Size_le_three (loneUnit_toNat_lt first)
      rw [utf8Size_cons, List.length_cons]
      omega

theorem toNat_unit {code : Nat} (fits : code < 0x10000) :
    (UInt16.ofNat code).toNat = code := by
  rw [UInt16.toNat_ofNat']
  exact Nat.mod_eq_of_lt fits

theorem isHighSurrogate_ofNat (code : Nat)
    (surrogate : 0xD800 ≤ code ∧ code < 0xDC00) :
    isHighSurrogate (UInt16.ofNat code) = true := by
  have same : (UInt16.ofNat code).toNat = code := toNat_unit (by omega)
  simp only [isHighSurrogate, same, Bool.and_eq_true, decide_eq_true_eq]
  exact surrogate

theorem isLowSurrogate_ofNat (code : Nat)
    (surrogate : 0xDC00 ≤ code ∧ code < 0xE000) :
    isLowSurrogate (UInt16.ofNat code) = true := by
  have same : (UInt16.ofNat code).toNat = code := toNat_unit (by omega)
  simp only [isLowSurrogate, same, Bool.and_eq_true, decide_eq_true_eq]
  exact surrogate

/-- A code point that is one unit comes back, whatever follows. -/
theorem decodeUtf16_basic {char : Char} (basic : char.toNat < 0x10000)
    (rest : List UInt16) :
    decodeUtf16 (UInt16.ofNat char.toNat :: rest) =
      char :: decodeUtf16 rest := by
  have valid : char.toNat < 0xD800 ∨ 0xDFFF < char.toNat := by
    cases char.valid with
    | inl below => exact Or.inl below
    | inr above => exact Or.inr above.1
  have same := toNat_unit basic
  have whole : isHighSurrogate (UInt16.ofNat char.toNat) = false := by
    simp only [isHighSurrogate, same, Bool.and_eq_false_iff,
      decide_eq_false_iff_not]
    omega
  have unpaired : isLowSurrogate (UInt16.ofNat char.toNat) = false := by
    simp only [isLowSurrogate, same, Bool.and_eq_false_iff,
      decide_eq_false_iff_not]
    omega
  have lone : loneUnit (UInt16.ofNat char.toNat) = char := by
    simp only [loneUnit, whole, unpaired, same, Bool.or_self,
      Bool.false_eq_true, if_false]
    exact Char.ofNat_toNat char
  cases rest with
  | nil =>
      change [loneUnit (UInt16.ofNat char.toNat)] = [char]
      rw [lone]
  | cons second rest =>
      rw [decodeUtf16, whole, Bool.false_and, if_neg Bool.false_ne_true, lone]

theorem decodeUtf16_utf16 (text : List Char) :
    decodeUtf16 (utf16 text) = text := by
  induction text with
  | nil => rfl
  | cons char text inductionHypothesis =>
      rw [utf16, List.flatMap_cons, utf16Char]
      split
      · rename_i basic
        rw [List.singleton_append, decodeUtf16_basic basic]
        exact congrArg _ inductionHypothesis
      · rename_i astral
        have valid : char.toNat < 0x110000 := by
          cases char.valid with
          | inl below => exact Nat.lt_trans below (by decide)
          | inr above => exact above.2
        have isHigh := isHighSurrogate_ofNat
          (0xD800 + (char.toNat - 0x10000) / 0x400) (by omega)
        have isLow := isLowSurrogate_ofNat
          (0xDC00 + (char.toNat - 0x10000) % 0x400) (by omega)
        have code := surrogatePair_toNat isHigh isLow
        rw [toNat_unit (by omega), toNat_unit (by omega)] at code
        have same : surrogatePair
            (UInt16.ofNat (0xD800 + (char.toNat - 0x10000) / 0x400))
            (UInt16.ofNat (0xDC00 + (char.toNat - 0x10000) % 0x400)) =
              char := by
          apply Char.toNat_inj.mp
          omega
        rw [List.cons_append, List.singleton_append, decodeUtf16, isHigh,
          isLow, Bool.and_self, if_pos rfl, same]
        exact congrArg _ inductionHypothesis

end Utf16

end Text

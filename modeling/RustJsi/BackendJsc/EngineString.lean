import RustJsi.BackendJsc.Shared
import RustJsi.Text.Unicode

/-!
# Strings of the engine

An engine string answers three calls: its length in UTF-16 units, an upper
bound of its size in UTF-8, and a conversion into a buffer, which may stop
short.  Both bounded copies of an engine string start with such a conversion
and tell from the number of units whether it was complete.
-/

namespace RustJsi.BackendJsc

open Text

/-- A live engine string: what `JSStringGetLength`,
`JSStringGetMaximumUTF8CStringSize` and `JSStringGetUTF8CString` answer. -/
structure JsString where
  length : USize
  maximumUtf8Size : USize
  /-- The number of bytes written, and the buffer afterwards. -/
  getUtf8 : List UInt8 → USize × List UInt8

/-- The complete conversion of a string with the given units. -/
def completeText (units : List UInt16) : String :=
  String.ofList (decodeUtf16 units)

/-- The engine keeps to its documentation on a string of the given units: it
writes the longest start of whole code points that fits, and a NUL. -/
structure JsString.Converts (string : JsString) (units : List UInt16) :
    Prop where
  length : string.length.toNat = units.length
  maximum : utf8Size (decodeUtf16 units) < string.maximumUtf8Size.toNat
  getUtf8 : ∀ buffer : List UInt8, buffer ≠ [] →
    buffer.length < USize.size →
    let copied := fitting (buffer.length - 1) (decodeUtf16 units)
    (string.getUtf8 buffer).1.toNat = utf8Size copied + 1 ∧
      (string.getUtf8 buffer).2 =
        utf8 copied ++ 0 :: buffer.drop (utf8Size copied + 1)

theorem toNat_min (first second : USize) :
    (min first second).toNat = min first.toNat second.toNat := by
  change (if first ≤ second then first else second).toNat = _
  split
  · rename_i ordered
    exact (min_eq_left (USize.le_iff_toNat_le.mp ordered)).symm
  · rename_i unordered
    have reversed := mt USize.le_iff_toNat_le.mpr unordered
    exact (min_eq_right (Nat.le_of_not_le reversed)).symm

namespace JsString

/-- The characters `JsString::new` hands to the engine. -/
def characters (value : String) : List UInt16 :=
  utf16 value.toList

def isAscii (value : String) : Bool :=
  value.toList.all fun char => char.toNat < 0x80

/-- The UTF-16 units of a copied string. -/
def copiedUnits (value : String) : Nat :=
  if isAscii value then value.utf8ByteSize else (utf16 value.toList).length

/-- Convert into a buffer of a capacity that depends on the engine's bound.
The second component is `copied_units < original_units`. -/
def copyWithin (string : JsString) (capacity : USize → USize) :
    Except JsError (String × Bool) :=
  let maximum := string.maximumUtf8Size
  if maximum = 0 then
    .error (.backend "JavaScriptCore reported an invalid string size")
  else
    let capacity := capacity maximum
    let converted := string.getUtf8 (List.replicate capacity.toNat 0)
    let written := converted.1
    if written = 0 ∨ capacity < written then
      .error (.backend "JavaScriptCore string conversion failed")
    else
      let bytes := converted.2.take (written.toNat - 1)
      match String.fromUTF8? bytes.toByteArray with
      | none => .error (.backend "JSC produced invalid UTF-8")
      | some value =>
          .ok (value, decide (copiedUnits value < string.length.toNat))

section Copying

theorem copiedUnits_eq (value : String) :
    copiedUnits value = (utf16 value.toList).length := by
  unfold copiedUnits
  split
  · rename_i ascii
    rw [← String.ofList_toList (s := value), utf8ByteSize_ofList,
      String.toList_ofList]
    apply (length_utf16_ascii ?_).symm
    intro char member
    exact of_decide_eq_true (List.all_eq_true.mp ascii char member)
  · rfl

variable {string : JsString} {units : List UInt16}

/-- A copy is the longest start that leaves room for the NUL, and is found
incomplete exactly if the whole text did not fit. -/
theorem Converts.copyWithin (converts : string.Converts units)
    (capacity : USize → USize)
    (room : 0 < (capacity string.maximumUtf8Size).toNat) :
    string.copyWithin capacity =
      .ok (String.ofList
          (fitting ((capacity string.maximumUtf8Size).toNat - 1)
            (decodeUtf16 units)),
        decide ((capacity string.maximumUtf8Size).toNat - 1 <
          utf8Size (decodeUtf16 units))) := by
  have bounded : string.maximumUtf8Size ≠ 0 := by
    intro zero
    have maximum := converts.maximum
    rw [zero] at maximum
    exact Nat.not_lt_zero _ maximum
  generalize sized : capacity string.maximumUtf8Size = size at room
  have shape : (List.replicate size.toNat (0 : UInt8)).length = size.toNat :=
    List.length_replicate
  have nonempty : List.replicate size.toNat (0 : UInt8) ≠ [] := by
    apply List.length_pos_iff.mp
    rw [shape]
    exact room
  obtain ⟨written, bytes⟩ := converts.getUtf8 _ nonempty
    (by rw [shape]; exact size.toNat_lt_size)
  rw [shape] at written bytes
  generalize copied : fitting (size.toNat - 1) (decodeUtf16 units) = kept
    at written bytes
  have fits : utf8Size kept ≤ size.toNat - 1 := by
    rw [← copied]
    exact utf8Size_fitting_le _ _
  have start : kept <+: decodeUtf16 units := by
    rw [← copied]
    exact fitting_starts _ _
  have valid : ¬((string.getUtf8 (List.replicate size.toNat 0)).1 = 0 ∨
      size < (string.getUtf8 (List.replicate size.toNat 0)).1) := by
    intro failed
    cases failed with
    | inl zero =>
        rw [zero] at written
        exact nomatch written
    | inr past =>
        have past := USize.lt_iff_toNat_lt.mp past
        omega
  have text : ((string.getUtf8 (List.replicate size.toNat 0)).2.take
      ((string.getUtf8 (List.replicate size.toNat 0)).1.toNat - 1)) =
        utf8 kept := by
    rw [written, bytes, Nat.add_sub_cancel, ← length_utf8]
    exact List.take_left
  have complete : copiedUnits (String.ofList kept) < string.length.toNat ↔
      size.toNat - 1 < utf8Size (decodeUtf16 units) := by
    rw [copiedUnits_eq, String.toList_ofList, converts.length,
      ← length_utf16_decodeUtf16 units, length_utf16_lt_iff start, ← copied]
    exact (not_congr fitting_eq_self_iff).trans not_le
  simp only [JsString.copyWithin, if_neg bounded, sized, if_neg valid, text,
    fromUTF8_utf8, complete]

end Copying

section Reference

/-- A string of the given units as the documentation describes it. -/
def ofUnits (units : List UInt16) : JsString where
  length := USize.ofNat units.length
  maximumUtf8Size := USize.ofNat (3 * units.length + 1)
  getUtf8 := fun buffer =>
    let copied := fitting (buffer.length - 1) (decodeUtf16 units)
    (USize.ofNat (utf8Size copied + 1),
      utf8 copied ++ 0 :: buffer.drop (utf8Size copied + 1))

theorem ofUnits_converts {units : List UInt16}
    (short : 3 * units.length + 1 < 2 ^ 32) :
    (ofUnits units).Converts units := by
  have least := USize.le_size
  refine ⟨?_, ?_, ?_⟩
  · exact USize.toNat_ofNat_of_lt' (by omega)
  · have most := utf8Size_decodeUtf16_le units
    change _ < (USize.ofNat (3 * units.length + 1)).toNat
    rw [USize.toNat_ofNat_of_lt' (by omega)]
    omega
  · intro buffer nonempty fits
    refine ⟨?_, rfl⟩
    have most := utf8Size_fitting_le (buffer.length - 1) (decodeUtf16 units)
    have bytes := List.length_pos_iff.mpr nonempty
    exact USize.toNat_ofNat_of_lt' (by omega)

end Reference

end JsString

end RustJsi.BackendJsc

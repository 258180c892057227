import RustJsi.BackendJsc.EngineString

/-!
# Messages of exceptions

A message is cut to 4096 bytes on its way in, where only a converted start of
it is at hand, and on its way out, where all of it is.  Both cuts end on the
same code point.
-/

namespace RustJsi.BackendJsc

namespace ExceptionMessage

open Text

def maxMessageBytes : Nat :=
  4096

def truncationSuffix : String :=
  "… [truncated]"

/-- Step back to a character boundary; the start of a message is one. -/
def boundaryFrom (message : String) : Nat → message.Pos
  | 0 => message.startPos
  | index + 1 =>
      if boundary : String.Pos.Raw.isValid message ⟨index + 1⟩ = true then
        ⟨⟨index + 1⟩, String.Pos.Raw.isValid_eq_true_iff.mp boundary⟩
      else
        boundaryFrom message index

def truncationEnd (message : String) : message.Pos :=
  boundaryFrom message
    (min message.utf8ByteSize
      (maxMessageBytes - truncationSuffix.utf8ByteSize))

def truncate (message : String) : String :=
  (message.sliceTo (truncationEnd message)).copy ++ truncationSuffix

def truncateForEngine (message : String) : String :=
  if message.utf8ByteSize ≤ maxMessageBytes then
    message
  else
    (message.sliceTo (truncationEnd message)).copy ++ truncationSuffix

def copy (string : JsString) : Except JsError JsException :=
  match string.copyWithin
    fun maximum => min maximum (USize.ofNat (maxMessageBytes + 1)) with
  | .error error => .error error
  | .ok (message, truncated) =>
      .ok ⟨if truncated then truncate message else message, truncated⟩

/-- What `write_exception` needs of the engine: a new string, if one can be
made, and the error object made of it, with an exception of its own. -/
structure ErrorEngine (Raw : Type*) where
  createString : List UInt16 → Option JsString
  makeError : JsString → Raw × Option Raw

/-- The value written to an exception pointer that is not null. -/
def writeException {Raw : Type*} (engine : ErrorEngine Raw)
    (message : String) : Option Raw :=
  match engine.createString
    (JsString.characters (truncateForEngine message)) with
  | none => none
  | some string =>
      some ((engine.makeError string).2.getD (engine.makeError string).1)

section Boundaries

theorem isValid_of_prefix {message : String} {kept : List Char}
    (start : kept <+: message.toList) :
    String.Pos.Raw.isValid message ⟨utf8Size kept⟩ = true := by
  rw [String.Pos.Raw.isValid_eq_true_iff,
    String.Pos.Raw.isValid_iff_exists_take_toList]
  refine ⟨kept.length, ?_⟩
  rw [← List.prefix_iff_eq_take.mp start, utf8ByteSize_ofList]

/-- A slice up to a boundary is the start with as many bytes. -/
theorem sliceTo_eq {message : String} (boundary : message.Pos) :
    (message.sliceTo boundary).copy =
      String.ofList (fitting boundary.offset.byteIdx message.toList) := by
  generalize sliced : (message.sliceTo boundary).copy = slice
  have splits := boundary.splits
  rw [sliced] at splits
  have size : boundary.offset.byteIdx = utf8Size slice.toList := by
    rw [splits.offset_eq_rawEndPos, ← utf8ByteSize_ofList,
      String.ofList_toList]
    rfl
  have start : slice.toList <+: message.toList := by
    rw [splits.eq_append, String.toList_append]
    exact List.prefix_append _ _
  have longest := fitting_longest start size.ge
  have most := utf8Size_fitting_le boundary.offset.byteIdx message.toList
  have same := prefix_eq_of_utf8Size longest (most.trans size.le)
  rw [← same, String.ofList_toList]

theorem slice_boundaryFrom (message : String) (index : Nat) :
    (message.sliceTo (boundaryFrom message index)).copy =
      String.ofList (fitting index message.toList) := by
  induction index with
  | zero => exact sliceTo_eq message.startPos
  | succ index inductionHypothesis =>
      unfold boundaryFrom
      split
      · exact sliceTo_eq _
      · rename_i inside
        -- no start of the message has exactly this many bytes
        have most := utf8Size_fitting_le (index + 1) message.toList
        have other : utf8Size (fitting (index + 1) message.toList) ≠
            index + 1 := by
          intro same
          have valid := isValid_of_prefix
            (fitting_starts (index + 1) message.toList)
          rw [same] at valid
          exact inside valid
        have shorter : utf8Size (fitting (index + 1) message.toList) ≤ index :=
          Nat.le_of_lt_succ (Nat.lt_of_le_of_ne most other)
        rw [inductionHypothesis, ← fitting_fitting (Nat.le_succ index),
          fitting_of_le shorter]

theorem slice_truncationEnd (message : String) :
    (message.sliceTo (truncationEnd message)).copy =
      String.ofList (fitting
        (maxMessageBytes - truncationSuffix.utf8ByteSize)
        message.toList) := by
  have size : message.utf8ByteSize = utf8Size message.toList := by
    rw [← utf8ByteSize_ofList, String.ofList_toList]
  rw [truncationEnd, slice_boundaryFrom, size]
  apply congrArg
  cases Nat.le_total (utf8Size message.toList)
    (maxMessageBytes - truncationSuffix.utf8ByteSize) with
  | inl fits =>
      rw [min_eq_left fits, fitting_of_le fits,
        fitting_of_le (Nat.le_refl _)]
  | inr past => rw [min_eq_right past]

end Boundaries

section Cuts

/-- What is left of a message. -/
structure Truncates (message result : String) : Prop where
  bounded : result.utf8ByteSize ≤ maxMessageBytes
  whole : message.utf8ByteSize ≤ maxMessageBytes → result = message
  /-- The longest start that ends on a character boundary within the room the
  suffix leaves, and the suffix. -/
  cut : maxMessageBytes < message.utf8ByteSize →
    ∃ kept : String, result = kept ++ truncationSuffix ∧
      kept.toList <+: message.toList ∧
      kept.utf8ByteSize ≤ maxMessageBytes - truncationSuffix.utf8ByteSize ∧
      ∀ longer : String, longer.toList <+: message.toList →
        longer.utf8ByteSize ≤
          maxMessageBytes - truncationSuffix.utf8ByteSize →
        longer.toList <+: kept.toList

theorem utf8ByteSize_toList (text : String) :
    text.utf8ByteSize = utf8Size text.toList := by
  rw [← utf8ByteSize_ofList, String.ofList_toList]

theorem truncateForEngine_truncates (message : String) :
    Truncates message (truncateForEngine message) := by
  have suffix : truncationSuffix.utf8ByteSize ≤ maxMessageBytes := by decide
  by_cases fits : message.utf8ByteSize ≤ maxMessageBytes
  · rw [truncateForEngine, if_pos fits]
    exact ⟨fits, fun _ => rfl, fun past => absurd fits (Nat.not_le.mpr past)⟩
  · rw [truncateForEngine, if_neg fits, slice_truncationEnd]
    have most := utf8Size_fitting_le
      (maxMessageBytes - truncationSuffix.utf8ByteSize) message.toList
    refine ⟨?_, fun whole => absurd whole fits, ?_⟩
    · rw [String.utf8ByteSize_append, utf8ByteSize_ofList]
      omega
    · intro _
      refine ⟨_, rfl, ?_, ?_, ?_⟩
      · rw [String.toList_ofList]
        exact fitting_starts _ _
      · rw [utf8ByteSize_ofList]
        exact most
      · intro longer start within
        rw [String.toList_ofList]
        rw [utf8ByteSize_toList] at within
        exact fitting_longest start within

/-- Cutting a start that already holds more than fits is cutting the whole. -/
theorem truncate_fitting {message : List Char} :
    truncate (String.ofList (fitting maxMessageBytes message)) =
      String.ofList (fitting
        (maxMessageBytes - truncationSuffix.utf8ByteSize) message) ++
        truncationSuffix := by
  rw [truncate, slice_truncationEnd, String.toList_ofList,
    fitting_fitting (Nat.sub_le _ _)]

variable {string : JsString} {units : List UInt16}

theorem copy_eq (converts : string.Converts units) :
    copy string =
      .ok ⟨truncateForEngine (completeText units),
        decide (maxMessageBytes < (completeText units).utf8ByteSize)⟩ := by
  have maximum := converts.maximum
  have limit : (USize.ofNat (maxMessageBytes + 1)).toNat =
      maxMessageBytes + 1 :=
    USize.toNat_ofNat_of_lt' (Nat.lt_of_lt_of_le (by decide) USize.le_size)
  have size : (completeText units).utf8ByteSize =
      utf8Size (decodeUtf16 units) := utf8ByteSize_ofList _
  have capacity : (min string.maximumUtf8Size
      (USize.ofNat (maxMessageBytes + 1))).toNat =
        min string.maximumUtf8Size.toNat (maxMessageBytes + 1) := by
    rw [toNat_min, limit]
  have copied := converts.copyWithin
    (fun maximum =>
      min maximum (USize.ofNat (maxMessageBytes + 1)))
    (by rw [capacity]; omega)
  rw [capacity] at copied
  rw [copy, copied, size, truncateForEngine, size]
  by_cases fits : utf8Size (decodeUtf16 units) ≤ maxMessageBytes
  · have room : utf8Size (decodeUtf16 units) ≤
        min string.maximumUtf8Size.toNat (maxMessageBytes + 1) - 1 := by
      omega
    simp only [fitting_of_le room, Nat.not_lt.mpr room, Nat.not_lt.mpr fits,
      if_pos fits, decide_false, Bool.false_eq_true, if_false, completeText]
  · have room : min string.maximumUtf8Size.toNat (maxMessageBytes + 1) - 1 =
        maxMessageBytes := by
      omega
    have past := Nat.lt_of_not_le fits
    simp only [room, past, if_neg fits, decide_true, if_true,
      truncate_fitting, slice_truncationEnd, completeText,
      String.toList_ofList]

/-- A text that was cut once is read back as it is. -/
theorem copy_characters {message : String}
    (converts : string.Converts
      (JsString.characters (truncateForEngine message))) :
    copy string = .ok ⟨truncateForEngine message, false⟩ := by
  have complete : completeText
      (JsString.characters (truncateForEngine message)) =
        truncateForEngine message := by
    rw [completeText, JsString.characters, decodeUtf16_utf16,
      String.ofList_toList]
  have bounded := (truncateForEngine_truncates message).bounded
  have twice :=
    (truncateForEngine_truncates (truncateForEngine message)).whole bounded
  rw [copy_eq converts, complete, twice,
    decide_eq_false (Nat.not_lt.mpr bounded)]

/-- A copied message is the message as it would be sent. -/
structure CopyAgrees (string : JsString) (complete : String) : Prop where
  copied : copy string =
    .ok ⟨truncateForEngine complete,
      decide (maxMessageBytes < complete.utf8ByteSize)⟩
  truncates : Truncates complete (truncateForEngine complete)

/-- Every string that converts as documented is copied as it would be sent;
and what `write_exception` sends is read back uncut. -/
theorem copyAgrees (converts : string.Converts units) :
    CopyAgrees string (completeText units) ∧
      ∀ (Raw : Type) (engine : ErrorEngine Raw) (message : String),
        (∀ characters created,
          engine.createString characters = some created →
            created.Converts characters) →
        ∀ value, writeException engine message = some value →
          ∃ created,
            value = (engine.makeError created).2.getD
              (engine.makeError created).1 ∧
            copy created = .ok ⟨truncateForEngine message, false⟩ := by
  refine ⟨⟨copy_eq converts, truncateForEngine_truncates _⟩, ?_⟩
  intro Raw engine message created value written
  unfold writeException at written
  split at written
  · cases written
  · rename_i string made
    exact ⟨string, (Option.some.inj written).symm,
      copy_characters (created _ _ made)⟩

/-- 4095 letters and a code point of two units and four bytes. -/
def longMessage : List UInt16 :=
  List.replicate 4095 0x78 ++ [0xD83D, 0xDE00]

theorem longMessage_copyAgrees :
    CopyAgrees (.ofUnits longMessage) (completeText longMessage) := by
  have short : 3 * longMessage.length + 1 < 2 ^ 32 := by
    rw [longMessage, List.length_append, List.length_replicate]
    decide
  exact (copyAgrees (JsString.ofUnits_converts short)).1

end Cuts

end ExceptionMessage

end RustJsi.BackendJsc

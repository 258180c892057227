import RustJsi.BackendJsc.AttachedSystem

/-!
# A call from Rust, from its admission to its target

A call is admitted as a whole: its arguments are counted and measured, and the
slots for its result and its strings are reserved, before the engine is asked
for anything.  The converted arguments are kept in place if they are few, and
on the heap otherwise.
-/

namespace RustJsi.BackendJsc

open Interleaving

/-- The UTF-8 bytes of a string argument. -/
def Value.utf8Size : Value → Nat
  | .string value => value.utf8ByteSize
  | _ => 0

/-- The UTF-8 bytes of all string arguments, as a number without a bound. -/
def stringBytes (arguments : List Value) : Nat :=
  (arguments.map Value.utf8Size).sum

namespace CallLimits

/-- The loop succeeds exactly if the whole sum fits into a `usize`. -/
theorem countStrings_eq (arguments : List Value) :
    ∀ strings bytes : Nat, bytes < 2 ^ 64 →
      countStrings arguments strings bytes =
        if bytes + stringBytes arguments < 2 ^ 64 then
          .ok (strings + arguments.countP Value.isString,
            bytes + stringBytes arguments)
        else
          .error .callStringDataLimitReached := by
  induction arguments with
  | nil =>
      intro strings bytes fits
      have whole : bytes + stringBytes [] = bytes := rfl
      rw [whole, if_pos fits]
      rfl
  | cons argument rest inductionHypothesis =>
      intro strings bytes fits
      have total : stringBytes (argument :: rest) =
          argument.utf8Size + stringBytes rest :=
        List.sum_cons
      cases argument with
      | string string =>
          simp only [countStrings, checkedAdd]
          rw [total, List.countP_cons_of_pos rfl, ← Nat.add_assoc]
          by_cases sum : bytes + string.utf8ByteSize < 2 ^ 64
          · rw [if_pos sum]
            refine (inductionHypothesis _ _ sum).trans ?_
            rw [Nat.add_right_comm strings, Nat.add_assoc strings]
            rfl
          · rw [if_neg sum, if_neg]
            have own : Value.utf8Size (.string string) =
                string.utf8ByteSize := rfl
            rw [own]
            omega
      | _ =>
          rw [total, List.countP_cons_of_neg (by intro same; cases same)]
          refine (inductionHypothesis strings bytes fits).trans ?_
          simp only [Value.utf8Size, Nat.zero_add]

/-- A call is valid if it has not too many arguments and not too many bytes,
however large their sum is. -/
theorem validate_eq_ok_iff {limits : CallLimits} {arguments : List Value}
    (machine : limits.stringUtf8Bytes < 2 ^ 64) (strings : Nat) :
    limits.validate arguments = .ok strings ↔
      arguments.length ≤ limits.arguments ∧
        stringBytes arguments ≤ limits.stringUtf8Bytes ∧
        strings = arguments.countP Value.isString := by
  unfold validate
  by_cases many : arguments.length > limits.arguments
  · rw [if_pos many]
    refine iff_of_false ?_ fun valid => absurd valid.1 (Nat.not_le.mpr many)
    intro valid
    cases valid
  · rw [if_neg many, countStrings_eq arguments 0 0 (by decide), Nat.zero_add,
      Nat.zero_add, and_iff_right (Nat.le_of_not_gt many)]
    by_cases fits : stringBytes arguments < 2 ^ 64
    · rw [if_pos fits]
      by_cases within : stringBytes arguments ≤ limits.stringUtf8Bytes
      · simp only [if_neg (Nat.not_lt.mpr within), and_iff_right within]
        constructor
        · intro valid
          cases valid
          rfl
        · intro same
          rw [same]
      · simp only [if_pos (Nat.lt_of_not_le within)]
        refine iff_of_false ?_ fun valid => within valid.1
        intro valid
        cases valid
    · rw [if_neg fits]
      refine iff_of_false ?_ ?_
      · intro valid
        cases valid
      · intro valid
        exact fits (lt_of_le_of_lt valid.1 machine)

end CallLimits

namespace LocalBudget

variable {budget : LocalBudget} {count : Nat}

theorem reserveMany_of_le (machine : budget.limit < 2 ^ 64)
    (room : budget.used + count ≤ budget.limit) :
    budget.reserveMany count =
      .ok (budget.charged (budget.used + count), ⟨count⟩) := by
  unfold reserveMany
  by_cases nothing : count = 0
  · rw [if_pos nothing, nothing]
    rfl
  · have sum : checkedAdd budget.used count = some (budget.used + count) :=
      if_pos (lt_of_le_of_lt room machine)
    rw [if_neg nothing, sum]
    exact if_neg (Nat.not_lt.mpr room)

theorem reserveMany_of_lt (something : count ≠ 0)
    (full : budget.limit < budget.used + count) :
    budget.reserveMany count = .error .localRootLimitReached := by
  unfold reserveMany checkedAdd
  rw [if_neg something]
  by_cases sum : budget.used + count < 2 ^ 64
  · simp only [if_pos sum, gt_iff_lt, if_pos full]
  · simp only [if_neg sum]

theorem le_of_reserveMany {result : LocalBudget × Reservation}
    (something : count ≠ 0)
    (reserved : budget.reserveMany count = .ok result) :
    budget.used + count ≤ budget.limit := by
  apply Nat.le_of_not_lt
  intro full
  rw [reserveMany_of_lt something full] at reserved
  cases reserved

end LocalBudget

variable {Raw Payload : Type*}

namespace Attached

variable [DecidableEq Raw]

/-- A call that the attachment admits: its function is registered here, its
arguments are within the limits, and there is room for its roots. -/
structure Admits (attached : Attached Raw Payload)
    (function : HostFunction Raw) (arguments : List Value) : Prop where
  handle : attached.shared.ensureHandle function.runtime
    function.attachment = .ok ()
  registered : function.key ∈ attached.shared.hostFunctions
  count : arguments.length ≤ attached.shared.callLimits.arguments
  bytes : stringBytes arguments ≤ attached.shared.callLimits.stringUtf8Bytes
  room : attached.shared.localBudget.used + 1 +
    arguments.countP Value.isString ≤ attached.shared.localBudget.limit

/-- The call under way, with nothing converted yet. -/
def callFrame (function : HostFunction Raw) (arguments : List Value) :
    CallFrame Raw where
  function := function.key
  reservation := ⟨1⟩
  argumentReservation := ⟨arguments.countP Value.isString⟩
  arguments := arguments
  argumentRoots := []

/-- The attachment with the slots of a call charged, and the call on its
stack. -/
def admitted (attached : Attached Raw Payload) (function : HostFunction Raw)
    (arguments : List Value) : Attached Raw Payload :=
  (attached.withBudget (attached.shared.localBudget.charged
    (attached.shared.localBudget.used + 1 +
      arguments.countP Value.isString))).withStack
    (.calling (callFrame function arguments) :: attached.stack)

variable {attached : Attached Raw Payload} {function : HostFunction Raw}
  {arguments : List Value}

/-- The limits are numbers of the machine. -/
structure UsizeLimits (attached : Attached Raw Payload) : Prop where
  bytes : attached.shared.callLimits.stringUtf8Bytes < 2 ^ 64
  roots : attached.shared.localBudget.limit < 2 ^ 64

theorem call_of_admits (machine : attached.UsizeLimits)
    (admits : attached.Admits function arguments) :
    attached.call function arguments =
      (.begun, attached.admitted function arguments) := by
  have valid := (CallLimits.validate_eq_ok_iff machine.bytes _).mpr
    ⟨admits.count, admits.bytes, rfl⟩
  have room := admits.room
  have one : attached.shared.localBudget.reserve =
      .ok (attached.shared.localBudget.charged
        (attached.shared.localBudget.used + 1), ⟨1⟩) :=
    LocalBudget.reserveMany_of_le machine.roots (by omega)
  have many := @LocalBudget.reserveMany_of_le
    (attached.shared.localBudget.charged
      (attached.shared.localBudget.used + 1))
    (arguments.countP Value.isString) machine.roots room
  simp only [call, admits.handle, admits.registered, not_true_eq_false,
    if_false, valid, one, many]
  rfl

/-- A call that is not admitted leaves everything as it was. -/
theorem call_of_not_admits (machine : attached.UsizeLimits)
    (refuses : ¬attached.Admits function arguments) :
    ∃ error, attached.call function arguments =
      (.failed (.js (.runtime error)), attached) := by
  unfold call
  cases handle : attached.shared.ensureHandle function.runtime
      function.attachment with
  | error error => exact ⟨error, rfl⟩
  | ok =>
      by_cases registered : function.key ∈ attached.shared.hostFunctions
      · simp only [registered, not_true_eq_false, if_false]
        cases valid : attached.shared.callLimits.validate arguments with
        | error error => exact ⟨error, rfl⟩
        | ok strings =>
            obtain ⟨count, bytes, same⟩ :=
              (CallLimits.validate_eq_ok_iff machine.bytes _).mp valid
            cases reserved : attached.shared.localBudget.reserve with
            | error error => exact ⟨error, rfl⟩
            | ok first =>
                obtain ⟨budget, reservation⟩ := first
                cases group : budget.reserveMany strings with
                | error error =>
                    refine ⟨error, ?_⟩
                    simp only [group, orFault,
                      LocalBudget.drop_reserved reserved]
                    rfl
                | ok second =>
                    -- Both reservations were made, so there was room.
                    obtain ⟨charged, _, _⟩ :=
                      LocalBudget.reserveMany_eq_ok reserved
                    have one := LocalBudget.le_of_reserveMany Nat.one_ne_zero
                      reserved
                    refine absurd ⟨handle, registered, count, bytes, ?_⟩ refuses
                    rw [← same]
                    by_cases nothing : strings = 0
                    · rw [nothing]
                      exact one
                    · have many := LocalBudget.le_of_reserveMany nothing group
                      rw [charged] at many
                      exact many
      · simp only [registered, not_false_eq_true, if_true]
        exact ⟨_, rfl⟩

/-- A call reaches the conversion of its arguments exactly if it is
admitted. -/
theorem call_begun_iff (machine : attached.UsizeLimits) :
    (attached.call function arguments).1 = .begun ↔
      attached.Admits function arguments := by
  constructor
  · intro begun
    by_contra refuses
    obtain ⟨error, refused⟩ := call_of_not_admits machine refuses
    rw [refused] at begun
    cases begun
  · intro admits
    rw [call_of_admits machine admits]

end Attached

/-! ## Conversion -/

/-- The engine, as far as a call asks it.  A null pointer is no value. -/
structure CallEngine (Raw Payload State : Type*) where
  /-- `string_create_with_characters`, and whether it made a string. -/
  createString : String → State → Bool × State
  /-- `value_make_string`. -/
  makeString : String → State → Option Raw × State
  /-- `string_release`. -/
  releaseString : State → State
  /-- `value_to_raw` of a scalar. -/
  makeScalar : Value → State → Option Raw × State
  /-- `object_call_as_function`, which may run any code, with the count of the
  arguments and the pointer to them. -/
  callAsFunction : Raw → Nat → Option (List (Option Raw)) →
    Attached Raw Payload × State →
    (Option Raw × Option JsException) × Attached Raw Payload × State

/-- An attachment and its engine. -/
abbrev CallState (Raw Payload State : Type*) : Type _ :=
  Attached Raw Payload × State

def inlineArguments : Nat :=
  8

section Conversion

variable {State : Type*} (engine : CallEngine Raw Payload State)

/-- `prepare_argument`: the value for the engine, and the root it has if it is
a string. -/
def prepareArgument (value : Value) (state : CallState Raw Payload State) :
    Except JsError (Option Raw × Option Raw) × CallState Raw Payload State :=
  match value with
  | .string string =>
      let (created, after) := engine.createString string state.2
      match Attached.jsString created with
      | .error error => (.error error, state.1, after)
      | .ok () =>
          let (raw, after) := engine.makeString string after
          match raw with
          | none =>
              (.error (.backend "JavaScriptCore returned a null string value"),
                state.1, engine.releaseString after)
          | some raw =>
              (.ok (some raw, some raw), state.1.protect raw,
                engine.releaseString after)
  | value =>
      let (raw, after) := engine.makeScalar value state.2
      (.ok (raw, none), state.1, after)

/-- The arguments converted so far, the roots among them, and the state they
leave. -/
abbrev Converted (Raw Payload State : Type*) : Type _ :=
  Except JsError (List (Option Raw)) × List Raw × CallState Raw Payload State

/-- The loop over the slots in place, each with its argument. -/
def fillInline : List Value → Nat → List (Option Raw) → List Raw →
    CallState Raw Payload State → Converted Raw Payload State
  | [], _, inline, roots, state => (.ok inline, roots, state)
  | value :: rest, position, inline, roots, state =>
      if position < inline.length then
        match prepareArgument engine value state with
        | (.error error, after) => (.error error, roots, after)
        | (.ok (raw, root), after) =>
            fillInline rest (position + 1) (inline.set position raw)
              (roots ++ root.toList) after
      else (.ok inline, roots, state)

/-- The loop that pushes the arguments on the heap. -/
def pushHeap : List Value → List (Option Raw) → List Raw →
    CallState Raw Payload State → Converted Raw Payload State
  | [], heap, roots, state => (.ok heap, roots, state)
  | value :: rest, heap, roots, state =>
      match prepareArgument engine value state with
      | (.error error, after) => (.error error, roots, after)
      | (.ok (raw, root), after) =>
          pushHeap rest (heap ++ [raw]) (roots ++ root.toList) after

/-- `raw_arguments`: a slice of the slots in place, or the heap. -/
def rawArguments (arguments : List Value)
    (state : CallState Raw Payload State) : Converted Raw Payload State :=
  if arguments.length ≤ inlineArguments then
    match fillInline engine arguments 0
        (List.replicate inlineArguments none) [] state with
    | (.error error, roots, after) => (.error error, roots, after)
    | (.ok inline, roots, after) =>
        (.ok (inline.take arguments.length), roots, after)
  else
    pushHeap engine arguments [] [] state

/-- The arguments converted one after the other, wherever they are kept. -/
def convertAll : List Value → CallState Raw Payload State →
    Converted Raw Payload State
  | [], state => (.ok [], [], state)
  | value :: rest, state =>
      match prepareArgument engine value state with
      | (.error error, after) => (.error error, [], after)
      | (.ok (raw, root), after) =>
          match convertAll rest after with
          | (result, roots, last) =>
              (result.map (raw :: ·), root.toList ++ roots, last)

/-- What the conversion of one argument asks of the engine: a string is made,
turned into a value and released, and its value is protected and gets a root; a
scalar is turned into a value. -/
inductive Prepares : Value → CallState Raw Payload State → Option Raw →
    Option Raw → CallState Raw Payload State → Prop
  | string {string : String} {attached : Attached Raw Payload}
      {before made named : State} {raw : Raw}
      (creates : engine.createString string before = (true, made))
      (names : engine.makeString string made = (some raw, named)) :
      Prepares (.string string) (attached, before) (some raw) (some raw)
        (attached.protect raw, engine.releaseString named)
  | scalar {value : Value} {attached : Attached Raw Payload}
      {before after : State} {raw : Option Raw}
      (bare : value.isString = false)
      (makes : engine.makeScalar value before = (raw, after)) :
      Prepares value (attached, before) raw none (attached, after)

/-- A conversion that fails: the engine makes no string, or no value of it. -/
inductive Refuses : Value → CallState Raw Payload State → JsError →
    CallState Raw Payload State → Prop
  | uncreated {string : String} {attached : Attached Raw Payload}
      {before made : State}
      (creates : engine.createString string before = (false, made)) :
      Refuses (.string string) (attached, before)
        (.backend "JavaScriptCore string creation failed") (attached, made)
  | unnamed {string : String} {attached : Attached Raw Payload}
      {before made named : State}
      (creates : engine.createString string before = (true, made))
      (names : engine.makeString string made = (none, named)) :
      Refuses (.string string) (attached, before)
        (.backend "JavaScriptCore returned a null string value")
        (attached, engine.releaseString named)

/-- Arguments are converted one after the other, each to its value. -/
inductive PreparesAll : List Value → CallState Raw Payload State →
    List (Option Raw) → List Raw → CallState Raw Payload State → Prop
  | nil {state : CallState Raw Payload State} :
      PreparesAll [] state [] [] state
  | cons {value : Value} {rest : List Value}
      {state middle after : CallState Raw Payload State}
      {raw root : Option Raw} {raws : List (Option Raw)} {roots : List Raw}
      (first : Prepares engine value state raw root middle)
      (others : PreparesAll rest middle raws roots after) :
      PreparesAll (value :: rest) state (raw :: raws) (root.toList ++ roots)
        after

/-- The arguments before the one that fails are converted. -/
def RefusesOne (arguments : List Value) (state : CallState Raw Payload State)
    (error : JsError) (roots : List Raw)
    (after : CallState Raw Payload State) : Prop :=
  ∃ earlier value later raws middle,
    arguments = earlier ++ value :: later ∧
      PreparesAll engine earlier state raws roots middle ∧
      Refuses engine value middle error after

section Relation

variable {engine} {value : Value} {arguments : List Value}
  {state after : CallState Raw Payload State} {raw root : Option Raw}
  {raws : List (Option Raw)} {roots : List Raw} {error : JsError}

theorem prepareArgument_eq_ok_iff :
    prepareArgument engine value state = (.ok (raw, root), after) ↔
      Prepares engine value state raw root after := by
  constructor
  · intro prepared
    obtain ⟨attached, before⟩ := state
    cases value with
    | string string =>
        simp only [prepareArgument, Attached.jsString] at prepared
        cases creates : engine.createString string before with
        | mk created made =>
            cases created with
            | false =>
                simp [creates] at prepared
            | true =>
                cases names : engine.makeString string made with
                | mk found named =>
                    cases found with
                    | none => simp [creates, names] at prepared
                    | some found =>
                        simp only [creates, names, if_true] at prepared
                        cases prepared
                        exact .string creates names
    | _ =>
        cases prepared
        exact .scalar rfl rfl
  · intro prepares
    cases prepares with
    | string creates names =>
        simp [prepareArgument, Attached.jsString, creates, names]
    | scalar bare makes =>
        cases value with
        | string string => cases bare
        | _ => simp only [prepareArgument, makes]

theorem prepareArgument_eq_error_iff :
    prepareArgument engine value state = (.error error, after) ↔
      Refuses engine value state error after := by
  constructor
  · intro prepared
    obtain ⟨attached, before⟩ := state
    cases value with
    | string string =>
        simp only [prepareArgument, Attached.jsString] at prepared
        cases creates : engine.createString string before with
        | mk created made =>
            cases created with
            | false =>
                simp only [creates, Bool.false_eq_true, if_false] at prepared
                cases prepared
                exact .uncreated creates
            | true =>
                cases names : engine.makeString string made with
                | mk found named =>
                    cases found with
                    | none =>
                        simp only [creates, names, if_true] at prepared
                        cases prepared
                        exact .unnamed creates names
                    | some found => simp [creates, names] at prepared
    | _ => cases prepared
  · intro refuses
    cases refuses with
    | uncreated creates =>
        simp [prepareArgument, Attached.jsString, creates]
    | unnamed creates names =>
        simp [prepareArgument, Attached.jsString, creates, names]

theorem PreparesAll.length (prepares :
    PreparesAll engine arguments state raws roots after) :
    raws.length = arguments.length := by
  induction prepares with
  | nil => rfl
  | cons first others inductionHypothesis =>
      rw [List.length_cons, List.length_cons, inductionHypothesis]

theorem PreparesAll.isEmpty (prepares :
    PreparesAll engine arguments state raws roots after) :
    raws.isEmpty = arguments.isEmpty := by
  cases prepares with
  | nil => rfl
  | cons first others => rfl

theorem PreparesAll.converts (prepares :
    PreparesAll engine arguments state raws roots after) :
    convertAll engine arguments state = (.ok raws, roots, after) := by
  induction prepares with
  | nil => rfl
  | cons first others inductionHypothesis =>
      rw [convertAll, prepareArgument_eq_ok_iff.mpr first]
      simp only [inductionHypothesis, Except.map]

/-- A loop of the code ends with all values, or at the argument that fails. -/
theorem convertAll_cases (engine : CallEngine Raw Payload State)
    (arguments : List Value) :
    ∀ state : CallState Raw Payload State,
      (∃ raws roots after, PreparesAll engine arguments state raws roots after ∧
        convertAll engine arguments state = (.ok raws, roots, after)) ∨
      ∃ error roots after, RefusesOne engine arguments state error roots after ∧
        convertAll engine arguments state = (.error error, roots, after) := by
  induction arguments with
  | nil =>
      intro state
      exact Or.inl ⟨[], [], state, .nil, rfl⟩
  | cons value rest inductionHypothesis =>
      intro state
      cases prepared : prepareArgument engine value state with
      | mk result middle =>
          cases result with
          | error error =>
              have refuses := prepareArgument_eq_error_iff.mp prepared
              refine Or.inr ⟨error, [], middle,
                ⟨[], value, rest, [], state, rfl, .nil, refuses⟩, ?_⟩
              rw [convertAll, prepared]
          | ok pair =>
              obtain ⟨raw, root⟩ := pair
              have first := prepareArgument_eq_ok_iff.mp prepared
              cases inductionHypothesis middle with
              | inl all =>
                  obtain ⟨raws, roots, after, others, _⟩ := all
                  have prepares := PreparesAll.cons first others
                  exact Or.inl ⟨_, _, _, prepares, prepares.converts⟩
              | inr one =>
                  obtain ⟨error, roots, after, refuses, ends⟩ := one
                  obtain ⟨earlier, wrong, later, raws, before, same, others,
                    refuses⟩ := refuses
                  refine Or.inr ⟨error, root.toList ++ roots, after,
                    ⟨value :: earlier, wrong, later, raw :: raws, before, ?_,
                      .cons first others, refuses⟩, ?_⟩
                  · rw [same, List.cons_append]
                  · rw [convertAll, prepared]
                    simp only [ends, Except.map]

theorem RefusesOne.converts
    (refuses : RefusesOne engine arguments state error roots after) :
    convertAll engine arguments state = (.error error, roots, after) := by
  obtain ⟨earlier, value, later, raws, middle, same, others, refuses⟩ :=
    refuses
  subst same
  induction others with
  | nil =>
      rw [List.nil_append, convertAll,
        prepareArgument_eq_error_iff.mpr refuses]
  | cons first others inductionHypothesis =>
      rw [List.cons_append, convertAll, prepareArgument_eq_ok_iff.mpr first]
      simp only [inductionHypothesis refuses, Except.map]

end Relation

section Storage

variable {engine} {arguments : List Value}

/-- Every argument has its value. -/
theorem convertAll_length :
    ∀ {state after : CallState Raw Payload State} {raws : List (Option Raw)}
      {roots : List Raw},
      convertAll engine arguments state = (.ok raws, roots, after) →
      raws.length = arguments.length := by
  induction arguments with
  | nil =>
      intro state after raws roots converted
      cases converted
      rfl
  | cons value rest inductionHypothesis =>
      intro state after raws roots converted
      simp only [convertAll] at converted
      split at converted
      · cases converted
      · rename_i raw root middle prepared
        generalize all : convertAll engine rest middle = outcome at converted
        obtain ⟨result, more, last⟩ := outcome
        cases result with
        | error error => cases converted
        | ok others =>
            cases converted
            rw [List.length_cons, List.length_cons, inductionHypothesis all]

/-- The slots in place are filled from the given position on. -/
theorem fillInline_eq :
    ∀ (position : Nat) (inline : List (Option Raw)) (roots : List Raw)
      (state : CallState Raw Payload State),
      position + arguments.length ≤ inline.length →
      fillInline engine arguments position inline roots state =
        match convertAll engine arguments state with
        | (result, more, last) =>
            (result.map fun raws => inline.take position ++
                (raws ++ inline.drop (position + raws.length)),
              roots ++ more, last) := by
  induction arguments with
  | nil =>
      intro position inline roots state room
      simp only [fillInline, convertAll, List.append_nil, Except.map,
        List.nil_append, List.length_nil, Nat.add_zero, List.take_append_drop]
  | cons value rest inductionHypothesis =>
      intro position inline roots state room
      rw [List.length_cons] at room
      have within : position < inline.length := by omega
      simp only [fillInline, convertAll, if_pos within]
      cases prepareArgument engine value state with
      | mk prepared after =>
          cases prepared with
          | error error => simp only [Except.map, List.append_nil]
          | ok pair =>
              obtain ⟨raw, root⟩ := pair
              have sized : position + 1 + rest.length ≤
                  (inline.set position raw).length := by
                rw [List.length_set]
                omega
              simp only [inductionHypothesis _ _ _ _ sized]
              generalize convertAll engine rest after = outcome
              obtain ⟨result, more, last⟩ := outcome
              cases result with
              | error error => simp only [Except.map, List.append_assoc]
              | ok raws =>
                  have kept : (inline.set position raw).take (position + 1) =
                      inline.take position ++ [raw] := by
                    rw [List.take_add_one, List.getElem?_set_self within,
                      List.take_set_of_le (Nat.le_refl position)]
                    rfl
                  have next : position + (raws.length + 1) =
                      position + 1 + raws.length := by omega
                  have beyond : (inline.set position raw).drop
                      (position + 1 + raws.length) =
                        inline.drop (position + 1 + raws.length) :=
                    List.drop_set_of_lt (by omega)
                  simp only [Except.map, kept, beyond, next, List.append_assoc,
                    List.cons_append, List.nil_append, List.length_cons]

theorem pushHeap_eq :
    ∀ (heap : List (Option Raw)) (roots : List Raw)
      (state : CallState Raw Payload State),
      pushHeap engine arguments heap roots state =
        match convertAll engine arguments state with
        | (result, more, last) =>
            (result.map (heap ++ ·), roots ++ more, last) := by
  induction arguments with
  | nil =>
      intro heap roots state
      simp only [pushHeap, convertAll, Except.map, List.append_nil]
  | cons value rest inductionHypothesis =>
      intro heap roots state
      simp only [pushHeap, convertAll]
      cases prepareArgument engine value state with
      | mk prepared after =>
          cases prepared with
          | error error => simp only [Except.map, List.append_nil]
          | ok pair =>
              obtain ⟨raw, root⟩ := pair
              simp only [inductionHypothesis]
              generalize convertAll engine rest after = outcome
              obtain ⟨result, more, last⟩ := outcome
              cases result with
              | error error => simp only [Except.map, List.append_assoc]
              | ok raws =>
                  simp only [Except.map, List.append_assoc,
                    List.singleton_append]

/-- The slice of the slots in place and the heap both hold the converted
values in order. -/
theorem rawArguments_eq (state : CallState Raw Payload State) :
    rawArguments engine arguments state =
      convertAll engine arguments state := by
  unfold rawArguments
  by_cases few : arguments.length ≤ inlineArguments
  · have room : 0 + arguments.length ≤
        (List.replicate inlineArguments (none : Option Raw)).length := by
      rw [Nat.zero_add, List.length_replicate]
      exact few
    rw [if_pos few, fillInline_eq 0 _ [] state room]
    cases all : convertAll engine arguments state with
    | mk result rest =>
        obtain ⟨roots, last⟩ := rest
        cases result with
        | error error => rfl
        | ok raws =>
            have length := convertAll_length all
            simp only [Except.map, List.take_zero, List.nil_append, ← length,
              List.take_left]
  · rw [if_neg few, pushHeap_eq]
    cases convertAll engine arguments state with
    | mk result rest =>
        obtain ⟨roots, last⟩ := rest
        cases result with
        | error error => rfl
        | ok raws => rfl

theorem PreparesAll.inline {state after : CallState Raw Payload State}
    {raws : List (Option Raw)} {roots : List Raw}
    (prepares : PreparesAll engine arguments state raws roots after)
    (few : arguments.length ≤ 8) :
    ∃ slots, fillInline engine arguments 0 (List.replicate 8 none) [] state =
        (.ok slots, roots, after) ∧
      slots.length = 8 ∧ slots.take arguments.length = raws := by
  have room : 0 + arguments.length ≤
      (List.replicate 8 (none : Option Raw)).length := by
    rw [Nat.zero_add, List.length_replicate]
    exact few
  have length := prepares.length
  refine ⟨raws ++ (List.replicate 8 none).drop raws.length, ?_, ?_, ?_⟩
  · rw [fillInline_eq 0 _ [] state room, prepares.converts]
    simp only [Except.map, List.take_zero, List.nil_append, Nat.zero_add]
  · rw [List.length_append, List.length_drop, List.length_replicate]
    omega
  · rw [← length, List.take_left]

theorem PreparesAll.heap {state after : CallState Raw Payload State}
    {raws : List (Option Raw)} {roots : List Raw}
    (prepares : PreparesAll engine arguments state raws roots after) :
    pushHeap engine arguments [] [] state = (.ok raws, roots, after) := by
  rw [pushHeap_eq, prepares.converts]
  rfl

end Storage

end Conversion

/-! ## The call -/

section Calls

variable {State : Type*} [DecidableEq Raw]
  (engine : CallEngine Raw Payload State) (inspect : Engine Raw)

/-- The pointer to the arguments is null if there are none. -/
def argumentPointer (raws : List (Option Raw)) :
    Option (List (Option Raw)) :=
  if raws.isEmpty then none else some raws

/-- The frame of a call that has taken these roots. -/
def CallFrame.rooted (frame : CallFrame Raw) (roots : List Raw) :
    CallFrame Raw :=
  { frame with argumentRoots := roots }

/-- The same with all arguments converted. -/
def CallFrame.prepared (frame : CallFrame Raw) (roots : List Raw) :
    CallFrame Raw :=
  { frame with arguments := [], argumentRoots := roots }

/-- What a call leaves, next to the state of the engine. -/
def beside (after : State) (result : Reply Raw Payload × Attached Raw Payload) :
    Reply Raw Payload × CallState Raw Payload State :=
  (result.1, result.2, after)

/-- The target is invoked with the converted arguments, and its result is
rooted in the context that called it. -/
def invokeTarget (frame : CallFrame Raw) (rest : List (Activation Raw Payload))
    (raws : List (Option Raw)) (state : CallState Raw Payload State) :
    Option (Reply Raw Payload × CallState Raw Payload State) :=
  let waiting := state.1.withStack (.calling frame :: rest)
  let ((value, exception), attached, after) :=
    engine.callAsFunction frame.function raws.length (argumentPointer raws)
      (waiting, state.2)
  match attached.stack with
  | _ :: holder :: rest =>
      (Attached.called inspect attached frame holder rest value exception).map
        (beside after)
  | _ => none

/-- `Context::call`. -/
def contextCall (function : HostFunction Raw) (arguments : List Value)
    (state : CallState Raw Payload State) :
    Option (Reply Raw Payload × CallState Raw Payload State) :=
  match state.1.call function arguments with
  | (.begun, attached) =>
      match attached.stack with
      | .calling frame :: rest =>
          match rawArguments engine arguments (attached, state.2) with
          | (.error error, roots, attached, after) =>
              some (beside after (attached.abandonCall (frame.rooted roots)
                rest (.failed (.js error))))
          | (.ok raws, roots, state) =>
              invokeTarget engine inspect (frame.prepared roots) rest raws state
      | _ => none
  | (reply, attached) => some (reply, attached, state.2)

variable {engine inspect} {function : HostFunction Raw}
  {arguments : List Value} {state : CallState Raw Payload State}

/-- A call that is not admitted returns its error, and that is all. -/
theorem contextCall_of_not_admits (machine : state.1.UsizeLimits)
    (refuses : ¬state.1.Admits function arguments) :
    ∃ error, contextCall engine inspect function arguments state =
      some (.failed (.js (.runtime error)), state) := by
  obtain ⟨error, refused⟩ := Attached.call_of_not_admits machine refuses
  refine ⟨error, ?_⟩
  rw [contextCall, refused]

/-- A call that is admitted converts its arguments in order, and invokes the
target with them if all conversions succeed. -/
theorem contextCall_of_admits (machine : state.1.UsizeLimits)
    (admits : state.1.Admits function arguments) :
    contextCall engine inspect function arguments state =
      match convertAll engine arguments
          (state.1.admitted function arguments, state.2) with
      | (.error error, roots, attached, after) =>
          some (beside after (attached.abandonCall
            ((Attached.callFrame function arguments).rooted roots)
            state.1.stack (.failed (.js error))))
      | (.ok raws, roots, after) =>
          invokeTarget engine inspect
            ((Attached.callFrame function arguments).prepared roots)
            state.1.stack raws after := by
  have stack : (state.1.admitted function arguments).stack =
      .calling (Attached.callFrame function arguments) :: state.1.stack := rfl
  simp only [contextCall, Attached.call_of_admits machine admits, stack,
    rawArguments_eq]

/-- The call under way with these arguments still to be converted. -/
def converting (attached : Attached Raw Payload) (frame : CallFrame Raw)
    (rest : List (Activation Raw Payload)) (arguments : List Value)
    (roots : List Raw) : Attached Raw Payload :=
  attached.withStack
    (.calling { frame with arguments := arguments, argumentRoots := roots } ::
      rest)

/-- The conversion of one argument is an operation of the attachment. -/
theorem prepareArgument_step (inspect : Engine Raw)
    (limits : JscRuntimeLimits) {value : Value} {frame : CallFrame Raw}
    {rest : List (Activation Raw Payload)}
    {later : List Value} {earlier : List Raw} {raw root : Option Raw}
    {after : CallState Raw Payload State} (thread : Nat)
    (prepared : prepareArgument engine value state = (.ok (raw, root), after)) :
    ∃ created answer, (attachmentSystem inspect limits).step
      (converting state.1 frame rest (value :: later) earlier)
      ⟨⟨thread, .prepareArgument created answer⟩, .begun⟩
      (converting after.1 frame rest later (earlier ++ root.toList)) := by
  cases value with
  | string string =>
      simp only [prepareArgument] at prepared
      split at prepared
      · cases prepared
      · rename_i made
        split at prepared
        · cases prepared
        · rename_i found _
          cases prepared
          refine ⟨(engine.createString string state.2).1, some found, ?_⟩
          change (converting state.1 frame rest (.string string :: later)
            earlier).prepareArgument
              { frame with
                arguments := .string string :: later
                argumentRoots := earlier }
              rest _ (some found) = some _
          simp only [Attached.prepareArgument, made]
          rfl
  | _ =>
      cases prepared
      refine ⟨true, none, ?_⟩
      rw [Option.toList_none, List.append_nil]
      rfl

/-- So is the conversion of all of them. -/
theorem convertAll_path (inspect : Engine Raw) (limits : JscRuntimeLimits)
    {frame : CallFrame Raw} {rest : List (Activation Raw Payload)}
    (thread : Nat) :
    ∀ {state after : CallState Raw Payload State} {raws : List (Option Raw)}
      {earlier roots : List Raw},
      convertAll engine arguments state = (.ok raws, roots, after) →
      ∃ trace, (attachmentSystem inspect limits).Path
        (converting state.1 frame rest arguments earlier) trace
        (converting after.1 frame rest [] (earlier ++ roots)) := by
  induction arguments with
  | nil =>
      intro state after raws earlier roots converted
      cases converted
      rw [List.append_nil]
      exact ⟨[], .refl _⟩
  | cons value later inductionHypothesis =>
      intro state after raws earlier roots converted
      simp only [convertAll] at converted
      split at converted
      · cases converted
      · rename_i raw root middle prepared
        generalize all : convertAll engine later middle = outcome at converted
        obtain ⟨result, more, last⟩ := outcome
        cases result with
        | error error => cases converted
        | ok others =>
            cases converted
            obtain ⟨created, answer, step⟩ :=
              prepareArgument_step inspect limits thread prepared
            obtain ⟨trace, path⟩ := inductionHypothesis all
            rw [← List.append_assoc]
            exact ⟨_, .cons step path⟩

/-- What is decided of a call before and after its admission. -/
structure AdmitsAtomically (engine : CallEngine Raw Payload State)
    (inspect : Engine Raw) (function : HostFunction Raw)
    (arguments : List Value) (state : CallState Raw Payload State) :
    Prop where
  /-- The arguments are valid if their number and the sum of their bytes are
  within the limits, and then they are charged by the number of strings. -/
  valid : ∀ strings,
    state.1.shared.callLimits.validate arguments = .ok strings ↔
      arguments.length ≤ state.1.shared.callLimits.arguments ∧
        stringBytes arguments ≤ state.1.shared.callLimits.stringUtf8Bytes ∧
        strings = arguments.countP Value.isString
  /-- The call goes on to its conversion exactly if it is admitted. -/
  reaches : (state.1.call function arguments).1 = .begun ↔
    state.1.Admits function arguments
  /-- Otherwise neither the attachment nor the engine changes. -/
  refuses : ¬state.1.Admits function arguments →
    ∃ error, contextCall engine inspect function arguments state =
      some (.failed (.js (.runtime error)), state)
  /-- Of an admitted call all arguments are converted in order, or the engine
  fails at one of them. -/
  converts :
    (∃ raws roots after, PreparesAll engine arguments
      (state.1.admitted function arguments, state.2) raws roots after) ∨
    ∃ error roots after, RefusesOne engine arguments
      (state.1.admitted function arguments, state.2) error roots after
  /-- Up to eight values are kept in order in the slots in place, any more on
  the heap. -/
  stores : ∀ raws roots after, PreparesAll engine arguments
      (state.1.admitted function arguments, state.2) raws roots after →
    raws.length = arguments.length ∧
    (arguments.length ≤ 8 → ∃ slots,
      fillInline engine arguments 0 (List.replicate 8 none) []
          (state.1.admitted function arguments, state.2) =
        (.ok slots, roots, after) ∧
      slots.length = 8 ∧ slots.take arguments.length = raws) ∧
    (8 < arguments.length →
      pushHeap engine arguments [] []
          (state.1.admitted function arguments, state.2) =
        (.ok raws, roots, after))
  /-- The engine is called with the function, the number of the arguments and
  their values in order, and its answer decides the reply. -/
  invokes : state.1.Admits function arguments →
    ∀ raws roots after, PreparesAll engine arguments
      (state.1.admitted function arguments, state.2) raws roots after →
    ∀ frame, frame =
      (Attached.callFrame function arguments).prepared roots →
    ∀ value exception attached last,
      engine.callAsFunction function.key arguments.length
          (if arguments.isEmpty then none else some raws)
          (after.1.withStack (.calling frame :: state.1.stack), after.2) =
        ((value, exception), attached, last) →
    contextCall engine inspect function arguments state =
      match attached.stack with
      | _ :: holder :: rest =>
          (Attached.called inspect attached frame holder rest value
            exception).map (beside last)
      | _ => none
  /-- A conversion that fails ends the call before its target. -/
  abandons : state.1.Admits function arguments →
    ∀ error roots attached after, RefusesOne engine arguments
      (state.1.admitted function arguments, state.2) error roots
      (attached, after) →
    contextCall engine inspect function arguments state =
      some (beside after (attached.abandonCall
        ((Attached.callFrame function arguments).rooted roots)
        state.1.stack (.failed (.js error))))

theorem contextCall_admitsAtomically (engine : CallEngine Raw Payload State)
    (inspect : Engine Raw) (function : HostFunction Raw)
    (arguments : List Value) (state : CallState Raw Payload State)
    (machine : state.1.UsizeLimits) :
    AdmitsAtomically engine inspect function arguments state := by
  constructor
  · exact CallLimits.validate_eq_ok_iff machine.bytes
  · exact Attached.call_begun_iff machine
  · exact contextCall_of_not_admits machine
  · cases convertAll_cases engine arguments
        (state.1.admitted function arguments, state.2) with
    | inl all =>
        obtain ⟨raws, roots, after, prepares, _⟩ := all
        exact Or.inl ⟨raws, roots, after, prepares⟩
    | inr one =>
        obtain ⟨error, roots, after, refuses, _⟩ := one
        exact Or.inr ⟨error, roots, after, refuses⟩
  · intro raws roots after prepares
    exact ⟨prepares.length, prepares.inline, fun _ => prepares.heap⟩
  · intro admits raws roots after prepares frame same value exception attached
      last answers
    have called : frame.function = function.key := by
      rw [same]
      rfl
    rw [contextCall_of_admits machine admits, prepares.converts]
    simp only [← same, invokeTarget, argumentPointer, prepares.isEmpty,
      prepares.length, called, answers]
  · intro admits error roots attached after refuses
    rw [contextCall_of_admits machine admits, refuses.converts]

end Calls

/-- An engine that numbers the values it makes. -/
def numberingEngine : CallEngine Nat Unit Nat where
  createString := fun _ made => (true, made)
  makeString := fun _ made => (some made, made + 1)
  releaseString := id
  makeScalar := fun _ made => (some made, made + 1)
  callAsFunction := fun _ count _ state => ((some count, none), state)

/-- An entry into a runtime that has registered one function. -/
def enteredState (localRoots : Nat) : CallState Nat Unit Nat :=
  let id : Host.AttachmentId := ⟨⟨.one⟩, ⟨.one⟩⟩
  let shared : Shared Nat Unit :=
    .new id 0 0 .guaranteed ⟨localRoots, 1, ⟨9, 4⟩, 1, 1⟩
  ({ Attached.new { shared with hostFunctions := [7] } (.runtime (some 0)) with
      stack := [.context .new 0, .entry] }, 0)

/-- An engine that takes every value for a number. -/
def onlyNumbers : Engine Nat where
  valueGetType := fun _ => .number
  objectKind := fun _ => .ok .object
  objectSetPrivate := fun _ => true

/-- Nine arguments, two of which are strings, go over the heap, if there is
room for three roots. -/
theorem nineArguments_admitsAtomically :
    let function : HostFunction Nat := ⟨some 0, ⟨⟨.one⟩, ⟨.one⟩⟩, 7⟩
    let arguments : List Value :=
      [.string "ab", .null, .string "cd", .undefined, .null, .null, .null,
        .null, .boolean true]
    AdmitsAtomically numberingEngine onlyNumbers function arguments
        (enteredState 3) ∧
      AdmitsAtomically numberingEngine onlyNumbers function arguments
        (enteredState 2) := by
  refine ⟨contextCall_admitsAtomically _ _ _ _ _ ⟨by decide, by decide⟩,
    contextCall_admitsAtomically _ _ _ _ _ ⟨by decide, by decide⟩⟩

end RustJsi.BackendJsc

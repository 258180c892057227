import RustJsi.Runtime.Ingress

/-!
# What an ingress gate is for

The abstract gate is a phase together with the number of permits alive.  The
first half of the module shows that the packed word is an encoding of that
pair on which every decision of the code is the abstract one; the second half
proves what the abstract gate guarantees.
-/

namespace RustJsi.Runtime

open Interleaving

namespace IngressState

/-- The value of the two phase bits. -/
def code : IngressState → Nat
  | .opened => 0
  | .closing => 1
  | .sealed => 2

theorem code_le_two (state : IngressState) : state.code ≤ 2 := by
  cases state <;> decide

end IngressState

namespace IngressGate

variable (width : PointerWidth)

/-- The largest count that fits below the phase bits. -/
def reservationLimit : Nat := 2 ^ phaseShift width - 1

/-- The word of a phase and a count. -/
def encode (phase : IngressState) (live : Nat) : width.Usize :=
  BitVec.ofNat width.bits (phase.code * 2 ^ phaseShift width + live)

private theorem two_pow_bits :
    2 ^ width.bits = 4 * 2 ^ phaseShift width := by
  have wide := width.sixteenLe
  have split : width.bits = phaseShift width + 2 := by
    simp only [phaseShift, phaseBits]
    omega
  rw [split, Nat.pow_add]
  omega

private theorem limit_succ :
    reservationLimit width + 1 = 2 ^ phaseShift width := by
  have positive := Nat.two_pow_pos (phaseShift width)
  simp only [reservationLimit]
  omega

variable {width}

theorem reservationLimit_pos : 1 < reservationLimit width := by
  have wide := width.sixteenLe
  have large : 2 ^ 2 ≤ 2 ^ phaseShift width :=
    Nat.pow_le_pow_right (by decide) (by
      simp only [phaseShift, phaseBits]
      omega)
  have := limit_succ width
  omega

theorem encode_toNat {phase : IngressState} {live : Nat}
    (fits : live ≤ reservationLimit width) :
    (encode width phase live).toNat =
      phase.code * 2 ^ phaseShift width + live := by
  have bits := two_pow_bits width
  have limit := limit_succ width
  have code := phase.code_le_two
  have scaled : phase.code * 2 ^ phaseShift width ≤
      2 * 2 ^ phaseShift width := Nat.mul_le_mul_right _ code
  rw [encode, BitVec.toNat_ofNat]
  exact Nat.mod_eq_of_lt (by omega)

private theorem small_toNat {value : Nat} (small : value ≤ 2) :
    (BitVec.ofNat width.bits value).toNat = value := by
  have bits := two_pow_bits width
  have positive := Nat.two_pow_pos (phaseShift width)
  rw [BitVec.toNat_ofNat]
  exact Nat.mod_eq_of_lt (by omega)

private theorem small_shiftLeft_toNat {value : Nat} (small : value ≤ 2) :
    (BitVec.ofNat width.bits value <<< phaseShift width).toNat =
      value * 2 ^ phaseShift width := by
  have bits := two_pow_bits width
  have positive := Nat.two_pow_pos (phaseShift width)
  have scaled : value * 2 ^ phaseShift width ≤ 2 * 2 ^ phaseShift width :=
    Nat.mul_le_mul_right _ small
  rw [BitVec.toNat_shiftLeft, small_toNat small, Nat.shiftLeft_eq]
  exact Nat.mod_eq_of_lt (by omega)

private theorem reservationMask_toNat :
    (reservationMask width).toNat = 2 ^ phaseShift width - 1 := by
  have positive := Nat.two_pow_pos (phaseShift width)
  have one : (1 : width.Usize).toNat = 1 := small_toNat (by decide)
  have shifted : ((1 : width.Usize) <<< phaseShift width).toNat =
      1 * 2 ^ phaseShift width := small_shiftLeft_toNat (by decide)
  have below :
      (1 : width.Usize) ≤ (1 : width.Usize) <<< phaseShift width := by
    rw [BitVec.le_def, shifted, one]
    omega
  rw [reservationMask, BitVec.toNat_sub_of_le below, shifted, one,
    Nat.one_mul]

theorem reservationCount_encode {phase : IngressState} {live : Nat}
    (fits : live ≤ reservationLimit width) :
    (reservationCount (encode width phase live)).toNat = live := by
  have limit := limit_succ width
  rw [reservationCount, BitVec.toNat_and, encode_toNat fits,
    reservationMask_toNat, Nat.and_two_pow_sub_one_eq_mod,
    Nat.mul_add_mod_self_right]
  exact Nat.mod_eq_of_lt (by omega)

@[simp]
theorem stateFromRaw_encode {phase : IngressState} {live : Nat}
    (fits : live ≤ reservationLimit width) :
    stateFromRaw (encode width phase live) = some phase := by
  have limit := limit_succ width
  have shifted : (encode width phase live >>> phaseShift width).toNat =
      phase.code := by
    rw [BitVec.toNat_ushiftRight, encode_toNat fits, Nat.shiftRight_eq_div_pow]
    rw [Nat.mul_comm, Nat.mul_add_div (Nat.two_pow_pos _)]
    rw [Nat.div_eq_of_lt (by omega), Nat.add_zero]
  rw [stateFromRaw, shifted]
  cases phase <;> rfl

theorem reservationMask_eq_iff (phase : IngressState) {live : Nat}
    (fits : live ≤ reservationLimit width) :
    reservationCount (encode width phase live) = reservationMask width ↔
      live = reservationLimit width := by
  rw [← BitVec.toNat_inj, reservationCount_encode fits,
    reservationMask_toNat]
  rfl

theorem reservationCount_eq_zero_iff (phase : IngressState)
    {live : Nat} (fits : live ≤ reservationLimit width) :
    reservationCount (encode width phase live) = 0 ↔ live = 0 := by
  rw [← BitVec.toNat_inj, reservationCount_encode fits]
  simp

theorem openWord_eq : openWord width = encode width .opened 0 := by
  simp [openWord, encode, IngressState.code]

theorem sealedWord_eq : sealedWord width = encode width .sealed 0 := by
  apply BitVec.eq_of_toNat_eq
  rw [encode_toNat (Nat.zero_le _)]
  exact small_shiftLeft_toNat (Nat.le_refl 2)

theorem closingWord_or {live : Nat}
    (fits : live ≤ reservationLimit width) :
    closingWord width |||
        reservationCount (encode width .opened live) =
      encode width .closing live := by
  have limit := limit_succ width
  have closing : (closingWord width).toNat = 2 ^ phaseShift width * 1 := by
    rw [Nat.mul_comm]
    exact small_shiftLeft_toNat (by decide)
  apply BitVec.eq_of_toNat_eq
  rw [BitVec.toNat_or, reservationCount_encode fits, encode_toNat fits,
    closing, ← Nat.two_pow_add_eq_or_of_lt (by omega), Nat.mul_comm]
  rfl

/-- Adding one moves the count; below the limit it cannot carry. -/
theorem encode_add_one (phase : IngressState) (live : Nat) :
    encode width phase live + 1 = encode width phase (live + 1) := by
  rw [encode, encode, ← Nat.add_assoc, BitVec.ofNat_add _ 1]
  rfl

/-- Subtracting one from a positive count does not borrow from the phase. -/
theorem settleWord_encode (phase : IngressState) (live : Nat) :
    settleWord (encode width phase (live + 1)) = encode width phase live := by
  rw [settleWord, ← encode_add_one]
  exact BitVec.add_sub_cancel _ _

end IngressGate

/-! ## The abstract gate -/

/-- The phase of a gate and the permits granted on it that are not settled. -/
structure GateLedger where
  phase : IngressState
  live : Nat
  deriving DecidableEq, Repr

namespace GateLedger

open IngressGate (Event)

/-- The gate created by `IngressGate::new`. -/
def fresh : GateLedger := ⟨.opened, 0⟩

/-- What a reservation leaves and reports when `limit` permits fit. -/
def reserve (limit : Nat) (ledger : GateLedger) :
    GateLedger × Except IngressReserveError Unit :=
  match ledger.phase with
  | .opened =>
      if ledger.live = limit then
        (ledger, .error .reservationSpaceExhausted)
      else
        ({ ledger with live := ledger.live + 1 }, .ok ())
  | phase => (ledger, .error (.notOpen phase))

/-- What a close leaves and reports. -/
def beginClose (ledger : GateLedger) : GateLedger × IngressClose :=
  match ledger.phase with
  | .opened => ({ ledger with phase := .closing }, .started ledger.live)
  | .closing => (ledger, .alreadyClosing ledger.live)
  | .sealed => (ledger, .alreadySealed)

/-- What an attempt to seal leaves and reports. -/
def trySeal (ledger : GateLedger) :
    GateLedger × Except IngressSealError IngressState :=
  match ledger.phase with
  | .opened => (ledger, .error .stillOpen)
  | .closing =>
      if ledger.live = 0 then
        ({ ledger with phase := .sealed }, .ok .sealed)
      else
        (ledger, .error (.reservationsRemain ledger.live))
  | .sealed => (ledger, .ok .sealed)

/-- One indivisible operation on the gate.  Only a live permit settles. -/
inductive Step (limit : Nat) : GateLedger → Event → GateLedger → Prop
  | reserve (ledger : GateLedger)
      (granted : (ledger.reserve limit).2 = .ok ()) :
      Step limit ledger .reserved (ledger.reserve limit).1
  | refuse (ledger : GateLedger) (error : IngressReserveError)
      (refused : (ledger.reserve limit).2 = .error error) :
      Step limit ledger (.refused error) ledger
  | settle (ledger : GateLedger) (alive : 0 < ledger.live) :
      Step limit ledger .settled { ledger with live := ledger.live - 1 }
  | beginClose (ledger : GateLedger) :
      Step limit ledger (.closed ledger.beginClose.2) ledger.beginClose.1
  | trySeal (ledger : GateLedger) :
      Step limit ledger (.sealed ledger.trySeal.2) ledger.trySeal.1

def system (limit : Nat) : System GateLedger Event where
  initial := fun ledger => ledger = fresh
  step := Step limit

/-- A gate never counts past its limit, and a sealed one counts nothing. -/
structure Sound (limit : Nat) (ledger : GateLedger) : Prop where
  fits : ledger.live ≤ limit
  sealedEmpty : ledger.phase = .sealed → ledger.live = 0

theorem reserve_ok {limit : Nat} {ledger : GateLedger}
    (granted : (ledger.reserve limit).2 = .ok ()) :
    ledger.phase = .opened ∧ ledger.live ≠ limit ∧
      (ledger.reserve limit).1 =
        { ledger with live := ledger.live + 1 } := by
  obtain ⟨phase, live⟩ := ledger
  cases phase with
  | opened =>
      by_cases full : live = limit
      · simp [reserve, full] at granted
      · exact ⟨rfl, full, by simp [reserve, full]⟩
  | closing => simp [reserve] at granted
  | sealed => simp [reserve] at granted

theorem reserve_error {limit : Nat} {ledger : GateLedger}
    {error : IngressReserveError}
    (refused : (ledger.reserve limit).2 = .error error) :
    (ledger.reserve limit).1 = ledger ∧
      ((ledger.phase = .opened ∧ ledger.live = limit ∧
          error = .reservationSpaceExhausted) ∨
        (ledger.phase ≠ .opened ∧ error = .notOpen ledger.phase)) := by
  obtain ⟨phase, live⟩ := ledger
  cases phase with
  | opened =>
      by_cases full : live = limit
      · simp only [reserve, full, if_true, Except.error.injEq] at refused
        exact ⟨by simp [reserve, full], Or.inl ⟨rfl, full, refused.symm⟩⟩
      · simp [reserve, full] at refused
  | closing =>
      simp only [reserve, Except.error.injEq] at refused
      exact ⟨rfl, Or.inr ⟨by simp, refused.symm⟩⟩
  | sealed =>
      simp only [reserve, Except.error.injEq] at refused
      exact ⟨rfl, Or.inr ⟨by simp, refused.symm⟩⟩

theorem reserve_opened {limit : Nat} {ledger : GateLedger}
    (opened : ledger.phase = .opened) (room : ledger.live < limit) :
    (ledger.reserve limit).2 = .ok () := by
  rw [reserve, opened]
  exact congrArg Prod.snd (if_neg (Nat.ne_of_lt room))

theorem reserve_left {limit : Nat} {ledger : GateLedger}
    (left : ledger.phase ≠ .opened) :
    (ledger.reserve limit).2 = .error (.notOpen ledger.phase) := by
  obtain ⟨phase, live⟩ := ledger
  cases phase with
  | opened => exact absurd rfl left
  | _ => rfl

theorem step_reserved {limit : Nat} {ledger next : GateLedger}
    (step : Step limit ledger .reserved next) :
    ledger.phase = .opened ∧ ledger.live ≠ limit ∧
      next = { ledger with live := ledger.live + 1 } := by
  cases step with
  | reserve granted => exact reserve_ok granted

theorem step_settled {limit : Nat} {ledger next : GateLedger}
    (step : Step limit ledger .settled next) :
    0 < ledger.live ∧ next = { ledger with live := ledger.live - 1 } := by
  cases step with
  | settle alive => exact ⟨alive, rfl⟩

/-- A close that reports a count reports the live permits. -/
theorem step_closed_count {limit : Nat} {ledger next : GateLedger}
    {result : IngressClose} {count : Nat}
    (step : Step limit ledger (.closed result) next)
    (reports : result = .started count ∨ result = .alreadyClosing count) :
    count = ledger.live := by
  obtain ⟨phase, live⟩ := ledger
  cases step with
  | beginClose =>
      cases phase <;> simp [beginClose] at reports <;> exact reports.symm

theorem step_sealed_count {limit : Nat} {ledger next : GateLedger}
    {count : Nat}
    (step : Step limit ledger
      (.sealed (.error (.reservationsRemain count))) next) :
    count = ledger.live := by
  obtain ⟨phase, live⟩ := ledger
  generalize reported : Except.error
    (IngressSealError.reservationsRemain count) = result at step
  cases step with
  | trySeal =>
      cases phase with
      | opened => simp [trySeal] at reported
      | closing =>
          by_cases empty : live = 0
          · simp [trySeal, empty] at reported
          · simpa [trySeal, empty] using reported
      | sealed => simp [trySeal] at reported

theorem step_sound {limit : Nat} {ledger next : GateLedger} {event : Event}
    (sound : ledger.Sound limit) (step : Step limit ledger event next) :
    next.Sound limit := by
  obtain ⟨fits, sealedEmpty⟩ := sound
  cases step with
  | reserve granted =>
      obtain ⟨isOpen, room, nextEq⟩ := reserve_ok granted
      rw [nextEq]
      constructor
      · simp only
        omega
      · intro isSealed
        rw [isOpen] at isSealed
        cases isSealed
  | refuse error refused =>
      exact ⟨fits, sealedEmpty⟩
  | settle alive =>
      constructor
      · simp only
        omega
      · intro isSealed
        have := sealedEmpty isSealed
        simp only
        omega
  | beginClose =>
      obtain ⟨phase, live⟩ := ledger
      cases phase with
      | opened => exact ⟨fits, fun isSealed => by cases isSealed⟩
      | closing => exact ⟨fits, sealedEmpty⟩
      | sealed => exact ⟨fits, sealedEmpty⟩
  | trySeal =>
      obtain ⟨phase, live⟩ := ledger
      cases phase with
      | opened => exact ⟨fits, sealedEmpty⟩
      | closing =>
          by_cases empty : live = 0
          · subst empty
            exact ⟨Nat.zero_le _, fun _ => rfl⟩
          · simp only [trySeal, empty, if_false]
            exact ⟨fits, sealedEmpty⟩
      | sealed => exact ⟨fits, sealedEmpty⟩

theorem run_sound {limit : Nat} {trace : List Event} {ledger : GateLedger}
    (run : (system limit).Run trace ledger) : ledger.Sound limit := by
  refine System.Run.invariant (fun _ ledger => ledger.Sound limit)
    ?_ ?_ run
  · rintro ledger rfl
    exact ⟨Nat.zero_le _, fun isSealed => by cases isSealed⟩
  · intro _ earlier event next _ sound step
    exact step_sound sound step

theorem beginClose_live (ledger : GateLedger) :
    ledger.beginClose.1.live = ledger.live := by
  obtain ⟨phase, live⟩ := ledger
  cases phase <;> rfl

theorem trySeal_live (ledger : GateLedger) :
    ledger.trySeal.1.live = ledger.live := by
  obtain ⟨phase, live⟩ := ledger
  cases phase with
  | closing =>
      by_cases empty : live = 0 <;> simp [trySeal, empty]
  | opened => rfl
  | sealed => rfl

theorem beginClose_left (ledger : GateLedger) :
    ledger.beginClose.1.phase ≠ .opened := by
  obtain ⟨phase, live⟩ := ledger
  cases phase <;> exact nofun

/-- An attempt to seal seals the gate, finds it open, or counts permits. -/
theorem trySeal_cases (ledger : GateLedger) :
    (ledger.trySeal.2 = .ok .sealed ∧ ledger.trySeal.1.phase = .sealed) ∨
    ledger.trySeal.2 = .error .stillOpen ∨
    ∃ count, ledger.trySeal.2 = .error (.reservationsRemain count) := by
  obtain ⟨phase, live⟩ := ledger
  cases phase with
  | opened => exact Or.inr (Or.inl rfl)
  | sealed => exact Or.inl ⟨rfl, rfl⟩
  | closing =>
      by_cases empty : live = 0
      · exact Or.inl (by simp [trySeal, empty])
      · exact Or.inr (Or.inr ⟨live, by simp [trySeal, empty]⟩)

theorem trySeal_stillOpen {ledger : GateLedger}
    (stillOpen : ledger.trySeal.2 = .error .stillOpen) :
    ledger.phase = .opened := by
  obtain ⟨phase, live⟩ := ledger
  cases phase with
  | opened => rfl
  | sealed => cases stillOpen
  | closing =>
      by_cases empty : live = 0 <;> simp [trySeal, empty] at stillOpen

/-- One step keeps the phase, begins to close an open gate, or seals a closing
one. -/
theorem step_phase {limit : Nat} {ledger next : GateLedger} {event : Event}
    (step : Step limit ledger event next) :
    next.phase = ledger.phase ∨
      (ledger.phase = .opened ∧ next.phase = .closing) ∨
      (ledger.phase = .closing ∧ next.phase = .sealed) := by
  cases step with
  | reserve granted =>
      obtain ⟨_, _, nextEq⟩ := reserve_ok granted
      rw [nextEq]
      exact Or.inl rfl
  | refuse error refused => exact Or.inl rfl
  | settle alive => exact Or.inl rfl
  | beginClose =>
      obtain ⟨phase, live⟩ := ledger
      cases phase with
      | opened => exact Or.inr (Or.inl ⟨rfl, rfl⟩)
      | closing => exact Or.inl rfl
      | sealed => exact Or.inl rfl
  | trySeal =>
      obtain ⟨phase, live⟩ := ledger
      cases phase with
      | opened => exact Or.inl rfl
      | closing =>
          by_cases empty : live = 0
          · subst empty
            exact Or.inr (Or.inr ⟨rfl, rfl⟩)
          · simp [trySeal, empty]
      | sealed => exact Or.inl rfl

theorem step_sealed {limit : Nat} {ledger next : GateLedger}
    {event : Event} (step : Step limit ledger event next)
    (isSealed : ledger.phase = .sealed) : next.phase = .sealed := by
  rcases step_phase step with same | ⟨before, _⟩ | ⟨before, _⟩
  · rw [same, isSealed]
  · rw [isSealed] at before
    cases before
  · rw [isSealed] at before
    cases before

theorem step_keeps_left {limit : Nat} {ledger next : GateLedger}
    {event : Event} (step : Step limit ledger event next)
    (left : ledger.phase ≠ .opened) : next.phase ≠ .opened := by
  rcases step_phase step with same | ⟨before, _⟩ | ⟨_, after⟩
  · rw [same]
    exact left
  · exact absurd before left
  · rw [after]
    exact nofun

/-- Only a close takes a gate out of its open phase. -/
theorem step_left_open {limit : Nat} {ledger next : GateLedger}
    {event : Event} (step : Step limit ledger event next)
    (left : next.phase ≠ .opened) :
    ledger.phase ≠ .opened ∨ ∃ result, event = .closed result := by
  cases step with
  | reserve granted =>
      obtain ⟨_, _, nextEq⟩ := reserve_ok granted
      rw [nextEq] at left
      exact Or.inl left
  | refuse error refused => exact Or.inl left
  | settle alive => exact Or.inl left
  | beginClose => exact Or.inr ⟨_, rfl⟩
  | trySeal =>
      obtain ⟨phase, live⟩ := ledger
      cases phase with
      | opened => exact Or.inl left
      | closing => exact Or.inl nofun
      | sealed => exact Or.inl nofun

/-- Only a reservation and a settlement move the count. -/
theorem step_live {limit : Nat} {ledger next : GateLedger}
    {event : Event} (step : Step limit ledger event next) :
    (event = .reserved ∧ next.live = ledger.live + 1) ∨
    (event = .settled ∧ next.live + 1 = ledger.live) ∨
    next.live = ledger.live := by
  cases step with
  | reserve granted =>
      obtain ⟨_, _, nextEq⟩ := reserve_ok granted
      rw [nextEq]
      exact Or.inl ⟨rfl, rfl⟩
  | refuse error refused => exact Or.inr (Or.inr rfl)
  | settle alive => exact Or.inr (Or.inl ⟨rfl, Nat.sub_add_cancel alive⟩)
  | beginClose =>
      obtain ⟨phase, live⟩ := ledger
      cases phase <;> exact Or.inr (Or.inr rfl)
  | trySeal =>
      obtain ⟨phase, live⟩ := ledger
      cases phase with
      | opened => exact Or.inr (Or.inr rfl)
      | closing =>
          by_cases empty : live = 0 <;> simp [trySeal, empty]
      | sealed => exact Or.inr (Or.inr rfl)

/-- The events at which a close took effect. -/
def takesClose : Event → Bool
  | .closed (.started _) => true
  | _ => false

theorem step_takesClose {limit : Nat} {ledger next : GateLedger}
    {event : Event} (step : Step limit ledger event next)
    (closes : takesClose event = true) : next.phase ≠ .opened := by
  cases step with
  | reserve granted => cases closes
  | refuse error refused => cases closes
  | settle alive => cases closes
  | beginClose =>
      obtain ⟨phase, live⟩ := ledger
      cases phase with
      | opened => simp [beginClose]
      | closing => cases closes
      | sealed => cases closes
  | trySeal => cases closes

/-- Once the gate has left its open phase no reservation is granted. -/
theorem path_not_reserved {limit : Nat} {ledger next : GateLedger}
    {trace : List Event} (path : (system limit).Path ledger trace next)
    (left : ledger.phase ≠ .opened) :
    next.phase ≠ .opened ∧ .reserved ∉ trace := by
  induction path with
  | refl => exact ⟨left, List.not_mem_nil⟩
  | snoc _ step inductionHypothesis =>
      obtain ⟨leftMiddle, notEarlier⟩ := inductionHypothesis
      constructor
      · intro isOpen
        rcases step_phase step with same | ⟨before, _⟩ | ⟨_, after⟩
        · exact leftMiddle (same ▸ isOpen)
        · exact leftMiddle before
        · rw [isOpen] at after
          cases after
      · intro member
        rcases List.mem_append.mp member with earlier | now
        · exact notEarlier earlier
        · rw [List.mem_singleton] at now
          subst now
          cases step with
          | reserve granted => exact leftMiddle (reserve_ok granted).1

theorem run_not_reserved_after_close {limit : Nat}
    {before after : List Event} {event : Event} {ledger : GateLedger}
    (run : (system limit).Run (before ++ event :: after) ledger)
    (closes : takesClose event = true) : .reserved ∉ after := by
  obtain ⟨_, _, _, step, path⟩ := run.split_at
  exact (path_not_reserved path (step_takesClose step closes)).2

end GateLedger

namespace GateLedger

/-- The word that shows the ledger. -/
def word (width : PointerWidth) (ledger : GateLedger) : width.Usize :=
  IngressGate.encode width ledger.phase ledger.live

end GateLedger

namespace IngressGate

variable {width : PointerWidth} {ledger : GateLedger}

theorem reserveDecision_commit
    (fits : ledger.live ≤ reservationLimit width) :
    (reserveDecision (ledger.word width)).commit (ledger.word width) =
      some ((ledger.reserve (reservationLimit width)).1.word width,
        (ledger.reserve (reservationLimit width)).2) := by
  obtain ⟨phase, live⟩ := ledger
  simp only [GateLedger.word] at fits ⊢
  cases phase with
  | opened =>
      have maskIff := reservationMask_eq_iff .opened fits
      simp only [reserveDecision, stateFromRaw_encode fits, maskIff,
        GateLedger.reserve, encode_add_one]
      by_cases full : live = reservationLimit width
      · simp only [full, if_true, Decision.commit]
      · simp only [full, if_false, Decision.commit]
  | closing =>
      simp [reserveDecision, stateFromRaw_encode fits, Decision.commit,
        GateLedger.reserve]
  | sealed =>
      simp [reserveDecision, stateFromRaw_encode fits, Decision.commit,
        GateLedger.reserve]

theorem beginCloseDecision_commit
    (fits : ledger.live ≤ reservationLimit width) :
    (beginCloseDecision (ledger.word width)).commit (ledger.word width) =
      some (ledger.beginClose.1.word width, ledger.beginClose.2) := by
  obtain ⟨phase, live⟩ := ledger
  simp only [GateLedger.word] at fits ⊢
  cases phase <;>
    simp [beginCloseDecision, stateFromRaw_encode fits,
      reservationCount_encode fits, closingWord_or fits, Decision.commit,
      GateLedger.beginClose]

theorem trySealDecision_commit
    (fits : ledger.live ≤ reservationLimit width) :
    (trySealDecision (ledger.word width)).commit (ledger.word width) =
      some (ledger.trySeal.1.word width, ledger.trySeal.2) := by
  obtain ⟨phase, live⟩ := ledger
  simp only [GateLedger.word] at fits ⊢
  cases phase with
  | closing =>
      have zeroIff := reservationCount_eq_zero_iff .closing fits
      simp only [trySealDecision, stateFromRaw_encode fits, zeroIff,
        reservationCount_encode fits, GateLedger.trySeal]
      by_cases empty : live = 0
      · simp only [empty, if_true, Decision.commit, sealedWord_eq]
      · simp only [empty, if_false, Decision.commit]
  | opened =>
      simp [trySealDecision, stateFromRaw_encode fits, Decision.commit,
        GateLedger.trySeal]
  | sealed =>
      simp [trySealDecision, stateFromRaw_encode fits, Decision.commit,
        GateLedger.trySeal]

end IngressGate

end RustJsi.Runtime

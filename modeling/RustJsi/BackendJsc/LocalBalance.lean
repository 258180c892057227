import RustJsi.BackendJsc.AttachedSound

/-!
# The local budget balances

At every moment the slots that are charged are those of the roots recorded in
live scopes and those held by live reservations.  What a call leaves charged
is the root it returns, and nothing else.
-/

namespace RustJsi.BackendJsc

open Interleaving Nested
open RustJsi.Host (AttachmentId)

variable {Raw Payload : Type*}

namespace Activation

/-- The local roots recorded in a scope. -/
def recorded : Activation Raw Payload → Nat
  | .context localRoots _ => localRoots.values.length
  | .scope roots => roots.values.length
  | _ => 0

/-- The slots held by the reservations of an operation. -/
def reserved : Activation Raw Payload → Nat
  | .producing _ reservation => reservation.held
  | .calling call => call.reservation.held + call.argumentReservation.held
  | _ => 0

theorem recorded_add_reserved (frame : Activation Raw Payload) :
    frame.recorded + frame.reserved = frame.slots := by
  cases frame with
  | producing production reservation => exact Nat.zero_add _
  | calling call => exact Nat.zero_add _
  | _ => rfl

end Activation

namespace Attached

/-- A call whose frame is gone again changed the budget by the root it
returned. -/
theorem Shifts.balance {rooted : Bool}
    {frame : Activation Raw Payload}
    {floor next : List (Activation Raw Payload)}
    (shifts : Shifts rooted (frame :: floor) next)
    (level : next.length = floor.length) :
    total Activation.slots next =
      total Activation.slots floor + rooted.toNat := by
  generalize whole : frame :: floor = stack at shifts
  cases shifts with
  | kept =>
      rw [← whole, List.length_cons] at level
      omega
  | called last =>
      rw [← whole, List.length_cons, List.length_cons] at level
      omega
  | changed rest slots =>
      obtain ⟨_, same⟩ := List.cons.inj whole
      rw [same, List.length_cons] at level
      omega
  | returned last =>
      obtain ⟨_, same⟩ := List.cons.inj whole
      rw [same]
      rfl
  | answered last rest slots =>
      obtain ⟨_, same⟩ := List.cons.inj whole
      rw [same, total_cons, total_cons, slots]
      change _ = _ + 1
      omega

/-- The same for a call that was over in one step. -/
theorem Shifts.balance_level {rooted : Bool}
    {stack next : List (Activation Raw Payload)}
    (shifts : Shifts rooted stack next) (level : next.length = stack.length) :
    total Activation.slots next =
      total Activation.slots stack + rooted.toNat := by
  cases shifts with
  | kept => rfl
  | called frame =>
      rw [List.length_cons] at level
      omega
  | changed rest slots =>
      rw [total_cons, total_cons, slots]
      omega
  | returned frame =>
      rw [List.length_cons] at level
      omega
  | answered frame rest slots =>
      rw [List.length_cons, List.length_cons, List.length_cons] at level
      omega

section Moves

variable [DecidableEq Raw] {attached next : Attached Raw Payload}
  {op : Op Raw Payload} {reply : Reply Raw Payload}

/-- The limit of the budget is the one it was made with. -/
theorem Moves.limit (moves : attached.Moves op reply next) :
    next.shared.localBudget.limit = attached.shared.localBudget.limit := by
  cases moves with
  | refused top retires =>
      rw [retires.fields]
      rfl
  | rolledBack top retires =>
      rw [retires.fields]
      rfl
  | reclaimed top retires =>
      rw [retires.fields]
      rfl
  | settled under phase retires =>
      rw [retires.fields]
      rfl
  | _ => rfl

end Moves

section Runs

variable [DecidableEq Raw] {engine : Engine Raw} {limits : JscRuntimeLimits}
  {trace : List (Exchange (Invocation Raw Payload) (Reply Raw Payload))}
  {attached : Attached Raw Payload}

theorem run_limit (run : (attachmentSystem engine limits).Run trace attached) :
    attached.shared.localBudget.limit = limits.localRoots := by
  refine System.Run.invariant
    (fun _ attached => attached.shared.localBudget.limit = limits.localRoots)
    ?_ ?_ run
  · intro attached fresh
    cases fresh with
    | runtime id address owner context => rfl
    | attachment id address owner finalEntryPolicy => rfl
  · intro trace attached label next run limit step
    exact (run_moves run step).limit.trans limit

/-- What a call changes in the budget is the root it returns. -/
theorem run_span
    (run : (attachmentSystem engine limits).Run trace attached)
    {during : List (Exchange (Invocation Raw Payload) (Reply Raw Payload))}
    {last : Exchange (Invocation Raw Payload) (Reply Raw Payload)}
    {after : Attached Raw Payload}
    (span : Span (attachmentSystem engine limits) Attached.stack attached
      during last after) :
    after.shared.localBudget.used =
      attached.shared.localBudget.used + last.reply.isRooted.toNat := by
  rw [(run_sound run).used, (run_sound (run.append span.path)).used]
  cases span.inv run run_turns with
  | inl single =>
      obtain ⟨_, step, level⟩ := single
      exact (run_moves run step).shifts.balance_level level
  | inr inside =>
      obtain ⟨middle, frame, reached, step, above, level⟩ := inside
      have shifts := (run_moves reached step).shifts
      rw [above] at shifts
      exact shifts.balance level

omit [DecidableEq Raw] in
theorem orFault_unrooted {Result : Type*} {result : Except Fault Result}
    {continue' : Result → Reply Raw Payload × Attached Raw Payload}
    (unrooted : ∀ result, (continue' result).1.isRooted = false) :
    (attached.orFault result continue').1.isRooted = false := by
  cases result with
  | error fault => rfl
  | ok result => exact unrooted result

omit [DecidableEq Raw] in
theorem unrooted_of_performed
    {result : Reply Raw Payload × Attached Raw Payload}
    {reply : Reply Raw Payload} {next : Attached Raw Payload}
    (performed : some result = some (reply, next))
    (unrooted : result.1.isRooted = false) : reply.isRooted = false := by
  rw [Option.some.inj performed] at unrooted
  exact unrooted

/-- The end of a scope and an unwind return no value. -/
theorem close_unrooted
    {exchange : Exchange (Invocation Raw Payload) (Reply Raw Payload)}
    {next : Attached Raw Payload}
    (step : (attachmentSystem engine limits).step attached exchange next)
    (ends : exchange.op.op = .close ∨ exchange.op.op = .unwind) :
    exchange.reply.isRooted = false := by
  have performed : attached.perform engine exchange.op =
    some (exchange.reply, next) := step
  unfold Attached.perform at performed
  cases ends with
  | inl closes =>
      rw [closes] at performed
      split at performed
      all_goals try contradiction
      · exact unrooted_of_performed performed
          (orFault_unrooted fun _ => rfl)
      · exact unrooted_of_performed performed
          (orFault_unrooted fun _ => rfl)
  | inr unwinds =>
      rw [unwinds] at performed
      split at performed
      all_goals try contradiction
      · exact unrooted_of_performed performed
          (orFault_unrooted fun _ => rfl)
      · exact unrooted_of_performed performed
          (orFault_unrooted fun _ => orFault_unrooted fun _ => rfl)

/-- The budget of an attachment that has made the calls of a trace. -/
structure LocalBudgetBalances (engine : Engine Raw)
    (limits : JscRuntimeLimits)
    (trace : List (Exchange (Invocation Raw Payload) (Reply Raw Payload)))
    (attached : Attached Raw Payload) : Prop where
  balanced : attached.shared.localBudget.used =
    total Activation.recorded attached.stack +
      total Activation.reserved attached.stack
  bounded : attached.shared.localBudget.used ≤ limits.localRoots
  /-- The `expect` of a release is never reached, nor any other panic. -/
  unfaulted : ∀ exchange ∈ trace, ∀ fault, exchange.reply ≠ .faulted fault
  /-- The arguments of a call never have more roots than slots. -/
  arguments : ∀ call, .calling call ∈ attached.stack →
    call.argumentRoots.length ≤ call.argumentReservation.held
  /-- A call that starts now and returns no root leaves the budget as it is
  now, whatever is called meanwhile: it failed, or returned a scalar. -/
  restored : ∀ during last after,
    Span (attachmentSystem engine limits) Attached.stack attached during last
      after →
    last.reply.isRooted = false →
    after.shared.localBudget.used = attached.shared.localBudget.used
  /-- A call that returns a root is charged for it. -/
  charged : ∀ during last after,
    Span (attachmentSystem engine limits) Attached.stack attached during last
      after →
    last.reply.isRooted = true →
    after.shared.localBudget.used = attached.shared.localBudget.used + 1
  /-- A scope that is opened now, or an operation that starts now, leaves the
  budget as it is now when it ends or is unwound. -/
  unwound : ∀ during last after,
    Span (attachmentSystem engine limits) Attached.stack attached during last
      after →
    last.op.op = .close ∨ last.op.op = .unwind →
    after.shared.localBudget.used = attached.shared.localBudget.used

/-- The local budget balances in every run. -/
theorem run_localBudgetBalances
    (run : (attachmentSystem engine limits).Run trace attached) :
    LocalBudgetBalances engine limits trace attached where
  balanced := by
    rw [(run_sound run).used, slots, ← total_add]
    simp only [Activation.recorded_add_reserved]
  bounded := by
    rw [← run_limit run]
    exact (run_sound run).bounded
  unfaulted := run_unfaulted run
  arguments := by
    intro call member
    obtain ⟨_, balanced⟩ := (run_sound run).formed _ member
    omega
  restored := by
    intro during last after span unrooted
    rw [run_span run span, unrooted]
    rfl
  charged := by
    intro during last after span rooted
    rw [run_span run span, rooted]
    rfl
  unwound := by
    intro during last after span ends
    have charged := run_span run span
    obtain ⟨middle, _, step, _⟩ := span
    rw [close_unrooted step ends] at charged
    exact charged

end Runs

/-- An engine whose values are objects, unless they are small. -/
def smallScalars : Engine Nat where
  valueGetType := fun value => if value < 10 then .number else .object
  objectKind := fun _ => .ok .object
  objectSetPrivate := fun _ => true

/-- A runtime with room for three local roots. -/
def threeRoots : JscRuntimeLimits where
  localRoots := 3
  persistentSlots := 1
  outboundCall := ⟨4, 100⟩
  hostFunctions := 1
  nativeStates := 1

def firstAttachment : AttachmentId where
  runtimeId := ⟨.one⟩
  epoch := ⟨.one⟩

def threeRootsRuntime : Attached Nat Unit :=
  .new (.new firstAttachment 0 0 .guaranteed threeRoots) (.runtime (some 0))

/-- An object, a scalar and an exception; then a call with a string from a
child scope, which leaves no room for a second one. -/
def evaluations : List (Op Nat Unit) :=
  [.enter none ⟨none, none⟩, .lendContext,
    .eval true true, .produced (some 20) none,
    .eval true true, .produced (some 5) none,
    .eval true true, .produced none (some ⟨"thrown", false⟩),
    .installHostFunction true (some 30), .publishHostFunction true none,
    .withScope, .call ⟨some 0, firstAttachment, 30⟩ [.string "a"],
    .prepareArgument true (some 40), .called (some 41) none,
    .call ⟨some 0, firstAttachment, 30⟩ [.string "b"], .close]

theorem evaluations_localBudgetBalances :
    ∃ trace attached,
      (attachment smallScalars).performAll threeRootsRuntime
        (evaluations.map (Invocation.mk 0)) =
        some (trace, attached) ∧
      LocalBudgetBalances smallScalars threeRoots trace attached := by
  obtain ⟨trace, attached, performed, run⟩ :=
    (attachment smallScalars).exists_run_of_performAll
      (Fresh threeRoots) (evaluations.map (Invocation.mk 0))
      (.runtime firstAttachment 0 0 0) (by decide)
  exact ⟨trace, attached, performed, run_localBudgetBalances run⟩

end Attached

end RustJsi.BackendJsc

import RustJsi.BackendJsc.HostFunctionMoves
import RustJsi.BackendJsc.NativeStateCalls

/-!
# Owners of native states

A state that was accepted has one box.  The registry owns it, and so does
every operation on the state, and a teardown that has still to drop it.  The
last of them to go destroys the state.
-/

namespace RustJsi.BackendJsc

open Counted Generational Interleaving

variable {Raw Payload : Type*}

namespace Activation

/-- The states a call owns. -/
def leases : Activation Raw Payload → List (AnyRc Payload)
  | .operating lease => [lease]
  | _ => []

theorem leases_of_boxes {frame : Activation Raw Payload}
    (boxes : frame.boxes = []) : frame.leases = [] := by
  cases frame with
  | operating lease => cases boxes
  | _ => rfl

end Activation

/-- The states a teardown has still to give up. -/
def TeardownPhase.states : TeardownPhase Payload → List (AnyRc Payload)
  | .retiring states _ _ => states
  | _ => []

namespace Attached

/-- The states a teardown under way has taken out of the registry. -/
def retiring (attached : Attached Raw Payload) : List (AnyRc Payload) :=
  match attached.teardown with
  | none => []
  | some teardown => teardown.phase.states

/-- The states that operations have leased. -/
def leased (attached : Attached Raw Payload) : List (AnyRc Payload) :=
  attached.stack.flatMap Activation.leases

/-- Every owner of a state, once for each of its claims. -/
def owners (attached : Attached Raw Payload) : List (AnyRc Payload) :=
  attached.shared.nativeStates.store.held.map Prod.snd ++
    (attached.leased ++ attached.retiring)

/-- The counts of the boxes are exact, and every box has the state that was
accepted in its place. -/
structure Owned (accepted : List (NativeState Payload))
    (attached : Attached Raw Payload) : Prop where
  accounts : attached.heap.Accounts (attached.owners.map AnyRc.box)
  made : attached.heap.strong.length = accepted.length
  named : ∀ owner ∈ attached.owners,
    accepted[owner.box]? = some owner.state

section Steps

variable {attached next : Attached Raw Payload}
  {accepted : List (NativeState Payload)}

/-- Nobody has taken or given up a state. -/
theorem Owned.same (owned : attached.Owned accepted)
    (heap : next.heap = attached.heap)
    (owners : next.owners.Perm attached.owners) : next.Owned accepted where
  accounts := by
    rw [heap]
    exact owned.accounts.perm (owners.map AnyRc.box).symm
  made := by
    rw [heap]
    exact owned.made
  named := fun owner member =>
    owned.named owner (owners.mem_iff.mp member)

/-- One owner has given up its state. -/
theorem Owned.dropped (owned : attached.Owned accepted)
    (owner : AnyRc Payload)
    (heap : next.heap = attached.heap.drop owner.box)
    (owners : attached.owners.Perm (owner :: next.owners)) :
    next.Owned accepted where
  accounts := by
    rw [heap]
    exact (owned.accounts.perm (owners.map AnyRc.box)).drop
  made := by
    rw [heap, Heap.length_drop]
    exact owned.made
  named := fun other member =>
    owned.named other (owners.mem_iff.mpr (List.mem_cons_of_mem _ member))

/-- A state has one owner more. -/
theorem Owned.cloned (owned : attached.Owned accepted)
    (owner : AnyRc Payload)
    (member : owner ∈ attached.owners)
    (heap : next.heap = attached.heap.clone owner.box)
    (owners : next.owners.Perm (owner :: attached.owners)) :
    next.Owned accepted where
  accounts := by
    rw [heap]
    exact (owned.accounts.clone (List.mem_map_of_mem member)).perm
      (owners.map AnyRc.box).symm
  made := by
    rw [heap, Heap.length_clone]
    exact owned.made
  named := by
    intro other among
    cases List.mem_cons.mp (owners.mem_iff.mp among) with
    | inl same =>
        rw [same]
        exact owned.named owner member
    | inr before => exact owned.named other before

/-- A state was accepted. -/
theorem Owned.added (owned : attached.Owned accepted)
    (state : NativeState Payload)
    (heap : next.heap = attached.heap.alloc.2)
    (owners : next.owners.Perm
      (⟨attached.heap.alloc.1, state⟩ :: attached.owners)) :
    next.Owned (accepted ++ [state]) where
  accounts := by
    rw [heap]
    exact owned.accounts.alloc.perm (owners.map AnyRc.box).symm
  made := by
    rw [heap, Heap.alloc, List.length_append, List.length_append, owned.made]
    rfl
  named := by
    intro other among
    cases List.mem_cons.mp (owners.mem_iff.mp among) with
    | inl same =>
        rw [same, Heap.alloc, owned.made]
        exact List.getElem?_concat_length
    | inr before =>
        have found := owned.named other before
        obtain ⟨bound, _⟩ := List.getElem?_eq_some_iff.mp found
        rw [List.getElem?_append_left bound]
        exact found

theorem leased_cons {frame : Activation Raw Payload}
    {rest : List (Activation Raw Payload)}
    (top : attached.stack = frame :: rest) :
    attached.leased = frame.leases ++ rest.flatMap Activation.leases := by
  rw [leased, top, List.flatMap_cons]

/-- Neither the calls under way nor a teardown own anything else. -/
theorem Owned.restacked (owned : attached.Owned accepted)
    (heap : next.heap = attached.heap)
    (states : next.shared.nativeStates.store =
      attached.shared.nativeStates.store)
    (leased : next.leased = attached.leased)
    (retiring : next.retiring = attached.retiring) :
    next.Owned accepted := by
  apply owned.same heap
  rw [owners, owners, states, leased, retiring]

theorem Retires.leased {id : NativeId} {value : Option (AnyRc Payload)}
    (retires : attached.Retires id value next) :
    next.leased = attached.leased := by
  unfold Attached.leased
  rw [retires.stack]

theorem Retires.retiring {id : NativeId} {value : Option (AnyRc Payload)}
    (retires : attached.Retires id value next) :
    next.retiring = attached.retiring := by
  unfold Attached.retiring
  rw [retires.teardown]

theorem Retires.limit {id : NativeId} {value : Option (AnyRc Payload)}
    (retires : attached.Retires id value next) :
    next.shared.nativeStates.limit = attached.shared.nativeStates.limit := by
  cases retires with
  | nothing unnamed => rfl
  | state named sound moved live limit => exact limit

/-- The registry hands its states to a teardown that has none yet. -/
theorem Owned.drained (owned : attached.Owned accepted)
    (heap : next.heap = attached.heap)
    (states : next.shared.nativeStates =
      (attached.shared.nativeStates.drain).1)
    (leased : next.leased = attached.leased)
    (none : attached.retiring = [])
    (retiring : next.retiring =
      (attached.shared.nativeStates.drain).2) : next.Owned accepted := by
  apply owned.same heap
  rw [owners, owners, states, leased, none, retiring,
    NativeRegistry.drain_held, NativeRegistry.drain_values, List.map_nil,
    List.nil_append, List.append_nil]
  exact List.perm_append_comm

/-- The registry gives up what it takes out. -/
theorem Owned.retired (owned : attached.Owned accepted) {id : NativeId}
    {value : Option (AnyRc Payload)}
    (retires : attached.Retires id value next) : next.Owned accepted := by
  cases retires with
  | nothing unnamed => exact owned
  | @state value registry named sound moved live limit =>
      refine owned.dropped value rfl ?_
      have balance := moved.balance.map Prod.snd
      rw [List.append_nil] at balance
      exact balance.append_right _

end Steps

section Moves

variable [DecidableEq Raw] {attached next : Attached Raw Payload}
  {op : Op Raw Payload} {reply : Reply Raw Payload}
  {accepted : List (NativeState Payload)}

/-- Every move but an acceptance keeps the states it found. -/
theorem Moves.owned (moves : attached.Moves op reply next)
    (owned : attached.Owned accepted)
    (installs : ∀ state, op ≠ .tryInstallNativeState state) :
    next.Owned accepted := by
  cases moves with
  | rested plain => exact owned
  | wasDestroyed begins destroyed replies => exact owned
  | entered available admitted => exact owned.restacked rfl rfl rfl rfl
  | left top =>
      exact owned.restacked rfl rfl (leased_cons top).symm rfl
  | @pushed frame waits formed protects boxes functions notEntry room =>
      refine owned.restacked rfl rfl ?_ rfl
      rw [leased_cons rfl, Activation.leases_of_boxes boxes]
      rfl
  | popped plain top boxes notEntry publishes =>
      refine owned.restacked rfl rfl ?_ rfl
      rw [leased_cons top, Activation.leases_of_boxes boxes]
      rfl
  | replaced values top formed slots protects oldBoxes newBoxes oldFunctions
      newFunctions oldNotEntry newNotEntry =>
      refine owned.restacked rfl rfl ?_ rfl
      rw [leased_cons top, leased_cons rfl,
        Activation.leases_of_boxes oldBoxes,
        Activation.leases_of_boxes newBoxes]
  | handed top holds boxes functions notEntry covered =>
      obtain ⟨_, _, holder, held, _⟩ := Activation.hold_eq holds
      refine owned.restacked rfl rfl ?_ rfl
      rw [leased_cons top, leased_cons rfl, List.flatMap_cons,
        Activation.leases_of_boxes boxes, Activation.leases_of_boxes holder,
        Activation.leases_of_boxes held]
      rfl
  | resolved top holds room =>
      obtain ⟨_, _, holder, held, _⟩ := Activation.hold_eq holds
      refine owned.restacked rfl rfl ?_ rfl
      rw [leased_cons top, leased_cons rfl,
        Activation.leases_of_boxes holder, Activation.leases_of_boxes held]
  | persisted roots waits soundNext moved =>
      exact owned.restacked rfl rfl rfl rfl
  | unrooted roots soundNext moved => exact owned.restacked rfl rfl rfl rfl
  | requested roots soundNext same => exact owned.restacked rfl rfl rfl rfl
  | registered waits fresh installed => exact owned.restacked rfl rfl rfl rfl
  | unregistered top publishes =>
      exact owned.restacked rfl rfl (leased_cons top).symm rfl
  | accepted installed waits soundNext moved live limit =>
      exact absurd installed (installs _)
  | refused top retires =>
      refine (owned.retired retires).restacked rfl rfl ?_ rfl
      rw [retires.leased, leased_cons top]
      rfl
  | rolledBack top retires =>
      refine (owned.retired retires).restacked rfl rfl ?_ rfl
      rw [retires.leased, leased_cons top]
      rfl
  | @leased handle lease reads waits named ofType =>
      have held := Store.get_eq_some_iff_held.mp named
      refine owned.cloned lease ?_ rfl ?_
      · exact List.mem_append_left _ (List.mem_map_of_mem held)
      · exact List.perm_middle
  | @operated lease rest top =>
      refine owned.dropped lease rfl ?_
      rw [owners, leased_cons top]
      exact List.perm_middle
  | signalled token => exact owned.restacked rfl rfl rfl rfl
  | taken waits => exact owned.restacked rfl rfl rfl rfl
  | reclaimed top retires =>
      refine (owned.retired retires).restacked rfl rfl ?_ rfl
      rw [retires.leased, leased_cons top]
      rfl
  | drainRefused failure => exact owned.restacked rfl rfl rfl rfl
  | released ends engine available empty begins =>
      refine owned.restacked rfl rfl rfl ?_
      unfold Attached.retiring
      rw [available_teardown available]
      rfl
  | abandoned detaches available empty ends =>
      refine owned.restacked rfl rfl rfl ?_
      unfold Attached.retiring
      rw [available_teardown available]
      rfl
  | dropped drops available empty live ends =>
      refine owned.restacked rfl rfl rfl ?_
      unfold Attached.retiring
      rw [available_teardown available]
      rfl
  | disowned destroyed => exact owned.restacked rfl rfl rfl rfl
  | queueClosed under phase =>
      refine owned.restacked rfl rfl rfl ?_
      simp only [retiring, withPhase, under, phase, TeardownPhase.states]
  | settled under phase retires =>
      refine (owned.retired retires).restacked rfl rfl rfl ?_
      rw [retires.retiring]
      simp only [retiring, withPhase, under, phase, TeardownPhase.states]
  | completed under engine phase ends =>
      refine owned.drained rfl rfl rfl ?_ rfl
      simp only [retiring, under, phase, TeardownPhase.states]
  | retired under bare phase =>
      refine owned.drained rfl rfl rfl ?_ rfl
      simp only [retiring, under, phase, TeardownPhase.states]
  | @destroyed teardown state states report count under phase =>
      refine owned.dropped state rfl ?_
      simp only [owners, retiring, withPhase, under, phase,
        TeardownPhase.states]
      rw [← List.append_assoc, ← List.append_assoc]
      exact List.perm_middle
  | finished advances under phase kind replies =>
      refine owned.restacked rfl rfl rfl ?_
      simp only [retiring, under, phase, TeardownPhase.states]
  | forsaken under phase kind =>
      refine owned.restacked rfl rfl rfl ?_
      simp only [retiring, under, phase, TeardownPhase.states]

omit [DecidableEq Raw] in
/-- An acceptance adds a state that the registry owns. -/
theorem Accepts.owned {state : NativeState Payload} {id : NativeId}
    (accepts : attached.Accepts state id next)
    (owned : attached.Owned accepted) : next.Owned (accepted ++ [state]) := by
  have balance := accepts.moved.balance.map Prod.snd
  rw [List.map_append, List.nil_append] at balance
  have added : (next.shared.nativeStates.store.held.map Prod.snd).Perm
      (⟨attached.heap.alloc.1, state⟩ ::
        attached.shared.nativeStates.store.held.map Prod.snd) :=
    balance.symm.trans List.perm_append_comm
  rw [accepts.same] at added ⊢
  exact owned.added state rfl (added.append_right _)

end Moves

/-! ## What a teardown leaves -/

/-- Once a teardown has begun no call is under way, and once it has taken the
states out of the registry none is left there. -/
structure Emptied (attached : Attached Raw Payload) : Prop where
  stack : attached.Torn → attached.stack = []
  states : attached.Torn → (∀ teardown, attached.teardown = some teardown →
    teardown.phase.isRetiring = true) →
    attached.shared.nativeStates.store.held = []

section Teardowns

variable {attached next : Attached Raw Payload}

/-- A move in a call under way, which no teardown has ended. -/
theorem Emptied.busy (emptied : attached.Emptied)
    (waits : attached.stack ≠ [])
    (teardown : next.teardown = attached.teardown)
    (gate : next.shared.gate = attached.shared.gate)
    (owner : next.owner = attached.owner) : next.Emptied := by
  have idle : ¬next.Torn := fun torn =>
    waits (emptied.stack ((torn_congr teardown gate owner).mp torn))
  exact ⟨fun torn => absurd torn idle, fun torn => absurd torn idle⟩

/-- A state is retired in a call under way. -/
theorem Emptied.retired (emptied : attached.Emptied)
    {frame : Activation Raw Payload} {rest : List (Activation Raw Payload)}
    (top : attached.stack = frame :: rest) {id : NativeId}
    {value : Option (AnyRc Payload)}
    (retires : attached.Retires id value next)
    (stack : List (Activation Raw Payload)) :
    (next.withStack stack).Emptied := by
  apply emptied.busy (waits_of_cons top)
  · exact retires.teardown
  · rw [retires.fields]
    rfl
  · rw [retires.fields]
    rfl

/-- What can still be entered is not torn down. -/
theorem Emptied.live (torn : ¬next.Torn) : next.Emptied :=
  ⟨fun past => absurd past torn, fun past => absurd past torn⟩

/-- A teardown that has still to retire the states. -/
theorem Emptied.begun {teardown : Teardown Payload}
    (under : next.teardown = some teardown) (stack : next.stack = [])
    (phase : teardown.phase.isRetiring = false) : next.Emptied where
  stack := fun _ => stack
  states := by
    intro _ retiring
    rw [retiring teardown under] at phase
    cases phase

/-- A teardown that has taken the states out of the registry. -/
theorem Emptied.gone (emptied : attached.Emptied)
    {teardown : Teardown Payload}
    (under : attached.teardown = some teardown)
    (phase : teardown.phase.isRetiring = true) :
    attached.shared.nativeStates.store.held = [] := by
  refine emptied.states (Or.inl ?_) ?_
  · rw [under]
    exact Option.some_ne_none _
  · intro other same
    cases under.symm.trans same
    exact phase

/-- Nothing is left in the registry. -/
theorem Emptied.swept (stack : next.stack = [])
    (states : next.shared.nativeStates.store.held = []) : next.Emptied :=
  ⟨fun _ => stack, fun _ _ => states⟩

end Teardowns

section Moves

variable [DecidableEq Raw] {attached next : Attached Raw Payload}
  {op : Op Raw Payload} {reply : Reply Raw Payload}

/-- The limit of the registry is fixed. -/
theorem Moves.nativeLimit (moves : attached.Moves op reply next) :
    next.shared.nativeStates.limit = attached.shared.nativeStates.limit := by
  cases moves with
  | accepted installs waits soundNext moved live limit => exact limit
  | refused top retires => exact retires.limit
  | rolledBack top retires => exact retires.limit
  | reclaimed top retires => exact retires.limit
  | settled under phase retires => exact retires.limit
  | _ => rfl

theorem Moves.emptied (moves : attached.Moves op reply next)
    (sound : attached.Sound) (emptied : attached.Emptied) :
    next.Emptied := by
  cases moves with
  | rested plain => exact emptied
  | wasDestroyed begins destroyed replies => exact emptied
  | entered available admitted =>
      refine .live (not_torn available ?_)
      have active := (tryEnter_ok admitted).2
      intro destroyed
      cases active.symm.trans destroyed
  | left top =>
      have waits := waits_of_cons top
      exact .live fun torn => waits (emptied.stack torn)
  | pushed waits formed protects boxes functions notEntry room =>
      exact emptied.busy waits rfl rfl rfl
  | popped plain top boxes notEntry publishes =>
      exact emptied.busy (waits_of_cons top) rfl rfl rfl
  | replaced values top formed slots protects oldBoxes newBoxes oldFunctions
      newFunctions oldNotEntry newNotEntry =>
      exact emptied.busy (waits_of_cons top) rfl rfl rfl
  | handed top holds boxes functions notEntry covered =>
      exact emptied.busy (waits_of_cons top) rfl rfl rfl
  | resolved top holds room =>
      exact emptied.busy (waits_of_cons top) rfl rfl rfl
  | persisted roots waits soundNext moved =>
      exact emptied.busy waits rfl rfl rfl
  | unrooted roots soundNext moved => exact ⟨emptied.stack, emptied.states⟩
  | requested roots soundNext same => exact ⟨emptied.stack, emptied.states⟩
  | registered waits fresh installs => exact emptied.busy waits rfl rfl rfl
  | unregistered top publishes =>
      exact emptied.busy (waits_of_cons top) rfl rfl rfl
  | accepted installs waits soundNext moved live limit =>
      exact emptied.busy waits rfl rfl rfl
  | refused top retires => exact emptied.retired top retires _
  | rolledBack top retires => exact emptied.retired top retires _
  | leased reads waits named ofType => exact emptied.busy waits rfl rfl rfl
  | operated top => exact emptied.busy (waits_of_cons top) rfl rfl rfl
  | signalled token => exact ⟨emptied.stack, emptied.states⟩
  | taken waits => exact emptied.busy waits rfl rfl rfl
  | reclaimed top retires => exact emptied.retired top retires _
  | drainRefused failure =>
      have same : (attached.withGate
          attached.shared.gate.requestDrain).Torn ↔ attached.Torn :=
        or_congr Iff.rfl (or_congr (requestDrain_destroyed _) Iff.rfl)
      exact ⟨fun torn => emptied.stack (same.mp torn),
        fun torn => emptied.states (same.mp torn)⟩
  | released ends engine available empty begins =>
      exact .begun rfl empty rfl
  | abandoned detaches available empty ends => exact .begun rfl empty rfl
  | dropped drops available empty live ends => exact .begun rfl empty rfl
  | disowned destroyed =>
      have torn : attached.Torn := Or.inr (Or.inl destroyed)
      exact ⟨fun _ => emptied.stack torn, fun _ => emptied.states torn⟩
  | queueClosed under phase =>
      exact .begun rfl (sound.tearing _ under).1 rfl
  | settled under phase retires =>
      refine .begun rfl ?_ rfl
      exact retires.stack.trans (sound.tearing _ under).1
  | completed under engine phase ends =>
      exact .swept (sound.tearing _ under).1 (NativeRegistry.drain_held _)
  | retired under bare phase =>
      exact .swept (sound.tearing _ under).1 (NativeRegistry.drain_held _)
  | destroyed under phase =>
      exact .swept (sound.tearing _ under).1
        (emptied.gone under (by rw [phase]; rfl))
  | finished advances under phase kind replies =>
      exact .swept (sound.tearing _ under).1
        (emptied.gone under (by rw [phase]; rfl))
  | forsaken under phase kind =>
      exact .swept (sound.tearing _ under).1
        (emptied.gone under (by rw [phase]; rfl))

end Moves

/-! ## Every run -/

/-- The state that an exchange has accepted. -/
def acceptedBy
    (exchange : Exchange (Invocation Raw Payload) (Reply Raw Payload)) :
    List (NativeState Payload) :=
  match exchange.op.op, exchange.reply with
  | .tryInstallNativeState state, .begun => [state]
  | _, _ => []

/-- The states accepted so far; the number of its box is the place of a state
among them. -/
def acceptedStates
    (trace : List (Exchange (Invocation Raw Payload) (Reply Raw Payload))) :
    List (NativeState Payload) :=
  trace.flatMap acceptedBy

section Runs

variable [DecidableEq Raw] {engine : Engine Raw} {limits : JscRuntimeLimits}
  {trace : List (Exchange (Invocation Raw Payload) (Reply Raw Payload))}
  {attached next : Attached Raw Payload}

omit [DecidableEq Raw] in
theorem acceptedBy_of_ne
    {exchange : Exchange (Invocation Raw Payload) (Reply Raw Payload)}
    (installs : ∀ state, exchange.op.op ≠ .tryInstallNativeState state) :
    acceptedBy exchange = [] := by
  unfold acceptedBy
  split
  · rename_i state same _
    exact absurd same (installs state)
  · rfl

/-- What an exchange accepts is owned after it. -/
theorem Owned.performed {accepted : List (NativeState Payload)}
    (owned : attached.Owned accepted) (sound : attached.Sound)
    {exchange : Exchange (Invocation Raw Payload) (Reply Raw Payload)}
    (step : (attachmentSystem engine limits).step attached exchange next) :
    next.Owned (accepted ++ acceptedBy exchange) := by
  obtain ⟨⟨thread, op⟩, reply⟩ := exchange
  by_cases installs : ∃ state, op = .tryInstallNativeState state
  · obtain ⟨state, rfl⟩ := installs
    obtain ⟨_, outcome⟩ := sound.tryInstallNativeState_cases step
    rcases outcome with ⟨error, rfl, rfl, _⟩ | ⟨id, rfl, accepts, _⟩
    · rw [acceptedBy, List.append_nil]
      exact owned
    · exact accepts.owned owned
  · have others : ∀ state, op ≠ .tryInstallNativeState state :=
      fun state same => installs ⟨state, same⟩
    rw [acceptedBy_of_ne others, List.append_nil]
    exact (sound.moves step).owned owned others

theorem run_owned
    (run : (attachmentSystem engine limits).Run trace attached) :
    attached.Owned (acceptedStates trace) := by
  refine System.Run.invariant
    (fun trace attached => attached.Owned (acceptedStates trace)) ?_ ?_ run
  · intro attached fresh
    cases fresh with
    | runtime id address owner context =>
        exact ⟨Heap.accounts_new, rfl, fun _ member => by cases member⟩
    | attachment id address owner finalEntryPolicy =>
        exact ⟨Heap.accounts_new, rfl, fun _ member => by cases member⟩
  · intro trace attached exchange next run owned step
    rw [acceptedStates, List.flatMap_append, List.flatMap_singleton]
    exact owned.performed (run_sound run) step

theorem run_emptied
    (run : (attachmentSystem engine limits).Run trace attached) :
    attached.Emptied := by
  refine System.Run.invariant (fun _ attached => attached.Emptied) ?_ ?_ run
  · intro attached fresh
    exact .live fresh.idle.2.2.2
  · intro trace attached exchange next run emptied step
    exact (run_moves run step).emptied (run_sound run) emptied

/-- The limit of the registry is the one it was made with. -/
theorem run_nativeLimit
    (run : (attachmentSystem engine limits).Run trace attached) :
    attached.shared.nativeStates.limit = limits.nativeStates := by
  refine System.Run.invariant
    (fun _ attached =>
      attached.shared.nativeStates.limit = limits.nativeStates) ?_ ?_ run
  · intro attached fresh
    cases fresh with
    | runtime id address owner context => rfl
    | attachment id address owner finalEntryPolicy => rfl
  · intro trace attached exchange next run limit step
    exact (run_moves run step).nativeLimit.trans limit

/-- What holds of the native states accepted so far. -/
structure OwnsStates (limits : JscRuntimeLimits)
    (accepted : List (NativeState Payload))
    (attached : Attached Raw Payload) : Prop where
  /-- Nothing is destroyed twice. -/
  once : attached.heap.destroyed.Nodup
  /-- A state is destroyed as soon as it has no owner left. -/
  destroyed_iff : ∀ box, box ∈ attached.heap.destroyed ↔
    box < accepted.length ∧ ∀ owner ∈ attached.owners, owner.box ≠ box
  /-- An operation uses the state that was accepted, and it is alive. -/
  operating : ∀ lease, .operating lease ∈ attached.stack →
    accepted[lease.box]? = some lease.state ∧
      lease.box ∉ attached.heap.destroyed
  registered : ∀ typeId id value,
    attached.shared.nativeStates.get typeId id = some value →
    accepted[value.box]? = some value.state ∧
      value.box ∉ attached.heap.destroyed
  live : attached.shared.nativeStates.live =
    attached.shared.nativeStates.slots.countP fun slot => slot.value.isSome
  bounded : attached.shared.nativeStates.live ≤ limits.nativeStates
  /-- A teardown that has ended leaves nothing. -/
  ended : attached.Torn → attached.teardown = none →
    ∀ box < accepted.length, attached.heap.destroyed.count box = 1

omit [DecidableEq Raw] in
theorem Owned.alive {accepted : List (NativeState Payload)}
    (owned : attached.Owned accepted) {owner : AnyRc Payload}
    (member : owner ∈ attached.owners) :
    accepted[owner.box]? = some owner.state ∧
      owner.box ∉ attached.heap.destroyed :=
  ⟨owned.named owner member,
    owned.accounts.alive (List.mem_map_of_mem member)⟩

omit [DecidableEq Raw] in
theorem Owned.destroyed_iff {accepted : List (NativeState Payload)}
    (owned : attached.Owned accepted) (box : Nat) :
    box ∈ attached.heap.destroyed ↔
      box < accepted.length ∧ ∀ owner ∈ attached.owners, owner.box ≠ box := by
  constructor
  · intro gone
    have empty := (owned.accounts.destroyed_iff box).mp gone
    refine ⟨?_, ?_⟩
    · rw [← owned.made]
      exact (List.getElem?_eq_some_iff.mp empty).1
    · intro owner member same
      subst same
      exact (owned.alive member).2 gone
  · intro settled
    obtain ⟨made, nobody⟩ := settled
    rw [← owned.made] at made
    apply owned.accounts.settled made
    intro listed
    obtain ⟨owner, member, same⟩ := List.mem_map.mp listed
    exact nobody owner member same

omit [DecidableEq Raw] in
/-- The count of the registry is the number of slots in use. -/
theorem live_eq (sound : attached.shared.nativeStates.Sound) :
    attached.shared.nativeStates.live =
      attached.shared.nativeStates.slots.countP
        fun slot => slot.value.isSome := by
  have values := Store.held_values attached.shared.nativeStates.store
  have lengths := congrArg List.length values
  rw [List.length_map, ← sound.live, NativeRegistry.store,
    List.filterMap_map, List.length_filterMap_eq_countP] at lengths
  exact lengths

/-- Over every run a native state is owned by whoever can still reach it, and
destroyed once, when the last of them is gone. -/
theorem run_ownsStates
    (run : (attachmentSystem engine limits).Run trace attached) :
    attached.OwnsStates limits (acceptedStates trace) where
  once := (run_owned run).accounts.once
  destroyed_iff := (run_owned run).destroyed_iff
  operating := by
    intro lease under
    apply (run_owned run).alive
    refine List.mem_append_right _ (List.mem_append_left _ ?_)
    exact List.mem_flatMap.mpr ⟨_, under, List.mem_singleton.mpr rfl⟩
  registered := by
    intro typeId id value found
    have named :=
      ((run_sound run).nativeStates.get_eq_some_iff.mp found).1
    apply (run_owned run).alive
    exact List.mem_append_left _
      (List.mem_map_of_mem (Store.get_eq_some_iff_held.mp named))
  live := live_eq (run_sound run).nativeStates
  bounded := by
    rw [← run_nativeLimit run]
    exact (run_sound run).nativeStates.liveFits
  ended := by
    intro torn idle box passed
    have owned := run_owned run
    have emptied := run_emptied run
    have nobody : attached.owners = [] := by
      unfold owners leased retiring
      rw [emptied.stack torn, idle, emptied.states torn ?_]
      · rfl
      · intro teardown under
        cases idle.symm.trans under
    have gone : box ∈ attached.heap.destroyed := by
      refine (owned.destroyed_iff box).mpr ⟨passed, ?_⟩
      intro owner member
      rw [nobody] at member
      cases member
    exact List.count_eq_one_of_mem owned.accounts.once gone

end Runs

/-- The state of an operation under way is retired, and its slot is used
again before the operation ends. -/
def reuseUnderLease : List (Op Nat Nat) :=
  [.enter (some 0) ⟨none, none⟩, .lendContext, .tryInstallNativeState ⟨0, 5⟩,
    .makeNativeObject true (some 40), .publishNativeObject true true none,
    .withNativeState ⟨some 0, ⟨0, 1⟩, 0⟩, .signal ⟨0, 1⟩,
    .enter (some 0) ⟨some 0, some 0⟩, .drainNativeFinalizers, .reclaim,
    .reclaim, .lendContext, .tryInstallNativeState ⟨0, 6⟩,
    .makeNativeObject true (some 41), .publishNativeObject true true none,
    .close, .leave, .endOperation]

theorem reuseUnderLease_ownsStates :
    ∃ trace attached,
      (attachment smallScalars).performAll
        (.new (.new firstAttachment 0 0 .bestEffort threeRoots) .host)
        (reuseUnderLease.map (Invocation.mk 0)) = some (trace, attached) ∧
      attached.OwnsStates threeRoots (acceptedStates trace) := by
  obtain ⟨trace, attached, performed, run⟩ :=
    (attachment smallScalars).exists_run_of_performAll
      (Fresh threeRoots) (reuseUnderLease.map (Invocation.mk 0))
      (.attachment firstAttachment 0 0 .bestEffort) (by decide)
  exact ⟨trace, attached, performed, run_ownsStates run⟩

end Attached

end RustJsi.BackendJsc

import RustJsi.BackendJsc.AttachedInversion
import RustJsi.Nested.CallStack

/-!
# Soundness along a run

Every move of a sound attachment leads to a sound one, so no operation of a
run ever stops the program.
-/

namespace RustJsi.BackendJsc

open Counted Generational Interleaving
open RustJsi.Host (EntryGate EntryGuard FinalEntryOutcome HostState)

variable {Raw Payload : Type*}

/-- The bottom of a stack is an entry. -/
def Grounded (stack : List (Activation Raw Payload)) : Prop :=
  ∀ frame, stack.getLast? = some frame → frame.isEntry = true

section Stacks

variable {frame : Activation Raw Payload}
  {rest : List (Activation Raw Payload)}

theorem Grounded.cons (grounded : Grounded rest) (waits : rest ≠ []) :
    Grounded (frame :: rest) := by
  intro last bottom
  cases rest with
  | nil => exact absurd rfl waits
  | cons below rest => exact grounded last bottom

theorem Grounded.entry (grounded : Grounded rest) :
    Grounded (.entry :: rest) := by
  cases rest with
  | nil =>
      intro last bottom
      cases bottom
      rfl
  | cons below rest => exact grounded.cons (List.cons_ne_nil _ _)

theorem Grounded.tail (grounded : Grounded (frame :: rest)) :
    Grounded rest := by
  intro last bottom
  cases rest with
  | nil => cases bottom
  | cons below rest => exact grounded last bottom

end Stacks

namespace Activation

variable {holder held : Activation Raw Payload} {value : Raw}

/-- A scope that takes a root is a scope with one root more. -/
theorem hold_eq (holds : holder.hold value = some held) :
    held.slots = holder.slots + 1 ∧
      held.protects.Perm (value :: holder.protects) ∧
      holder.boxes = [] ∧ held.boxes = [] ∧
      holder.functions = [] ∧ held.functions = [] ∧
      holder.isEntry = false ∧ held.isEntry = false ∧ held.Formed := by
  cases holder with
  | context localRoots scopeDepth =>
      cases holds
      have roots := localRoots.values_push value
      exact ⟨roots.length_eq, roots, rfl, rfl, rfl, rfl, rfl, rfl, trivial⟩
  | scope roots =>
      cases holds
      have pushed := roots.values_push value
      exact ⟨pushed.length_eq, pushed, rfl, rfl, rfl, rfl, rfl, rfl, trivial⟩
  | entry => cases holds
  | producing production reservation => cases holds
  | calling call => cases holds
  | registering function => cases holds
  | creating id => cases holds
  | publishing object id => cases holds
  | rolledBack object error => cases holds
  | operating lease => cases holds
  | reclaiming tokens report => cases holds

end Activation

namespace Attached

variable {attached next : Attached Raw Payload}

theorem Sound.grounded' (sound : attached.Sound) : Grounded attached.stack :=
  sound.grounded

/-- The engine, the heap and the owner do not matter. -/
theorem Sound.of_same (sound : attached.Sound)
    (shared : next.shared = attached.shared)
    (stack : next.stack = attached.stack)
    (teardown : next.teardown = attached.teardown) : next.Sound := by
  obtain ⟨_, _, _, _, _, _, _⟩ := next
  cases shared
  cases stack
  cases teardown
  exact ⟨sound.roots, sound.nativeStates, sound.used, sound.bounded,
    sound.formed, sound.registered, sound.entered, sound.grounded, sound.idle,
    sound.tearing⟩

/-- Only the calls under way changed, and what belongs to them. -/
theorem Sound.restacked (sound : attached.Sound)
    (busy : attached.stack ≠ [])
    (gate : next.shared.gate = attached.shared.gate)
    (teardown : next.teardown = attached.teardown)
    (roots : next.shared.roots.Sound)
    (nativeStates : next.shared.nativeStates.Sound)
    (used : next.shared.localBudget.used = next.slots)
    (bounded : next.shared.localBudget.used ≤ next.shared.localBudget.limit)
    (formed : ∀ frame ∈ next.stack, frame.Formed)
    (registered : (next.stack.flatMap Activation.functions).Subperm
      next.shared.hostFunctions)
    (entries : next.entries = attached.entries)
    (grounded : Grounded next.stack) : next.Sound where
  roots := roots
  nativeStates := nativeStates
  used := used
  bounded := bounded
  formed := formed
  registered := registered
  entered := by
    rw [gate, entries]
    exact sound.entered
  grounded := grounded
  idle := by
    rw [gate, teardown]
    exact sound.idle
  tearing := by
    intro under torn
    rw [teardown] at torn
    exact absurd (sound.tearing under torn).1 busy

/-- The calls under way stay as they are. -/
theorem Sound.unstacked (sound : attached.Sound)
    (stack : next.stack = attached.stack)
    (gate : next.shared.gate = attached.shared.gate)
    (budget : next.shared.localBudget = attached.shared.localBudget)
    (functions : next.shared.hostFunctions = attached.shared.hostFunctions)
    (roots : next.shared.roots.Sound)
    (nativeStates : next.shared.nativeStates.Sound)
    (tearing : next.teardown = attached.teardown) : next.Sound where
  roots := roots
  nativeStates := nativeStates
  used := by
    rw [budget, slots, stack]
    exact sound.used
  bounded := by
    rw [budget]
    exact sound.bounded
  formed := by
    rw [stack]
    exact sound.formed
  registered := by
    rw [stack, functions]
    exact sound.registered
  entered := by
    rw [gate, entries, stack]
    exact sound.entered
  grounded := by
    rw [stack]
    exact sound.grounded
  idle := by
    rw [gate, tearing]
    exact sound.idle
  tearing := by
    rw [gate, tearing, stack]
    exact sound.tearing

section Pieces

variable {frame : Activation Raw Payload}
  {rest : List (Activation Raw Payload)}

theorem Sound.rest_formed (sound : attached.Sound)
    (top : attached.stack = frame :: rest) :
    ∀ frame ∈ rest, frame.Formed := by
  intro below member
  apply sound.formed
  rw [top]
  exact List.mem_cons_of_mem _ member

theorem Sound.cons_formed (sound : attached.Sound) {new : Activation Raw Payload}
    (formed : new.Formed) (top : attached.stack = frame :: rest) :
    ∀ frame ∈ new :: rest, frame.Formed :=
  List.forall_mem_cons.mpr ⟨formed, sound.rest_formed top⟩

theorem Sound.rest_registered (sound : attached.Sound)
    (top : attached.stack = frame :: rest) :
    (frame.functions ++ rest.flatMap Activation.functions).Subperm
      attached.shared.hostFunctions := by
  have registered := sound.registered
  rw [top, List.flatMap_cons] at registered
  exact registered

theorem Sound.rest_slots (sound : attached.Sound)
    (top : attached.stack = frame :: rest) :
    attached.shared.localBudget.used =
      frame.slots + total Activation.slots rest := by
  rw [sound.used, slots_cons top]

theorem entries_rest (top : attached.stack = frame :: rest)
    (notEntry : frame.isEntry = false) :
    rest.countP Activation.isEntry = attached.entries := by
  rw [entries, top,
    List.countP_cons_of_neg (Bool.eq_false_iff.mp notEntry)]

theorem Sound.rest_grounded (sound : attached.Sound)
    (top : attached.stack = frame :: rest) : Grounded rest := by
  have grounded := sound.grounded'
  rw [top] at grounded
  exact grounded.tail

end Pieces

theorem Retires.fields {id : NativeId} {value : Option (AnyRc Payload)}
    (retires : attached.Retires id value next) :
    next = { attached with
      shared.nativeStates := next.shared.nativeStates
      heap := next.heap } := by
  cases retires with
  | nothing unnamed => rfl
  | state named sound moved live limit => rfl

theorem Retires.stack {id : NativeId} {value : Option (AnyRc Payload)}
    (retires : attached.Retires id value next) :
    next.stack = attached.stack := by
  rw [retires.fields]

theorem Retires.teardown {id : NativeId} {value : Option (AnyRc Payload)}
    (retires : attached.Retires id value next) :
    next.teardown = attached.teardown := by
  rw [retires.fields]

theorem Retires.nativeStates {id : NativeId}
    {value : Option (AnyRc Payload)}
    (retires : attached.Retires id value next)
    (sound : attached.shared.nativeStates.Sound) :
    next.shared.nativeStates.Sound := by
  cases retires with
  | nothing unnamed => exact sound
  | state named soundNext moved live limit => exact soundNext

/-- An attachment whose native states changed is as sound as before. -/
theorem Sound.retired (sound : attached.Sound) {id : NativeId}
    {value : Option (AnyRc Payload)}
    (retires : attached.Retires id value next) : next.Sound := by
  have soundStates := retires.nativeStates sound.nativeStates
  rw [retires.fields]
  exact sound.unstacked rfl rfl rfl rfl sound.roots soundStates rfl

/-- The top of the stack is replaced by a frame of the same kind. -/
theorem Sound.replaced (sound : attached.Sound)
    {old new : Activation Raw Payload} {rest : List (Activation Raw Payload)}
    (top : attached.stack = old :: rest) (formed : new.Formed)
    (slots : new.slots = old.slots)
    (oldFunctions : old.functions = []) (newFunctions : new.functions = [])
    (oldNotEntry : old.isEntry = false) (newNotEntry : new.isEntry = false) :
    (attached.withStack (new :: rest)).Sound := by
  refine sound.restacked (waits_of_top top) rfl rfl sound.roots
    sound.nativeStates ?_ ?_ ?_ ?_ ?_ ?_
  · refine (sound.rest_slots top).trans ?_
    rw [← slots]
    rfl
  · exact sound.bounded
  · exact sound.cons_formed formed top
  · have registered := sound.rest_registered top
    rw [oldFunctions] at registered
    rw [withStack, List.flatMap_cons, newFunctions]
    exact registered
  · rw [← entries_rest top oldNotEntry]
    exact List.countP_cons_of_neg (by rw [newNotEntry]; nofun)
  · exact (sound.rest_grounded top).cons (sound.below top oldNotEntry)

/-- The top of the stack is given up with its slots. -/
theorem Sound.popped (sound : attached.Sound)
    {frame : Activation Raw Payload} {rest : List (Activation Raw Payload)}
    (top : attached.stack = frame :: rest)
    (notEntry : frame.isEntry = false) :
    ((attached.charge (attached.shared.localBudget.used -
      frame.slots)).withStack rest).Sound := by
  have slots := sound.rest_slots top
  refine sound.restacked (waits_of_top top) rfl rfl sound.roots
    sound.nativeStates ?_ ?_ ?_ ?_ ?_ ?_
  · change attached.shared.localBudget.used - frame.slots =
      total Activation.slots rest
    omega
  · have bounded := sound.bounded
    change attached.shared.localBudget.used - frame.slots ≤
      attached.shared.localBudget.limit
    omega
  · exact sound.rest_formed top
  · exact (List.sublist_append_right _ _).subperm.trans
      (sound.rest_registered top)
  · exact entries_rest top notEntry
  · exact sound.rest_grounded top

/-- A frame with its slots is put on top of the stack. -/
theorem Sound.pushed (sound : attached.Sound)
    {frame : Activation Raw Payload} (waits : attached.stack ≠ [])
    (formed : frame.Formed) (functions : frame.functions = [])
    (notEntry : frame.isEntry = false)
    (room : attached.shared.localBudget.used + frame.slots ≤
      attached.shared.localBudget.limit) :
    ((attached.charge (attached.shared.localBudget.used +
      frame.slots)).withStack (frame :: attached.stack)).Sound := by
  refine sound.restacked waits rfl rfl sound.roots sound.nativeStates
    ?_ ?_ ?_ ?_ ?_ ?_
  · change attached.shared.localBudget.used + frame.slots =
      frame.slots + attached.slots
    rw [sound.used, Nat.add_comm]
  · exact room
  · exact List.forall_mem_cons.mpr ⟨formed, sound.formed⟩
  · rw [withStack, List.flatMap_cons, functions]
    exact sound.registered
  · exact List.countP_cons_of_neg (by rw [notEntry]; nofun)
  · exact sound.grounded'.cons waits

/-- A frame that charges nothing is put on top of the stack. -/
theorem Sound.pushed_free (sound : attached.Sound)
    {frame : Activation Raw Payload} (waits : attached.stack ≠ [])
    (formed : frame.Formed) (functions : frame.functions = [])
    (notEntry : frame.isEntry = false) (slots : frame.slots = 0) :
    (attached.withStack (frame :: attached.stack)).Sound := by
  have pushed := sound.pushed waits formed functions notEntry
    (by rw [slots]; exact sound.bounded)
  rw [slots] at pushed
  exact pushed

/-- The frame on top of the stack, which charged nothing, is given up. -/
theorem Sound.popped_free (sound : attached.Sound)
    {frame : Activation Raw Payload} {rest : List (Activation Raw Payload)}
    (top : attached.stack = frame :: rest)
    (notEntry : frame.isEntry = false) (slots : frame.slots = 0) :
    (attached.withStack rest).Sound := by
  have popped := sound.popped top notEntry
  rw [slots] at popped
  exact popped

/-- A root goes to the scope below the frame that reserved its slot. -/
theorem Sound.handed (sound : attached.Sound) {value : Raw}
    {frame holder held : Activation Raw Payload}
    {rest : List (Activation Raw Payload)}
    (top : attached.stack = frame :: holder :: rest)
    (holds : holder.hold value = some held)
    (functions : frame.functions = []) (notEntry : frame.isEntry = false)
    (covered : 1 ≤ frame.slots) :
    ((attached.charge (attached.shared.localBudget.used - frame.slots +
      1)).withStack (held :: rest)).Sound := by
  obtain ⟨heldSlots, _, _, _, holderFunctions, heldFunctions, holderEntry,
    heldEntry, heldFormed⟩ := Activation.hold_eq holds
  have slots := sound.rest_slots top
  rw [total_cons] at slots
  have popped := sound.popped top notEntry
  have top' : ((attached.charge (attached.shared.localBudget.used -
      frame.slots)).withStack (holder :: rest)).stack = holder :: rest := rfl
  refine sound.restacked (waits_of_top top) rfl rfl sound.roots
    sound.nativeStates ?_ ?_ ?_ ?_ ?_ ?_
  · change attached.shared.localBudget.used - frame.slots + 1 =
      total Activation.slots (held :: rest)
    rw [total_cons, heldSlots]
    omega
  · have bounded := sound.bounded
    change attached.shared.localBudget.used - frame.slots + 1 ≤
      attached.shared.localBudget.limit
    omega
  · exact popped.cons_formed heldFormed top'
  · have registered := sound.rest_registered top
    rw [functions, List.flatMap_cons, holderFunctions] at registered
    rw [withStack, List.flatMap_cons, heldFunctions]
    exact registered
  · rw [← entries_rest top notEntry]
    change (held :: rest).countP _ = (holder :: rest).countP _
    rw [List.countP_cons, List.countP_cons, heldEntry, holderEntry]
  · exact (popped.rest_grounded top').cons (popped.below top' holderEntry)

/-- A registered root goes to the scope on top of the stack. -/
theorem Sound.resolved (sound : attached.Sound) {value : Raw}
    {holder held : Activation Raw Payload}
    {rest : List (Activation Raw Payload)}
    (top : attached.stack = holder :: rest)
    (holds : holder.hold value = some held)
    (room : attached.shared.localBudget.used + 1 ≤
      attached.shared.localBudget.limit) :
    ((attached.charge (attached.shared.localBudget.used + 1)).withStack
      (held :: rest)).Sound := by
  obtain ⟨heldSlots, _, _, _, holderFunctions, heldFunctions, holderEntry,
    heldEntry, heldFormed⟩ := Activation.hold_eq holds
  refine sound.restacked (waits_of_top top) rfl rfl sound.roots
    sound.nativeStates ?_ ?_ ?_ ?_ ?_ ?_
  · change attached.shared.localBudget.used + 1 =
      total Activation.slots (held :: rest)
    rw [total_cons, heldSlots, sound.rest_slots top]
    omega
  · exact room
  · exact sound.cons_formed heldFormed top
  · have registered := sound.rest_registered top
    rw [holderFunctions] at registered
    rw [withStack, List.flatMap_cons, heldFunctions]
    exact registered
  · rw [← entries_rest top holderEntry]
    exact List.countP_cons_of_neg (by rw [heldEntry]; nofun)
  · exact (sound.rest_grounded top).cons (sound.below top holderEntry)

/-! ## Teardown -/

theorem Sound.gated (sound : attached.Sound) {gate : EntryGate}
    (entries : gate.entries = attached.shared.gate.entries)
    (idle : attached.teardown = none →
      gate.cleanup = false ∧ gate.state ≠ .invalid)
    (tearing : ∀ teardown, attached.teardown = some teardown →
      attached.stack = [] ∧ teardown.Guards gate) :
    (attached.withGate gate).Sound :=
  { sound with
    entered := by
      change gate.entries.toNat = attached.entries
      rw [entries]
      exact sound.entered
    idle := idle
    tearing := tearing }

theorem Sound.no_entries (sound : attached.Sound)
    (empty : attached.stack = []) : attached.shared.gate.entries = 0 := by
  have entered := sound.entered
  rw [entries, empty] at entered
  exact UInt32.toNat_inj.mp entered

/-- A request to drain leaves no gate that is idle invalid. -/
theorem Sound.requested_valid (sound : attached.Sound)
    (available : attached.available = true) :
    attached.shared.gate.requestDrain.state ≠ .invalid := by
  obtain ⟨_, notInvalid⟩ := sound.idle (available_teardown available)
  cases (requestDrain_fields attached.shared.gate).2.2.2 with
  | inl same =>
      rw [same]
      exact notInvalid
  | inr drained =>
      rw [drained.2]
      nofun

theorem Sound.draining (sound : attached.Sound)
    (available : attached.available = true)
    (live : attached.shared.gate.state ≠ .destroyed) :
    attached.shared.gate.requestDrain.state = .draining := by
  have valid := sound.requested_valid available
  unfold EntryGate.requestDrain at valid ⊢
  split
  · rfl
  · rename_i inactive
    rw [if_neg inactive] at valid
    cases state : attached.shared.gate.state with
    | active => exact absurd state inactive
    | draining => rfl
    | invalid => exact absurd state valid
    | destroyed => exact absurd state live

/-- A drain that finishes leaves the gate invalid. -/
theorem Sound.drained (sound : attached.Sound)
    (available : attached.available = true) {outcome : FinalEntryOutcome}
    {gate : EntryGate}
    (ends : attached.shared.gate.requestDrain.finishDrain =
      (.ok outcome, gate)) :
    attached.shared.gate.requestDrain.entries = 0 ∧
      attached.shared.gate.requestDrain.cleanup = false ∧
      gate = { attached.shared.gate.requestDrain with
        finalEntry := some outcome, state := .invalid } :=
  (finishDrain_ok ends (sound.requested_valid available)).2

/-- The guards of a teardown do not look into its batch. -/
theorem Sound.phased (sound : attached.Sound)
    {teardown : Teardown Payload} (under : attached.teardown = some teardown)
    {phase : TeardownPhase Payload}
    (same : phase.isRetiring = teardown.phase.isRetiring ∨
      (teardown.kind ≠ .owned ∧ teardown.kind ≠ .withContext)) :
    (attached.withPhase teardown phase).Sound :=
  { sound with
    idle := nofun
    tearing := by
      intro torn phased
      cases phased
      obtain ⟨empty, guards⟩ := sound.tearing teardown under
      refine ⟨empty, guards.trans ?_⟩
      cases same with
      | inl same => rw [same]
      | inr bare =>
          have alike : ∀ retiring other, teardown.kind.guards retiring =
              teardown.kind.guards other := by
            intro retiring other
            unfold TeardownKind.guards
            split
            · rename_i kind
              exact absurd kind bare.1
            · rename_i kind
              exact absurd kind bare.2
            · rfl
            · rfl
            · rfl
          exact alike _ _ }

/-- Nothing is left of the registries that a teardown empties. -/
theorem Sound.emptied (sound : attached.Sound)
    (empty : attached.stack = []) {gate : EntryGate}
    (entries : gate.entries = 0) {teardown : Teardown Payload}
    (guards : teardown.Guards gate)
    (shared : next.shared = { attached.shared with
      gate := gate
      roots := attached.shared.roots.drain.1
      hostFunctions := [] })
    (stack : next.stack = attached.stack)
    (under : next.teardown = some teardown) : next.Sound := by
  have used := sound.used
  have bounded := sound.bounded
  rw [slots, empty] at used
  constructor
  · rw [shared]
    exact sound.roots.drain
  · rw [shared]
    exact sound.nativeStates
  · rw [shared, slots, stack, empty]
    exact used
  · rw [shared]
    exact bounded
  · rw [stack]
    exact sound.formed
  · rw [shared, stack, empty]
    exact List.Subperm.refl []
  · rw [shared, Attached.entries, stack, empty]
    exact congrArg UInt32.toNat entries
  · rw [stack]
    exact sound.grounded
  · intro none
    rw [under] at none
    cases none
  · intro torn same
    rw [under] at same
    cases same
    rw [shared, stack]
    exact ⟨empty, guards⟩

/-! ## Every move -/

theorem Sound.entered_next (sound : attached.Sound)
    (available : attached.available = true) {guard : EntryGuard}
    {gate : EntryGate}
    (admitted : attached.shared.gate.tryEnter = (.ok guard, gate)) :
    ((attached.withGate gate).withStack
      (.entry :: attached.stack)).Sound := by
  have idle := available_teardown available
  have entered : gate.state = attached.shared.gate.state ∧
      gate.cleanup = attached.shared.gate.cleanup ∧
      gate.entries.toNat = attached.shared.gate.entries.toNat + 1 := by
    unfold EntryGate.tryEnter at admitted
    split at admitted
    · cases admitted
    · split at admitted
      · cases admitted
      · rename_i room
        cases admitted
        refine ⟨rfl, rfl, ?_⟩
        have below : attached.shared.gate.entries.toNat <
            attached.shared.gate.limit.value.toNat :=
          UInt32.lt_iff_toNat_lt.mp (UInt32.not_le.mp room)
        have bound := attached.shared.gate.limit.value.toNat_lt
        rw [UInt32.toNat_add]
        exact Nat.mod_eq_of_lt (by simp; omega)
  obtain ⟨state, cleanup, entries⟩ := entered
  exact
    { sound with
      formed := List.forall_mem_cons.mpr ⟨trivial, sound.formed⟩
      used := by
        refine sound.used.trans ?_
        exact (Nat.zero_add _).symm
      entered := by
        rw [withStack, Attached.entries, List.countP_cons_of_pos rfl]
        exact entries.trans (congrArg (· + 1) sound.entered)
      grounded := sound.grounded'.entry
      idle := by
        intro _
        change gate.cleanup = false ∧ gate.state ≠ .invalid
        rw [state, cleanup]
        exact sound.idle idle
      tearing := by
        intro teardown under
        have none := idle.symm.trans under
        cases none }

theorem Sound.left_next (sound : attached.Sound)
    {rest : List (Activation Raw Payload)}
    (top : attached.stack = .entry :: rest) :
    ((attached.withGate attached.shared.gate.dropEntry).withStack
      rest).Sound :=
  { sound with
    formed := sound.rest_formed top
    registered := sound.rest_registered top
    used := by
      refine (sound.rest_slots top).trans ?_
      exact Nat.zero_add _
    entered := by
      have entered := sound.entered
      rw [entries, top, List.countP_cons_of_pos rfl] at entered
      have one : 1 ≤ attached.shared.gate.entries :=
        UInt32.le_iff_toNat_le.mpr (by
          rw [entered]
          exact Nat.le_add_left 1 _)
      change (attached.shared.gate.entries - 1).toNat = _
      rw [UInt32.toNat_sub_of_le _ _ one, entered]
      rfl
    grounded := sound.rest_grounded top
    idle := sound.idle
    tearing := by
      intro teardown under
      have empty := (sound.tearing teardown under).1
      rw [top] at empty
      cases empty }

section

variable [DecidableEq Raw]

omit [DecidableEq Raw] in
theorem Sound.registered_next (sound : attached.Sound) {function : Raw}
    (waits : attached.stack ≠ []) :
    (({ attached with
      shared.hostFunctions :=
        function :: attached.shared.hostFunctions }.protect
      function).withStack (.registering function :: attached.stack)).Sound := by
  refine sound.restacked waits rfl rfl sound.roots sound.nativeStates
    ?_ ?_ ?_ ?_ ?_ ?_
  · refine sound.used.trans ?_
    exact (Nat.zero_add _).symm
  · exact sound.bounded
  · exact List.forall_mem_cons.mpr ⟨trivial, sound.formed⟩
  · exact (List.subperm_cons function).mpr sound.registered
  · exact List.countP_cons_of_neg nofun
  · exact sound.grounded'.cons waits

theorem Sound.unregistered_next (sound : attached.Sound) {function : Raw}
    {rest : List (Activation Raw Payload)}
    (top : attached.stack = .registering function :: rest) :
    ((attached.rollbackHostFunction function).withStack rest).Sound := by
  refine sound.restacked (waits_of_top top) rfl rfl sound.roots
    sound.nativeStates ?_ ?_ ?_ ?_ ?_ ?_
  · refine (sound.rest_slots top).trans ?_
    exact Nat.zero_add _
  · exact sound.bounded
  · exact sound.rest_formed top
  · have registered := (sound.rest_registered top).erase function
    change (function :: rest.flatMap Activation.functions).erase function
      |>.Subperm _ at registered
    rw [List.erase_cons_head] at registered
    exact registered
  · exact entries_rest top rfl
  · exact sound.rest_grounded top

omit [DecidableEq Raw] in
theorem Sound.drainRefused_next (sound : attached.Sound) :
    (attached.withGate attached.shared.gate.requestDrain).Sound := by
  obtain ⟨entries, cleanup, _, state⟩ :=
    requestDrain_fields attached.shared.gate
  apply sound.gated entries
  · intro idle
    obtain ⟨noCleanup, notInvalid⟩ := sound.idle idle
    rw [cleanup]
    refine ⟨noCleanup, ?_⟩
    cases state with
    | inl same =>
        rw [same]
        exact notInvalid
    | inr drained =>
        rw [drained.2]
        nofun
  · intro teardown under
    obtain ⟨empty, guards⟩ := sound.tearing teardown under
    refine ⟨empty, ?_⟩
    have same : attached.shared.gate.requestDrain = attached.shared.gate := by
      unfold EntryGate.requestDrain
      refine if_neg ?_
      intro active
      have state := congrArg Prod.fst guards
      rw [active] at state
      unfold TeardownKind.guards at state
      repeat' split at state
      all_goals cases state
    rw [same]
    exact guards

omit [DecidableEq Raw] in
theorem Sound.finished_next (sound : attached.Sound) (gate : EntryGate)
    (entries : gate.entries = attached.shared.gate.entries)
    (cleanup : gate.cleanup = attached.shared.gate.cleanup)
    (noCleanup : attached.shared.gate.cleanup = false)
    (valid : gate.state ≠ .invalid) (owner : Owner) :
    ({ attached with
      shared.gate := gate, owner := owner, teardown := none }).Sound :=
  { sound with
    entered := by
      change gate.entries.toNat = attached.entries
      rw [entries]
      exact sound.entered
    idle := by
      intro _
      change gate.cleanup = false ∧ gate.state ≠ .invalid
      rw [cleanup]
      exact ⟨noCleanup, valid⟩
    tearing := nofun }

omit [DecidableEq Raw] in
/-- No cleanup is under way while states are retired. -/
theorem Sound.cleaned (sound : attached.Sound)
    {teardown : Teardown Payload} {states : List (AnyRc Payload)}
    {report : FinalizerDrain} {count : Nat}
    (under : attached.teardown = some teardown)
    (phase : teardown.phase = .retiring states report count) :
    attached.shared.gate.cleanup = false := by
  have guards := congrArg Prod.snd (sound.tearing teardown under).2
  rw [phase] at guards
  refine guards.trans ?_
  cases teardown.kind with
  | owned => rfl
  | withContext => rfl
  | withoutContext => rfl
  | dropped finished =>
      cases finished with
      | true => rfl
      | false => rfl

omit [DecidableEq Raw] in
theorem Sound.completed_next (sound : attached.Sound)
    {teardown : Teardown Payload} {report : FinalizerDrain}
    (under : attached.teardown = some teardown)
    (engine : teardown.kind = .owned ∨ teardown.kind = .withContext) :
    ((attached.withGate { attached.shared.gate.complete with
      finalEntry := some .completed
      state := .invalid }).retireNativeStates
      { teardown with finalEntry := some .completed } report).Sound :=
  { sound with
    nativeStates := sound.nativeStates.drain
    idle := nofun
    tearing := by
      intro torn same
      cases same
      refine ⟨(sound.tearing teardown under).1, ?_⟩
      cases engine with
      | inl owned =>
          rw [Teardown.Guards, owned]
          rfl
      | inr withContext =>
          rw [Teardown.Guards, withContext]
          rfl }

/-- A move of a sound attachment leads to a sound one. -/
theorem Moves.sound {op : Op Raw Payload} {reply : Reply Raw Payload}
    (moves : attached.Moves op reply next) (sound : attached.Sound) :
    next.Sound := by
  cases moves with
  | rested plain => exact sound
  | wasDestroyed begins destroyed replies => exact sound
  | entered available admitted => exact sound.entered_next available admitted
  | left top => exact sound.left_next top
  | pushed waits formed protects boxes functions notEntry room =>
      exact sound.pushed waits formed functions notEntry room
  | popped plain top boxes notEntry =>
      exact (sound.popped top notEntry).of_same rfl rfl rfl
  | replaced values top formed slots protects oldBoxes newBoxes oldFunctions
      newFunctions oldNotEntry newNotEntry =>
      exact (sound.replaced top formed slots oldFunctions newFunctions
        oldNotEntry newNotEntry).of_same rfl rfl rfl
  | handed top holds boxes functions notEntry covered =>
      exact (sound.handed top holds functions notEntry covered).of_same
        rfl rfl rfl
  | resolved top holds room =>
      exact (sound.resolved top holds room).of_same rfl rfl rfl
  | persisted roots waits soundNext moved =>
      exact sound.unstacked rfl rfl rfl rfl soundNext sound.nativeStates rfl
  | unrooted roots soundNext moved =>
      exact sound.unstacked rfl rfl rfl rfl soundNext sound.nativeStates rfl
  | requested roots soundNext same =>
      exact sound.unstacked rfl rfl rfl rfl soundNext sound.nativeStates rfl
  | registered waits fresh => exact sound.registered_next waits
  | unregistered top => exact sound.unregistered_next top
  | @accepted state registry id installs waits soundNext moved live limit =>
      have kept : ({ attached with
          shared.nativeStates := registry
          heap := attached.heap.alloc.2 } : Attached Raw Payload).Sound :=
        sound.unstacked rfl rfl rfl rfl sound.roots soundNext rfl
      have formed : (Activation.creating id : Activation Raw Payload).Formed :=
        trivial
      exact kept.pushed_free waits formed rfl rfl rfl
  | refused top retires =>
      have kept := sound.retired retires
      rw [← retires.stack] at top
      exact kept.popped_free top rfl rfl
  | @rolledBack object id error value next rest top retires =>
      have kept := sound.retired retires
      have formed : (Activation.rolledBack object error :
          Activation Raw Payload).Formed := trivial
      rw [← retires.stack] at top
      exact kept.replaced top formed rfl rfl rfl rfl rfl
  | @leased handle lease reads waits named ofType =>
      have formed : (Activation.operating lease :
          Activation Raw Payload).Formed := trivial
      exact (sound.pushed_free waits formed rfl rfl rfl).of_same rfl rfl rfl
  | operated top => exact (sound.popped_free top rfl rfl).of_same rfl rfl rfl
  | signalled token =>
      exact sound.unstacked rfl rfl rfl rfl sound.roots sound.nativeStates rfl
  | taken waits =>
      have kept : ({ attached with
          shared.nativeFinalizers :=
            attached.shared.nativeFinalizers.take.1 } :
            Attached Raw Payload).Sound :=
        sound.unstacked rfl rfl rfl rfl sound.roots sound.nativeStates rfl
      have formed : (Activation.reclaiming
          attached.shared.nativeFinalizers.take.2 ⟨0, 0⟩ :
          Activation Raw Payload).Formed := trivial
      exact kept.pushed_free waits formed rfl rfl rfl
  | @reclaimed token tokens before after value next rest top retires =>
      have kept := sound.retired retires
      have formed : (Activation.reclaiming tokens after :
          Activation Raw Payload).Formed := trivial
      rw [← retires.stack] at top
      exact kept.replaced top formed rfl rfl rfl rfl rfl
  | drainRefused failure => exact sound.drainRefused_next
  | released ends engine available empty begins =>
      obtain ⟨draining, noEntries, gate⟩ := tryBeginCleanup_ok begins
      subst gate
      refine sound.emptied empty ?_ ?_ rfl rfl rfl
      · exact noEntries
      · cases engine with
        | inl owned =>
            rw [owned]
            exact congrArg (·, true) draining
        | inr withContext =>
            rw [withContext]
            exact congrArg (·, true) draining
  | abandoned detaches available empty ends =>
      obtain ⟨noEntries, noCleanup, gate⟩ := sound.drained available ends
      subst gate
      refine sound.emptied empty ?_ ?_ rfl rfl rfl
      · exact noEntries
      · exact congrArg (HostState.invalid, ·) noCleanup
  | dropped drops available empty live ends =>
      cases ends with
      | inl finished =>
          obtain ⟨finished, outcome, _, ends⟩ := finished
          obtain ⟨noEntries, noCleanup, gate⟩ := sound.drained available ends
          subst gate
          subst finished
          refine sound.emptied empty ?_ ?_ rfl rfl rfl
          · exact noEntries
          · exact congrArg (HostState.invalid, ·) noCleanup
      | inr unfinished =>
          obtain ⟨unfinished, gate⟩ := unfinished
          subst gate
          subst unfinished
          obtain ⟨noCleanup, _⟩ := sound.idle (available_teardown available)
          obtain ⟨entries, cleanup, _, _⟩ :=
            requestDrain_fields attached.shared.gate
          have noEntries : attached.shared.gate.requestDrain.entries = 0 := by
            rw [entries]
            exact sound.no_entries empty
          refine sound.emptied empty noEntries ?_ rfl rfl rfl
          exact Prod.ext (sound.draining available live)
            (cleanup.trans noCleanup)
  | disowned destroyed => exact sound.of_same rfl rfl rfl
  | @queueClosed teardown under phase =>
      have kept : ({ attached with
          shared.nativeFinalizers :=
            attached.shared.nativeFinalizers.close.1 } :
            Attached Raw Payload).Sound :=
        sound.unstacked rfl rfl rfl rfl sound.roots sound.nativeStates rfl
      exact kept.phased under (Or.inl (by rw [phase]; rfl))
  | settled under phase retires =>
      have kept := sound.retired retires
      rw [← retires.teardown] at under
      exact kept.phased under (Or.inl (by rw [phase]; rfl))
  | @completed teardown report under engine phase ends =>
      exact sound.completed_next under engine
  | @retired teardown report under bare phase =>
      have kept : ({ attached with
          shared.nativeStates := attached.shared.nativeStates.drain.1 } :
            Attached Raw Payload).Sound :=
        sound.unstacked rfl rfl rfl rfl sound.roots sound.nativeStates.drain
          rfl
      exact kept.phased under (Or.inr bare)
  | @destroyed teardown state states report count under phase =>
      have kept : ({ attached with
          heap := attached.heap.drop state.box } :
            Attached Raw Payload).Sound := sound.of_same rfl rfl rfl
      exact kept.phased under (Or.inl (by rw [phase]; rfl))
  | finished advances under phase kind replies =>
      exact sound.finished_next
        { attached.shared.gate with state := .destroyed } rfl rfl
        (sound.cleaned under phase) (by intro same; cases same) _
  | @forsaken teardown report count under phase kind =>
      have guards := (sound.tearing teardown under).2
      rw [Teardown.Guards, kind] at guards
      have state : attached.shared.gate.state = .draining :=
        congrArg Prod.fst guards
      exact sound.finished_next attached.shared.gate rfl rfl
        (sound.cleaned under phase) (by rw [state]; intro same; cases same)
        attached.owner

/-! ## The stack of calls -/

omit [DecidableEq Raw] in
/-- How a move changes the stack: the slots of the top frame change only by a
root that is returned to it. -/
inductive Shifts : Bool → List (Activation Raw Payload) →
    List (Activation Raw Payload) → Prop
  | kept (stack : List (Activation Raw Payload)) : Shifts false stack stack
  | called (frame : Activation Raw Payload)
      (stack : List (Activation Raw Payload)) :
      Shifts false stack (frame :: stack)
  | changed {rooted : Bool} {old new : Activation Raw Payload}
      (rest : List (Activation Raw Payload))
      (slots : new.slots = old.slots + rooted.toNat) :
      Shifts rooted (old :: rest) (new :: rest)
  | returned (frame : Activation Raw Payload)
      (rest : List (Activation Raw Payload)) :
      Shifts false (frame :: rest) rest
  | answered (frame : Activation Raw Payload)
      {old new : Activation Raw Payload}
      (rest : List (Activation Raw Payload))
      (slots : new.slots = old.slots + 1) :
      Shifts true (frame :: old :: rest) (new :: rest)

omit [DecidableEq Raw] in
theorem Shifts.turns {rooted : Bool}
    {stack next : List (Activation Raw Payload)}
    (shifts : Shifts rooted stack next) : Nested.Turns stack next := by
  cases shifts with
  | kept => exact .kept _
  | called frame => exact .called frame _
  | changed rest slots => exact .changed _ _ rest
  | returned frame => exact .returned frame _
  | answered frame rest slots => exact .answered frame _ _ rest

omit [DecidableEq Raw] in
theorem isRooted_of_plain {reply : Reply Raw Payload}
    (plain : reply.isPlain = true) : reply.isRooted = false := by
  cases reply with
  | rooted value => cases plain
  | _ => rfl

theorem Moves.shifts {op : Op Raw Payload} {reply : Reply Raw Payload}
    (moves : attached.Moves op reply next) :
    Shifts reply.isRooted attached.stack next.stack := by
  cases moves with
  | rested plain =>
      rw [isRooted_of_plain plain]
      exact .kept _
  | wasDestroyed begins destroyed replies =>
      cases replies with
      | inl invalidated =>
          rw [invalidated]
          exact .kept _
      | inr detached =>
          rw [detached]
          exact .kept _
  | entered available admitted => exact .called _ _
  | left top =>
      rw [top]
      exact .returned _ _
  | pushed waits formed protects boxes functions notEntry room =>
      exact .called _ _
  | popped plain top boxes notEntry =>
      rw [top, isRooted_of_plain plain]
      exact .returned _ _
  | replaced values top formed slots protects oldBoxes newBoxes oldFunctions
      newFunctions oldNotEntry newNotEntry =>
      rw [top]
      exact .changed _ slots
  | handed top holds boxes functions notEntry covered =>
      rw [top]
      exact .answered _ _ (Activation.hold_eq holds).1
  | resolved top holds room =>
      rw [top]
      exact .changed _ (Activation.hold_eq holds).1
  | persisted roots waits soundNext moved => exact .kept _
  | unrooted roots soundNext moved => exact .kept _
  | requested roots soundNext same => exact .kept _
  | registered waits fresh => exact .called _ _
  | unregistered top =>
      rw [top]
      exact .returned _ _
  | accepted installs waits soundNext moved live limit => exact .called _ _
  | refused top retires =>
      rw [top]
      exact .returned _ _
  | rolledBack top retires =>
      rw [top]
      exact .changed _ rfl
  | leased reads waits named ofType => exact .called _ _
  | operated top =>
      rw [top]
      exact .returned _ _
  | signalled token => exact .kept _
  | taken waits => exact .called _ _
  | reclaimed top retires =>
      rw [top]
      exact .changed _ rfl
  | drainRefused failure => exact .kept _
  | released ends engine available empty begins => exact .kept _
  | abandoned detaches available empty ends => exact .kept _
  | dropped drops available empty live ends => exact .kept _
  | disowned destroyed => exact .kept _
  | queueClosed under phase => exact .kept _
  | settled under phase retires =>
      rw [withPhase, retires.stack]
      exact .kept _
  | completed under engine phase ends => exact .kept _
  | retired under bare phase => exact .kept _
  | destroyed under phase => exact .kept _
  | finished advances under phase kind replies =>
      have notRooted : reply.isRooted = false := by
        rw [replies]
        split <;> rfl
      rw [notRooted]
      exact .kept _
  | forsaken under phase kind => exact .kept _

/-- No move stops the program. -/
theorem Moves.not_faulted {op : Op Raw Payload} {reply : Reply Raw Payload}
    (moves : attached.Moves op reply next) (fault : Fault) :
    reply ≠ .faulted fault := by
  intro faulted
  subst faulted
  cases moves with
  | rested plain => cases plain
  | wasDestroyed begins destroyed replies =>
      cases replies with
      | inl invalidated => cases invalidated
      | inr detached => cases detached
  | popped plain top boxes notEntry => cases plain
  | finished advances under phase kind replies =>
      split at replies <;> cases replies

end

theorem Fresh.sound {limits : JscRuntimeLimits}
    (fresh : Fresh limits attached) : attached.Sound := by
  cases fresh with
  | runtime id address owner context =>
      exact
        { roots := RootRegistry.sound_new _
          nativeStates := NativeRegistry.sound_new _
          used := rfl
          bounded := Nat.zero_le _
          formed := List.forall_mem_nil _
          registered := List.Subperm.refl []
          entered := rfl
          grounded := nofun
          idle := fun _ => ⟨rfl, nofun⟩
          tearing := nofun }
  | attachment id address owner finalEntryPolicy =>
      exact
        { roots := RootRegistry.sound_new _
          nativeStates := NativeRegistry.sound_new _
          used := rfl
          bounded := Nat.zero_le _
          formed := List.forall_mem_nil _
          registered := List.Subperm.refl []
          entered := rfl
          grounded := nofun
          idle := fun _ => ⟨rfl, nofun⟩
          tearing := nofun }

section Runs

variable [DecidableEq Raw] {engine : Engine Raw} {limits : JscRuntimeLimits}
  {trace : List (Exchange (Invocation Raw Payload) (Reply Raw Payload))}

theorem run_sound
    (run : (attachmentSystem engine limits).Run trace attached) :
    attached.Sound := by
  refine System.Run.invariant (fun _ attached => Sound attached) ?_ ?_ run
  · intro attached fresh
    exact fresh.sound
  · intro trace attached label next _ sound step
    exact (sound.moves step).sound sound

theorem run_moves
    (run : (attachmentSystem engine limits).Run trace attached)
    {exchange : Exchange (Invocation Raw Payload) (Reply Raw Payload)}
    (step : (attachmentSystem engine limits).step attached exchange next) :
    attached.Moves exchange.op.op exchange.reply next :=
  (run_sound run).moves step

theorem run_turns
    (trace : List (Exchange (Invocation Raw Payload) (Reply Raw Payload)))
    (attached : Attached Raw Payload)
    (exchange : Exchange (Invocation Raw Payload) (Reply Raw Payload))
    (next : Attached Raw Payload)
    (run : (attachmentSystem engine limits).Run trace attached)
    (step : (attachmentSystem engine limits).step attached exchange next) :
    Nested.Turns attached.stack next.stack :=
  (run_moves run step).shifts.turns

/-- Nothing that is done in a run stops the program. -/
theorem run_unfaulted
    (run : (attachmentSystem engine limits).Run trace attached) :
    ∀ exchange ∈ trace, ∀ fault, exchange.reply ≠ .faulted fault := by
  refine System.Run.invariant
    (fun trace _ => ∀ exchange ∈ trace, ∀ fault,
      exchange.reply ≠ .faulted fault) ?_ ?_ run
  · intro attached _ exchange member
    cases member
  · intro trace attached label next run unfaulted step exchange member
    cases List.mem_append.mp member with
    | inl earlier => exact unfaulted exchange earlier
    | inr last =>
        rw [List.mem_singleton.mp last]
        exact (run_moves run step).not_faulted

end Runs

end Attached

end RustJsi.BackendJsc

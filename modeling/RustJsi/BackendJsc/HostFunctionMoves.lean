import RustJsi.BackendJsc.ProtectionBalance

/-!
# What a move does to the host functions

A function is registered before it is published.  While the publication waits,
its frame lies on the stack, and the height of what lies below tells one
publication from the other.
-/

namespace RustJsi.BackendJsc

variable {Raw Payload : Type*}

/-- The functions that are being published, with the height of the stack below
each publication. -/
def publishing : List (Activation Raw Payload) → List (Raw × Nat)
  | [] => []
  | frame :: rest =>
      frame.functions.map (fun function => (function, rest.length)) ++
        publishing rest

theorem publishing_bare {frame : Activation Raw Payload}
    (functions : frame.functions = [])
    (rest : List (Activation Raw Payload)) :
    publishing (frame :: rest) = publishing rest := by
  rw [publishing, functions]
  rfl

theorem publishing_functions (stack : List (Activation Raw Payload)) :
    (publishing stack).map Prod.fst =
      stack.flatMap Activation.functions := by
  induction stack with
  | nil => rfl
  | cons frame rest inductionHypothesis =>
      rw [publishing, List.map_append, inductionHypothesis, List.map_map,
        List.flatMap_cons]
      exact congrArg (· ++ _) (List.map_id _)

theorem height_lt {stack : List (Activation Raw Payload)}
    {publication : Raw × Nat} (member : publication ∈ publishing stack) :
    publication.2 < stack.length := by
  induction stack with
  | nil => exact absurd member List.not_mem_nil
  | cons frame rest inductionHypothesis =>
      rw [publishing] at member
      cases List.mem_append.mp member with
      | inl here =>
          obtain ⟨function, _, rfl⟩ := List.mem_map.mp here
          exact Nat.lt_succ_self _
      | inr below => exact Nat.lt_succ_of_lt (inductionHypothesis below)

namespace Attached

variable [DecidableEq Raw] {attached next : Attached Raw Payload}
  {op : Op Raw Payload} {reply : Reply Raw Payload}

omit [DecidableEq Raw] in
/-- A teardown has begun, or has ended. -/
def Torn (attached : Attached Raw Payload) : Prop :=
  attached.teardown ≠ none ∨ attached.shared.gate.state = .destroyed ∨
    attached.owner = .gone

omit [DecidableEq Raw] in
theorem torn_congr (teardown : next.teardown = attached.teardown)
    (gate : next.shared.gate = attached.shared.gate)
    (owner : next.owner = attached.owner) : next.Torn ↔ attached.Torn := by
  rw [Torn, Torn, teardown, gate, owner]

omit [DecidableEq Raw] in
theorem not_torn (available : attached.available = true)
    (live : attached.shared.gate.state ≠ .destroyed) : ¬attached.Torn := by
  have idle := available_teardown available
  intro torn
  rcases torn with begun | destroyed | gone
  · exact begun idle
  · exact live destroyed
  · rw [Attached.available, gone, idle] at available
    cases available

omit [DecidableEq Raw] in
/-- A fresh attachment has made no call. -/
theorem Fresh.idle {limits : JscRuntimeLimits}
    (fresh : Attached.Fresh limits attached) :
    attached.stack = [] ∧ attached.shared.hostFunctions = [] ∧
      attached.shared.hostFunctionLimit = limits.hostFunctions ∧
      ¬attached.Torn := by
  cases fresh with
  | runtime id address owner context =>
      refine ⟨rfl, rfl, rfl, not_torn rfl ?_⟩
      intro same
      cases same
  | attachment id address owner finalEntryPolicy =>
      refine ⟨rfl, rfl, rfl, not_torn rfl ?_⟩
      intro same
      cases same

/-- What a move does to the host functions and their publications. -/
inductive Registers (attached : Attached Raw Payload) (op : Op Raw Payload)
    (next : Attached Raw Payload) : Prop
  | kept (functions : next.shared.hostFunctions =
        attached.shared.hostFunctions)
      (frames : publishing next.stack = publishing attached.stack)
      (torn : next.Torn ↔ attached.Torn)
      (empties : attached.Torn → attached.stack = [] → next.stack = [])
      (idle : attached.teardown = none → next.teardown = none)
  /-- `install_host_function` and its publication. -/
  | called (installs : (∃ name function,
        op = .installHostFunction name function) ∨
      ∃ global exception, op = .publishHostFunction global exception)
  /-- A teardown takes them all. -/
  | taken (live : ¬attached.Torn) (idle : attached.teardown = none)
      (empty : attached.stack = [])
      (functions : next.shared.hostFunctions = [])
      (nextEmpty : next.stack = []) (teardown : next.teardown.isSome = true)

omit [DecidableEq Raw] in
/-- A move in a call under way, to a frame that publishes nothing. -/
theorem Registers.busy (waits : attached.stack ≠ [])
    (functions : next.shared.hostFunctions = attached.shared.hostFunctions)
    (frames : publishing next.stack = publishing attached.stack)
    (teardown : next.teardown = attached.teardown)
    (gate : next.shared.gate = attached.shared.gate)
    (owner : next.owner = attached.owner) : attached.Registers op next :=
  .kept functions frames (torn_congr teardown gate owner)
    (fun _ empty => absurd empty waits) teardown.trans

omit [DecidableEq Raw] in
/-- A move that leaves the stack as it was. -/
theorem Registers.still
    (functions : next.shared.hostFunctions = attached.shared.hostFunctions)
    (stack : next.stack = attached.stack)
    (torn : next.Torn ↔ attached.Torn)
    (idle : attached.teardown = none → next.teardown = none) :
    attached.Registers op next :=
  .kept functions (by rw [stack]) torn (fun _ empty => stack.trans empty) idle

omit [DecidableEq Raw] in
/-- A step of a teardown that has begun. -/
theorem Registers.torn {teardown : Teardown Payload}
    (under : attached.teardown = some teardown)
    (functions : next.shared.hostFunctions = attached.shared.hostFunctions)
    (stack : next.stack = attached.stack) (torn : next.Torn) :
    attached.Registers op next := by
  refine .still functions stack (iff_of_true torn (Or.inl ?_)) ?_
  · rw [under]
    intro same
    cases same
  · intro idle
    cases idle.symm.trans under

omit [DecidableEq Raw] in
/-- A state is retired in a call under way. -/
theorem Registers.retired {id : NativeId} {value : Option (AnyRc Payload)}
    {retiring : Attached Raw Payload} (waits : attached.stack ≠ [])
    (retires : attached.Retires id value retiring)
    {stack : List (Activation Raw Payload)}
    (frames : publishing stack = publishing attached.stack) :
    attached.Registers op (retiring.withStack stack) :=
  .busy waits (by rw [retires.fields]; rfl) frames
    (by rw [retires.fields]; rfl) (by rw [retires.fields]; rfl)
    (by rw [retires.fields]; rfl)

theorem Moves.registers (moves : attached.Moves op reply next)
    (sound : attached.Sound) (ended : attached.Ended) :
    attached.Registers op next := by
  have begun {teardown : Teardown Payload} :
      some teardown ≠ none := by
    intro same
    cases same
  cases moves with
  | rested plain => exact .still rfl rfl Iff.rfl id
  | wasDestroyed begins destroyed replies => exact .still rfl rfl Iff.rfl id
  | @entered guard gate available admitted =>
      obtain ⟨before, after⟩ := tryEnter_ok admitted
      have live : gate.state ≠ .destroyed := by
        rw [after]
        intro same
        cases same
      have idle : ¬attached.Torn := by
        apply not_torn available
        rw [before]
        intro same
        cases same
      refine .kept rfl (publishing_bare rfl _) (iff_of_false ?_ idle)
        (fun torn => absurd torn idle) id
      exact not_torn available live
  | @left rest top =>
      refine .kept rfl ?_ Iff.rfl
        (fun _ empty => absurd empty (waits_of_cons top)) id
      rw [top]
      exact (publishing_bare rfl rest).symm
  | pushed waits formed protects boxes functions notEntry room =>
      exact .busy waits rfl (publishing_bare functions _) rfl rfl rfl
  | @popped reply frame rest plain top boxes notEntry publishes =>
      cases publishes with
      | inl bare =>
          refine .busy (waits_of_cons top) rfl ?_ rfl rfl rfl
          rw [top]
          exact (publishing_bare bare rest).symm
      | inr publishes => exact .called (Or.inr publishes)
  | @replaced old new rest values top formed slots protects oldBoxes newBoxes
      oldFunctions newFunctions oldNotEntry newNotEntry =>
      refine .busy (waits_of_cons top) rfl ?_ rfl rfl rfl
      rw [top, publishing_bare oldFunctions]
      exact publishing_bare newFunctions rest
  | @handed value frame holder held rest top holds boxes functions notEntry
      covered =>
      refine .busy (waits_of_cons top) rfl ?_ rfl rfl rfl
      obtain ⟨_, _, _, _, holder, held, _⟩ := Activation.hold_eq holds
      rw [top, publishing_bare functions, publishing_bare holder]
      exact publishing_bare held rest
  | @resolved value holder held rest top holds room =>
      refine .busy (waits_of_cons top) rfl ?_ rfl rfl rfl
      obtain ⟨_, _, _, _, holder, held, _⟩ := Activation.hold_eq holds
      rw [top, publishing_bare holder]
      exact publishing_bare held rest
  | persisted roots waits soundNext moved =>
      exact .busy waits rfl rfl rfl rfl rfl
  | unrooted roots soundNext moved => exact .still rfl rfl Iff.rfl id
  | requested roots soundNext same => exact .still rfl rfl Iff.rfl id
  | registered waits fresh installs =>
      obtain ⟨name, installs⟩ := installs
      exact .called (Or.inl ⟨name, _, installs⟩)
  | unregistered top publishes => exact .called (Or.inr publishes)
  | accepted installs waits soundNext moved live limit =>
      exact .busy waits rfl (publishing_bare rfl _) rfl rfl rfl
  | @refused failure id value retiring rest top retires =>
      refine .retired (waits_of_cons top) retires ?_
      rw [top]
      exact (publishing_bare rfl rest).symm
  | @rolledBack object id error value retiring rest top retires =>
      refine .retired (waits_of_cons top) retires ?_
      rw [top]
      rfl
  | leased reads waits named ofType =>
      exact .busy waits rfl (publishing_bare rfl _) rfl rfl rfl
  | @operated lease rest top =>
      refine .busy (waits_of_cons top) rfl ?_ rfl rfl rfl
      rw [top]
      exact (publishing_bare rfl rest).symm
  | signalled token => exact .still rfl rfl Iff.rfl id
  | taken waits => exact .busy waits rfl (publishing_bare rfl _) rfl rfl rfl
  | @reclaimed token tokens before after value retiring rest top retires =>
      refine .retired (waits_of_cons top) retires ?_
      rw [top]
      rfl
  | drainRefused failure =>
      refine .still rfl rfl ?_ id
      exact or_congr Iff.rfl
        (or_congr (requestDrain_destroyed _) Iff.rfl)
  | released ends engine available empty begins =>
      have live := live_of_draining (tryBeginCleanup_ok begins).1
      exact .taken (not_torn available live) (available_teardown available)
        empty rfl empty rfl
  | abandoned detaches available empty ends =>
      have valid := sound.requested_valid available
      have live := live_of_draining (finishDrain_ok ends valid).1
      exact .taken (not_torn available live) (available_teardown available)
        empty rfl empty rfl
  | dropped drops available empty live ends =>
      exact .taken (not_torn available live) (available_teardown available)
        empty rfl empty rfl
  | disowned destroyed =>
      have torn : attached.Torn := Or.inr (Or.inl destroyed)
      exact .still rfl rfl (iff_of_true (Or.inr (Or.inl destroyed)) torn) id
  | queueClosed under phase => exact .torn under rfl rfl (Or.inl begun)
  | settled under phase retires =>
      exact .torn under retires.hostFunctions retires.stack (Or.inl begun)
  | completed under engine phase ends =>
      exact .torn under rfl rfl (Or.inl begun)
  | retired under bare phase => exact .torn under rfl rfl (Or.inl begun)
  | destroyed under phase => exact .torn under rfl rfl (Or.inl begun)
  | finished advances under phase kind replies =>
      exact .torn under rfl rfl (Or.inr (Or.inl rfl))
  | @forsaken teardown report count under phase kind =>
      have leaves := ended.leaves teardown under
      rw [Leaves, kind] at leaves
      exact .torn under rfl rfl (Or.inr (Or.inr leaves))

/-- The limit of the registry is fixed. -/
theorem Moves.hostFunctionLimit (moves : attached.Moves op reply next) :
    next.shared.hostFunctionLimit = attached.shared.hostFunctionLimit := by
  cases moves with
  | refused top retires =>
      rw [retires.fields]
      rfl
  | rolledBack top retires =>
      rw [retires.fields]
      rfl
  | reclaimed top retires =>
      rw [retires.fields]
      rfl
  | settled under phase retires =>
      rw [retires.fields]
      rfl
  | _ => rfl

theorem perform_installHostFunction {engine : Engine Raw} {thread : Nat}
    {name : Bool} {function : Option Raw}
    (performed : attached.perform engine
      ⟨thread, .installHostFunction name function⟩ = some (reply, next)) :
    attached.stack ≠ [] ∧ attached.functionFresh function = true ∧
      attached.installHostFunction thread name function = (reply, next) := by
  cases stack : attached.stack with
  | nil => simp only [perform, stack, reduceCtorEq] at performed
  | cons frame rest =>
      cases frame with
      | context localRoots scopeDepth =>
          simp only [perform, stack] at performed
          split at performed
          · rename_i fresh
            exact ⟨List.cons_ne_nil _ _, fresh, Option.some.inj performed⟩
          · cases performed
      | _ => simp only [perform, stack, reduceCtorEq] at performed

/-- An installation that fails at once leaves the attachment as it was. -/
theorem installHostFunction_cases {engine : Engine Raw} {thread : Nat}
    {name : Bool} {function : Option Raw}
    (performed : attached.perform engine
      ⟨thread, .installHostFunction name function⟩ = some (reply, next)) :
    attached.stack ≠ [] ∧
      ((∃ failure, reply = .failed failure ∧ next = attached) ∨
      ∃ installed, function = some installed ∧
        installed ∉ attached.shared.hostFunctions ∧
        attached.shared.hostFunctions.length <
          attached.shared.hostFunctionLimit ∧
        reply = .begun ∧
        next = ({ attached with
          shared.hostFunctions :=
            installed :: attached.shared.hostFunctions }.protect
          installed).withStack (.registering installed :: attached.stack)) := by
  obtain ⟨waits, fresh, installs⟩ := perform_installHostFunction performed
  refine ⟨waits, ?_⟩
  unfold installHostFunction at installs
  split at installs
  · cases installs
    exact Or.inl ⟨_, rfl, rfl⟩
  · split at installs
    · cases installs
      exact Or.inl ⟨_, rfl, rfl⟩
    · rename_i room
      split at installs
      · cases installs
        exact Or.inl ⟨_, rfl, rfl⟩
      · cases function with
        | none =>
            cases installs
            exact Or.inl ⟨_, rfl, rfl⟩
        | some installed =>
            have absent : installed ∉ attached.shared.hostFunctions :=
              of_decide_eq_true fresh
            cases installs
            refine Or.inr ⟨installed, rfl, absent, Nat.lt_of_not_ge room, rfl,
              ?_⟩
            rw [List.insert_of_not_mem absent]

/-- A publication ends the call that registered the function. -/
theorem publishHostFunction_cases {engine : Engine Raw} {thread : Nat}
    {global : Bool} {exception : Option JsException}
    (performed : attached.perform engine
      ⟨thread, .publishHostFunction global exception⟩ = some (reply, next)) :
    ∃ function rest, attached.stack = .registering function :: rest ∧
      ((∃ failure, reply = .failed failure ∧
        next = (attached.rollbackHostFunction function).withStack rest) ∨
      (reply = .installedFunction function ∧
        next = attached.withStack rest)) := by
  cases stack : attached.stack with
  | nil => simp only [perform, stack, reduceCtorEq] at performed
  | cons frame rest =>
      cases frame with
      | registering function =>
          simp only [perform, stack] at performed
          have published := Option.some.inj performed
          refine ⟨function, rest, rfl, ?_⟩
          unfold publishHostFunction at published
          split at published
          · cases published
            exact Or.inl ⟨_, rfl, rfl⟩
          · split at published
            · cases published
              exact Or.inl ⟨_, rfl, rfl⟩
            · cases published
              exact Or.inr ⟨rfl, rfl⟩
      | _ => simp only [perform, stack, reduceCtorEq] at performed

end Attached

end RustJsi.BackendJsc

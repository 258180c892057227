import RustJsi.BackendJsc.HostCallbacks
import RustJsi.BackendJsc.HostFunctionMoves

/-!
# Who owns a callback

A callback is counted once by the registration of its function, once by each
call of it that runs, and once by the teardown that has taken it.  A function
that is still published is called only above its own publication, so that a
rollback drops the last count of the callback.
-/

namespace RustJsi.BackendJsc

open Counted Interleaving

variable {Raw Payload : Type*} [DecidableEq Raw]

namespace HostFunctions

variable {functions : HostFunctions Raw} {function : Raw} {callback : Nat}

theorem callbacks_insert (fresh : function ∉ functions) :
    callbacks (functions.insert function callback) =
      callback :: functions.callbacks := by
  rw [callbacks, AList.entries_insert_of_notMem fresh]
  rfl

theorem callbacks_erase
    (registered : functions.lookup function = some callback) :
    functions.callbacks.Perm
      (callback :: callbacks (functions.erase function)) := by
  have member : function ∈ functions.entries.keys :=
    AList.lookup_isSome.mp (Option.isSome_of_mem registered)
  obtain ⟨other, before, after, absent, whole, erased⟩ :=
    List.exists_of_kerase member
  have same : other = callback := by
    have entry : (⟨function, other⟩ : Sigma fun _ : Raw => Nat) ∈
        functions.entries := by
      rw [whole]
      exact List.mem_append_right _ List.mem_cons_self
    have found : functions.lookup function = some other :=
      List.mem_dlookup functions.nodupKeys entry
    exact Option.some.inj (found.symm.trans registered)
  subst same
  have entries : (functions.erase function).entries = before ++ after := erased
  rw [callbacks, callbacks, entries, whole, List.map_append, List.map_append]
  exact List.perm_middle

theorem mem_callbacks
    (registered : functions.lookup function = some callback) :
    callback ∈ functions.callbacks :=
  (callbacks_erase registered).symm.subset List.mem_cons_self

theorem keys_insert_fresh (fresh : function ∉ functions) :
    (functions.insert function callback).keys =
      function :: functions.keys := by
  rw [AList.keys_insert, List.erase_of_not_mem]
  exact fun member => fresh (AList.mem_keys.mpr member)

end HostFunctions

namespace Hosted

variable {hosted next : Hosted Raw Payload}

/-- Who has a count of a callback. -/
def owners (hosted : Hosted Raw Payload) : List Nat :=
  hosted.hostFunctions.callbacks ++
    (hosted.running.map CallbackRun.callback ++ hosted.dropping)

/-- The registry of callbacks agrees with the attachment, and every count of a
callback with its owners. -/
structure Sound (limits : JscRuntimeLimits) (hosted : Hosted Raw Payload) :
    Prop where
  attached : hosted.attached.Sound
  ended : hosted.attached.Ended
  balanced : hosted.attached.Balanced
  limit : hosted.attached.shared.hostFunctionLimit = limits.hostFunctions
  bounded : hosted.hostFunctions.keys.length ≤ limits.hostFunctions
  keys : hosted.hostFunctions.keys = hosted.attached.shared.hostFunctions
  owned : hosted.callbacks.Accounts hosted.owners
  apart : (hosted.hostFunctions.callbacks ++ hosted.dropping).Nodup
  waits : ∀ run ∈ hosted.running,
    0 < run.height ∧ run.height ≤ hosted.attached.stack.length
  /-- A function is not called before it is registered. -/
  above : ∀ function height callback,
    (function, height) ∈ publishing hosted.attached.stack →
    hosted.hostFunctions.lookup function = some callback →
    ∀ run ∈ hosted.running, run.callback = callback → height < run.height
  dropped : hosted.dropping ≠ [] → hosted.attached.Torn
  torn : hosted.attached.Torn →
    hosted.attached.stack = [] ∧ hosted.hostFunctions = ∅

variable {limits : JscRuntimeLimits}

/-- Each publication is of a function of its own, which is registered. -/
theorem Sound.published (sound : hosted.Sound limits) :
    ((publishing hosted.attached.stack).map Prod.fst).Nodup ∧
      ∀ publication ∈ publishing hosted.attached.stack,
        publication.1 ∈ hosted.hostFunctions := by
  obtain ⟨listed, same, sublist⟩ := sound.attached.registered
  rw [publishing_functions]
  have nodup : listed.Nodup := by
    apply sublist.nodup
    rw [← sound.keys]
    exact hosted.hostFunctions.keys_nodup
  refine ⟨same.nodup_iff.mp nodup, ?_⟩
  intro publication member
  have named : publication.1 ∈
      hosted.attached.stack.flatMap Activation.functions := by
    rw [← publishing_functions]
    exact List.mem_map_of_mem member
  rw [AList.mem_keys, sound.keys]
  exact sublist.subset (same.symm.subset named)

/-- Nothing runs when no call is under way. -/
theorem Sound.quiet (sound : hosted.Sound limits)
    (empty : hosted.attached.stack = []) : hosted.running = [] := by
  apply List.eq_nil_iff_forall_not_mem.mpr
  intro run member
  have waits := sound.waits run member
  rw [empty, List.length_nil] at waits
  omega

theorem Sound.undropped (sound : hosted.Sound limits)
    (live : ¬hosted.attached.Torn) : hosted.dropping = [] := by
  by_contra dropping
  exact live (sound.dropped dropping)

/-- No teardown has begun where a call is under way. -/
theorem Sound.live (sound : hosted.Sound limits)
    (waits : hosted.attached.stack ≠ []) : ¬hosted.attached.Torn :=
  fun torn => waits (sound.torn torn).1

/-! ## The steps of user code -/

/-- The counts of the callbacks changed, and who runs or is dropped. -/
theorem Sound.counted (sound : hosted.Sound limits)
    (attached : next.attached = hosted.attached)
    (functions : next.hostFunctions = hosted.hostFunctions)
    (owned : next.callbacks.Accounts next.owners)
    (dropping : next.dropping.Sublist hosted.dropping)
    (waits : ∀ run ∈ next.running,
      0 < run.height ∧ run.height ≤ hosted.attached.stack.length)
    (above : ∀ run ∈ next.running, run ∈ hosted.running ∨
      run.height = hosted.attached.stack.length) :
    next.Sound limits where
  attached := by
    rw [attached]
    exact sound.attached
  ended := by
    rw [attached]
    exact sound.ended
  balanced := by
    rw [attached]
    exact sound.balanced
  limit := by
    rw [attached]
    exact sound.limit
  bounded := by
    rw [functions]
    exact sound.bounded
  keys := by
    rw [functions, attached]
    exact sound.keys
  owned := owned
  apart := by
    rw [functions]
    exact sound.apart.sublist ((List.Sublist.refl _).append dropping)
  waits := by
    rw [attached]
    exact waits
  above := by
    rw [attached, functions]
    intro function height callback published registered run member called
    cases above run member with
    | inl earlier =>
        exact sound.above function height callback published registered run
          earlier called
    | inr top =>
        rw [top]
        exact height_lt published
  dropped := by
    rw [attached]
    intro something
    apply sound.dropped
    intro nothing
    rw [nothing] at dropping
    exact something (List.sublist_nil.mp dropping)
  torn := by
    rw [attached, functions]
    exact sound.torn

omit [DecidableEq Raw] in
theorem returned_eq (returned : hosted.returned = some next) :
    ∃ run rest, hosted.running = run :: rest ∧
      hosted.attached.stack.length = run.height ∧
      next = { hosted with
        callbacks := hosted.callbacks.drop run.callback, running := rest } := by
  unfold Hosted.returned at returned
  cases running : hosted.running with
  | nil =>
      rw [running] at returned
      cases returned
  | cons run rest =>
      simp only [running] at returned
      split at returned
      · rename_i level
        exact ⟨run, rest, rfl, level, (Option.some.inj returned).symm⟩
      · cases returned

omit [DecidableEq Raw] in
theorem dropNext_eq {index : Nat} {panics : Bool}
    (drops : hosted.dropNext index panics = some next) :
    ∃ callback, hosted.dropping[index]? = some callback ∧
      next = ({ hosted with
        dropping := hosted.dropping.eraseIdx index }.dropCallback callback
          panics) := by
  unfold Hosted.dropNext at drops
  cases found : hosted.dropping[index]? with
  | none =>
      simp only [found] at drops
      cases drops
  | some callback =>
      simp only [found] at drops
      exact ⟨callback, rfl, (Option.some.inj drops).symm⟩

theorem Sound.returned (sound : hosted.Sound limits)
    (returned : hosted.returned = some next) : next.Sound limits := by
  obtain ⟨run, rest, running, _, rfl⟩ := returned_eq returned
  have earlier : ∀ run ∈ rest, run ∈ hosted.running := by
    intro run member
    rw [running]
    exact List.mem_cons_of_mem _ member
  refine sound.counted rfl rfl ?_ (List.Sublist.refl _) ?_ ?_
  · have owned := sound.owned
    rw [owners, running, List.map_cons, List.cons_append] at owned
    exact (owned.perm List.perm_middle).drop
  · intro run member
    exact sound.waits run (earlier run member)
  · intro run member
    exact Or.inl (earlier run member)

omit [DecidableEq Raw] in
/-- The callback that is dropped next, and who else has a count. -/
theorem owners_dropping {index callback : Nat}
    (found : hosted.dropping[index]? = some callback) :
    hosted.owners.Perm (callback ::
      (hosted.hostFunctions.callbacks ++
        (hosted.running.map CallbackRun.callback ++
          hosted.dropping.eraseIdx index))) := by
  obtain ⟨bound, here⟩ := List.getElem?_eq_some_iff.mp found
  have taken := List.getElem_cons_eraseIdx_perm bound
  rw [here] at taken
  have moved := (taken.symm.append_left
    (hosted.running.map CallbackRun.callback)).trans List.perm_middle
  exact (moved.append_left _).trans List.perm_middle

theorem Sound.dropNext (sound : hosted.Sound limits) {index : Nat}
    {panics : Bool} (drops : hosted.dropNext index panics = some next) :
    next.Sound limits := by
  obtain ⟨callback, found, rfl⟩ := dropNext_eq drops
  exact sound.counted rfl rfl (sound.owned.perm (owners_dropping found)).drop
    (List.eraseIdx_sublist _ _) sound.waits (fun _ member => Or.inl member)

/-- What the callback checks before it looks its function up, and the context
it passes on. -/
structure Passes (hosted : Hosted Raw Payload) (call : HostCall Raw) :
    Prop where
  entered : hosted.attached.stack ≠ []
  context : call.activeContext = call.globalContext
  arguments : ¬(call.argumentCount ≠ 0 ∧ call.nullArguments = true)
  bounded : call.argumentCount ≤ hosted.inboundArguments
  lent : call.context ≠ none

/-- The callback that runs is the one of the function that was called. -/
theorem hostFunctionCallback_ok_iff {call : HostCall Raw} {callback : Nat} :
    (hosted.hostFunctionCallback call).1 = .ok callback ↔
      hosted.Passes call ∧
        hosted.hostFunctions.lookup call.function = some callback := by
  have failed {error : HostError} {result : Prop} (fails : ¬result) :
      ((.error error : Except HostError Nat) = .ok callback) ↔ result := by
    refine iff_of_false ?_ fails
    intro same
    cases same
  unfold hostFunctionCallback
  split
  · rename_i outside
    exact failed fun good => good.1.entered outside
  · rename_i entered
    split
    · rename_i wrong
      exact failed fun good => wrong good.1.context
    · rename_i context
      split
      · rename_i null
        exact failed fun good => good.1.arguments null
      · rename_i arguments
        split
        · rename_i tooMany
          exact failed fun good => Nat.not_lt.mpr good.1.bounded tooMany
        · rename_i few
          cases found : hosted.hostFunctions.lookup call.function with
          | none =>
              refine failed fun good => ?_
              cases good.2
          | some registered =>
              cases lent : call.context with
              | none => exact failed fun good => good.1.lent lent
              | some raw =>
                  have lent : call.context ≠ none := by
                    rw [lent]
                    intro same
                    cases same
                  have passes : hosted.Passes call :=
                    ⟨entered, not_not.mp context, arguments,
                      Nat.not_lt.mp few, lent⟩
                  constructor
                  · intro same
                    exact ⟨passes, congrArg some (Except.ok.inj same)⟩
                  · intro good
                    exact congrArg Except.ok (Option.some.inj good.2)

theorem hostFunctionCallback_same (call : HostCall Raw) :
    (hosted.hostFunctionCallback call).2.attached = hosted.attached ∧
      (hosted.hostFunctionCallback call).2.hostFunctions =
        hosted.hostFunctions := by
  unfold hostFunctionCallback
  repeat' split
  all_goals exact ⟨rfl, rfl⟩

theorem Sound.called (sound : hosted.Sound limits) (call : HostCall Raw) :
    (hosted.hostFunctionCallback call).2.Sound limits := by
  unfold hostFunctionCallback
  split
  · exact sound
  · rename_i entered
    split
    · exact sound
    · split
      · exact sound
      · split
        · exact sound
        · split
          · exact sound
          · rename_i callback registered
            have owner : callback ∈ hosted.owners :=
              List.mem_append_left _ (HostFunctions.mem_callbacks registered)
            have shared := sound.owned.clone owner
            split
            · exact sound.counted rfl rfl shared.drop (List.Sublist.refl _)
                sound.waits (fun run member => Or.inl member)
            · refine sound.counted rfl rfl (shared.perm List.perm_middle.symm)
                (List.Sublist.refl _) ?_ ?_
              · intro run member
                cases List.mem_cons.mp member with
                | inl called =>
                    subst called
                    exact ⟨List.length_pos_of_ne_nil entered, Nat.le_refl _⟩
                | inr earlier => exact sound.waits run earlier
              · intro run member
                cases List.mem_cons.mp member with
                | inl called =>
                    subst called
                    exact Or.inr rfl
                | inr earlier => exact Or.inl earlier

/-! ## The steps of the attachment -/

/-- The attachment made a move that leaves the registry as it was. -/
theorem Sound.kept (sound : hosted.Sound limits)
    {attached : Attached Raw Payload} {op : Op Raw Payload}
    {reply : Reply Raw Payload}
    (moves : hosted.attached.Moves op reply attached)
    (functions : attached.shared.hostFunctions =
      hosted.attached.shared.hostFunctions)
    (frames : ∀ publication ∈ publishing attached.stack,
      publication ∈ publishing hosted.attached.stack)
    (torn : attached.Torn ↔ hosted.attached.Torn)
    (empties : attached.Torn → hosted.attached.stack = [] →
      attached.stack = [])
    (admitted : ∀ run ∈ hosted.running,
      run.height ≤ attached.stack.length) :
    ({ hosted with attached := attached } : Hosted Raw Payload).Sound
      limits where
  attached := moves.sound sound.attached
  ended := moves.ended sound.attached sound.ended
  balanced := moves.balanced sound.attached sound.balanced
  limit := moves.hostFunctionLimit.trans sound.limit
  bounded := sound.bounded
  keys := sound.keys.trans functions.symm
  owned := sound.owned
  apart := sound.apart
  waits := fun run member =>
    ⟨(sound.waits run member).1, admitted run member⟩
  above := fun function height callback published =>
    sound.above function height callback (frames _ published)
  dropped := fun dropping => torn.mpr (sound.dropped dropping)
  torn := fun past =>
    have before := sound.torn (torn.mp past)
    ⟨empties past before.1, before.2⟩

/-- A callback that is refused leaves everything else as it was. -/
theorem Sound.refuse (sound : hosted.Sound limits) :
    hosted.refuse.Sound limits :=
  sound.counted rfl rfl sound.owned.alloc.drop (List.Sublist.refl _)
    sound.waits (fun _ member => Or.inl member)

/-- A function that no teardown takes is registered. -/
theorem Sound.registered (sound : hosted.Sound limits)
    {attached : Attached Raw Payload} {function : Raw} {op : Op Raw Payload}
    {reply : Reply Raw Payload}
    (moves : hosted.attached.Moves op reply attached)
    (fresh : function ∉ hosted.attached.shared.hostFunctions)
    (room : hosted.attached.shared.hostFunctions.length <
      hosted.attached.shared.hostFunctionLimit)
    (waits : hosted.attached.stack ≠ [])
    (functions : attached.shared.hostFunctions =
      function :: hosted.attached.shared.hostFunctions)
    (stack : attached.stack =
      .registering function :: hosted.attached.stack)
    (torn : attached.Torn ↔ hosted.attached.Torn) :
    (({ hosted with attached := attached } : Hosted Raw Payload).register
      function).Sound limits := by
  have absent : function ∉ hosted.hostFunctions := by
    rw [AList.mem_keys, sound.keys]
    exact fresh
  have live := sound.live waits
  have made : ∀ callback ∈ hosted.owners,
      callback ≠ hosted.callbacks.alloc.1 := by
    intro callback owner
    exact Nat.ne_of_lt (sound.owned.bound owner)
  have keys : (hosted.hostFunctions.insert function
      hosted.callbacks.alloc.1).keys =
        function :: hosted.attached.shared.hostFunctions := by
    rw [HostFunctions.keys_insert_fresh absent, sound.keys]
  have callbacks : HostFunctions.callbacks (hosted.hostFunctions.insert
      function hosted.callbacks.alloc.1) =
        hosted.callbacks.alloc.1 :: hosted.hostFunctions.callbacks :=
    HostFunctions.callbacks_insert absent
  constructor
  · exact moves.sound sound.attached
  · exact moves.ended sound.attached sound.ended
  · exact moves.balanced sound.attached sound.balanced
  · exact moves.hostFunctionLimit.trans sound.limit
  · change (hosted.hostFunctions.insert function _).keys.length ≤ _
    rw [keys, List.length_cons, ← sound.limit]
    exact room
  · exact keys.trans functions.symm
  · change hosted.callbacks.alloc.2.Accounts
      (HostFunctions.callbacks (hosted.hostFunctions.insert function _) ++ _)
    rw [callbacks]
    exact sound.owned.alloc
  · change (HostFunctions.callbacks
      (hosted.hostFunctions.insert function _) ++ _).Nodup
    rw [callbacks, List.cons_append, List.nodup_cons]
    refine ⟨?_, sound.apart⟩
    intro member
    refine made _ ?_ rfl
    cases List.mem_append.mp member with
    | inl registered => exact List.mem_append_left _ registered
    | inr dropped =>
        exact List.mem_append_right _ (List.mem_append_right _ dropped)
  · intro run member
    have before := sound.waits run member
    refine ⟨before.1, Nat.le_trans before.2 ?_⟩
    change _ ≤ attached.stack.length
    rw [stack]
    exact Nat.le_succ _
  · intro other height callback published registered run member called
    have published : (other, height) ∈ publishing attached.stack := published
    have registered : (hosted.hostFunctions.insert function
        hosted.callbacks.alloc.1).lookup other = some callback := registered
    rw [stack, publishing] at published
    by_cases same : other = function
    · subst same
      rw [AList.lookup_insert] at registered
      refine absurd called (?_ : run.callback ≠ callback)
      rw [← Option.some.inj registered]
      apply made
      exact List.mem_append_right _
        (List.mem_append_left _ (List.mem_map_of_mem member))
    · rw [AList.lookup_insert_ne same] at registered
      cases List.mem_append.mp published with
      | inl here =>
          obtain ⟨here, listed, equal⟩ := List.mem_map.mp here
          cases equal
          exact absurd (List.mem_singleton.mp listed) same
      | inr below =>
          exact sound.above other height callback below registered run member
            called
  · intro dropping
    exact absurd (sound.dropped dropping) live
  · intro past
    exact absurd (torn.mp past) live

/-- The function a publication ends with has a callback of its own. -/
theorem Sound.top (sound : hosted.Sound limits) {function : Raw}
    {rest : List (Activation Raw Payload)}
    (top : hosted.attached.stack = .registering function :: rest) :
    (∃ callback, hosted.hostFunctions.lookup function = some callback) ∧
      ∀ publication ∈ publishing rest, publication.1 ≠ function := by
  have published := sound.published
  rw [top] at published
  have here : (function, rest.length) ∈
      publishing (.registering function :: rest) := List.mem_cons_self
  refine ⟨Option.isSome_iff_exists.mp
    (AList.lookup_isSome.mpr (published.2 _ here)), ?_⟩
  intro publication member same
  have nodup : (function :: (publishing rest).map Prod.fst).Nodup :=
    published.1
  apply (List.nodup_cons.mp nodup).1
  rw [← same]
  exact List.mem_map_of_mem member

/-- The registration is gone when the callback is dropped. -/
theorem rollbackHostFunction_registered {function : Raw} {callback : Nat}
    (registered : hosted.hostFunctions.lookup function = some callback)
    (panics : Bool) :
    hosted.rollbackHostFunction function panics =
      ({ hosted with
        hostFunctions := hosted.hostFunctions.erase function } :
          Hosted Raw Payload).dropCallback callback panics := by
  simp only [rollbackHostFunction, registered]

/-- A failed publication takes the registration back. -/
theorem Sound.rolledBack (sound : hosted.Sound limits)
    {attached : Attached Raw Payload} {function : Raw} {op : Op Raw Payload}
    {reply : Reply Raw Payload} {rest : List (Activation Raw Payload)}
    (moves : hosted.attached.Moves op reply attached)
    (top : hosted.attached.stack = .registering function :: rest)
    (functions : attached.shared.hostFunctions =
      hosted.attached.shared.hostFunctions.erase function)
    (stack : attached.stack = rest)
    (torn : attached.Torn ↔ hosted.attached.Torn)
    (admitted : ∀ run ∈ hosted.running, run.height ≤ attached.stack.length)
    (panics : Bool) :
    (({ hosted with attached := attached } :
      Hosted Raw Payload).rollbackHostFunction function panics).Sound
        limits := by
  obtain ⟨⟨callback, registered⟩, others⟩ := sound.top top
  have live := sound.live (Attached.waits_of_cons top)
  have erased := HostFunctions.callbacks_erase registered
  have keys : (hosted.hostFunctions.erase function).keys =
      hosted.attached.shared.hostFunctions.erase function := by
    rw [AList.keys_erase, sound.keys]
  have found : ({ hosted with attached := attached } :
      Hosted Raw Payload).hostFunctions.lookup function = some callback :=
    registered
  rw [rollbackHostFunction_registered found]
  constructor
  · exact moves.sound sound.attached
  · exact moves.ended sound.attached sound.ended
  · exact moves.balanced sound.attached sound.balanced
  · exact moves.hostFunctionLimit.trans sound.limit
  · change (hosted.hostFunctions.erase function).keys.length ≤ _
    rw [AList.keys_erase]
    exact Nat.le_trans List.length_erase_le sound.bounded
  · exact keys.trans functions.symm
  · have owned : hosted.callbacks.Accounts (callback ::
        (HostFunctions.callbacks (hosted.hostFunctions.erase function) ++
          (hosted.running.map CallbackRun.callback ++ hosted.dropping))) :=
      sound.owned.perm (erased.append_right _)
    exact owned.drop
  · have apart := (erased.append_right hosted.dropping).nodup_iff.mp
      sound.apart
    exact (List.nodup_cons.mp apart).2
  · intro run member
    exact ⟨(sound.waits run member).1, admitted run member⟩
  · intro other height callback published registered run member called
    have published : (other, height) ∈ publishing attached.stack := published
    rw [stack] at published
    have apart := others _ published
    have registered : (hosted.hostFunctions.erase function).lookup other =
        some callback := registered
    rw [AList.lookup_erase_ne apart] at registered
    apply sound.above other height callback ?_ registered run member called
    rw [top]
    exact List.mem_cons_of_mem _ published
  · intro dropping
    exact absurd (sound.dropped dropping) live
  · intro past
    exact absurd (torn.mp past) live

/-- A teardown takes every registration, when nothing runs. -/
theorem Sound.taken (sound : hosted.Sound limits)
    {attached : Attached Raw Payload} {op : Op Raw Payload}
    {reply : Reply Raw Payload}
    (moves : hosted.attached.Moves op reply attached)
    (live : ¬hosted.attached.Torn) (empty : hosted.attached.stack = [])
    (functions : attached.shared.hostFunctions = [])
    (nextEmpty : attached.stack = []) (torn : attached.Torn) :
    ({ hosted with attached := attached } :
      Hosted Raw Payload).takeHostFunctions.Sound limits := by
  have quiet := sound.quiet empty
  have undropped := sound.undropped live
  constructor
  · exact moves.sound sound.attached
  · exact moves.ended sound.attached sound.ended
  · exact moves.balanced sound.attached sound.balanced
  · exact moves.hostFunctionLimit.trans sound.limit
  · exact Nat.zero_le _
  · exact functions.symm
  · have owned := sound.owned
    rw [owners, quiet, undropped, List.map_nil, List.append_nil,
      List.append_nil] at owned
    change hosted.callbacks.Accounts ([] ++
      (hosted.running.map CallbackRun.callback ++
        hosted.hostFunctions.callbacks))
    rw [quiet]
    exact owned
  · have apart := sound.apart
    rw [undropped, List.append_nil] at apart
    exact apart
  · intro run member
    have member : run ∈ hosted.running := member
    rw [quiet] at member
    exact absurd member List.not_mem_nil
  · intro function height callback published
    have published : (function, height) ∈ publishing attached.stack :=
      published
    rw [nextEmpty] at published
    exact absurd published List.not_mem_nil
  · exact fun _ => torn
  · exact fun _ => ⟨nextEmpty, rfl⟩

omit [DecidableEq Raw] in
theorem torn_of_isSome {attached : Attached Raw Payload}
    (teardown : attached.teardown.isSome = true) : attached.Torn := by
  refine Or.inl ?_
  intro none
  rw [none] at teardown
  cases teardown

/-- What waits for a callback is still there after the step. -/
theorem Sound.heights (sound : hosted.Sound limits) {engine : Engine Raw}
    {invocation : Invocation Raw Payload} {reply : Reply Raw Payload}
    {attached : Attached Raw Payload}
    (performed : hosted.attached.perform engine invocation =
      some (reply, attached))
    (admitted : hosted.admits invocation.op attached = true) :
    ∀ run ∈ hosted.running, run.height ≤ attached.stack.length := by
  obtain ⟨thread, op⟩ := invocation
  cases op with
  | advanceTeardown =>
      intro run member
      have quiet : hosted.running = [] := by
        apply sound.quiet
        cases teardown : hosted.attached.teardown with
        | none =>
            simp only [Attached.perform, teardown, Option.map_none,
              reduceCtorEq] at performed
        | some teardown => exact (sound.attached.tearing _ ‹_›).1
      rw [quiet] at member
      exact absurd member List.not_mem_nil
  | _ =>
      intro run member
      exact of_decide_eq_true (List.all_eq_true.mp admitted run member)

theorem Sound.installed (sound : hosted.Sound limits) {engine : Engine Raw}
    {thread : Nat} {name : Bool} {function : Option Raw}
    {reply : Reply Raw Payload} {attached : Attached Raw Payload}
    (performed : hosted.attached.perform engine
      ⟨thread, .installHostFunction name function⟩ =
        some (reply, attached))
    (panics : Bool) :
    (hosted.follow (.installHostFunction name function) panics reply
      attached).Sound limits := by
  have moves := sound.attached.moves performed
  obtain ⟨waits, outcome⟩ := Attached.installHostFunction_cases performed
  cases outcome with
  | inl failed =>
      obtain ⟨failure, rfl, rfl⟩ := failed
      exact sound.refuse
  | inr begun =>
      obtain ⟨installed, rfl, fresh, room, rfl, rfl⟩ := begun
      exact sound.registered moves fresh room waits rfl rfl Iff.rfl

theorem Sound.publication (sound : hosted.Sound limits) {engine : Engine Raw}
    {thread : Nat} {global : Bool} {exception : Option JsException}
    {reply : Reply Raw Payload} {attached : Attached Raw Payload}
    (performed : hosted.attached.perform engine
      ⟨thread, .publishHostFunction global exception⟩ =
        some (reply, attached))
    (heights : ∀ run ∈ hosted.running, run.height ≤ attached.stack.length)
    (panics : Bool) :
    (hosted.follow (.publishHostFunction global exception) panics reply
      attached).Sound limits := by
  have moves := sound.attached.moves performed
  obtain ⟨function, rest, top, outcome⟩ :=
    Attached.publishHostFunction_cases performed
  have waits := Attached.waits_of_cons top
  cases outcome with
  | inl failed =>
      obtain ⟨failure, rfl, rfl⟩ := failed
      simp only [follow, top]
      exact sound.rolledBack moves top rfl rfl Iff.rfl heights panics
  | inr published =>
      obtain ⟨rfl, rfl⟩ := published
      refine sound.kept moves rfl ?_ Iff.rfl
        (fun _ empty => absurd empty waits) heights
      intro publication member
      rw [top]
      exact List.mem_cons_of_mem _ member

/-- No other operation names a host function. -/
theorem follow_other {op : Op Raw Payload}
    (installs : ∀ name function, op ≠ .installHostFunction name function)
    (publishes : ∀ global exception,
      op ≠ .publishHostFunction global exception)
    (panics : Bool) (reply : Reply Raw Payload)
    (attached : Attached Raw Payload) :
    hosted.follow op panics reply attached =
      if hosted.attached.teardown.isNone && attached.teardown.isSome then
        ({ hosted with attached := attached } :
          Hosted Raw Payload).takeHostFunctions
      else { hosted with attached := attached } := by
  cases op with
  | installHostFunction name function => exact absurd rfl (installs _ _)
  | publishHostFunction global exception => exact absurd rfl (publishes _ _)
  | _ => rfl

/-- The registry stays, unless a teardown begins. -/
theorem follow_kept {op : Op Raw Payload}
    (installs : ∀ name function, op ≠ .installHostFunction name function)
    (publishes : ∀ global exception,
      op ≠ .publishHostFunction global exception)
    (panics : Bool) (reply : Reply Raw Payload)
    {attached : Attached Raw Payload}
    (idle : hosted.attached.teardown = none → attached.teardown = none) :
    hosted.follow op panics reply attached =
      { hosted with attached := attached } := by
  have alone : (hosted.attached.teardown.isNone &&
      attached.teardown.isSome) = false := by
    cases before : hosted.attached.teardown with
    | none =>
        rw [idle before]
        rfl
    | some teardown => rfl
  rw [follow_other installs publishes, alone, if_neg Bool.false_ne_true]

theorem follow_taken {op : Op Raw Payload}
    (installs : ∀ name function, op ≠ .installHostFunction name function)
    (publishes : ∀ global exception,
      op ≠ .publishHostFunction global exception)
    (panics : Bool) (reply : Reply Raw Payload)
    {attached : Attached Raw Payload}
    (idle : hosted.attached.teardown = none)
    (teardown : attached.teardown.isSome = true) :
    hosted.follow op panics reply attached =
      ({ hosted with attached := attached } :
        Hosted Raw Payload).takeHostFunctions := by
  rw [follow_other installs publishes, idle, teardown]
  rfl

theorem Sound.followed (sound : hosted.Sound limits) {engine : Engine Raw}
    {invocation : Invocation Raw Payload} {reply : Reply Raw Payload}
    {attached : Attached Raw Payload}
    (performed : hosted.attached.perform engine invocation =
      some (reply, attached))
    (admitted : hosted.admits invocation.op attached = true)
    (panics : Bool) :
    (hosted.follow invocation.op panics reply attached).Sound limits := by
  have moves := sound.attached.moves performed
  have heights := sound.heights performed admitted
  obtain ⟨thread, op⟩ := invocation
  by_cases installs : ∃ name function, op = .installHostFunction name function
  · obtain ⟨name, function, rfl⟩ := installs
    exact sound.installed performed panics
  · by_cases publishes : ∃ global exception,
        op = .publishHostFunction global exception
    · obtain ⟨global, exception, rfl⟩ := publishes
      exact sound.publication performed heights panics
    · have notInstalls := fun name function same =>
        installs ⟨name, function, same⟩
      have notPublishes := fun global exception same =>
        publishes ⟨global, exception, same⟩
      cases moves.registers sound.attached sound.ended with
      | kept functions frames torn empties idle =>
          rw [follow_kept notInstalls notPublishes panics reply idle]
          refine sound.kept moves functions ?_ torn ?_ heights
          · intro publication member
            rw [← frames]
            exact member
          · exact fun past => empties (torn.mp past)
      | called names =>
          cases names with
          | inl named => exact absurd named installs
          | inr named => exact absurd named publishes
      | taken live idle empty functions nextEmpty teardown =>
          rw [follow_taken notInstalls notPublishes panics reply idle teardown]
          exact sound.taken moves live empty functions nextEmpty
            (torn_of_isSome teardown)

theorem Sound.step (sound : hosted.Sound limits) {engine : Engine Raw}
    {op : HostedOp Raw Payload} {reply : HostedReply Raw Payload}
    (performed : hosted.perform engine op = some (reply, next)) :
    next.Sound limits := by
  cases op with
  | attachment invocation panics =>
      simp only [perform] at performed
      cases outcome : hosted.attached.perform engine invocation with
      | none =>
          simp only [outcome] at performed
          cases performed
      | some result =>
          obtain ⟨inner, attached⟩ := result
          simp only [outcome] at performed
          split at performed
          · rename_i admitted
            cases performed
            exact sound.followed outcome admitted panics
          · cases performed
  | call call =>
      cases performed
      exact sound.called call
  | returned =>
      obtain ⟨after, returned, same⟩ := Option.map_eq_some_iff.mp performed
      cases same
      exact sound.returned returned
  | dropNext index panics =>
      obtain ⟨after, drops, same⟩ := Option.map_eq_some_iff.mp performed
      cases same
      exact sound.dropNext drops

theorem Fresh.sound (fresh : Hosted.Fresh limits hosted) :
    hosted.Sound limits := by
  obtain ⟨attached, inboundArguments, hostFunctions, callbacks, running,
    dropping, panics⟩ := hosted
  obtain ⟨attached, rfl, rfl, rfl, rfl, rfl⟩ := fresh
  obtain ⟨stack, functions, limit, idle⟩ := attached.idle
  constructor
  · exact attached.sound
  · exact attached.ended
  · exact attached.balanced
  · exact limit
  · exact Nat.zero_le _
  · exact functions.symm
  · exact Heap.accounts_new
  · exact List.nodup_nil
  · intro run member
    exact absurd member List.not_mem_nil
  · intro function height callback published
    have published : (function, height) ∈ publishing _ := published
    rw [stack] at published
    exact absurd published List.not_mem_nil
  · exact fun dropping => absurd rfl dropping
  · exact fun torn => absurd torn idle

variable {engine : Engine Raw}
  {trace : List (Exchange (HostedOp Raw Payload) (HostedReply Raw Payload))}

theorem run_sound (run : (hostedSystem engine limits).Run trace hosted) :
    hosted.Sound limits := by
  refine System.Run.invariant (fun _ hosted => Sound limits hosted) ?_ ?_ run
  · intro hosted fresh
    exact Fresh.sound fresh
  · intro trace hosted label next _ sound step
    exact sound.step step

end Hosted

end RustJsi.BackendJsc

import RustJsi.BackendJsc.LocalBalance
import RustJsi.Testkit.TwinRoots

/-!
# Both backends keep the root contract

Whatever a program does with several backends, both sides do with a root what
the contract says.
-/

namespace RustJsi.Testkit

open Generational Interleaving
open RustJsi.BackendJsc (Attached BackendError Engine JscRoot)
open RustJsi.BackendJsc.Attached (smallScalars)

variable {Raw Payload : Type*}

namespace Parallel

variable {contract : RootContract (Raw × ValueId)}
  {parallel next : Parallel Raw Payload} {backend : Nat}
  {twin after : Twin Raw Payload}

def attachments (parallel : Parallel Raw Payload) :
    List Host.AttachmentId :=
  parallel.twins.map fun twin => twin.jsc.shared.id

def backends (parallel : Parallel Raw Payload) : List UInt64 :=
  parallel.twins.map fun twin => twin.model.backend.id

/-- Every backend keeps the contract, and every root is named after the one
that has issued it. -/
structure Sound (contract : RootContract (Raw × ValueId))
    (parallel : Parallel Raw Payload) : Prop where
  lengths : parallel.roots.length = contract.length
  attachmentsNodup : parallel.attachments.Nodup
  backendsNodup : parallel.backends.Nodup
  owners : ∀ (index : Nat) (issued : IssuedRoot (Raw × ValueId))
    (root : JscRoot × ModelRoot),
    contract[index]? = some issued → parallel.roots[index]? = some root →
    parallel.attachments[issued.owner]? = some root.1.attachment ∧
      parallel.backends[issued.owner]? = some root.2.backend
  twins : ∀ (backend : Nat) (twin : Twin Raw Payload),
    parallel.twins[backend]? = some twin →
    twin.Sound contract parallel.roots backend

theorem map_set_same {Item Name : Type*} {name : Item → Name}
    {items : List Item} {index : Nat} {old new : Item}
    (present : items[index]? = some old) (same : name new = name old) :
    (items.set index new).map name = items.map name := by
  obtain ⟨bound, _⟩ := List.getElem?_eq_some_iff.mp present
  apply List.ext_getElem?
  intro place
  rw [List.getElem?_map, List.getElem?_map]
  by_cases here : index = place
  · subst here
    rw [List.getElem?_set_self bound, present]
    exact congrArg some same
  · rw [List.getElem?_set_ne here]

theorem eq_iff_of_nodup {Name : Type*} {names : List Name}
    (nodup : names.Nodup) {first second : Nat} {name other : Name}
    (firstPresent : names[first]? = some name)
    (secondPresent : names[second]? = some other) :
    name = other ↔ first = second := by
  constructor
  · intro same
    obtain ⟨bound, _⟩ := List.getElem?_eq_some_iff.mp firstPresent
    apply (List.getElem?_inj bound nodup).mp
    rw [firstPresent, secondPresent, same]
  · intro same
    rw [same, secondPresent] at firstPresent
    exact (Option.some.inj firstPresent).symm

theorem Sound.owned (sound : parallel.Sound contract)
    (present : parallel.twins[backend]? = some twin) {index : Nat}
    {root : JscRoot × ModelRoot} (rootPresent : parallel.roots[index]? = some root)
    {outcome : RootOutcome (Raw × ValueId)}
    (known : contract.outcome backend index = some outcome) :
    twin.Owned outcome root := by
  obtain ⟨issued, issuedPresent, same⟩ := Option.map_eq_some_iff.mp known
  obtain ⟨attachment, identity⟩ :=
    sound.owners index issued root issuedPresent rootPresent
  have own : outcome ≠ .foreign ↔ issued.owner = backend := by
    rw [← same]
    by_cases own : issued.owner = backend
    · rw [if_neg (not_not.mpr own)]
      refine iff_of_true ?_ own
      split
      · nofun
      · nofun
    · rw [if_pos own]
      exact iff_of_false (not_not.mpr rfl) own
  refine ⟨?_, ?_⟩
  · rw [own]
    apply eq_iff_of_nodup sound.attachmentsNodup attachment
    rw [attachments, List.getElem?_map, present]
    rfl
  · rw [own]
    apply eq_iff_of_nodup sound.backendsNodup identity
    rw [backends, List.getElem?_map, present]
    rfl

/-- One backend has taken a step, and the others keep the contract. -/
theorem Sound.put (sound : parallel.Sound contract)
    (present : parallel.twins[backend]? = some twin)
    {contractNext : RootContract (Raw × ValueId)}
    {roots : List (JscRoot × ModelRoot)}
    (jsc : after.jsc.shared.id = twin.jsc.shared.id)
    (model : after.model.backend.id = twin.model.backend.id)
    (lengths : roots.length = contractNext.length)
    (owners : ∀ (index : Nat) (issued : IssuedRoot (Raw × ValueId))
      (root : JscRoot × ModelRoot),
      contractNext[index]? = some issued → roots[index]? = some root →
      parallel.attachments[issued.owner]? = some root.1.attachment ∧
        parallel.backends[issued.owner]? = some root.2.backend)
    (here : after.Sound contractNext roots backend)
    (elsewhere : ∀ (other : Nat) (twin : Twin Raw Payload), backend ≠ other →
      twin.Sound contract parallel.roots other →
      twin.Sound contractNext roots other) :
    ({ parallel.put backend after with roots := roots } :
      Parallel Raw Payload).Sound contractNext := by
  have attachmentsSame : ({ parallel.put backend after with roots := roots } :
      Parallel Raw Payload).attachments = parallel.attachments :=
    map_set_same present jsc
  have backendsSame : ({ parallel.put backend after with roots := roots } :
      Parallel Raw Payload).backends = parallel.backends :=
    map_set_same present model
  refine ⟨lengths, ?_, ?_, ?_, ?_⟩
  · rw [attachmentsSame]
    exact sound.attachmentsNodup
  · rw [backendsSame]
    exact sound.backendsNodup
  · rw [attachmentsSame, backendsSame]
    exact owners
  · intro other otherTwin otherPresent
    by_cases same : backend = other
    · subst same
      obtain ⟨bound, _⟩ := List.getElem?_eq_some_iff.mp present
      have stored : (parallel.put backend after).twins[backend]? =
          some after := List.getElem?_set_self bound
      rw [stored] at otherPresent
      cases otherPresent
      exact here
    · have stored : (parallel.put backend after).twins[other]? =
          parallel.twins[other]? := List.getElem?_set_ne same
      rw [stored] at otherPresent
      exact elsewhere other otherTwin same
        (sound.twins other otherTwin otherPresent)

/-- A step beside the roots. -/
theorem Sound.put_kept (sound : parallel.Sound contract)
    (present : parallel.twins[backend]? = some twin)
    (jsc : after.jsc.shared.id = twin.jsc.shared.id)
    (model : after.model.backend.id = twin.model.backend.id)
    (here : after.Sound contract parallel.roots backend) :
    (parallel.put backend after).Sound contract :=
  sound.put present jsc model sound.lengths sound.owners here
    fun _ _ _ kept => kept

variable [DecidableEq Raw] {engine : Engine Raw}
  {addressed : Addressed Raw Payload} {reply : ParallelReply Raw Payload}

/-- What the contract becomes with one exchange. -/
def extend (contract : RootContract (Raw × ValueId))
    (exchange : Exchange (Addressed Raw Payload)
      (ParallelReply Raw Payload)) : RootContract (Raw × ValueId) :=
  match exchange.op.op, exchange.reply with
  | .persist _, .persisted value _ _ =>
      contract.persist exchange.op.backend value
  | .release root, .released _ _ =>
      contract.release exchange.op.backend root
  | _, _ => contract

omit [DecidableEq Raw] in
theorem contract_snoc (trace : List (Exchange (Addressed Raw Payload)
      (ParallelReply Raw Payload))) (exchange) :
    Parallel.contract (trace ++ [exchange]) =
      extend (Parallel.contract trace) exchange := by
  rw [Parallel.contract, List.foldl_append]
  rfl

/-- Both sides move on, and leave the roots alone. -/
theorem Sound.both_kept (sound : parallel.Sound contract)
    (present : parallel.twins[backend]? = some twin)
    {invocation : BackendJsc.Invocation Raw Payload} {op : SessionOp}
    {jscReply : BackendJsc.Reply Raw Payload} {modelReply : SessionReply}
    (performed : twin.both engine invocation op =
      some (jscReply, modelReply, after))
    (beside : twin.jsc.Beside twin.leases invocation.op)
    (silent : Attached.leasedBy invocation.op jscReply = [])
    (quiet : op.usesRoots = false)
    {obtained : List (Raw × ValueId)}
    (obtains : ∀ trace : List ModelSession.SessionExchange,
      (∀ value ∈ twin.obtained, value.2 ∈ ModelSession.obtained trace) →
      ∀ value ∈ obtained,
        value.2 ∈ ModelSession.obtained (trace ++ [⟨op, modelReply⟩])) :
    (parallel.put backend { after with obtained := obtained }).Sound
      contract := by
  obtain ⟨jsc, model, left, right, rfl⟩ := Twin.both_eq_some performed
  have here := sound.twins backend twin present
  obtain ⟨jscSound, jscId, keeps⟩ := here.jscStep beside left
  rw [silent, List.append_nil] at keeps
  exact sound.put_kept present jscId (here.modelStep quiet right).1
    (here.advance jscSound keeps quiet right obtains)

omit [DecidableEq Raw] in
/-- The contract knows every root that was issued. -/
theorem Sound.outcome (sound : parallel.Sound contract) (backend : Nat)
    {index : Nat} {root : JscRoot × ModelRoot}
    (present : parallel.roots[index]? = some root) :
    ∃ outcome, contract.outcome backend index = some outcome := by
  obtain ⟨bound, _⟩ := List.getElem?_eq_some_iff.mp present
  rw [sound.lengths] at bound
  rw [RootContract.outcome, List.getElem?_eq_getElem bound]
  exact ⟨_, rfl⟩

theorem Sound.besideJsc (sound : parallel.Sound contract)
    {thread : Nat} {invocation : BackendJsc.Invocation Raw Payload}
    (performed : parallel.perform engine
      ⟨backend, thread, .besideJsc invocation⟩ = some (reply, next)) :
    next.Sound contract := by
  unfold perform at performed
  split at performed
  · cases performed
  · rename_i twin present
    simp only at performed present
    split at performed
    · rename_i beside
      obtain ⟨⟨jscReply, jsc⟩, run, same⟩ :=
        Option.map_eq_some_iff.mp performed
      cases same
      have here := sound.twins backend twin present
      obtain ⟨jscSound, jscId, keeps⟩ :=
        here.jscStep (Twin.beside_of_besideJsc beside) run
      exact sound.put_kept present jscId rfl
        (here.kept jscSound keeps here.recorded rfl)
    · cases performed

theorem quiet_of_isBeside {op : SessionOp} (beside : op.isBeside = true) :
    op.usesRoots = false := by
  cases op with
  | inScope op =>
      cases op with
      | persist value => cases beside
      | release root => cases beside
      | _ => rfl
  | _ => rfl

theorem Sound.besideModel (sound : parallel.Sound contract)
    {thread : Nat} {op : SessionOp}
    (performed : parallel.perform engine ⟨backend, thread, .besideModel op⟩ =
      some (reply, next)) : next.Sound contract := by
  unfold perform at performed
  split at performed
  · cases performed
  · rename_i twin present
    simp only at performed present
    split at performed
    · rename_i beside
      obtain ⟨⟨modelReply, model⟩, run, same⟩ :=
        Option.map_eq_some_iff.mp performed
      cases same
      have here := sound.twins backend twin present
      have quiet := quiet_of_isBeside beside
      refine sound.put_kept present rfl (here.modelStep quiet run).1
        (here.advance here.jsc here.shares.keeps quiet run ?_)
      intro trace obtains value member
      refine Twin.mem_obtained_snoc ?_ ?_ (obtains value member)
      · intro opens
        rw [opens] at beside
        cases beside
      · intro order drops
        rw [drops] at beside
        cases beside
    · cases performed

theorem Sound.openScope (sound : parallel.Sound contract) {thread : Nat}
    (performed : parallel.perform engine ⟨backend, thread, .openScope⟩ =
      some (reply, next)) : next.Sound contract ∧ reply = .scope := by
  unfold perform at performed
  split at performed
  · cases performed
  · rename_i twin present
    simp only at performed present
    split at performed
    · rename_i modelReply after both
      cases performed
      exact ⟨sound.both_kept present both rfl rfl rfl
        fun _ _ => List.forall_mem_nil _, rfl⟩
    · cases performed

theorem Sound.dropScope (sound : parallel.Sound contract) {thread : Nat}
    {order : List ValueId}
    (performed : parallel.perform engine
      ⟨backend, thread, .dropScope order⟩ = some (reply, next)) :
    next.Sound contract ∧ reply = .scope := by
  unfold perform at performed
  split at performed
  · cases performed
  · rename_i twin present
    simp only at performed present
    split at performed
    · obtain ⟨⟨jscReply, modelReply, after⟩, both, same⟩ :=
        Option.map_eq_some_iff.mp performed
      cases same
      exact ⟨sound.both_kept present both rfl rfl rfl
        fun _ _ => List.forall_mem_nil _, rfl⟩
    · cases performed

theorem Sound.create (sound : parallel.Sound contract) {thread : Nat}
    {source : Source Raw Payload} {op : ScopeOp}
    (performed : parallel.perform engine
      ⟨backend, thread, .create source op⟩ = some (reply, next)) :
    next.Sound contract ∧ ∃ value, reply = .created value := by
  unfold perform at performed
  split at performed
  · cases performed
  · rename_i twin present
    simp only at performed present
    obtain ⟨⟨told, after⟩, made, same⟩ := Option.map_eq_some_iff.mp performed
    cases same
    have here := sound.twins backend twin present
    have gains : ∀ {modelReply : SessionReply} {model : ModelSession}
        {raw : Raw} {value : ValueId},
        (SessionOp.inScope op).isBeside = true →
        twin.model.perform (.inScope op) = some (modelReply, model) →
        modelResult modelReply = some value →
        ∀ trace : List ModelSession.SessionExchange,
          (∀ value ∈ twin.obtained, value.2 ∈ ModelSession.obtained trace) →
          ∀ value' ∈ twin.obtained ++ [(raw, value)], value'.2 ∈
            ModelSession.obtained (trace ++ [⟨.inScope op, modelReply⟩]) := by
      intro modelReply model raw value beside run result trace obtains value' member
      rw [ModelSession.obtained_snoc, List.mem_append,
        Twin.created_of_result beside run result]
      cases List.mem_append.mp member with
      | inl old => exact Or.inl (obtains value' old)
      | inr new =>
          cases List.mem_singleton.mp new
          exact Or.inr (List.mem_singleton.mpr rfl)
    cases source with
    | primitive raw =>
        simp only [Twin.create] at made
        split at made
        · rename_i usable
          obtain ⟨_, beside⟩ := Bool.and_eq_true_iff.mp usable
          split at made
          · cases made
          · rename_i modelReply model run
            obtain ⟨value, result, same⟩ := Option.map_eq_some_iff.mp made
            cases same
            have quiet := quiet_of_isBeside beside
            refine ⟨sound.put_kept present rfl (here.modelStep quiet run).1
              (here.advance here.jsc here.shares.keeps quiet run ?_), _, rfl⟩
            exact gains beside run result
        · cases made
    | operation invocation =>
        simp only [Twin.create] at made
        split at made
        · rename_i usable
          obtain ⟨usable, beside⟩ := Bool.and_eq_true_iff.mp usable
          obtain ⟨_, besideJsc⟩ := Bool.and_eq_true_iff.mp usable
          split at made
          · cases made
          · rename_i jscReply modelReply middle both
            split at made
            · rename_i raw value jscValue modelValue
              cases made
              obtain ⟨jsc, model, left, right, rfl⟩ := Twin.both_eq_some both
              have silent :
                  Attached.leasedBy invocation.op jscReply = [] := by
                unfold Attached.leasedBy
                split
                · cases jscValue
                · rfl
              exact ⟨sound.both_kept present both
                (Twin.beside_of_besideJsc besideJsc) silent
                (quiet_of_isBeside beside)
                (gains beside right modelValue), _, rfl⟩
            · cases made
        · cases made

theorem Sound.persist (sound : parallel.Sound contract) {thread value : Nat}
    (performed : parallel.perform engine
      ⟨backend, thread, .persist value⟩ = some (reply, next)) :
    next.Sound (extend contract ⟨⟨backend, thread, .persist value⟩, reply⟩) ∧
      Meets contract ⟨⟨backend, thread, .persist value⟩, reply⟩ := by
  unfold perform at performed
  split at performed
  · cases performed
  · rename_i twin present
    simp only at performed present
    split at performed
    · cases performed
    · rename_i raw id known
      split at performed
      · cases performed
      · rename_i jscReply modelReply after both
        split at performed
        · cases performed
        · rename_i unlimited
          cases performed
          have here := sound.twins backend twin present
          obtain ⟨rootId, root, rfl, rfl, own, jscId, modelId, hereNext⟩ :=
            here.persist sound.lengths (List.mem_of_getElem? known) both
              (Bool.not_eq_true _ ▸ unlimited)
          refine ⟨?_, ⟨_, rfl⟩, _, rfl⟩
          change Sound (contract.persist backend (raw, id)) _
          refine sound.put present jscId modelId ?_ ?_ hereNext ?_
          · rw [RootContract.length_persist, List.length_append,
              sound.lengths]
            rfl
          · intro index issued other issuedPresent otherPresent
            by_cases last : index = contract.length
            · rw [last, ← sound.lengths] at otherPresent
              rw [last] at issuedPresent
              cases (List.getElem?_concat_length ..).symm.trans otherPresent
              cases (List.getElem?_concat_length ..).symm.trans issuedPresent
              rw [attachments, backends, List.getElem?_map, List.getElem?_map,
                present, own]
              exact ⟨rfl, rfl⟩
            · have below : index < contract.length := by
                obtain ⟨bound, _⟩ :=
                  List.getElem?_eq_some_iff.mp issuedPresent
                rw [RootContract.length_persist] at bound
                omega
              have rootBelow : index < parallel.roots.length := by
                rw [sound.lengths]
                exact below
              rw [RootContract.persist, List.getElem?_append_left below]
                at issuedPresent
              rw [List.getElem?_append_left rootBelow] at otherPresent
              exact sound.owners index issued other issuedPresent otherPresent
          · intro other otherTwin apart kept
            exact kept.persist_other sound.lengths apart _ _

theorem Sound.resolve (sound : parallel.Sound contract) {thread root : Nat}
    (performed : parallel.perform engine
      ⟨backend, thread, .resolve root⟩ = some (reply, next)) :
    next.Sound contract ∧
      Meets contract ⟨⟨backend, thread, .resolve root⟩, reply⟩ := by
  unfold perform at performed
  split at performed
  · cases performed
  · rename_i twin present
    simp only at performed present
    split at performed
    · cases performed
    · rename_i jscRoot modelRoot rootPresent
      split at performed
      · cases performed
      · rename_i jscReply modelReply after both
        split at performed
        · cases performed
        · rename_i unlimited
          have here := sound.twins backend twin present
          obtain ⟨outcome, known⟩ := sound.outcome backend rootPresent
          have resolves := here.resolves rootPresent known
            (sound.owned present rootPresent known) both
            (Bool.eq_false_of_not_eq_true unlimited)
          have refused : ∀ error : BackendError,
              jscReply = .failed (.backend error) →
              modelReply = .value (.error error) →
              next.Sound contract ∧
                ∃ jsc model, reply = .resolved jsc model ∧
                  jsc = jscReply ∧ model = modelReply := by
            intro error jscEq modelEq
            rw [jscEq, modelEq] at performed both
            cases performed
            refine ⟨sound.both_kept present both rfl rfl rfl ?_, _, _, rfl,
              jscEq.symm, modelEq.symm⟩
            intro trace obtains value member
            rw [Twin.both_obtained both] at member
            refine Twin.mem_obtained_snoc ?_ ?_ (obtains value member)
            · nofun
            · intro order
              nofun
          cases outcome with
          | resolved pair =>
              obtain ⟨raw, value⟩ := pair
              obtain ⟨rfl, rfl⟩ := resolves
              cases performed
              refine ⟨sound.both_kept present both rfl rfl rfl ?_,
                _, known, rfl, rfl⟩
              intro trace obtains value' member
              rw [ModelSession.obtained_snoc, List.mem_append]
              cases List.mem_append.mp member with
              | inl old => exact Or.inl (obtains value' old)
              | inr new =>
                  cases List.mem_singleton.mp new
                  exact Or.inr (List.mem_singleton.mpr rfl)
          | stale =>
              obtain ⟨nextSound, jsc, model, rfl, rfl, rfl⟩ :=
                refused .staleHandle resolves.1 resolves.2
              exact ⟨nextSound, _, known, resolves⟩
          | foreign =>
              obtain ⟨nextSound, jsc, model, rfl, rfl, rfl⟩ :=
                refused .wrongBackend resolves.1 resolves.2
              exact ⟨nextSound, _, known, resolves⟩

theorem Sound.release (sound : parallel.Sound contract) {thread root : Nat}
    (performed : parallel.perform engine
      ⟨backend, thread, .release root⟩ = some (reply, next)) :
    next.Sound (extend contract ⟨⟨backend, thread, .release root⟩, reply⟩) ∧
      Meets contract ⟨⟨backend, thread, .release root⟩, reply⟩ := by
  unfold perform at performed
  split at performed
  · cases performed
  · rename_i twin present
    simp only at performed present
    split at performed
    · cases performed
    · rename_i jscRoot modelRoot rootPresent
      obtain ⟨⟨jscReply, modelReply, after⟩, both, same⟩ :=
        Option.map_eq_some_iff.mp performed
      cases same
      have here := sound.twins backend twin present
      obtain ⟨outcome, known⟩ := sound.outcome backend rootPresent
      obtain ⟨releases, jscId, modelId, hereNext⟩ := here.releases rootPresent
        known (sound.owned present rootPresent known) both
      refine ⟨?_, outcome, known, releases⟩
      change Sound (contract.release backend root) _
      refine sound.put present jscId modelId ?_ ?_ hereNext ?_
      · rw [RootContract.length_release]
        exact sound.lengths
      · intro index issued other issuedPresent otherPresent
        rw [RootContract.release, List.getElem?_modify] at issuedPresent
        obtain ⟨before, beforePresent, same⟩ :=
          Option.map_eq_some_iff.mp issuedPresent
        have owner : issued.owner = before.owner := by
          rw [← same]
          split
          · split
            · rfl
            · rfl
          · rfl
        rw [owner]
        exact sound.owners index before other beforePresent otherPresent
      · intro other otherTwin apart kept
        exact kept.release_other apart root

/-- A step keeps the contract, as far as the program has come with it. -/
theorem Sound.perform (sound : parallel.Sound contract)
    (performed : parallel.perform engine addressed = some (reply, next)) :
    next.Sound (extend contract ⟨addressed, reply⟩) ∧
      Meets contract ⟨addressed, reply⟩ := by
  obtain ⟨backend, thread, op⟩ := addressed
  cases op with
  | besideJsc invocation => exact ⟨sound.besideJsc performed, trivial⟩
  | besideModel op => exact ⟨sound.besideModel performed, trivial⟩
  | openScope => exact ⟨(sound.openScope performed).1, trivial⟩
  | dropScope order => exact ⟨(sound.dropScope performed).1, trivial⟩
  | create source op => exact ⟨(sound.create performed).1, trivial⟩
  | persist value => exact sound.persist performed
  | resolve root => exact sound.resolve performed
  | release root => exact sound.release performed

omit [DecidableEq Raw] in
theorem Initial.sound (initial : Initial parallel) :
    parallel.Sound [] := by
  refine ⟨?_, initial.attachments, initial.backends, nofun, ?_⟩
  · rw [initial.roots]
    rfl
  · intro backend twin present
    obtain ⟨⟨limits, fresh⟩, ⟨id, modelEq⟩, obtained, leases⟩ :=
      initial.fresh twin (List.mem_of_getElem? present)
    have isNew : twin.jsc.shared.roots = .new limits.persistentSlots := by
      generalize twin.jsc = attached at fresh
      cases fresh with
      | runtime id address owner context => rfl
      | attachment id address owner finalEntryPolicy => rfl
    refine ⟨fresh.sound, ?_, .empty, ⟨[], ?_, ?_, ?_⟩, .empty⟩
    · rw [isNew, leases]
      apply (BackendJsc.RootRegistry.shares_new _).congr
      intro other
      refine iff_of_false ?_ fun impossible => impossible
      intro known
      obtain ⟨index, root, has, _⟩ := known
      cases has.2
    · rw [modelEq]
      exact ⟨[], ModelSession.sound_initial id⟩
    · rw [obtained]
      exact List.forall_mem_nil _
    · intro index root has
      cases has.2

variable {trace : List (Exchange (Addressed Raw Payload)
  (ParallelReply Raw Payload))}

theorem run_sound (run : (system engine).Run trace parallel) :
    parallel.Sound (Parallel.contract trace) ∧
      ∀ before exchange after, trace = before ++ exchange :: after →
        Meets (Parallel.contract before) exchange := by
  refine run.invariant (fun trace parallel =>
    parallel.Sound (Parallel.contract trace) ∧
      ∀ before exchange after, trace = before ++ exchange :: after →
        Meets (Parallel.contract before) exchange) ?_ ?_
  · intro parallel initial
    refine ⟨Initial.sound initial, ?_⟩
    intro before exchange after split
    cases before with
    | nil => cases split
    | cons first rest => cases split
  · intro trace parallel exchange next _ known step
    obtain ⟨sound, meets⟩ := known
    have performed := sound.perform step
    rw [contract_snoc]
    refine ⟨performed.1, ?_⟩
    intro before other after split
    cases after using List.reverseRecOn with
    | nil =>
        obtain ⟨same, last⟩ := List.append_inj' split rfl
        cases last
        rw [← same]
        exact performed.2
    | append_singleton after last =>
        rw [← List.cons_append, ← List.append_assoc] at split
        obtain ⟨same, _⟩ := List.append_inj' split rfl
        exact meets before other after same

omit [DecidableEq Raw] in
theorem Sound.getElem?_isSome (sound : parallel.Sound contract)
    {index : Nat} (below : index < contract.length) :
    ∃ root, parallel.roots[index]? = some root := by
  rw [← sound.lengths] at below
  exact ⟨_, List.getElem?_eq_getElem below⟩

theorem Sound.persistAnswers (sound : parallel.Sound contract)
    {thread value : Nat} (present : parallel.twins[backend]? = some twin)
    (ready : twin.ready = true) (room : twin.jsc.rootRoom = true)
    (below : value < twin.obtained.length) :
    (parallel.perform engine
      ⟨backend, thread, .persist value⟩).isSome = true := by
  obtain ⟨⟨raw, id⟩, known⟩ :
      ∃ pair, twin.obtained[value]? = some pair :=
    ⟨_, List.getElem?_eq_getElem below⟩
  obtain ⟨jscReply, modelReply, after, both, unlimited⟩ :=
    @Twin.Sound.persistAnswers _ _ _ _ _ _ _ engine thread
      (sound.twins backend twin present) ready room raw id
      (List.mem_of_getElem? known)
  rw [Parallel.perform, present]
  simp only [known, both, unlimited, Bool.false_eq_true, if_false]
  rfl

theorem Sound.resolveAnswers (sound : parallel.Sound contract)
    {thread root : Nat} (present : parallel.twins[backend]? = some twin)
    (ready : twin.ready = true) (room : twin.jsc.localRoom = true)
    (below : root < contract.length) :
    (parallel.perform engine
      ⟨backend, thread, .resolve root⟩).isSome = true := by
  obtain ⟨⟨jscRoot, modelRoot⟩, rootPresent⟩ :=
    sound.getElem?_isSome below
  obtain ⟨outcome, known⟩ := sound.outcome backend rootPresent
  obtain ⟨jscReply, modelReply, after, both, unlimited⟩ :=
    @Twin.Sound.resolveAnswers _ _ _ _ _ _ _ engine thread _ _ _
      (sound.twins backend twin present) ready room rootPresent known
      (sound.owned present rootPresent known)
  rw [Parallel.perform, present]
  simp only [rootPresent, both, unlimited, Bool.false_eq_true, if_false]
  split
  · rfl
  · rfl

theorem Sound.releaseAnswers (sound : parallel.Sound contract)
    {thread root : Nat} (present : parallel.twins[backend]? = some twin)
    (ready : twin.ready = true) (below : root < contract.length) :
    (parallel.perform engine
      ⟨backend, thread, .release root⟩).isSome = true := by
  obtain ⟨⟨jscRoot, modelRoot⟩, rootPresent⟩ :=
    sound.getElem?_isSome below
  obtain ⟨outcome, known⟩ := sound.outcome backend rootPresent
  obtain ⟨jscReply, modelReply, after, both⟩ :=
    @Twin.Sound.releaseAnswers _ _ _ _ _ _ _ engine thread _ _ _
      (sound.twins backend twin present) ready rootPresent known
      (sound.owned present rootPresent known)
  rw [Parallel.perform, present]
  simp only [rootPresent, both]
  rfl

/-- The engine and the model keep one contract of roots. -/
theorem run_sameRoots (run : (system engine).Run trace parallel) :
    SameRoots engine trace parallel := by
  obtain ⟨sound, meets⟩ := run_sound run
  refine ⟨meets, ?_, ?_, ?_⟩
  · intro backend thread value twin present ready room below
    exact sound.persistAnswers present ready room below
  · intro backend thread root twin present ready room below
    exact sound.resolveAnswers present ready room below
  · intro backend thread root twin present ready below
    exact sound.releaseAnswers present ready below

def secondAttachment : Host.AttachmentId where
  runtimeId := ⟨.two⟩
  epoch := ⟨.one⟩

/-- A backend with room for four local roots, and for four persistent roots that
a `Context` shares with the scopes. -/
def fourRoots (attachment : Host.AttachmentId) (backend : UInt64) :
    Twin Nat Unit where
  jsc := .new (.new attachment 0 0 .guaranteed ⟨4, 4, ⟨4, 100⟩, 1, 1⟩)
    (.runtime (some 0))
  model := .initial backend
  obtained := []
  leases := []

def twoBackends : Parallel Nat Unit where
  twins := [fourRoots Attached.firstAttachment 1, fourRoots secondAttachment 2]
  roots := []

theorem twoBackends_initial : Initial twoBackends := by
  refine ⟨rfl, by decide, by decide, ?_⟩
  intro twin member
  cases member with
  | head => exact ⟨⟨_, .runtime _ _ _ _⟩, ⟨1, rfl⟩, rfl, rfl⟩
  | tail _ member =>
      cases member with
      | head => exact ⟨⟨_, .runtime _ _ _ _⟩, ⟨2, rfl⟩, rfl, rfl⟩
      | tail _ member => cases member

/-- A `Context` persists an object on the first backend, and a scope a number
twice.  Its first root is released there, twice, and the lease is dropped; then
the slot of the root is used again.  A scope of the second backend asks for the
other root, and a later scope of the first backend for all of them. -/
def sharedSlots : List (Addressed Nat Unit) :=
  [⟨0, 0, .besideJsc ⟨0, .enter none ⟨none, none⟩⟩⟩,
    ⟨0, 0, .besideJsc ⟨0, .lendContext⟩⟩,
    ⟨0, 0, .besideJsc ⟨0, .eval true true⟩⟩,
    ⟨0, 0, .besideJsc ⟨0, .produced (some 20) none⟩⟩,
    ⟨0, 0, .besideJsc ⟨0, .persist ⟨Attached.firstAttachment, 20⟩⟩⟩,
    ⟨0, 0, .besideJsc ⟨0, .close⟩⟩,
    ⟨0, 0, .openScope⟩,
    ⟨0, 0, .create (.primitive 5) (.create .null)⟩,
    ⟨0, 0, .persist 0⟩,
    ⟨0, 0, .persist 0⟩,
    ⟨0, 0, .resolve 0⟩,
    ⟨0, 0, .release 0⟩,
    ⟨0, 0, .release 0⟩,
    ⟨0, 0, .besideJsc ⟨0, .dropLease
      ⟨some 0, Attached.firstAttachment, ⟨0, 1⟩⟩⟩⟩,
    ⟨0, 0, .create (.primitive 6) (.create .undefined)⟩,
    ⟨0, 0, .persist 2⟩,
    ⟨0, 0, .dropScope [⟨1, ⟨0, 1⟩⟩, ⟨1, ⟨1, 1⟩⟩]⟩,
    ⟨1, 0, .besideJsc ⟨0, .enter none ⟨none, none⟩⟩⟩,
    ⟨1, 0, .openScope⟩,
    ⟨1, 0, .resolve 1⟩,
    ⟨1, 0, .release 1⟩,
    ⟨0, 0, .openScope⟩,
    ⟨0, 0, .resolve 0⟩,
    ⟨0, 0, .resolve 1⟩,
    ⟨0, 0, .resolve 2⟩]

theorem sharedSlots_sameRoots :
    ∃ trace parallel,
      (component smallScalars).performAll twoBackends sharedSlots =
        some (trace, parallel) ∧
      SameRoots smallScalars trace parallel := by
  obtain ⟨trace, parallel, performed, run⟩ :=
    (component smallScalars).exists_run_of_performAll Initial sharedSlots
      twoBackends_initial (by decide)
  exact ⟨trace, parallel, performed, run_sameRoots run⟩

end Parallel

end RustJsi.Testkit

import RustJsi.Testkit.ModelRoots
import RustJsi.Testkit.ParallelRoots

/-!
# The roots of one backend

Each side of a backend resolves the roots that the program was issued as the
contract says, and the values that correspond stay together.
-/

namespace RustJsi.Testkit

open Generational Interleaving
open RustJsi.BackendJsc (Attached BackendError Engine JscRoot JscRuntimeLimits
  Op RootId mapRuntimeError)

variable {Raw Payload : Type*}

/-- The registry of an attachment has issued this root to the program. -/
def Known (contract : RootContract (Raw × ValueId))
    (roots : List (JscRoot × ModelRoot)) (backend : Nat) (id : RootId) :
    Prop :=
  ∃ (index : Nat) (root : JscRoot × ModelRoot),
    contract.Has backend roots index root ∧ root.1.id = id

namespace Twin

/-- The model has come to its state, and knows the values and the roots of the
program. -/
structure Recorded (contract : RootContract (Raw × ValueId))
    (roots : List (JscRoot × ModelRoot)) (backend : Nat)
    (model : ModelSession) (obtained : List (Raw × ValueId))
    (trace : List ModelSession.SessionExchange) : Prop where
  sound : ∃ created,
    ModelSession.Sound model.backend.id trace created model
  obtained : ∀ value ∈ obtained, value.2 ∈ ModelSession.obtained trace
  listed : ∀ (index : Nat) (root : JscRoot × ModelRoot),
    contract.Has backend roots index root →
    root.2 ∈ (ModelSession.persisted trace).map Prod.fst

/-- Both sides of a backend resolve its roots as the contract says. -/
structure Sound (contract : RootContract (Raw × ValueId))
    (roots : List (JscRoot × ModelRoot)) (backend : Nat)
    (twin : Twin Raw Payload) : Prop where
  jsc : twin.jsc.Sound
  shares : twin.jsc.shared.roots.Shares (Known contract roots backend)
    twin.leases
  jscServes : contract.Serves backend Prod.fst
    (roots.map fun root => root.1.id) twin.jsc.shared.roots.get
  recorded : ∃ trace,
    Recorded contract roots backend twin.model twin.obtained trace
  modelServes : contract.Serves backend Prod.snd
    (roots.map fun root => root.2.id)
    (Store.get twin.model.backend.state.roots)

variable {contract : RootContract (Raw × ValueId)}
  {roots : List (JscRoot × ModelRoot)} {backend : Nat}
  {twin next : Twin Raw Payload} {model modelNext : ModelSession}
  {obtained : List (Raw × ValueId)} {trace : List ModelSession.SessionExchange}
  {op : SessionOp} {reply : SessionReply}

theorem persisted_snoc (trace : List ModelSession.SessionExchange)
    (exchange : ModelSession.SessionExchange) :
    ModelSession.persisted (trace ++ [exchange]) =
      ModelSession.persisted trace ++
        ((ModelSession.event exchange).bind ModelEvent.persistedOf).toList := by
  rw [ModelSession.persisted, filterMap_snoc, filterMap_toList]
  rfl

/-- The records grow with every operation of the model. -/
theorem Recorded.perform
    (recorded : Recorded contract roots backend model obtained trace)
    (performed : model.perform op = some (reply, modelNext))
    {obtainedNext : List (Raw × ValueId)}
    (obtains : ∀ value ∈ obtainedNext,
      value.2 ∈ ModelSession.obtained (trace ++ [⟨op, reply⟩])) :
    Recorded contract roots backend modelNext obtainedNext
      (trace ++ [⟨op, reply⟩]) := by
  obtain ⟨created, sound⟩ := recorded.sound
  obtain ⟨issuing, soundNext⟩ := sound.perform performed
  refine ⟨?_, obtains, ?_⟩
  · rw [soundNext.own]
    exact ⟨_, soundNext⟩
  · intro index root has
    rw [persisted_snoc, List.map_append]
    exact List.mem_append_left _ (recorded.listed index root has)

/-- The values of a scope stay, and others may come. -/
theorem Recorded.perform_inScope {op : ScopeOp}
    (recorded : Recorded contract roots backend model obtained trace)
    (performed : model.perform (.inScope op) = some (reply, modelNext))
    {gained : List (Raw × ValueId)}
    (obtains : ∀ value ∈ gained, value.2 ∈
      ((ModelScope.event op reply).bind ModelEvent.obtainedOf).toList) :
    Recorded contract roots backend modelNext (obtained ++ gained)
      (trace ++ [⟨.inScope op, reply⟩]) := by
  apply recorded.perform performed
  intro value member
  rw [ModelSession.obtained_snoc, List.mem_append]
  cases List.mem_append.mp member with
  | inl old => exact Or.inl (recorded.obtained value old)
  | inr new => exact Or.inr (obtains value new)

/-- Neither side has touched the roots of the program. -/
theorem Sound.kept (sound : twin.Sound contract roots backend)
    (jsc : next.jsc.Sound)
    (keeps : twin.jsc.shared.roots.Keeps next.jsc.shared.roots
      (Known contract roots backend) next.leases)
    (recorded : ∃ trace,
      Recorded contract roots backend next.model next.obtained trace)
    (same : next.model.backend.state.roots =
      twin.model.backend.state.roots) :
    next.Sound contract roots backend := by
  refine ⟨jsc, keeps.shares, ?_, recorded, ?_⟩
  · apply sound.jscServes.congr
    intro index root has
    obtain ⟨whole, wholeHas, rfl⟩ := RootContract.has_map_iff.mp has
    exact keeps.same _ ⟨index, whole, wholeHas, rfl⟩
  · apply sound.modelServes.congr
    intro index root _
    rw [same]

theorem known_persist_iff (lengths : roots.length = contract.length)
    {issuer : Nat} {value : Raw × ValueId} {root : JscRoot × ModelRoot}
    {id : RootId} :
    Known (contract.persist issuer value) (roots ++ [root]) backend id ↔
      Known contract roots backend id ∨ issuer = backend ∧ id = root.1.id := by
  constructor
  · intro known
    obtain ⟨index, other, has, same⟩ := known
    cases (RootContract.has_persist_iff lengths).mp has with
    | inl old => exact Or.inl ⟨index, other, old, same⟩
    | inr new =>
        rw [new.2.2] at same
        exact Or.inr ⟨new.1, same.symm⟩
  · intro known
    cases known with
    | inl old =>
        obtain ⟨index, other, has, same⟩ := old
        exact ⟨index, other,
          (RootContract.has_persist_iff lengths).mpr (Or.inl has), same⟩
    | inr new =>
        exact ⟨contract.length, root, (RootContract.has_persist_iff lengths).mpr
          (Or.inr ⟨new.1, rfl, rfl⟩), new.2.symm⟩

theorem known_release_iff {issuer released : Nat} {id : RootId} :
    Known (contract.release issuer released) roots backend id ↔
      Known contract roots backend id := by
  simp only [Known, RootContract.has_release_iff]

/-- Another backend has issued a root. -/
theorem Sound.persist_other (sound : twin.Sound contract roots backend)
    (lengths : roots.length = contract.length) {issuer : Nat}
    (apart : issuer ≠ backend) (root : JscRoot × ModelRoot)
    (value : Raw × ValueId) :
    twin.Sound (contract.persist issuer value) (roots ++ [root]) backend := by
  refine ⟨sound.jsc, ?_, ?_, ?_, ?_⟩
  · apply sound.shares.congr
    intro id
    rw [known_persist_iff lengths]
    exact or_iff_left fun new => apart new.1
  · rw [List.map_append]
    exact sound.jscServes.persist_other
      (by rw [List.length_map, lengths]) apart _ value
  · obtain ⟨trace, recorded⟩ := sound.recorded
    refine ⟨trace, recorded.sound, recorded.obtained, ?_⟩
    intro index other has
    refine recorded.listed index other ?_
    exact ((RootContract.has_persist_iff lengths).mp has).resolve_right
      fun new => apart new.1
  · rw [List.map_append]
    exact sound.modelServes.persist_other
      (by rw [List.length_map, lengths]) apart _ value

/-- Another backend has released one of its roots. -/
theorem Sound.release_other (sound : twin.Sound contract roots backend)
    {issuer : Nat} (apart : issuer ≠ backend) (index : Nat) :
    twin.Sound (contract.release issuer index) roots backend := by
  refine ⟨sound.jsc, ?_, sound.jscServes.release_other apart index, ?_,
    sound.modelServes.release_other apart index⟩
  · exact sound.shares.congr fun _ => known_release_iff
  · obtain ⟨trace, recorded⟩ := sound.recorded
    refine ⟨trace, recorded.sound, recorded.obtained, ?_⟩
    intro place other has
    exact recorded.listed place other (RootContract.has_release_iff.mp has)

theorem locals_of_inScope {op : ScopeOp}
    (performed : model.perform (.inScope op) = some (reply, modelNext)) :
    ∃ locals, model.locals = some locals := by
  obtain ⟨backend, locals⟩ := model
  cases locals with
  | none => cases performed
  | some locals => exact ⟨locals, rfl⟩

variable [DecidableEq Raw] {engine : Engine Raw}
  {invocation : BackendJsc.Invocation Raw Payload}
  {jscReply : BackendJsc.Reply Raw Payload} {jsc : Attached Raw Payload}

omit [DecidableEq Raw] in
theorem beside_of_besideJsc {op : Op Raw Payload}
    (beside : twin.besideJsc op = true) :
    twin.jsc.Beside twin.leases op := by
  cases op with
  | persistValue value => cases beside
  | release root => cases beside
  | dropLease lease =>
      intro own
      simp only [besideJsc, own, ne_eq, not_true_eq_false, decide_false,
        Bool.false_or, decide_eq_true_eq] at beside
      exact beside
  | invalidate active independent => cases beside
  | destroyOwnedRuntime => cases beside
  | detachWithContext supplied active => cases beside
  | detachWithoutContext => cases beside
  | dropAttachment => cases beside
  | advanceTeardown => cases beside
  | _ => exact rfl

theorem both_eq_some {op : SessionOp}
    (performed : twin.both engine invocation op =
      some (jscReply, reply, next)) :
    ∃ jsc model, twin.jsc.perform engine invocation = some (jscReply, jsc) ∧
      twin.model.perform op = some (reply, model) ∧
      next = { twin with jsc := jsc, model := model } := by
  unfold both at performed
  split at performed
  · rename_i left right
    cases performed
    exact ⟨_, _, left, right, rfl⟩
  · cases performed

theorem both_obtained {op : SessionOp}
    (performed : twin.both engine invocation op =
      some (jscReply, reply, next)) : next.obtained = twin.obtained := by
  obtain ⟨jsc, model, _, _, rfl⟩ := both_eq_some performed
  rfl

/-- The side of the engine does something beside the roots of the program. -/
theorem Sound.jscStep (sound : twin.Sound contract roots backend)
    (beside : twin.jsc.Beside twin.leases invocation.op)
    (performed : twin.jsc.perform engine invocation = some (jscReply, jsc)) :
    jsc.Sound ∧ jsc.shared.id = twin.jsc.shared.id ∧
      twin.jsc.shared.roots.Keeps jsc.shared.roots
        (Known contract roots backend)
        (twin.leases ++ Attached.leasedBy invocation.op jscReply) := by
  have moves := sound.jsc.moves performed
  exact ⟨moves.sound sound.jsc, moves.sameId,
    sound.jsc.beside sound.shares beside performed⟩

omit [DecidableEq Raw] in
/-- The side of the model does something beside the roots of the program. -/
theorem Sound.modelStep (sound : twin.Sound contract roots backend)
    (quiet : op.usesRoots = false)
    (performed : twin.model.perform op = some (reply, model)) :
    model.backend.id = twin.model.backend.id ∧
      model.backend.state.roots = twin.model.backend.state.roots := by
  obtain ⟨trace, recorded⟩ := sound.recorded
  obtain ⟨created, session⟩ := recorded.sound
  obtain ⟨issuing, sessionNext⟩ := session.perform performed
  exact ⟨sessionNext.own, session.sameRoots quiet performed⟩

variable {thread : Nat}

theorem perform_persistValue {attached : Attached Raw Payload}
    {value : BackendJsc.JscValue Raw}
    (performed : attached.perform engine ⟨thread, .persistValue value⟩ =
      some (jscReply, jsc)) :
    attached.persistValue value = (jscReply, jsc) := by
  obtain ⟨scopeRoots, rest, stack⟩ :=
    BackendJsc.Attached.perform_scope (Or.inl ⟨value, rfl⟩) performed
  simp only [Attached.perform, stack] at performed
  exact Option.some.inj performed

theorem perform_release {attached : Attached Raw Payload} {root : JscRoot}
    (performed : attached.perform engine ⟨thread, .release root⟩ =
      some (jscReply, jsc)) : attached.release root = (jscReply, jsc) := by
  obtain ⟨scopeRoots, rest, stack⟩ := BackendJsc.Attached.perform_scope
    (Or.inr (Or.inl ⟨root, rfl⟩)) performed
  simp only [Attached.perform, stack] at performed
  exact Option.some.inj performed

theorem perform_resolveRoot {attached : Attached Raw Payload}
    {root : JscRoot}
    (performed : attached.perform engine ⟨thread, .resolveRoot root⟩ =
      some (jscReply, jsc)) :
    ∃ scopeRoots rest, attached.resolveRoot (.scope scopeRoots) rest root =
      some (jscReply, jsc) := by
  obtain ⟨scopeRoots, rest, stack⟩ := BackendJsc.Attached.perform_scope
    (Or.inr (Or.inr ⟨root, rfl⟩)) performed
  simp only [Attached.perform, stack] at performed
  exact ⟨scopeRoots, rest, performed⟩

/-- Both sides issue a root of their own, unless the limit is reached. -/
theorem Sound.persist (sound : twin.Sound contract roots backend)
    (lengths : roots.length = contract.length) {raw : Raw} {id : ValueId}
    (member : (raw, id) ∈ twin.obtained)
    (performed : twin.both engine
      ⟨thread, .persistValue ⟨twin.jsc.shared.id, raw⟩⟩
      (.inScope (.persist id)) = some (jscReply, reply, next))
    (unlimited : refusedByLimit jscReply = false) :
    ∃ rootId root, jscReply = .persisted rootId ∧ reply = .root (.ok root) ∧
      root.backend = twin.model.backend.id ∧
      next.jsc.shared.id = twin.jsc.shared.id ∧
      next.model.backend.id = twin.model.backend.id ∧
      next.Sound (contract.persist backend (raw, id))
        (roots ++ [(⟨twin.jsc.shared.id, rootId⟩, root)]) backend := by
  obtain ⟨jsc, model, left, right, rfl⟩ := both_eq_some performed
  obtain ⟨trace, recorded⟩ := sound.recorded
  obtain ⟨created, session⟩ := recorded.sound
  obtain ⟨locals, opened⟩ := locals_of_inScope right
  -- The side of the model.
  have live : twin.model.backend.Live id := by
    rw [session.live_iff]
    rw [session.obtained_iff]
    exact Or.inl (recorded.obtained _ member)
  obtain ⟨root, modelNext, persists, own, step⟩ :=
    session.persists opened live
  rw [persists] at right
  cases right
  -- The side of the engine.
  have moves := sound.jsc.moves left
  have persisted := perform_persistValue left
  cases sound.jsc.persistValue_cases sound.shares raw with
  | inr full =>
      rw [full.1] at persisted
      cases persisted
      simp [refusedByLimit] at unlimited
  | inl issued =>
      obtain ⟨rootId, after, issues, unknown, keeps, shares, resolves⟩ :=
        issued
      rw [issues] at persisted
      cases persisted
      obtain ⟨issuing, sessionNext⟩ := session.perform persists
      have recordedNext : Recorded contract roots backend model
          (twin.obtained ++ []) _ :=
        recorded.perform_inScope persists (List.forall_mem_nil _)
      rw [List.append_nil] at recordedNext
      have event : (ModelSession.event ⟨.inScope (.persist id),
          .root (.ok root)⟩).bind ModelEvent.persistedOf = some (root, id) :=
        rfl
      have listed : ModelSession.persisted
          (trace ++ [⟨.inScope (.persist id), .root (.ok root)⟩]) =
            ModelSession.persisted trace ++ [(root, id)] := by
        rw [persisted_snoc, event]
        rfl
      have once := sessionNext.persistedOnce
      rw [listed, List.map_append, List.nodup_append] at once
      have unlisted : root ∉ (ModelSession.persisted trace).map Prod.fst :=
        fun old => once.2.2 root old root (List.mem_singleton.mpr rfl) rfl
      refine ⟨rootId, root, rfl, rfl, own, moves.sameId, sessionNext.own,
        moves.sound sound.jsc, ?_, ?_, ⟨_, recordedNext.sound,
        recordedNext.obtained, ?_⟩, ?_⟩
      · apply shares.congr
        intro other
        rw [known_persist_iff lengths, and_iff_right rfl]
      · rw [List.map_append]
        apply sound.jscServes.persist (by rw [List.length_map, lengths])
        · intro index has
          obtain ⟨whole, wholeHas, same⟩ := RootContract.has_map_iff.mp has
          exact unknown ⟨index, whole, wholeHas, same⟩
        · exact resolves
        · intro index other has
          obtain ⟨whole, wholeHas, same⟩ := RootContract.has_map_iff.mp has
          exact keeps.same _ ⟨index, whole, wholeHas, same⟩
      · intro index other has
        cases (RootContract.has_persist_iff lengths).mp has with
        | inl old => exact recordedNext.listed index other old
        | inr new =>
            rw [new.2.2, listed, List.map_append]
            exact List.mem_append_right _ (List.mem_singleton.mpr rfl)
      · have fresh : ∀ index,
            ¬contract.Has backend (roots.map fun root => root.2.id) index
              root.id := by
          intro index has
          obtain ⟨whole, wholeHas, same⟩ := RootContract.has_map_iff.mp has
          have old := recorded.listed index whole wholeHas
          rw [session.eq_of_id old own same] at old
          exact unlisted old
        rw [List.map_append]
        apply sound.modelServes.persist (by rw [List.length_map, lengths])
          fresh
        · exact step.get_issuing.mpr (Or.inl ⟨rfl, rfl⟩)
        · intro index other has
          apply Option.ext
          intro value
          rw [step.get_issuing]
          refine or_iff_right ?_
          intro new
          rw [new.1] at has
          exact fresh index has

/-- The root is one of this backend, unless it is foreign to it. -/
structure Owned (twin : Twin Raw Payload)
    (outcome : RootOutcome (Raw × ValueId)) (root : JscRoot × ModelRoot) :
    Prop where
  jsc : root.1.attachment = twin.jsc.shared.id ↔ outcome ≠ .foreign
  model : root.2.backend = twin.model.backend.id ↔ outcome ≠ .foreign

variable {index : Nat} {root : JscRoot × ModelRoot}
  {outcome : RootOutcome (Raw × ValueId)}

omit [DecidableEq Raw] in
/-- What the sides have for a root is what the contract says. -/
theorem Sound.left (sound : twin.Sound contract roots backend)
    (present : roots[index]? = some root) {left : Option (Raw × ValueId)}
    (held : contract.held backend index = some left) :
    twin.jsc.shared.roots.get root.1.id = left.map Prod.fst ∧
      twin.model.rootValue root.2 = left.map Prod.snd := by
  refine ⟨?_, ?_⟩
  · refine sound.jscServes.answers index root.1.id left ?_ held
    rw [List.getElem?_map, present]
    rfl
  · refine sound.modelServes.answers index root.2.id left ?_ held
    rw [List.getElem?_map, present]
    rfl

/-- What both sides have for a root to which the contract gives this
outcome. -/
inductive Found (contract : RootContract (Raw × ValueId))
    (backend index : Nat) (twin : Twin Raw Payload)
    (root : JscRoot × ModelRoot) : RootOutcome (Raw × ValueId) → Prop where
  | resolved {value : Raw × ValueId}
      (held : contract.held backend index = some (some value))
      (jscOwn : root.1.attachment = twin.jsc.shared.id)
      (modelOwn : root.2.backend = twin.model.backend.id)
      (here : twin.jsc.shared.roots.get root.1.id = some value.1)
      (there : twin.model.rootValue root.2 = some value.2) :
      Found contract backend index twin root (.resolved value)
  | stale (jscOwn : root.1.attachment = twin.jsc.shared.id)
      (modelOwn : root.2.backend = twin.model.backend.id)
      (here : twin.jsc.shared.roots.get root.1.id = none)
      (there : twin.model.rootValue root.2 = none) :
      Found contract backend index twin root .stale
  | foreign (jscForeign : root.1.attachment ≠ twin.jsc.shared.id)
      (modelForeign : root.2.backend ≠ twin.model.backend.id) :
      Found contract backend index twin root .foreign

omit [DecidableEq Raw] in
theorem Sound.found (sound : twin.Sound contract roots backend)
    (present : roots[index]? = some root)
    (known : contract.outcome backend index = some outcome)
    (owned : twin.Owned outcome root) :
    Found contract backend index twin root outcome := by
  obtain ⟨value, rfl, held⟩ | ⟨rfl, held⟩ | ⟨rfl, _⟩ :=
    RootContract.outcome_cases known
  · obtain ⟨here, there⟩ := sound.left present held
    have own : RootOutcome.resolved value ≠ .foreign := by
      intro same
      cases same
    exact .resolved held (owned.jsc.mpr own) (owned.model.mpr own) here there
  · obtain ⟨here, there⟩ := sound.left present held
    have own : (RootOutcome.stale : RootOutcome (Raw × ValueId)) ≠
        .foreign := by
      intro same
      cases same
    exact .stale (owned.jsc.mpr own) (owned.model.mpr own) here there
  · exact .foreign (fun own => owned.jsc.mp own rfl)
      (fun own => owned.model.mp own rfl)

/-- Both sides resolve a root as the contract says, unless the limit is
reached. -/
theorem Sound.resolves (sound : twin.Sound contract roots backend)
    (present : roots[index]? = some root)
    (known : contract.outcome backend index = some outcome)
    (owned : twin.Owned outcome root)
    (performed : twin.both engine ⟨thread, .resolveRoot root.1⟩
      (.inScope (.resolve root.2)) = some (jscReply, reply, next))
    (unlimited : refusedByLimit jscReply = false) :
    Parallel.Resolves outcome jscReply reply := by
  obtain ⟨jsc, model, left, right, rfl⟩ := both_eq_some performed
  obtain ⟨trace, recorded⟩ := sound.recorded
  obtain ⟨created, session⟩ := recorded.sound
  obtain ⟨locals, opened⟩ := locals_of_inScope right
  obtain ⟨scopeRoots, rest, resolved⟩ := perform_resolveRoot left
  cases sound.found present known owned with
  | resolved held jscOwn modelOwn here there =>
      obtain ⟨modelNext, resolves⟩ :=
        session.resolvesNamed opened modelOwn there
      rw [resolves] at right
      cases right
      cases BackendJsc.Attached.resolveRoot_cases jscOwn here with
      | inl resolves =>
          obtain ⟨after, resolves⟩ := resolves
          rw [resolves] at resolved
          cases resolved
          exact ⟨rfl, rfl⟩
      | inr full =>
          rw [full.1] at resolved
          cases resolved
          simp [refusedByLimit] at unlimited
  | stale jscOwn modelOwn here there =>
      obtain ⟨error, same, rejects, _⟩ :=
        session.rejectsUnnamed opened fun _ => there
      rw [if_pos modelOwn] at same
      rw [rejects] at right
      rw [BackendJsc.Attached.resolveRoot_stale jscOwn here] at resolved
      cases right
      cases resolved
      exact ⟨rfl, by rw [same]⟩
  | foreign jscForeign modelForeign =>
      obtain ⟨error, same, rejects, _⟩ := session.rejectsUnnamed opened
        fun own => absurd own modelForeign
      rw [if_neg modelForeign] at same
      rw [rejects] at right
      rw [BackendJsc.Attached.resolveRoot_foreign jscForeign] at resolved
      cases right
      cases resolved
      exact ⟨rfl, by rw [same]⟩

/-- Both sides release a root as the contract says. -/
theorem Sound.releases (sound : twin.Sound contract roots backend)
    (present : roots[index]? = some root)
    (known : contract.outcome backend index = some outcome)
    (owned : twin.Owned outcome root)
    (performed : twin.both engine ⟨thread, .release root.1⟩
      (.inScope (.release root.2)) = some (jscReply, reply, next)) :
    Parallel.Releases outcome jscReply reply ∧
      next.jsc.shared.id = twin.jsc.shared.id ∧
      next.model.backend.id = twin.model.backend.id ∧
      next.Sound (contract.release backend index) roots backend := by
  obtain ⟨jsc, model, left, right, rfl⟩ := both_eq_some performed
  obtain ⟨trace, recorded⟩ := sound.recorded
  obtain ⟨created, session⟩ := recorded.sound
  obtain ⟨locals, opened⟩ := locals_of_inScope right
  have moves := sound.jsc.moves left
  have released := perform_release left
  obtain ⟨issuing, sessionNext⟩ := session.perform right
  cases sound.found present known owned with
  | resolved held jscOwn modelOwn here there =>
      have has : contract.Has backend roots index root := .of_held present held
      obtain ⟨after, releases, shares, gone, same⟩ := sound.jsc.release_ok
        sound.shares jscOwn ⟨index, root, has, rfl⟩ here
      obtain ⟨modelNext, modelReleases, step⟩ :=
        session.releasesNamed opened modelOwn there
      rw [releases] at released
      rw [modelReleases] at right
      cases released
      cases right
      have recordedNext : Recorded contract roots backend model
          (twin.obtained ++ []) _ :=
        recorded.perform_inScope modelReleases (List.forall_mem_nil _)
      rw [List.append_nil] at recordedNext
      refine ⟨⟨rfl, rfl⟩, moves.sameId, sessionNext.own, moves.sound sound.jsc,
        shares.congr fun _ => known_release_iff, ?_,
        ⟨_, recordedNext.sound, recordedNext.obtained, ?_⟩, ?_⟩
      · refine sound.jscServes.release (RootContract.has_map_iff.mpr
          ⟨root, has, rfl⟩) gone ?_
        intro place other otherHas apart
        obtain ⟨whole, wholeHas, rfl⟩ := RootContract.has_map_iff.mp otherHas
        exact same _ ⟨place, whole, wholeHas, rfl⟩ apart
      · intro place other otherHas
        exact recordedNext.listed place other
          (RootContract.has_release_iff.mp otherHas)
      · refine sound.modelServes.release (RootContract.has_map_iff.mpr
          ⟨root, has, rfl⟩) ?_ ?_
        · apply Option.eq_none_iff_forall_ne_some.mpr
          intro found named
          exact (step.get_returning.mp named).1 rfl
        · intro place other otherHas apart
          apply Option.ext
          intro found
          rw [step.get_returning]
          exact and_iff_right apart
  | stale jscOwn modelOwn here there =>
      obtain ⟨error, same, _, rejects⟩ :=
        session.rejectsUnnamed opened fun _ => there
      rw [if_pos modelOwn] at same
      rw [BackendJsc.Attached.release_stale jscOwn here] at released
      rw [rejects] at right
      cases released
      cases right
      rw [RootContract.release_of_unresolved known nofun]
      exact ⟨⟨rfl, by rw [same]⟩, rfl, rfl, sound⟩
  | foreign jscForeign modelForeign =>
      obtain ⟨error, same, _, rejects⟩ := session.rejectsUnnamed opened
        fun own => absurd own modelForeign
      rw [if_neg modelForeign] at same
      rw [BackendJsc.Attached.release_foreign jscForeign] at released
      rw [rejects] at right
      cases released
      cases right
      rw [RootContract.release_of_unresolved known nofun]
      exact ⟨⟨rfl, by rw [same]⟩, rfl, rfl, sound⟩

omit [DecidableEq Raw] in
theorem stack_of_inScope (open_ : twin.inScope = true) :
    ∃ scopeRoots rest, twin.jsc.stack = .scope scopeRoots :: rest := by
  rw [inScope] at open_
  split at open_
  · rename_i scopeRoots rest stack
    exact ⟨scopeRoots, rest, stack⟩
  · cases open_

theorem both_of_sides {op : SessionOp}
    (left : twin.jsc.perform engine invocation = some (jscReply, jsc))
    (right : twin.model.perform op = some (reply, model)) :
    twin.both engine invocation op =
      some (jscReply, reply, { twin with jsc := jsc, model := model }) := by
  rw [both, left, right]

/-- A value of the scope is persisted on both sides while there is room. -/
theorem Sound.persistAnswers (sound : twin.Sound contract roots backend)
    (ready : twin.ready = true) (room : twin.jsc.rootRoom = true) {raw : Raw}
    {id : ValueId} (member : (raw, id) ∈ twin.obtained) :
    ∃ jscReply reply next, twin.both engine
        ⟨thread, .persistValue ⟨twin.jsc.shared.id, raw⟩⟩
        (.inScope (.persist id)) = some (jscReply, reply, next) ∧
      refusedByLimit jscReply = false := by
  obtain ⟨inScope, isOpen⟩ := Bool.and_eq_true_iff.mp ready
  obtain ⟨scopeRoots, rest, stack⟩ := stack_of_inScope inScope
  obtain ⟨locals, opened⟩ := Option.isSome_iff_exists.mp isOpen
  obtain ⟨trace, recorded⟩ := sound.recorded
  obtain ⟨created, session⟩ := recorded.sound
  have live : twin.model.backend.Live id := by
    rw [session.live_iff]
    rw [session.obtained_iff]
    exact Or.inl (recorded.obtained _ member)
  obtain ⟨root, modelNext, persists, _⟩ := session.persists opened live
  cases sound.jsc.persistValue_cases sound.shares raw with
  | inl issued =>
      obtain ⟨rootId, after, issues, _⟩ := issued
      have left : twin.jsc.perform engine
          ⟨thread, .persistValue ⟨twin.jsc.shared.id, raw⟩⟩ =
            some (.persisted rootId, after) := by
        simp only [Attached.perform, stack]
        rw [issues]
      exact ⟨_, _, _, both_of_sides left persists, rfl⟩
  | inr full =>
      rw [full.2] at room
      cases room

/-- A root is resolved on both sides while there is room for a local. -/
theorem Sound.resolveAnswers (sound : twin.Sound contract roots backend)
    (ready : twin.ready = true) (room : twin.jsc.localRoom = true)
    (present : roots[index]? = some root)
    (known : contract.outcome backend index = some outcome)
    (owned : twin.Owned outcome root) :
    ∃ jscReply reply next, twin.both engine
        ⟨thread, .resolveRoot root.1⟩ (.inScope (.resolve root.2)) =
          some (jscReply, reply, next) ∧
      refusedByLimit jscReply = false := by
  obtain ⟨inScope, isOpen⟩ := Bool.and_eq_true_iff.mp ready
  obtain ⟨scopeRoots, rest, stack⟩ := stack_of_inScope inScope
  obtain ⟨locals, opened⟩ := Option.isSome_iff_exists.mp isOpen
  obtain ⟨trace, recorded⟩ := sound.recorded
  obtain ⟨created, session⟩ := recorded.sound
  have performs : twin.jsc.perform engine ⟨thread, .resolveRoot root.1⟩ =
      twin.jsc.resolveRoot (.scope scopeRoots) rest root.1 := by
    simp only [Attached.perform, stack]
  cases sound.found present known owned with
  | @resolved value held jscOwn modelOwn here there =>
      obtain ⟨modelNext, resolves⟩ :=
        session.resolvesNamed opened modelOwn there
      have resolution := @BackendJsc.Attached.resolveRoot_cases Raw Payload
        twin.jsc scopeRoots rest root.1 jscOwn value.1 here
      cases resolution with
      | inl resolved =>
          obtain ⟨after, resolved⟩ := resolved
          rw [resolved] at performs
          exact ⟨_, _, _, both_of_sides performs resolves, rfl⟩
      | inr full =>
          rw [full.2] at room
          cases room
  | stale jscOwn modelOwn here there =>
      obtain ⟨error, _, rejects, _⟩ :=
        session.rejectsUnnamed opened fun _ => there
      rw [BackendJsc.Attached.resolveRoot_stale jscOwn here] at performs
      exact ⟨_, _, _, both_of_sides performs rejects, rfl⟩
  | foreign jscForeign modelForeign =>
      obtain ⟨error, _, rejects, _⟩ := session.rejectsUnnamed opened
        fun own => absurd own modelForeign
      rw [BackendJsc.Attached.resolveRoot_foreign jscForeign] at performs
      exact ⟨_, _, _, both_of_sides performs rejects, rfl⟩

/-- A root is released on both sides, or refused by both. -/
theorem Sound.releaseAnswers (sound : twin.Sound contract roots backend)
    (ready : twin.ready = true) (present : roots[index]? = some root)
    (known : contract.outcome backend index = some outcome)
    (owned : twin.Owned outcome root) :
    ∃ jscReply reply next, twin.both engine
        ⟨thread, .release root.1⟩ (.inScope (.release root.2)) =
          some (jscReply, reply, next) := by
  obtain ⟨inScope, isOpen⟩ := Bool.and_eq_true_iff.mp ready
  obtain ⟨scopeRoots, rest, stack⟩ := stack_of_inScope inScope
  obtain ⟨locals, opened⟩ := Option.isSome_iff_exists.mp isOpen
  obtain ⟨trace, recorded⟩ := sound.recorded
  obtain ⟨created, session⟩ := recorded.sound
  have performs : twin.jsc.perform engine ⟨thread, .release root.1⟩ =
      some (twin.jsc.release root.1) := by
    simp only [Attached.perform, stack]
  cases sound.found present known owned with
  | resolved held jscOwn modelOwn here there =>
      obtain ⟨modelNext, releases, _⟩ :=
        session.releasesNamed opened modelOwn there
      exact ⟨_, _, _, both_of_sides performs releases⟩
  | stale jscOwn modelOwn here there =>
      obtain ⟨error, _, _, rejects⟩ :=
        session.rejectsUnnamed opened fun _ => there
      exact ⟨_, _, _, both_of_sides performs rejects⟩
  | foreign jscForeign modelForeign =>
      obtain ⟨error, _, _, rejects⟩ := session.rejectsUnnamed opened
        fun own => absurd own modelForeign
      exact ⟨_, _, _, both_of_sides performs rejects⟩

  /-! ### Steps beside the roots -/

omit [DecidableEq Raw] in
/-- What an open scope has obtained stays obtained until it is dropped. -/
theorem mem_obtained_snoc (beside : op ≠ .openScope)
    (stays : ∀ order, op ≠ .dropScope order) {value : ValueId}
    (member : value ∈ ModelSession.obtained trace) :
    value ∈ ModelSession.obtained (trace ++ [⟨op, reply⟩]) := by
  rw [ModelSession.obtained, List.foldl_append]
  cases op with
  | openScope => exact absurd rfl beside
  | dropScope order => exact absurd rfl (stays order)
  | inScope op => exact List.mem_append_left _ member
  | _ => exact member

omit [DecidableEq Raw] in
/-- Neither side touches the roots. -/
theorem Sound.advance (sound : twin.Sound contract roots backend)
    {leases : List RootId} (jscNext : jsc.Sound)
    (keeps : twin.jsc.shared.roots.Keeps jsc.shared.roots
      (Known contract roots backend) leases)
    (quiet : op.usesRoots = false)
    (performed : twin.model.perform op = some (reply, model))
    (obtains : ∀ trace : List ModelSession.SessionExchange,
      (∀ value ∈ twin.obtained, value.2 ∈ ModelSession.obtained trace) →
      ∀ value ∈ obtained,
        value.2 ∈ ModelSession.obtained (trace ++ [⟨op, reply⟩])) :
    (⟨jsc, model, obtained, leases⟩ : Twin Raw Payload).Sound contract roots
      backend := by
  obtain ⟨trace, recorded⟩ := sound.recorded
  refine sound.kept jscNext keeps ⟨_, recorded.perform performed ?_⟩
    (sound.modelStep quiet performed).2
  exact obtains trace recorded.obtained

/-- Only what makes a value tells of one. -/
theorem created_of_result {op : ScopeOp}
    (beside : (SessionOp.inScope op).isBeside = true)
    (performed : model.perform (.inScope op) = some (reply, modelNext))
    {value : ValueId} (result : modelResult reply = some value) :
    ModelScope.event op reply = some (.created value) := by
  obtain ⟨state, locals⟩ := model
  cases locals with
  | none => cases performed
  | some locals =>
      simp only [ModelSession.perform] at performed
      obtain ⟨⟨told, scope⟩, run, same⟩ := Option.map_eq_some_iff.mp performed
      cases same
      cases op with
      | persist value => cases beside
      | resolve root => cases beside
      | release root => cases beside
      | kind value =>
          cases run
          cases result
      | create value =>
          obtain ⟨⟨made, after⟩, _, same⟩ := Option.map_eq_some_iff.mp run
          cases same
          cases result
          rfl
      | evaluate =>
          obtain ⟨⟨made, after⟩, _, same⟩ := Option.map_eq_some_iff.mp run
          cases same
          cases made with
          | error error => cases result
          | ok made =>
              cases result
              rfl
      | call function receiver arguments =>
          obtain ⟨⟨made, after⟩, _, same⟩ := Option.map_eq_some_iff.mp run
          cases same
          cases made with
          | error error => cases result
          | ok made =>
              cases result
              rfl
      | externalize owner =>
          obtain ⟨⟨made, after⟩, _, same⟩ := Option.map_eq_some_iff.mp run
          cases same
          cases made with
          | error error => cases result
          | ok made =>
              cases result
              rfl

end Twin

end RustJsi.Testkit

import RustJsi.Testkit.ModelHistory

/-!
# The external values of a history

Only a transfer makes a value that holds a buffer, and only a transfer asks for
the fault that was injected.
-/

namespace RustJsi.Testkit

open Generational Interleaving
open RustJsi.BackendJsc (BackendError)

/-- What a value is stays, and no value that holds a buffer is new. -/
def Retains (values next : SlotMap ModelValueEntry) : Prop :=
  ∀ id entry, Store.get next id = some entry →
    Store.get values id = some entry ∨
      Store.get values id = none ∧ entry.kind ≠ .buffer

namespace Retains

variable {values next : SlotMap ModelValueEntry}

theorem of_subset
    (subset : ∀ id entry, Store.get next id = some entry →
      Store.get values id = some entry) : Retains values next :=
  fun id entry named => Or.inl (subset id entry named)

theorem of_eq (same : next = values) : Retains values next := by
  rw [same]
  exact of_subset fun _ _ named => named

theorem of_returned {id : Id 64} {entry : ModelValueEntry}
    (step : Store.Step values [] [(id, entry)] next) :
    Retains values next :=
  of_subset fun _ _ named => (step.get_returning.mp named).2

theorem of_issued {id : Id 64} {entry : ModelValueEntry}
    (step : Store.Step values [(id, entry)] [] next)
    (plain : entry.kind ≠ .buffer) : Retains values next := by
  intro other found named
  cases known : Store.get values other with
  | some earlier =>
      have kept := step.get_issuing.mpr (Or.inr known)
      rw [named] at kept
      exact Or.inl kept.symm
  | none =>
      rcases step.get_issuing.mp named with ⟨_, rfl⟩ | earlier
      · exact Or.inr ⟨rfl, plain⟩
      · rw [known] at earlier
        cases earlier

end Retains

theorem ModelValueEntry.kind_primitive (value : Primitive) :
    (ModelValueEntry.primitive value).kind ≠ .buffer := by
  intro same
  cases value with
  | undefined => cases same
  | null => cases same
  | boolean _ => cases same
  | number _ => cases same
  | string _ => cases same

/-- What a transfer does, by the fault it finds. -/
inductive Transfer (owner : List UInt8) (values next : SlotMap ModelValueEntry) :
    ExternalFault → Except ModelTransferError ValueId → Prop
  | rejected (kept : next = values) :
      Transfer owner values next .reject (.error (.rejected
        (.failure "injected external-buffer rejection") owner))
  | accepted (kept : next = values) :
      Transfer owner values next .acceptThenFail (.error (.accepted
        (.failure "injected failure after ownership transfer")))
  | made {value : ValueId}
      (step : Store.Step values [(value.id, .external owner)] [] next) :
      Transfer owner values next .none (.ok value)

/-! ## One operation in a scope -/

namespace ModelScope

variable {scope next : ModelScope} {reply : SessionReply}

/-- What makes no value leaves the values what they are. -/
theorem Moves.retains {event : Option ModelEvent}
    (moves : scope.Moves next event)
    (quiet : ∀ value, event ≠ some (.created value)) :
    Retains scope.values next.values := by
  cases moves with
  | kept values roots locals => exact .of_eq values
  | created entry values roots locals => exact absurd rfl (quiet _)
  | resolved rooted values roots locals => exact .of_eq values
  | persisted live values roots locals => exact .of_eq values
  | released roots locals values still => exact .of_eq values
  | destroyed entry roots locals values remote unrooted =>
      exact .of_returned values

theorem insert_issues {entry : ModelValueEntry} {value : ValueId}
    (sound : Store.Sound scope.values)
    (inserted : scope.insert entry = some (value, next)) :
    value.backend = scope.backend.id ∧
      Store.Step scope.values [(value.id, entry)] [] next.values ∧
      next.backend.externalFault = scope.backend.externalFault := by
  obtain ⟨id, values, filled, step⟩ := SlotMap.insert_step sound entry
  rw [insert, filled] at inserted
  cases inserted
  simp only [ModelScope.values, remember_backend]
  exact ⟨trivial, step, trivial⟩

theorem made_retains {entry : ModelValueEntry}
    {result : Except BackendError ValueId}
    (sound : Store.Sound scope.values) (plain : entry.kind ≠ .buffer)
    (inserted : made (scope.insert entry) = some (result, next)) :
    Retains scope.values next.values ∧
      next.backend.externalFault = scope.backend.externalFault := by
  obtain ⟨⟨value, filled⟩, done, same⟩ := Option.map_eq_some_iff.mp inserted
  cases same
  obtain ⟨_, step, fault⟩ := insert_issues sound done
  exact ⟨.of_issued step plain, fault⟩

theorem evaluate_retains {result : Except BackendError ValueId}
    (sound : Store.Sound scope.values)
    (performed : scope.evaluate = some (result, next)) :
    Retains scope.values next.values ∧
      next.backend.externalFault = scope.backend.externalFault := by
  rw [evaluate] at performed
  cases programmed : scope.backend.state.evaluations with
  | nil =>
      rw [programmed] at performed
      cases performed
      exact ⟨.of_eq rfl, rfl⟩
  | cons evaluation evaluations =>
      rw [programmed] at performed
      cases evaluation with
      | returns value =>
          exact @made_retains
            { scope with backend.state.evaluations := evaluations } next _ _
            sound (ModelValueEntry.kind_primitive value) performed
      | returnsFunction =>
          refine @made_retains
            { scope with backend.state.evaluations := evaluations } next
            .function _ sound ?_ performed
          intro same
          cases same
      | throws message =>
          cases performed
          exact ⟨.of_eq rfl, rfl⟩
      | fails message =>
          cases performed
          exact ⟨.of_eq rfl, rfl⟩

theorem call_retains {function : ValueId} {receiver : CallReceiver ValueId}
    {arguments : List ValueId} {result : Except BackendError ValueId}
    (sound : Store.Sound scope.values)
    (performed : scope.call function receiver arguments =
      some (result, next)) :
    Retains scope.values next.values ∧
      next.backend.externalFault = scope.backend.externalFault := by
  rw [call] at performed
  split at performed
  · cases performed
    exact ⟨.of_eq rfl, rfl⟩
  split at performed
  · cases performed
    exact ⟨.of_eq rfl, rfl⟩
  split at performed
  · cases performed
    exact ⟨.of_eq rfl, rfl⟩
  cases programmed : scope.backend.state.invocations with
  | nil =>
      rw [programmed] at performed
      cases performed
      exact ⟨.of_eq rfl, rfl⟩
  | cons invocation invocations =>
      rw [programmed] at performed
      cases invocation with
      | returns value =>
          exact @made_retains
            { scope with backend.state.invocations := invocations } next _ _
            sound (ModelValueEntry.kind_primitive value) performed
      | throws message =>
          cases performed
          exact ⟨.of_eq rfl, rfl⟩
      | fails message =>
          cases performed
          exact ⟨.of_eq rfl, rfl⟩

theorem release_fault (scope : ModelScope) (root : ModelRoot) :
    (scope.release root).2.backend.externalFault =
      scope.backend.externalFault := by
  rw [release]
  split
  · rfl
  split
  · rfl
  simp only
  split
  · rfl
  · rfl

theorem resolve_fault (scope : ModelScope) (root : ModelRoot) :
    (scope.resolve root).2.backend.externalFault =
      scope.backend.externalFault := by
  rw [resolve]
  split
  · rfl
  split
  · rfl
  split
  · rfl
  · rw [remember_backend]

theorem persist_fault {value : ValueId}
    {result : Except BackendError ModelRoot}
    (performed : scope.persist value = some (result, next)) :
    next.backend.externalFault = scope.backend.externalFault := by
  rw [persist] at performed
  split at performed
  · cases performed
    rfl
  · obtain ⟨_, _, same⟩ := Option.map_eq_some_iff.mp performed
    cases same
    rfl

/-- What a transfer does is told by the fault alone, which it takes. -/
theorem externalize_cases {owner : List UInt8}
    {result : Except ModelTransferError ValueId}
    (sound : Store.Sound scope.values)
    (performed : scope.externalize owner = some (result, next)) :
    next.backend.externalFault = .none ∧
      Transfer owner scope.values next.values scope.backend.externalFault
        result := by
  rw [externalize] at performed
  cases injected : scope.backend.externalFault with
  | reject =>
      rw [injected] at performed
      cases performed
      exact ⟨rfl, .rejected rfl⟩
  | acceptThenFail =>
      rw [injected] at performed
      cases performed
      exact ⟨rfl, .accepted rfl⟩
  | none =>
      rw [injected] at performed
      obtain ⟨⟨value, filled⟩, done, same⟩ :=
        Option.map_eq_some_iff.mp performed
      cases same
      obtain ⟨_, step, fault⟩ := @insert_issues
        { scope with backend.externalFault := .none } _ _ _ sound done
      exact ⟨fault, .made step⟩

/-- Only a transfer makes a value that holds a buffer, or takes the fault. -/
theorem perform_retains {op : ScopeOp} (values : Store.Sound scope.values)
    (roots : Store.Sound scope.roots)
    (rooted : ∀ value, scope.backend.Rooted value → scope.backend.Live value)
    (performed : scope.perform op = some (reply, next))
    (plain : ∀ owner, op ≠ .externalize owner) :
    Retains scope.values next.values ∧
      next.backend.externalFault = scope.backend.externalFault := by
  cases op with
  | create value =>
      obtain ⟨⟨made, filled⟩, done, same⟩ :=
        Option.map_eq_some_iff.mp performed
      cases same
      obtain ⟨_, step, fault⟩ := insert_issues values done
      exact ⟨.of_issued step (ModelValueEntry.kind_primitive value), fault⟩
  | evaluate =>
      obtain ⟨_, done, same⟩ := Option.map_eq_some_iff.mp performed
      cases same
      exact evaluate_retains values done
  | call function receiver arguments =>
      obtain ⟨_, done, same⟩ := Option.map_eq_some_iff.mp performed
      cases same
      exact call_retains values done
  | kind value =>
      cases performed
      exact ⟨.of_eq rfl, rfl⟩
  | persist value =>
      obtain ⟨⟨result, filled⟩, done, same⟩ :=
        Option.map_eq_some_iff.mp performed
      cases same
      obtain ⟨_, _, known, advances⟩ := persist_advances roots value
      rw [done] at known
      cases known
      refine ⟨advances.moves.retains ?_, persist_fault done⟩
      intro other told
      cases result with
      | ok root => cases told
      | error error => cases told
  | resolve root =>
      cases performed
      refine ⟨(resolve_advances scope root).moves.retains ?_,
        resolve_fault scope root⟩
      intro other told
      cases answer : (scope.resolve root).1 with
      | ok value =>
          rw [answer] at told
          cases told
      | error error =>
          rw [answer] at told
          cases told
  | release root =>
      cases performed
      refine ⟨(release_advances rooted root).moves.retains ?_,
        release_fault scope root⟩
      intro other told
      cases answer : (scope.release root).1 with
      | ok value =>
          rw [answer] at told
          cases told
      | error error =>
          rw [answer] at told
          cases told
  | externalize owner => exact absurd rfl (plain owner)

end ModelScope

theorem ModelBackend.get_of_dropLocal {backend : ModelBackend}
    (value : ValueId) {id : Id 64} {entry : ModelValueEntry}
    (named : Store.get (backend.dropLocal value).state.values id =
      some entry) :
    Store.get backend.state.values id = some entry := by
  rcases dropLocal_cases backend value with kept | gone
  · rw [kept.1] at named
    exact named
  · obtain ⟨_, _, values, _, step, dropped⟩ := gone
    rw [dropped] at named
    exact (step.get_returning.mp named).2

theorem ModelScope.drop_retains (locals order : List ValueId) :
    ∀ backend : ModelBackend,
      Retains backend.state.values
          (ModelScope.drop ⟨backend, locals⟩ order).state.values ∧
        (ModelScope.drop ⟨backend, locals⟩ order).externalFault =
          backend.externalFault := by
  intro backend
  refine ⟨.of_subset ?_, rfl⟩
  intro id entry
  induction order generalizing backend with
  | nil => exact fun named => named
  | cons value order inductionHypothesis =>
      intro named
      rw [ModelBackend.drop_cons] at named
      exact ModelBackend.get_of_dropLocal value
        (inductionHypothesis _ named)

/-- The fault that is pending after an operation. -/
def ExternalFault.after (fault : ExternalFault) : SessionOp → ExternalFault
  | .rejectNextExternalBuffer => .reject
  | .failNextExternalBufferAfterAccept => .acceptThenFail
  | .inScope (.externalize _) => .none
  | _ => fault

namespace ModelSession

variable {id : UInt64} {trace : List SessionExchange}
  {created : List (Id 64 × ModelValueEntry)} {session next : ModelSession}
  {op : SessionOp} {reply : SessionReply}

theorem perform_inScope {op : ScopeOp}
    (performed : session.perform (.inScope op) = some (reply, next)) :
    ∃ locals scope, session.locals = some locals ∧
      ModelScope.perform ⟨session.backend, locals⟩ op =
        some (reply, scope) ∧
      next = ⟨scope.backend, some scope.locals⟩ := by
  obtain ⟨backend, opened⟩ := session
  cases opened with
  | none => cases performed
  | some locals =>
      obtain ⟨⟨answer, scope⟩, done, same⟩ :=
        Option.map_eq_some_iff.mp performed
      cases same
      exact ⟨locals, scope, rfl, done, rfl⟩

/-- What a transfer does in a session. -/
theorem Sound.externalizes (sound : Sound id trace created session)
    {owner : List UInt8}
    (performed : session.perform (.inScope (.externalize owner)) =
      some (reply, next)) :
    next.backend.externalFault = .none ∧
      ∃ result, reply = .transfer result ∧
        Transfer owner session.backend.state.values
          next.backend.state.values session.backend.externalFault result := by
  obtain ⟨locals, scope, _, inside, rfl⟩ := perform_inScope performed
  obtain ⟨⟨result, filled⟩, done, same⟩ :=
    Option.map_eq_some_iff.mp inside
  cases same
  obtain ⟨taken, transfer⟩ :=
    ModelScope.externalize_cases sound.accounts.valuesSound done
  exact ⟨taken, result, rfl, transfer⟩

/-- What any other operation does to the values and the fault. -/
theorem Sound.retains (sound : Sound id trace created session)
    (performed : session.perform op = some (reply, next))
    (plain : ∀ owner, op ≠ .inScope (.externalize owner)) :
    Retains session.backend.state.values next.backend.state.values ∧
      next.backend.externalFault =
        session.backend.externalFault.after op := by
  cases op with
  | inScope inner =>
      obtain ⟨locals, scope, _, inside, rfl⟩ := perform_inScope performed
      have retains := ModelScope.perform_retains sound.accounts.valuesSound
        sound.accounts.rootsSound sound.lifetimes.rooted inside
        (fun owner same => plain owner (congrArg _ same))
      refine ⟨retains.1, retains.2.trans ?_⟩
      cases inner with
      | externalize owner => exact absurd rfl (plain owner)
      | _ => rfl
  | dropScope order =>
      obtain ⟨backend, opened⟩ := session
      cases opened with
      | none => cases performed
      | some locals =>
          simp only [ModelSession.perform] at performed
          split at performed
          · cases performed
            exact ModelScope.drop_retains locals order backend
          · cases performed
  | _ =>
      obtain ⟨backend, opened⟩ := session
      cases opened with
      | none =>
          cases performed
          exact ⟨.of_eq rfl, rfl⟩
      | some locals => cases performed

end ModelSession

namespace ModelScope

def withFault (scope : ModelScope) (fault : ExternalFault) : ModelScope :=
  { scope with backend.externalFault := fault }

variable (scope : ModelScope) (fault : ExternalFault)

theorem remember_withFault (value : ValueId) :
    (scope.withFault fault).remember value =
      (scope.remember value).withFault fault := by
  have same : (scope.withFault fault).locals = scope.locals := rfl
  rw [remember, remember, same]
  by_cases known : value ∈ scope.locals
  · rw [if_pos known, if_pos known]
  · rw [if_neg known, if_neg known]
    rfl

theorem insert_withFault (entry : ModelValueEntry) :
    (scope.withFault fault).insert entry =
      (scope.insert entry).map fun (value, next) =>
        (value, next.withFault fault) := by
  rw [insert, insert]
  change (SlotMap.insert scope.backend.state.values entry).map _ = _
  cases SlotMap.insert scope.backend.state.values entry with
  | none => rfl
  | some filled =>
      simp only [Option.map_some]
      rw [← remember_withFault]
      rfl

theorem made_withFault (entry : ModelValueEntry) :
    made ((scope.withFault fault).insert entry) =
      (made (scope.insert entry)).map fun (result, next) =>
        (result, next.withFault fault) := by
  rw [insert_withFault]
  cases scope.insert entry with
  | none => rfl
  | some filled => rfl

theorem evaluate_withFault :
    (scope.withFault fault).evaluate =
      scope.evaluate.map fun (result, next) =>
        (result, next.withFault fault) := by
  have programs : (scope.withFault fault).backend.state.evaluations =
      scope.backend.state.evaluations := rfl
  rw [evaluate, evaluate, programs]
  cases scope.backend.state.evaluations with
  | nil => rfl
  | cons evaluation evaluations =>
      cases evaluation with
      | returns value =>
          exact made_withFault
            { scope with backend.state.evaluations := evaluations } fault _
      | returnsFunction =>
          exact made_withFault
            { scope with backend.state.evaluations := evaluations } fault _
      | throws message => rfl
      | fails message => rfl

theorem call_withFault (function : ValueId)
    (receiver : CallReceiver ValueId) (arguments : List ValueId) :
    (scope.withFault fault).call function receiver arguments =
      (scope.call function receiver arguments).map fun (result, next) =>
        (result, next.withFault fault) := by
  have kinds : (scope.withFault fault).requireKind function .function =
      scope.requireKind function .function := rfl
  have receives : (scope.withFault fault).checkReceiver receiver =
      scope.checkReceiver receiver := rfl
  have validates : (scope.withFault fault).validate = scope.validate := rfl
  have invocations : (scope.withFault fault).backend.state.invocations =
      scope.backend.state.invocations := rfl
  rw [call, call, kinds, receives, validates, invocations]
  cases scope.requireKind function .function with
  | error error => rfl
  | ok _ =>
  cases scope.checkReceiver receiver with
  | error error => rfl
  | ok _ =>
  cases arguments.mapM scope.validate with
  | error error => rfl
  | ok _ =>
  cases scope.backend.state.invocations with
  | nil => rfl
  | cons invocation invocations =>
      cases invocation with
      | returns value =>
          exact made_withFault
            { scope with backend.state.invocations := invocations } fault _
      | throws message => rfl
      | fails message => rfl

theorem persist_withFault (value : ValueId) :
    (scope.withFault fault).persist value =
      (scope.persist value).map fun (result, next) =>
        (result, next.withFault fault) := by
  have validates : (scope.withFault fault).validate value =
      scope.validate value := rfl
  rw [persist, persist, validates]
  cases scope.validate value with
  | error error => rfl
  | ok _ =>
      change Option.map _ (SlotMap.insert scope.backend.state.roots value) = _
      simp only
      cases SlotMap.insert scope.backend.state.roots value with
      | none => rfl
      | some filled => rfl

theorem resolve_withFault (root : ModelRoot) :
    (scope.withFault fault).resolve root =
      ((scope.resolve root).1, (scope.resolve root).2.withFault fault) := by
  have own : (scope.withFault fault).backend.id = scope.backend.id := rfl
  have state : (scope.withFault fault).backend.state = scope.backend.state :=
    rfl
  rw [resolve, resolve, own, state]
  split
  · rfl
  split
  · rfl
  split
  · rfl
  · rw [remember_withFault]

theorem release_withFault (root : ModelRoot) :
    (scope.withFault fault).release root =
      ((scope.release root).1, (scope.release root).2.withFault fault) := by
  have own : (scope.withFault fault).backend.id = scope.backend.id := rfl
  have state : (scope.withFault fault).backend.state = scope.backend.state :=
    rfl
  have locals : (scope.withFault fault).locals = scope.locals := rfl
  rw [release, release, own, state, locals]
  split
  · rfl
  split
  · rfl
  simp only
  split
  · rfl
  · rfl

/-- No operation but a transfer asks for the fault. -/
theorem perform_withFault {op : ScopeOp}
    (plain : ∀ owner, op ≠ .externalize owner) :
    (scope.withFault fault).perform op =
      (scope.perform op).map fun (reply, next) =>
        (reply, next.withFault fault) := by
  cases op with
  | create value =>
      simp only [perform, primitive, insert_withFault, Option.map_map]
      rfl
  | evaluate =>
      simp only [perform, evaluate_withFault, Option.map_map]
      rfl
  | call function receiver arguments =>
      simp only [perform, call_withFault, Option.map_map]
      rfl
  | kind value => rfl
  | persist value =>
      simp only [perform, persist_withFault, Option.map_map]
      rfl
  | resolve root =>
      simp only [perform, resolve_withFault, Option.map_some]
  | release root =>
      simp only [perform, release_withFault, Option.map_some]
  | externalize owner => exact absurd rfl (plain owner)

end ModelScope

namespace ModelSession

def withFault (session : ModelSession) (fault : ExternalFault) :
    ModelSession :=
  { session with backend.externalFault := fault }

/-- No operation but a transfer asks for the fault. -/
theorem perform_withFault (session : ModelSession) (fault : ExternalFault)
    {op : SessionOp} (plain : ∀ owner, op ≠ .inScope (.externalize owner)) :
    (session.withFault fault).perform op =
      (session.perform op).map fun (reply, next) =>
        (reply, next.withFault (fault.after op)) := by
  obtain ⟨backend, opened⟩ := session
  cases op with
  | inScope inner =>
      cases opened with
      | none => rfl
      | some locals =>
          have performs := ModelScope.perform_withFault
            ⟨backend, locals⟩ fault
            (fun owner same => plain owner (congrArg _ same))
          have kept : fault.after (.inScope inner) = fault := by
            cases inner with
            | externalize owner => exact absurd rfl (plain owner)
            | _ => rfl
          rw [kept]
          simp only [ModelSession.perform, Option.map_map]
          change Option.map _ (ModelScope.perform
            (ModelScope.withFault ⟨backend, locals⟩ fault) inner) = _
          rw [performs, Option.map_map]
          rfl
  | dropScope order =>
      cases opened with
      | none => rfl
      | some locals =>
          simp only [ModelSession.perform, withFault]
          split
          · rfl
          · rfl
  | _ =>
      cases opened with
      | none => rfl
      | some locals => rfl

end ModelSession

end RustJsi.Testkit

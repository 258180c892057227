import RustJsi.Testkit.ModelBuffers
import RustJsi.Testkit.ModelExternals

/-!
# The accounts of the external buffers

Each external value refers to one owner, which holds its bytes.  What a history
accepted and did not finalize is what a value or a view refers to still.
-/

namespace RustJsi.Testkit

open Generational Interleaving
open RustJsi.BackendJsc (BackendError)

namespace ModelBuffers

/-- The fault that is pending after an operation. -/
def faultAfter (fault : ExternalFault) : BufferOp → ExternalFault
  | .session op => fault.after op
  | _ => fault

/-- The fault that the next transfer finds. -/
def pendingFault (trace : List BufferExchange) : ExternalFault :=
  trace.foldl (fun fault exchange => faultAfter fault exchange.op) .none

/-- What an operation took from its caller. -/
def takes (exchange : BufferExchange) : Option (List UInt8) :=
  match exchange.op, exchange.reply with
  | .session (.inScope (.externalize bytes)),
      .session (.transfer (.ok _)) => some bytes
  | .session (.inScope (.externalize bytes)),
      .session (.transfer (.error (.accepted _))) => some bytes
  | _, _ => none

/-- A live value, a live view or a leaked one refers to the owner. -/
inductive Refers (buffers : ModelBuffers) (owner : Nat) : Prop
  | value (value : Id 64) (held : (value, owner) ∈ buffers.entries)
  | view (shared : owner ∈ buffers.views)
  | leaked (shared : owner ∈ buffers.leaked)

/-- The books of the owners agree with the values, and both with the trace. -/
structure Sound (id : UInt64) (trace : List BufferExchange)
    (buffers : ModelBuffers) : Prop where
  session : ∃ created, ModelSession.Sound id (trace.filterMap sessionExchange)
    created buffers.session
  accounts : buffers.owners.Accounts buffers.references
  taken : buffers.owners.bytes = trace.filterMap takes
  named : ∀ value owner, (value, owner) ∈ buffers.entries →
    Store.get buffers.values value =
      some (.external (buffers.owners.bytesOf owner))
  held : ∀ value bytes,
    Store.get buffers.values value = some (.external bytes) →
    ∃ owner, (value, owner) ∈ buffers.entries
  once : (buffers.entries.map Prod.fst).Nodup
  fault : buffers.session.backend.externalFault = pendingFault trace

variable {id : UInt64} {buffers next middle : ModelBuffers}
  {trace before after : List BufferExchange}

theorem mem_references (buffers : ModelBuffers) (owner : Nat) :
    owner ∈ buffers.references ↔ buffers.Refers owner := by
  rw [references, List.mem_append, List.mem_append, List.mem_map]
  constructor
  · rintro (⟨⟨value, _⟩, held, rfl⟩ | shared | shared)
    · exact .value value held
    · exact .view shared
    · exact .leaked shared
  · intro refers
    cases refers with
    | value value held => exact Or.inl ⟨(value, owner), held, rfl⟩
    | view shared => exact Or.inr (Or.inl shared)
    | leaked shared => exact Or.inr (Or.inr shared)

theorem sound_initial (id : UInt64) : Sound id [] (initial id) where
  session := ⟨[], ModelSession.sound_initial id⟩
  accounts := ExternalOwners.accounts_new
  taken := rfl
  named := fun _ _ held => absurd held List.not_mem_nil
  held := by
    intro value bytes found
    have empty : Store.get (initial id).values value = none := rfl
    rw [empty] at found
    cases found
  once := List.nodup_nil
  fault := rfl

/-- What is referred to was accepted. -/
theorem Sound.bound (sound : Sound id trace buffers) {owner : Nat}
    (refers : buffers.Refers owner) : owner < buffers.owners.bytes.length := by
  rw [← sound.accounts.made]
  exact sound.accounts.counted.bound ((mem_references _ _).mpr refers)

theorem pendingFault_session (trace : List BufferExchange) (op : SessionOp)
    (reply : BufferReply) :
    pendingFault (trace ++ [⟨.session op, reply⟩]) =
      (pendingFault trace).after op := by
  rw [pendingFault, List.foldl_append]
  rfl

theorem sessionExchange_snoc (trace : List BufferExchange) (op : SessionOp)
    (reply : SessionReply) :
    (trace ++ [(⟨.session op, .session reply⟩ : BufferExchange)]).filterMap
        sessionExchange = trace.filterMap sessionExchange ++ [⟨op, reply⟩] := by
  rw [List.filterMap_append]
  rfl

/-- What is not done in the session leaves its side of the trace. -/
theorem Sound.beside (sound : Sound id trace buffers)
    {exchange : BufferExchange} (apart : ∀ op, exchange.op ≠ .session op)
    (session : next.session = buffers.session)
    (entries : next.entries = buffers.entries)
    (bytes : next.owners.bytes = buffers.owners.bytes)
    (accounts : next.owners.Accounts next.references) :
    Sound id (trace ++ [exchange]) next := by
  obtain ⟨op, reply⟩ := exchange
  have values : next.values = buffers.values := by
    rw [ModelBuffers.values, session]
  have holds : ∀ owner,
      next.owners.bytesOf owner = buffers.owners.bytesOf owner := by
    intro owner
    rw [ExternalOwners.bytesOf, bytes, ExternalOwners.bytesOf]
  have untold : [(⟨op, reply⟩ : BufferExchange)].filterMap sessionExchange =
      [] ∧ [(⟨op, reply⟩ : BufferExchange)].filterMap takes = [] ∧
      pendingFault (trace ++ [⟨op, reply⟩]) = pendingFault trace := by
    rw [pendingFault, List.foldl_append]
    cases op with
    | session op => exact absurd rfl (apart op)
    | bufferBytes value => exact ⟨rfl, rfl, rfl⟩
    | asRef view => exact ⟨rfl, rfl, rfl⟩
    | dropView view => exact ⟨rfl, rfl, rfl⟩
    | forgetView view => exact ⟨rfl, rfl, rfl⟩
  constructor
  · rw [List.filterMap_append, untold.1, List.append_nil, session]
    exact sound.session
  · exact accounts
  · rw [List.filterMap_append, untold.2.1, List.append_nil, bytes]
    exact sound.taken
  · intro value owner member
    rw [entries] at member
    rw [values, holds]
    exact sound.named value owner member
  · intro value bytes found
    rw [values] at found
    rw [entries]
    exact sound.held value bytes found
  · rw [entries]
    exact sound.once
  · rw [session, untold.2.2]
    exact sound.fault

theorem follow_plain {op : SessionOp} (reply : SessionReply)
    (session : ModelSession)
    (plain : ∀ bytes, op ≠ .inScope (.externalize bytes)) :
    buffers.follow op reply session =
      { buffers with session := session }.dropEntries := by
  unfold follow
  split
  · exact absurd rfl (plain _)
  · exact absurd rfl (plain _)
  · rfl

/-- Entries that are all there stay. -/
theorem dropEntries_of_held
    (held : ∀ entry ∈ buffers.entries,
      (SlotMap.get buffers.values entry.1).isSome = true) :
    buffers.dropEntries = buffers := by
  have kept : buffers.entries.filter (fun entry =>
      (SlotMap.get buffers.values entry.1).isSome) = buffers.entries :=
    List.filter_eq_self.mpr held
  have gone : buffers.entries.filter (fun entry =>
      (SlotMap.get buffers.values entry.1).isNone) = [] := by
    refine List.filter_eq_nil_iff.mpr ?_
    intro entry member absent
    have present := held entry member
    rw [Option.isNone_iff_eq_none.mp absent] at present
    cases present
  unfold dropEntries
  rw [kept, gone]
  rfl

/-- An entry that goes gives its reference back. -/
theorem accounts_dropEntries
    (accounts : buffers.owners.Accounts buffers.references) :
    buffers.dropEntries.owners.Accounts buffers.dropEntries.references := by
  have split : (buffers.entries.filter (fun entry =>
      (SlotMap.get buffers.values entry.1).isNone) ++
      buffers.entries.filter (fun entry =>
        (SlotMap.get buffers.values entry.1).isSome)).Perm
          buffers.entries := by
    have others : (fun entry : Id 64 × Nat =>
        (SlotMap.get buffers.values entry.1).isSome) = fun entry =>
          !(SlotMap.get buffers.values entry.1).isNone := by
      funext entry
      rw [Option.not_isNone]
    rw [others]
    exact List.filter_append_perm _ _
  refine ExternalOwners.Accounts.dropAll (accounts.perm ?_)
  have entries := split.map Prod.snd
  rw [List.map_append] at entries
  have whole := entries.append_right (buffers.views ++ buffers.leaked)
  rw [List.append_assoc] at whole
  exact whole.symm

/-- An operation that makes no external value. -/
theorem Sound.plain (sound : Sound id trace buffers) {op : SessionOp}
    {reply : SessionReply} {session : ModelSession}
    (performed : buffers.session.perform op = some (reply, session))
    (plain : ∀ bytes, op ≠ .inScope (.externalize bytes)) :
    Sound id (trace ++ [⟨.session op, .session reply⟩])
      { buffers with session := session }.dropEntries := by
  obtain ⟨created, inner⟩ := sound.session
  obtain ⟨retains, fault⟩ := inner.retains performed plain
  have same := (ExternalOwners.dropAll_same
    ((buffers.entries.filter fun entry =>
      (SlotMap.get session.backend.state.values entry.1).isNone).map Prod.snd)
    buffers.owners).1
  have untaken : [(⟨.session op, .session reply⟩ : BufferExchange)].filterMap
      takes = [] := by
    refine List.filterMap_eq_nil_iff.mpr ?_
    intro exchange member
    rw [List.mem_singleton.mp member, takes]
    split
    · rename_i chosen _
      cases chosen
      exact absurd rfl (plain _)
    · rename_i chosen _
      cases chosen
      exact absurd rfl (plain _)
    · rfl
  constructor
  · rw [sessionExchange_snoc]
    obtain ⟨issuing, later⟩ := inner.perform performed
    exact ⟨created ++ issuing, later⟩
  · exact accounts_dropEntries sound.accounts
  · rw [List.filterMap_append, untaken, List.append_nil]
    exact same.trans sound.taken
  · intro value owner member
    obtain ⟨member, present⟩ := List.mem_filter.mp member
    obtain ⟨entry, found⟩ := Option.isSome_iff_exists.mp present
    rw [SlotMap.get_eq] at found
    have was := sound.named value owner member
    have kept : ExternalOwners.bytesOf (ExternalOwners.dropAll _ _) owner =
        buffers.owners.bytesOf owner :=
      congrArg (fun bytes : List (List UInt8) => bytes[owner]?.getD []) same
    change Store.get session.backend.state.values value = _
    rcases retains value entry found with earlier | fresh
    · rw [was] at earlier
      cases earlier
      rw [found]
      exact congrArg (fun bytes => some (ModelValueEntry.external bytes))
        kept.symm
    · rw [was] at fresh
      cases fresh.1
  · intro value bytes found
    rcases retains value _ found with earlier | fresh
    · obtain ⟨owner, member⟩ := sound.held value bytes earlier
      refine ⟨owner, List.mem_filter.mpr ⟨member, ?_⟩⟩
      rw [SlotMap.get_eq]
      exact Option.isSome_of_eq_some found
    · exact absurd rfl fresh.2
  · exact (List.filter_sublist.map _).nodup sound.once
  · rw [pendingFault_session, ← sound.fault]
    exact fault

/-! ## A transfer -/

/-- What a transfer does to the books, by the fault it finds. -/
inductive Transferred (buffers : ModelBuffers) (bytes : List UInt8)
    (next : ModelBuffers) : ExternalFault → BufferReply → Prop
  | rejected (owners : next.owners = buffers.owners)
      (entries : next.entries = buffers.entries) :
      Transferred buffers bytes next .reject
        (.session (.transfer (.error (.rejected
          (.failure "injected external-buffer rejection") bytes))))
  | accepted
      (stats : next.owners.stats = { buffers.owners.stats with
        accepted := buffers.owners.stats.accepted + 1
        finalized := buffers.owners.stats.finalized + 1 })
      (finalized : next.owners.heap.destroyed =
        buffers.owners.heap.destroyed ++ [buffers.owners.bytes.length])
      (entries : next.entries = buffers.entries) :
      Transferred buffers bytes next .acceptThenFail
        (.session (.transfer (.error (.accepted
          (.failure "injected failure after ownership transfer")))))
  | made {value : ValueId}
      (stats : next.owners.stats = { buffers.owners.stats with
        accepted := buffers.owners.stats.accepted + 1
        liveBytes := buffers.owners.stats.liveBytes + bytes.length })
      (finalized : next.owners.heap.destroyed =
        buffers.owners.heap.destroyed)
      (entries : next.entries =
        (value.id, buffers.owners.bytes.length) :: buffers.entries) :
      Transferred buffers bytes next .none
        (.session (.transfer (.ok value)))

/-- The entries of the values there were are there. -/
theorem Sound.dropEntries (sound : Sound id trace buffers)
    {session : ModelSession}
    (kept : session.backend.state.values = buffers.values) :
    { buffers with session := session }.dropEntries =
      { buffers with session := session } := by
  refine dropEntries_of_held ?_
  intro entry member
  have named := sound.named entry.1 entry.2 member
  rw [ModelBuffers.values, kept, SlotMap.get_eq]
  exact Option.isSome_of_eq_some named

theorem Sound.transfers (sound : Sound id trace buffers) {bytes : List UInt8}
    {reply : BufferReply} (fits : buffers.session.backend.externalFault ≠
      .reject → buffers.owners.Fits bytes)
    (performed : buffers.perform (.session (.inScope (.externalize bytes))) =
      some (reply, next)) :
    Transferred buffers bytes next (pendingFault trace) reply ∧
      next.views = buffers.views ∧ next.leaked = buffers.leaked ∧
      Sound id (trace ++ [⟨.session (.inScope (.externalize bytes)), reply⟩])
        next := by
  obtain ⟨answer, rfl, inside, same⟩ := perform_session performed
  obtain ⟨created, inner⟩ := sound.session
  obtain ⟨taken, result, rfl, transfer⟩ := inner.externalizes inside
  obtain ⟨issuing, later⟩ := inner.perform inside
  let exchange : BufferExchange :=
    ⟨.session (.inScope (.externalize bytes)), .session (.transfer result)⟩
  have session : ∃ created, ModelSession.Sound id
      ((trace ++ [exchange]).filterMap sessionExchange) created
      next.session := by
    rw [sessionExchange_snoc]
    exact ⟨_, later⟩
  have fault : next.session.backend.externalFault =
      pendingFault (trace ++ [exchange]) := by
    rw [pendingFault_session]
    exact taken
  generalize next.session = following at *
  rw [← sound.fault]
  generalize found : buffers.session.backend.externalFault = pending at *
  cases transfer with
  | rejected kept =>
      have followed : next = { buffers with session := following } :=
        same.trans (sound.dropEntries kept)
      subst followed
      refine ⟨.rejected rfl rfl, rfl, rfl, session, sound.accounts, ?_, ?_,
        ?_, sound.once, fault⟩
      · rw [List.filterMap_append]
        exact sound.taken.trans (List.append_nil _).symm
      · rw [ModelBuffers.values, kept]
        exact sound.named
      · rw [ModelBuffers.values, kept]
        exact sound.held
  | accepted kept =>
      have fits := fits (by
        intro refused
        cases refused)
      have followed : next = { buffers with
          session := following
          owners := (buffers.owners.accept bytes).2.drop
            (buffers.owners.accept bytes).1 } := same
      have grown : next.owners.bytes = buffers.owners.bytes ++ [bytes] := by
        rw [followed]
        exact (ExternalOwners.drop_same _ _).1
      obtain ⟨stats, finalized⟩ := sound.accounts.accept_drop fits
      subst followed
      refine ⟨.accepted stats finalized rfl, rfl, rfl, session,
        (sound.accounts.accept fits).drop, ?_, ?_, ?_, sound.once, fault⟩
      · rw [List.filterMap_append, ← sound.taken]
        exact grown
      · intro value owner member
        rw [ModelBuffers.values, kept, ExternalOwners.bytesOf, grown,
          ExternalOwners.bytesOf_append bytes (sound.bound (.value _ member))]
        exact sound.named value owner member
      · rw [ModelBuffers.values, kept]
        exact sound.held
  | @made value step =>
      have fits := fits (by
        intro refused
        cases refused)
      have number : (buffers.owners.accept bytes).1 =
          buffers.owners.bytes.length := sound.accounts.made
      have size : byteCount bytes = bytes.length :=
        Nat.min_eq_left (Nat.le_trans (Nat.le_add_left _ _) fits.liveBytes)
      have followed : next = { buffers with
          session := following
          owners := (buffers.owners.accept bytes).2
          entries := (value.id, buffers.owners.bytes.length) ::
            buffers.entries } := by
        rw [← number]
        exact same
      subst followed
      refine ⟨.made ?_ rfl rfl, rfl, rfl, session, ?_, ?_, ?_, ?_, ?_, fault⟩
      · change ExternalBufferStats.mk
          (min (buffers.owners.stats.accepted + 1) u64Max)
          (min (buffers.owners.stats.liveBytes + byteCount bytes) u64Max)
          buffers.owners.stats.finalized buffers.owners.stats.copiedBytes = _
        rw [size, Nat.min_eq_left fits.accepted,
          Nat.min_eq_left fits.liveBytes]
      · have accounts := sound.accounts.accept fits
        rw [number] at accounts
        exact accounts
      · rw [List.filterMap_append, ← sound.taken]
        rfl
      · intro other owner member
        refine step.get_issuing.mpr ?_
        rcases List.mem_cons.mp member with first | member
        · cases first
          refine Or.inl ⟨rfl, congrArg _ ?_⟩
          change (buffers.owners.bytes ++ [bytes])[
            buffers.owners.bytes.length]?.getD [] = bytes
          rw [List.getElem?_concat_length, Option.getD_some]
        · refine Or.inr ((sound.named other owner member).trans ?_)
          refine congrArg (fun bytes => some (ModelValueEntry.external bytes))
            ?_
          exact (ExternalOwners.bytesOf_append bytes
            (sound.bound (.value _ member))).symm
      · intro other held found
        rcases step.get_issuing.mp found with ⟨rfl, _⟩ | earlier
        · exact ⟨_, List.mem_cons_self⟩
        · obtain ⟨owner, member⟩ := sound.held other held earlier
          exact ⟨owner, List.mem_cons_of_mem _ member⟩
      · refine List.nodup_cons.mpr ⟨?_, sound.once⟩
        intro known
        obtain ⟨⟨other, owner⟩, member, rfl⟩ := List.mem_map.mp known
        have named := sound.named _ owner member
        rw [ModelBuffers.values, step.get_of_issuing] at named
        cases named

theorem getElem?_perm {views : List Nat} {view owner : Nat}
    (present : views[view]? = some owner) :
    views.Perm (owner :: views.eraseIdx view) := by
  obtain ⟨bound, rfl⟩ := List.getElem?_eq_some_iff.mp present
  exact (List.getElem_cons_eraseIdx_perm bound).symm

/-- The references, with one of the views first. -/
theorem references_perm {view owner : Nat}
    (present : buffers.views[view]? = some owner) :
    buffers.references.Perm
      (owner :: (buffers.entries.map Prod.snd ++
        (buffers.views.eraseIdx view ++ buffers.leaked))) := by
  have views := (getElem?_perm present).append_right buffers.leaked
  exact (views.append_left _).trans List.perm_middle

theorem Sound.step (sound : Sound id trace buffers)
    {exchange : BufferExchange} (fits : buffers.Fits exchange)
    (performed : buffers.perform exchange.op = some (exchange.reply, next)) :
    Sound id (trace ++ [exchange]) next := by
  obtain ⟨op, reply⟩ := exchange
  cases op with
  | session op =>
      by_cases transfer : ∃ bytes, op = .inScope (.externalize bytes)
      · obtain ⟨bytes, rfl⟩ := transfer
        exact (sound.transfers (fits bytes rfl) performed).2.2.2
      · have plain : ∀ bytes, op ≠ .inScope (.externalize bytes) :=
          fun bytes same => transfer ⟨bytes, same⟩
        obtain ⟨answer, rfl, inside, same⟩ := perform_session performed
        rw [follow_plain answer _ plain] at same
        rw [same]
        exact sound.plain inside plain
  | bufferBytes value =>
      rcases bufferBytes_cases performed with ⟨error, _, rfl⟩ | viewed
      · exact sound.beside (by
          intro op same
          cases same) rfl rfl rfl sound.accounts
      · obtain ⟨owner, _, member, rfl⟩ := viewed
        have owned : owner ∈ buffers.references :=
          (mem_references _ _).mpr (.value _ member)
        exact sound.beside (by
          intro op same
          cases same) rfl rfl rfl
          ((sound.accounts.clone owned).perm List.perm_middle.symm)
  | asRef view =>
      obtain ⟨owner, _, same⟩ := Option.map_eq_some_iff.mp performed
      cases same
      exact sound.beside (by
        intro op same
        cases same) rfl rfl rfl sound.accounts
  | dropView view =>
      obtain ⟨owner, present, same⟩ := Option.map_eq_some_iff.mp performed
      cases same
      exact sound.beside (by
        intro op same
        cases same) rfl rfl (ExternalOwners.drop_same _ _).1
        (sound.accounts.perm (references_perm present)).drop
  | forgetView view =>
      obtain ⟨owner, present, same⟩ := Option.map_eq_some_iff.mp performed
      cases same
      refine sound.beside (by
        intro op same
        cases same) rfl rfl rfl (sound.accounts.perm ?_)
      refine (references_perm present).trans ?_
      change List.Perm _ (_ ++ (_ ++ owner :: buffers.leaked))
      rw [← List.append_assoc, ← List.append_assoc]
      exact List.perm_middle.symm

theorem Sound.path (sound : Sound id before middle)
    (path : (system id).Path middle after buffers) :
    Sound id (before ++ after) buffers := by
  induction path with
  | refl =>
      rw [List.append_nil]
      exact sound
  | snoc _ step inductionHypothesis =>
      rw [← List.append_assoc]
      exact inductionHypothesis.step step.1 step.2

theorem run_sound (run : (system id).Run trace buffers) :
    Sound id trace buffers := by
  obtain ⟨start, rfl, path⟩ := run
  exact (sound_initial id).path path

theorem Transferred.destroyed {fault : ExternalFault} {bytes : List UInt8}
    {reply : BufferReply}
    (transferred : Transferred buffers bytes next fault reply) :
    buffers.owners.heap.destroyed <+: next.owners.heap.destroyed := by
  cases transferred with
  | rejected owners entries => rw [owners]
  | accepted stats finalized entries =>
      rw [finalized]
      exact List.prefix_append _ _
  | made stats finalized entries => rw [finalized]

theorem Sound.destroyed (sound : Sound id trace buffers)
    {exchange : BufferExchange} (fits : buffers.Fits exchange)
    (performed : buffers.perform exchange.op = some (exchange.reply, next)) :
    buffers.owners.heap.destroyed <+: next.owners.heap.destroyed := by
  obtain ⟨op, reply⟩ := exchange
  cases op with
  | session op =>
      by_cases transfer : ∃ bytes, op = .inScope (.externalize bytes)
      · obtain ⟨bytes, rfl⟩ := transfer
        exact (sound.transfers (fits bytes rfl) performed).1.destroyed
      · have plain : ∀ bytes, op ≠ .inScope (.externalize bytes) :=
          fun bytes same => transfer ⟨bytes, same⟩
        obtain ⟨answer, _, inside, same⟩ := perform_session performed
        rw [follow_plain answer _ plain] at same
        rw [same]
        exact (ExternalOwners.dropAll_same _ _).2
  | bufferBytes value =>
      rcases bufferBytes_cases performed with ⟨error, _, rfl⟩ | viewed
      · exact List.prefix_refl _
      · obtain ⟨owner, _, _, rfl⟩ := viewed
        change _ <+: (buffers.owners.heap.clone owner).destroyed
        rw [Counted.Heap.destroyed_clone]
  | asRef view =>
      obtain ⟨owner, _, same⟩ := Option.map_eq_some_iff.mp performed
      cases same
      exact List.prefix_refl _
  | dropView view =>
      obtain ⟨owner, _, same⟩ := Option.map_eq_some_iff.mp performed
      cases same
      exact (ExternalOwners.drop_same _ _).2
  | forgetView view =>
      obtain ⟨owner, _, same⟩ := Option.map_eq_some_iff.mp performed
      cases same
      exact List.prefix_refl _

/-- A validated buffer has not changed its kind. -/
theorem Sound.views (sound : Sound id trace buffers)
    (opened : buffers.session.locals ≠ none) (value : ValueId) :
    ∃ reply next, buffers.perform (.bufferBytes value) =
      some (reply, next) := by
  obtain ⟨locals, opened⟩ := Option.ne_none_iff_exists'.mp opened
  have performs : buffers.perform (.bufferBytes value) =
      buffers.bufferBytes locals value := by
    simp only [ModelBuffers.perform, opened, Option.bind_some]
  rw [performs, bufferBytes]
  split
  · exact ⟨_, _, rfl⟩
  · rename_i found required
    obtain ⟨rfl, valid⟩ := requireKind_ok required
    unfold ModelScope.validate at valid
    split at valid
    · cases valid
    split at valid
    · cases valid
    rename_i entry named
    rw [SlotMap.get_eq] at named
    have kind := Except.ok.inj valid
    cases entry with
    | primitive plain => exact absurd kind (ModelValueEntry.kind_primitive _)
    | function => cases kind
    | external bytes =>
        obtain ⟨owner, member⟩ := sound.held _ _ named
        split
        · rename_i absent
          have apart := List.find?_eq_none.mp absent _ member
          exact absurd (decide_eq_true rfl) apart
        · exact ⟨_, _, rfl⟩

/-! ## What a history says of its buffers -/

/-- The owners that something refers to. -/
def alive (buffers : ModelBuffers) : List Nat :=
  buffers.owners.referenced buffers.references

def withFault (buffers : ModelBuffers) (fault : ExternalFault) :
    ModelBuffers :=
  { buffers with session := buffers.session.withFault fault }

/-- No operation but a transfer asks for the fault. -/
theorem perform_withFault (buffers : ModelBuffers) (fault : ExternalFault)
    {op : BufferOp} (plain : offered op = none) :
    (buffers.withFault fault).perform op =
      (buffers.perform op).map fun (reply, next) =>
        (reply, next.withFault (faultAfter fault op)) := by
  cases op with
  | session op =>
      have other : ∀ bytes, op ≠ .inScope (.externalize bytes) := by
        intro bytes same
        rw [same] at plain
        cases plain
      have session : (buffers.withFault fault).session =
          buffers.session.withFault fault := rfl
      simp only [perform, session,
        ModelSession.perform_withFault _ fault other, Option.map_map]
      refine congrArg (fun f => Option.map f _) ?_
      funext outcome
      simp only [Function.comp_apply, follow_plain _ _ other]
      rfl
  | bufferBytes value =>
      have locals : (buffers.withFault fault).session.locals =
          buffers.session.locals := rfl
      simp only [perform, locals]
      cases buffers.session.locals with
      | none => rfl
      | some locals =>
          have kinds : ModelScope.requireKind
              ⟨(buffers.withFault fault).session.backend, locals⟩ value
                .buffer =
              ModelScope.requireKind ⟨buffers.session.backend, locals⟩ value
                .buffer := rfl
          have entries : (buffers.withFault fault).entries =
              buffers.entries := rfl
          simp only [Option.bind_some, bufferBytes, kinds, entries]
          split
          · rfl
          split
          · rfl
          · rfl
  | asRef view =>
      change Option.map _ buffers.views[view]? = _
      simp only [perform, Option.map_map]
      rfl
  | dropView view =>
      change Option.map _ buffers.views[view]? = _
      simp only [perform, Option.map_map]
      rfl
  | forgetView view =>
      change Option.map _ buffers.views[view]? = _
      simp only [perform, Option.map_map]
      rfl

/-- The buffer loses its scope, its view and its root; a transfer is rejected,
and a buffer goes with its scope. -/
def afterwards : List BufferOp :=
  [.asRef 0,
    .dropView 0,
    .session (.dropScope [⟨7, ⟨0, 1⟩⟩]),
    .session .rejectNextExternalBuffer,
    .session .openScope,
    .session (.inScope (.externalize [4])),
    .session (.inScope (.release ⟨7, ⟨0, 1⟩⟩)),
    .session (.inScope (.externalize [5, 6])),
    .session (.dropScope [⟨7, ⟨0, 2⟩⟩])]

end ModelBuffers

end RustJsi.Testkit

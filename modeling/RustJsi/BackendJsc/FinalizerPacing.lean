import RustJsi.BackendJsc.FinalizerDelivery
import RustJsi.Interleaving.Pacing

/-!
# Finalizers and drains do not keep each other busy

A push goes round when the pointer of the queue is exchanged under it, and
`settle_pending` when the counter is.  A push exchanges the pointer once and
counts its token once, and each token is settled once, by its push or by the
drain that got it; so the calls on a queue, walks through detached lists
included, end after a bounded number of accesses.
-/

namespace RustJsi.BackendJsc

open Interleaving

namespace FinalizerQueue

variable {Id : Type*}

/-- The tokens in memory. -/
def liveTokens (heap : Heap Id) : Nat :=
  heap.countP Option.isSome

/-- The accesses of a push that begins to look at the pointer. -/
def loadingWork (head : Pointer) : Nat :=
  if head = .closedSentinel then 4 else 3

/-- The accesses of `settle_pending`. -/
def settleWork (pending : Nat) : SettlePoint → Nat
  | .load => 2
  | .exchange observed => if pending = observed then 1 else 2

/-- The accesses a call still makes if nobody gets into its way.  The accesses
that take a token off a list are those of the token. -/
def work (shared : Shared Id) : Call Id → Nat
  | .creating _ => loadingWork shared.head + 6
  | .counting _ _ => loadingWork shared.head + 1
  | .loading _ _ => loadingWork shared.head
  | .linking _ _ head =>
      if shared.head = head then 2 else loadingWork shared.head + 2
  | .publishing _ _ head =>
      if shared.head = head then 1 else loadingWork shared.head + 1
  | .discarding _ _ => 3
  | .uncounting _ point => settleWork shared.pending point
  | .taking none => 6
  | .taking (some head) => if shared.head = head then 5 else 7
  | .closing => 5
  | .detached _ => 4
  | .settling _ _ point => settleWork shared.pending point + 1
  | .freeing _ _ => 1
  | _ => 0

/-- How often a call still changes the pointer or the counter.  The change
that settles a token is the token's. -/
def turns : Call Id → Nat
  | .creating _ => 3
  | .counting _ _ => 2
  | .loading _ _ => 1
  | .linking _ _ _ => 1
  | .publishing _ _ _ => 1
  | .uncounting _ _ => 1
  | .taking _ => 2
  | .closing => 2
  | .detached _ => 1
  | .settling _ _ _ => 1
  | _ => 0

/-- The exchange is one that fails by itself. -/
def Choice.slips : Choice → Bool
  | .run spurious => spurious
  | _ => false

theorem loadingWork_le (head : Pointer) : loadingWork head ≤ 4 := by
  unfold loadingWork
  split <;> omega

theorem le_loadingWork (head : Pointer) : 3 ≤ loadingWork head := by
  unfold loadingWork
  split <;> omega

theorem settleWork_le (pending : Nat) (point : SettlePoint) :
    settleWork pending point ≤ 2 := by
  cases point with
  | load => exact Nat.le_refl _
  | exchange observed =>
      simp only [settleWork]
      split <;> omega

theorem settleWork_pos (pending : Nat) (point : SettlePoint) :
    1 ≤ settleWork pending point := by
  cases point with
  | load => exact Nat.le_add_left 1 1
  | exchange observed =>
      simp only [settleWork]
      split <;> omega

theorem work_rise (shared other : Shared Id) (call : Call Id) :
    work other call ≤ work shared call + 4 := by
  have most := loadingWork_le other.head
  have least := le_loadingWork shared.head
  cases call with
  | creating id =>
      simp only [work]
      omega
  | counting id token =>
      simp only [work]
      omega
  | loading id token =>
      simp only [work]
      omega
  | linking id token head =>
      simp only [work]
      split <;> split <;> omega
  | publishing id token head =>
      simp only [work]
      split <;> split <;> omega
  | uncounting id point =>
      have settle := settleWork_le other.pending point
      simp only [work]
      omega
  | taking point =>
      cases point with
      | none => exact Nat.le_add_right _ _
      | some head =>
          simp only [work]
          split <;> split <;> omega
  | settling token follower point =>
      have settle := settleWork_le other.pending point
      simp only [work]
      omega
  | _ => exact Nat.le_add_right _ _

section Memory

variable {heap after : Heap Id} {address : Nat} {token : Token Id}

theorem liveTokens_allocate
    (allocated : allocate heap address token = some after) :
    liveTokens after = liveTokens heap + 1 := by
  unfold allocate at allocated
  split at allocated
  · cases allocated
    exact countP_append_single _ _ _
  · split at allocated
    · rename_i vacant
      cases allocated
      exact countP_set_rise vacant rfl rfl
    · cases allocated

theorem liveTokens_free (freed : free heap address = some after) :
    liveTokens after + 1 = liveTokens heap := by
  obtain ⟨stored, present, rfl⟩ := Option.map_eq_some_iff.mp freed
  exact countP_set_fall (tokenAt_eq_some_iff.mp present) rfl rfl

theorem liveTokens_link {stored : Token Id}
    (present : tokenAt heap address = some stored) :
    liveTokens (heap.set address (some token)) = liveTokens heap :=
  countP_set_stay (tokenAt_eq_some_iff.mp present) rfl

end Memory

/-! ## One access -/

section Steps

variable {shared next : Shared Id} {call after : Call Id} {slips : Bool}
  {effect : Effect Id}

/-- An access leaves its call with less to do, and may leave the others with
more where it takes a turn. -/
structure Paced (shared : Shared Id) (call : Call Id) (slips : Bool)
    (next : Shared Id) (after : Call Id) (turn : Nat) : Prop where
  rises : ∀ other, work next other ≤ work shared other + 4 * turn
  lowers : 4 * liveTokens next.heap + work next after + 1 ≤
    4 * liveTokens shared.heap + work shared call + 4 * slips.toNat
  takes : liveTokens next.heap + turns after + turn ≤
    liveTokens shared.heap + turns call

theorem work_congr (head : next.head = shared.head)
    (pending : next.pending = shared.pending) (other : Call Id) :
    work next other = work shared other := by
  cases other <;> simp only [work, head, pending]

theorem paced_still (head : next.head = shared.head)
    (pending : next.pending = shared.pending)
    (lowers : 4 * liveTokens next.heap + work shared after + 1 ≤
      4 * liveTokens shared.heap + work shared call + 4 * slips.toNat)
    (keeps : liveTokens next.heap + turns after ≤
      liveTokens shared.heap + turns call) :
    Paced shared call slips next after 0 := by
  refine ⟨?_, ?_, keeps⟩
  · intro other
    rw [work_congr head pending]
    exact Nat.le_add_right _ _
  · rw [work_congr head pending]
    exact lowers

theorem paced_turn (heap : next.heap = shared.heap)
    (lowers : work next after + 1 ≤ work shared call)
    (takes : turns after + 1 ≤ turns call) :
    Paced shared call slips next after 1 := by
  refine ⟨work_rise shared next, ?_, ?_⟩
  · rw [heap]
    omega
  · rw [heap]
    omega

/-- One access of `settle_pending`, within a call. -/
theorem settlePending_paced (spurious : Bool) (pending : Nat)
    (point : SettlePoint) :
    (∃ onward, settlePending spurious pending point =
        (pending, .again onward) ∧
      settleWork pending onward + 1 ≤
        settleWork pending point + 4 * spurious.toNat) ∨
      (∃ left, settlePending spurious pending point = (left, .settled)) ∨
      settlePending spurious pending point = (pending, .metZero) := by
  cases point with
  | load =>
      cases pending with
      | zero => exact Or.inr (Or.inr rfl)
      | succ rest =>
          refine Or.inl ⟨.exchange (rest + 1), rfl, ?_⟩
          simp [settleWork]
  | exchange observed =>
      rw [settlePending]
      split
      · exact Or.inr (Or.inl ⟨_, rfl⟩)
      · rename_i fails
        cases pending with
        | zero => exact Or.inr (Or.inr rfl)
        | succ rest =>
            refine Or.inl ⟨.exchange (rest + 1), rfl, ?_⟩
            cases spurious with
            | true =>
                have pos := settleWork_pos (rest + 1) (.exchange observed)
                simp only [settleWork, if_true, Bool.toNat_true]
                omega
            | false =>
                have other : rest + 1 ≠ observed := fun same =>
                  fails ⟨same, rfl⟩
                simp [settleWork, other]

/-- An access of `settle_pending` on behalf of a push or of a drain. -/
theorem settle_paced {spurious : Bool} {point : SettlePoint}
    {again : SettlePoint → Call Id} {finished : Call Id}
    (goesOn : ∀ onward, work shared (again onward) +
        settleWork shared.pending point =
      work shared call + settleWork shared.pending onward ∧
        turns (again onward) = turns call)
    (ends : ∀ left : Shared Id, work left finished +
      settleWork shared.pending point ≤ work shared call)
    (takes : turns finished + 1 ≤ turns call) :
    ∃ turn, Paced shared call spurious
      { shared with
        pending := (settlePending spurious shared.pending point).1 }
      (afterSettle again finished
        (settlePending spurious shared.pending point).2).1 turn := by
  have pos := settleWork_pos shared.pending point
  rcases settlePending_paced spurious shared.pending point with
    ⟨onward, goes, lowers⟩ | ⟨left, settled⟩ | metZero
  · rw [goes]
    obtain ⟨moves, keeps⟩ := goesOn onward
    refine ⟨0, paced_still rfl rfl ?_ ?_⟩
    · simp only [afterSettle]
      omega
    · simp only [afterSettle]
      omega
  · rw [settled]
    have less := ends { shared with pending := left }
    refine ⟨1, paced_turn rfl ?_ takes⟩
    simp only [afterSettle]
    omega
  · rw [metZero]
    have less := ends shared
    refine ⟨0, paced_still rfl rfl ?_ ?_⟩
    · simp only [afterSettle]
      omega
    · simp only [afterSettle]
      omega

theorem step_paced {choice : Choice}
    (accessed : step shared choice call = some (next, after, effect)) :
    ∃ turn, Paced shared call choice.slips next after turn := by
  have most := loadingWork_le shared.head
  have least := le_loadingWork shared.head
  unfold step at accessed
  split at accessed
  · split at accessed
    · cases accessed
    · rename_i heap allocated
      cases accessed
      have live := liveTokens_allocate allocated
      refine ⟨0, paced_still rfl rfl ?_ ?_⟩
      · simp only [work, live]
        omega
      · simp only [turns, live]
        omega
  · cases accessed
    refine ⟨1, paced_turn rfl ?_ (Nat.le_refl _)⟩
    exact Nat.le_refl _
  · split at accessed
    · rename_i isClosed
      cases accessed
      refine ⟨0, paced_still rfl rfl ?_ ?_⟩
      · simp only [work, loadingWork, isClosed, if_true]
        omega
      · simp [turns]
    · cases accessed
      refine ⟨0, paced_still rfl rfl ?_ (Nat.le_refl _)⟩
      simp only [work, if_true]
      omega
  · split at accessed
    · cases accessed
    · rename_i heap freed
      cases accessed
      have live := liveTokens_free freed
      refine ⟨0, paced_still rfl rfl ?_ ?_⟩
      · simp only [work, settleWork]
        omega
      · simp only [turns]
        omega
  · obtain ⟨rfl, moved⟩ := Prod.mk.inj (Option.some.inj accessed)
    obtain ⟨rfl, rfl⟩ := Prod.mk.inj moved
    apply settle_paced
    · intro onward
      exact ⟨Nat.add_comm _ _, rfl⟩
    · intro left
      exact Nat.le_of_eq (Nat.zero_add _)
    · exact Nat.le_refl _
  · split at accessed
    · cases accessed
    · rename_i id token head _ stored present
      cases accessed
      have live : liveTokens
          (shared.heap.set token (some { stored with next := head })) =
          liveTokens shared.heap := liveTokens_link present
      refine ⟨0, paced_still rfl rfl ?_ ?_⟩
      · simp only [work, live]
        split <;> omega
      · simp only [turns, live]
        omega
  · split at accessed
    · rename_i found
      cases accessed
      refine ⟨1, paced_turn rfl ?_ (Nat.le_refl _)⟩
      simp [work, found.1]
    · rename_i spurious id token head fails
      cases accessed
      refine ⟨0, paced_still rfl rfl ?_ (Nat.le_refl _)⟩
      cases spurious with
      | true =>
          simp only [work, Choice.slips, Bool.toNat_true]
          split <;> omega
      | false =>
          have other : shared.head ≠ head := fun same => fails ⟨same, rfl⟩
          simp only [work, other, if_false]
          omega
  · split at accessed
    · cases accessed
      refine ⟨0, paced_still rfl rfl ?_ (by simp [turns])⟩
      simp only [work]
      omega
    · cases accessed
      refine ⟨0, paced_still rfl rfl ?_ (Nat.le_refl _)⟩
      simp only [work, if_true]
      omega
  · split at accessed
    · rename_i found
      cases accessed
      refine ⟨1, paced_turn rfl ?_ (Nat.le_refl _)⟩
      simp [work, found.1]
    · rename_i spurious head fails
      cases accessed
      refine ⟨0, paced_still rfl rfl ?_ (Nat.le_refl _)⟩
      cases spurious with
      | true =>
          simp only [work, Choice.slips, Bool.toNat_true]
          split <;> omega
      | false =>
          have other : shared.head ≠ head := fun same => fails ⟨same, rfl⟩
          simp only [work, other, if_false]
          omega
  · split at accessed <;> cases accessed <;>
      exact ⟨1, paced_turn rfl (Nat.le_refl _) (Nat.le_refl _)⟩
  · cases accessed
    refine ⟨0, paced_still rfl rfl ?_ (by simp [turns])⟩
    simp only [work]
    omega
  · split at accessed
    · cases accessed
    · cases accessed
      refine ⟨0, paced_still rfl rfl ?_ (Nat.le_refl _)⟩
      simp only [work, settleWork]
      omega
  · obtain ⟨rfl, moved⟩ := Prod.mk.inj (Option.some.inj accessed)
    obtain ⟨rfl, rfl⟩ := Prod.mk.inj moved
    apply settle_paced
    · intro onward
      refine ⟨?_, rfl⟩
      simp only [work]
      omega
    · intro left
      exact Nat.le_of_eq (Nat.add_comm _ _)
    · exact Nat.le_refl _
  · split at accessed
    · cases accessed
    · rename_i heap freed
      cases accessed
      have live := liveTokens_free freed
      refine ⟨0, paced_still rfl rfl ?_ ?_⟩
      · simp only [work]
        omega
      · simp only [turns]
        omega
  · cases accessed

end Steps

/-- What the calls on a queue still have to do. -/
def pacing (Id : Type*) : Pacing (machine Id) where
  slips := Choice.slips
  work := work
  stock := fun shared => 4 * liveTokens shared.heap
  turns := turns
  turnStock := fun shared => liveTokens shared.heap
  first := 10
  most := 3
  rise := 4
  slip := 4
  starts := by
    intro shared op
    have most := loadingWork_le shared.head
    cases op with
    | push id => exact Nat.add_le_add_right most 6
    | take => exact Nat.le_add_left 6 4
    | close => exact Nat.le_add_left 5 5
  begins := by
    intro op
    cases op <;> simp [machine, turns]
  advances := by
    intro shared choice call next after effect accessed
    obtain ⟨turn, paced⟩ := step_paced accessed
    exact ⟨turn, paced.rises, paced.lowers, paced.takes⟩

/-- Where a call can make an access, it can make one that does not fail by
itself. -/
theorem exists_plain {shared : Shared Id} {choice : Choice} {call : Call Id}
    (goesOn : (step shared choice call).isSome = true) :
    ∃ plain : Choice, plain.slips = false ∧
      (step shared plain call).isSome = true := by
  cases choice with
  | allocate address => exact ⟨.allocate address, rfl, goesOn⟩
  | run spurious =>
      refine ⟨.run false, rfl, ?_⟩
      cases spurious with
      | false => exact goesOn
      | true =>
          cases call with
          | publishing id token head =>
              simp only [step]
              split <;> rfl
          | taking point =>
              cases point <;> simp only [step] <;> split <;> rfl
          | detached list => cases list <;> exact goesOn
          | _ => exact goesOn

/-- So many calls on a queue make a bounded number of accesses under any
scheduler, and none of them is ever stopped. -/
theorem execAll_queueLockFree {actions : List (PoolAction (Op Id) Choice)}
    {pool : Pool (Shared Id) (Call Id)} {labels : List (Label Id)}
    (executed : (machine Id).execAll ⟨new, []⟩ actions =
      some (pool, labels)) :
    LockFree (machine Id) Choice.slips Call.ended
      (fun calls => calls * (10 + 12 * calls)) 4 actions pool := by
  constructor
  · have bounded := (pacing Id).accesses_le rfl rfl executed
    have same : ∀ calls : Nat, 10 + 4 * calls * 3 = 10 + 12 * calls := by
      intro calls
      omega
    simpa only [pacing, same] using bounded
  · intro call member unfinished
    obtain ⟨index, present⟩ := List.mem_iff_getElem?.mp member
    have run : (system Id).Run labels pool :=
      ⟨⟨new, []⟩, ⟨rfl, rfl⟩, Machine.path_of_execAll executed⟩
    obtain ⟨linked, list, standing⟩ := run_standing run present
    obtain ⟨choice, goesOn⟩ := standing.goesOn unfinished
    exact exists_plain goesOn

theorem closeUnderPush_queueLockFree :
    ∃ pool labels,
      (machine Nat).execAll ⟨new, []⟩ closeUnderPush = some (pool, labels) ∧
      accesses closeUnderPush = 19 ∧
      LockFree (machine Nat) Choice.slips Call.ended
        (fun calls => calls * (10 + 12 * calls)) 4 closeUnderPush pool := by
  have executes :
      ((machine Nat).execAll ⟨new, []⟩ closeUnderPush).isSome = true := by
    decide
  obtain ⟨⟨pool, labels⟩, executed⟩ := Option.isSome_iff_exists.mp executes
  exact ⟨pool, labels, executed, by decide, execAll_queueLockFree executed⟩

end FinalizerQueue

end RustJsi.BackendJsc

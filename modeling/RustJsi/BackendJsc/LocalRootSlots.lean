import RustJsi.BackendJsc.AttachedScopes
import RustJsi.Interleaving.Component

/-!
# The slots of local roots

The roots of a scope are kept in an array of sixteen slots and in a vector for
those that come after.  They are drained by an iterator that empties one slot
at a time, while the length of the array is reset before the first one is
asked for.
-/

namespace RustJsi.BackendJsc

open Interleaving

variable {Raw : Type*}

/-- `LocalRoots` as it lies in memory. -/
structure LocalRootSlots (Raw : Type*) where
  inline : List (Option Raw)
  inlineLen : Nat
  spill : List Raw
  sized : inline.length = inlineLocalRoots

namespace LocalRootSlots

def new : LocalRootSlots Raw where
  inline := List.replicate inlineLocalRoots none
  inlineLen := 0
  spill := []
  sized := List.length_replicate

def push (roots : LocalRootSlots Raw) (value : Raw) : LocalRootSlots Raw :=
  if roots.inlineLen < inlineLocalRoots then
    { inline := roots.inline.set roots.inlineLen (some value)
      inlineLen := roots.inlineLen + 1
      spill := roots.spill
      sized := by rw [List.length_set, roots.sized] }
  else
    { roots with spill := roots.spill ++ [value] }

end LocalRootSlots

/-- The iterator of `drain`, which borrows the store: `left` slots from
`position` on are still to be taken, and then the values of the vector. -/
structure LocalRootsDrain (Raw : Type*) where
  roots : LocalRootSlots Raw
  position : Nat
  left : Nat
  spilled : List Raw

/-- `Option::take` of the slots from a position on, until one was full. -/
def takeSlot (inline : List (Option Raw)) (position : Nat) :
    Nat → Option (Raw × Nat × Nat)
  | 0 => none
  | left + 1 =>
      match inline[position]? with
      | some (some value) => some (value, position, left)
      | _ => takeSlot inline (position + 1) left

/-- The slots that are left get fewer. -/
theorem takeSlot_left {inline : List (Option Raw)} {left : Nat} :
    ∀ {position : Nat} {taken : Raw × Nat × Nat},
      takeSlot inline position left = some taken → taken.2.2 < left := by
  induction left with
  | zero =>
      intro position taken found
      cases found
  | succ left inductionHypothesis =>
      intro position taken found
      simp only [takeSlot] at found
      split at found
      · cases found
        exact Nat.lt_succ_self left
      · exact Nat.lt_succ_of_lt (inductionHypothesis found)

namespace LocalRootSlots

/-- The slice of the filled slots panics if the length is out of range. -/
def drain (roots : LocalRootSlots Raw) : Option (LocalRootsDrain Raw) :=
  if roots.inlineLen ≤ inlineLocalRoots then
    some
      { roots := { roots with inlineLen := 0, spill := [] }
        position := 0
        left := roots.inlineLen
        spilled := roots.spill }
  else none

/-- The slot that a value was taken from. -/
def vacate (roots : LocalRootSlots Raw) (position : Nat) :
    LocalRootSlots Raw where
  inline := roots.inline.set position none
  inlineLen := roots.inlineLen
  spill := roots.spill
  sized := by rw [List.length_set, roots.sized]

end LocalRootSlots

namespace LocalRootsDrain

/-- The next value, with the iterator after it. -/
def next (drain : LocalRootsDrain Raw) :
    Option (Raw × LocalRootsDrain Raw) :=
  match takeSlot drain.roots.inline drain.position drain.left with
  | some (value, position, left) =>
      some (value,
        { drain with
          roots := drain.roots.vacate position
          position := position + 1
          left := left })
  | none =>
      match drain.spilled with
      | [] => none
      | value :: spilled =>
          some (value, { drain with left := 0, spilled := spilled })

/-- The values that may still come. -/
def size (drain : LocalRootsDrain Raw) : Nat :=
  drain.left + drain.spilled.length

theorem next_size {drain after : LocalRootsDrain Raw} {value : Raw}
    (came : drain.next = some (value, after)) : after.size < drain.size := by
  unfold next at came
  split at came
  · rename_i taken position left found
    cases came
    exact Nat.add_lt_add_right (takeSlot_left found) _
  · split at came
    · cases came
    · rename_i first spilled rest
      cases came
      simp only [size, rest, List.length_cons]
      omega

/-- A `for` loop over the iterator, which gives the store back. -/
def forEach {State : Type*} (body : State → Raw → Except Fault State)
    (state : State) (drain : LocalRootsDrain Raw) :
    Except Fault (State × LocalRootSlots Raw) :=
  match _came : drain.next with
  | none => .ok (state, drain.roots)
  | some (value, after) =>
      match body state value with
      | .error fault => .error fault
      | .ok state => after.forEach body state
termination_by drain.size
decreasing_by exact next_size _came

end LocalRootsDrain

namespace LocalRootSlots

/-- The first sixteen values are in the slots, and the others after them. -/
structure Holds (roots : LocalRootSlots Raw) (values : List Raw) : Prop where
  inline : roots.inline = (values.take inlineLocalRoots).map some ++
    List.replicate (inlineLocalRoots - values.length) none
  inlineLen : roots.inlineLen = min values.length inlineLocalRoots
  spill : roots.spill = values.drop inlineLocalRoots

variable {roots : LocalRootSlots Raw} {values : List Raw}

theorem ext_fields {roots other : LocalRootSlots Raw}
    (inline : roots.inline = other.inline)
    (inlineLen : roots.inlineLen = other.inlineLen)
    (spill : roots.spill = other.spill) : roots = other := by
  cases roots
  cases other
  subst inline inlineLen spill
  rfl

theorem new_holds : (new : LocalRootSlots Raw).Holds [] where
  inline := rfl
  inlineLen := rfl
  spill := rfl

/-- A store that holds nothing is as it was made. -/
theorem Holds.eq_new (holds : roots.Holds []) : roots = new :=
  ext_fields holds.inline holds.inlineLen holds.spill

theorem Holds.push (holds : roots.Holds values) (value : Raw) :
    (roots.push value).Holds (values ++ [value]) := by
  have size : (values ++ [value]).length = values.length + 1 := by
    rw [List.length_append, List.length_singleton]
  unfold LocalRootSlots.push
  by_cases room : values.length < inlineLocalRoots
  · have short : values.length ≤ inlineLocalRoots := Nat.le_of_lt room
    have next : (values ++ [value]).length ≤ inlineLocalRoots := by
      rw [size]
      exact room
    have position := holds.inlineLen
    rw [Nat.min_eq_left short] at position
    rw [if_pos (by rw [position]; exact room)]
    obtain ⟨free, rest⟩ : ∃ free,
        inlineLocalRoots - values.length = free + 1 :=
      ⟨_, (Nat.succ_pred_eq_of_pos (Nat.sub_pos_of_lt room)).symm⟩
    have left : inlineLocalRoots - (values ++ [value]).length = free := by
      rw [size]
      omega
    constructor
    · simp only [position, holds.inline]
      rw [List.take_of_length_le short, List.take_of_length_le next, rest,
        left, List.replicate_succ,
        List.set_append_right _ _ (by rw [List.length_map]), List.length_map,
        Nat.sub_self, List.set_cons_zero, List.map_append, List.append_assoc]
      rfl
    · rw [size, Nat.min_eq_left room]
      exact congrArg (· + 1) position
    · simp only [holds.spill]
      rw [List.drop_of_length_le short, List.drop_of_length_le next]
  · have full : inlineLocalRoots ≤ values.length := Nat.le_of_not_lt room
    have position := holds.inlineLen
    rw [Nat.min_eq_right full] at position
    rw [if_neg (by rw [position]; exact Nat.lt_irrefl _)]
    constructor
    · simp only [holds.inline]
      rw [List.take_append_of_le_length full, size,
        Nat.sub_eq_zero_of_le full,
        Nat.sub_eq_zero_of_le (Nat.le_succ_of_le full)]
    · rw [size, Nat.min_eq_right (Nat.le_succ_of_le full)]
      exact position
    · simp only [holds.spill]
      rw [List.drop_append_of_le_length full]

end LocalRootSlots

namespace LocalRootsDrain

variable {State : Type*} {body : State → Raw → Except Fault State}

theorem forEach_none {drain : LocalRootsDrain Raw} (ended : drain.next = none)
    (state : State) : drain.forEach body state = .ok (state, drain.roots) := by
  rw [forEach]
  split
  · rfl
  · rename_i came
    rw [ended] at came
    cases came

theorem forEach_some {drain after : LocalRootsDrain Raw} {value : Raw}
    (came : drain.next = some (value, after)) (state : State) :
    drain.forEach body state =
      match body state value with
      | .error fault => .error fault
      | .ok state => after.forEach body state := by
  rw [forEach]
  split
  · rename_i ended
    rw [ended] at came
    cases came
  · rename_i other later same
    rw [came] at same
    cases same
    rfl

/-- Once the slots are taken, the values of the vector come in order. -/
theorem forEach_spilled (spilled : List Raw) :
    ∀ (state : State) (drain : LocalRootsDrain Raw),
      drain.left = 0 → drain.spilled = spilled →
      drain.forEach body state =
        (spilled.foldlM body state).map fun state => (state, drain.roots) := by
  induction spilled with
  | nil =>
      intro state drain left rest
      have ended : drain.next = none := by
        rw [next, left, takeSlot, rest]
      rw [forEach_none ended]
      rfl
  | cons value spilled inductionHypothesis =>
      intro state drain left rest
      have came : drain.next =
          some (value, { drain with left := 0, spilled := spilled }) := by
        rw [next, left, takeSlot, rest]
      rw [forEach_some came, List.foldlM_cons]
      cases body state value with
      | error fault => rfl
      | ok state => exact inductionHypothesis state _ rfl rfl

/-- The loop takes the values of the slots that are left, and then those of
the vector; when it is over every slot is free. -/
theorem forEach_eq (values : List Raw) :
    ∀ (state : State) (drain : LocalRootsDrain Raw) (free : Nat),
      drain.roots.inline = List.replicate drain.position none ++
        (values.map some ++ List.replicate free none) →
      drain.left = values.length → drain.roots.inlineLen = 0 →
      drain.roots.spill = [] →
      drain.forEach body state =
        ((values ++ drain.spilled).foldlM body state).map
          fun state => (state, .new) := by
  induction values with
  | nil =>
      intro state drain free inline left inlineLen spill
      have emptied : drain.roots = .new := by
        apply LocalRootSlots.ext_fields _ inlineLen spill
        have size := drain.roots.sized
        rw [inline] at size ⊢
        simp only [List.map_nil, List.nil_append,
          List.replicate_append_replicate, List.length_replicate] at size ⊢
        rw [size]
        rfl
      rw [forEach_spilled _ state drain left rfl, emptied]
      rfl
  | cons value values inductionHypothesis =>
      intro state drain free inline left inlineLen spill
      have filled : drain.roots.inline[drain.position]? =
          some (some value) := by
        rw [inline, List.getElem?_append_right
          (by rw [List.length_replicate]), List.length_replicate, Nat.sub_self]
        rfl
      have came : drain.next =
          some (value,
            { drain with
              roots := drain.roots.vacate drain.position
              position := drain.position + 1
              left := values.length }) := by
        rw [next, left, List.length_cons, takeSlot, filled]
      rw [forEach_some came, List.cons_append, List.foldlM_cons]
      cases body state value with
      | error fault => rfl
      | ok state =>
          refine inductionHypothesis state
            { drain with
              roots := drain.roots.vacate drain.position
              position := drain.position + 1
              left := values.length } free ?_ rfl inlineLen spill
          simp only [LocalRootSlots.vacate, inline]
          rw [List.set_append_right _ _ (by rw [List.length_replicate]),
            List.length_replicate, Nat.sub_self, List.map_cons,
            List.cons_append, List.set_cons_zero, List.replicate_succ',
            List.append_assoc]
          rfl

end LocalRootsDrain

/-- A drain yields the values of the store in order, and leaves the store as
it was made. -/
theorem LocalRootSlots.Holds.drain {roots : LocalRootSlots Raw}
    {values : List Raw} (holds : roots.Holds values) :
    ∃ drain, roots.drain = some drain ∧
      ∀ {State : Type*} (body : State → Raw → Except Fault State)
        (state : State),
        drain.forEach body state =
          (values.foldlM body state).map fun state => (state, .new) := by
  have bounded : roots.inlineLen ≤ inlineLocalRoots := by
    rw [holds.inlineLen]
    exact Nat.min_le_right ..
  refine ⟨_, if_pos bounded, ?_⟩
  intro State body state
  have filled : roots.inlineLen = (values.take inlineLocalRoots).length := by
    rw [holds.inlineLen, List.length_take, Nat.min_comm]
  rw [LocalRootsDrain.forEach_eq (values.take inlineLocalRoots) state _
    (inlineLocalRoots - values.length) holds.inline filled rfl rfl]
  simp only [holds.spill, List.take_append_drop]

/-- The roots of one scope, with the calls made to protect them. -/
structure ScopeRoots (Raw : Type*) where
  roots : LocalRootSlots Raw
  protections : Protections Raw

inductive RootsOp (Raw : Type*) where
  /-- `root_local` or `root_nonnull` of a managed value. -/
  | push (value : Raw)
  /-- The loop of `Drop`. -/
  | drain

namespace ScopeRoots

def new : ScopeRoots Raw where
  roots := .new
  protections := ⟨[], []⟩

def push (scope : ScopeRoots Raw) (value : Raw) : ScopeRoots Raw where
  roots := scope.roots.push value
  protections :=
    { scope.protections with
      protectCalls := scope.protections.protectCalls ++ [value] }

/-- The body of the loop, which also records what it was given. -/
def unprotect (state : List Raw × Protections Raw) (value : Raw) :
    Except Fault (List Raw × Protections Raw) :=
  .ok (state.1 ++ [value],
    { state.2 with unprotectCalls := state.2.unprotectCalls ++ [value] })

def drain (scope : ScopeRoots Raw) : Option (List Raw × ScopeRoots Raw) :=
  match scope.roots.drain with
  | none => none
  | some drain =>
      match drain.forEach unprotect ([], scope.protections) with
      | .error _ => none
      | .ok ((yielded, protections), roots) =>
          some (yielded, ⟨roots, protections⟩)

/-- An operation without a result would have panicked. -/
def perform (scope : ScopeRoots Raw) :
    RootsOp Raw → Option (List Raw × ScopeRoots Raw)
  | .push value => some ([], scope.push value)
  | .drain => scope.drain

end ScopeRoots

/-- The roots of one scope, whose replies are what a drain yields. -/
def scopeRoots :
    Component (ScopeRoots Raw) (RootsOp Raw) (List Raw) where
  perform := ScopeRoots.perform

/-! ## A sequence of values -/

/-- What an operation leaves of the values that wait to be drained. -/
def RootsOp.leave (waiting : List Raw) : RootsOp Raw → List Raw
  | .push value => waiting ++ [value]
  | .drain => []

/-- The values pushed since the last drain. -/
def pushedSince (ops : List (RootsOp Raw)) : List Raw :=
  ops.foldl RootsOp.leave []

def RootsOp.pushed? : RootsOp Raw → Option Raw
  | .push value => some value
  | .drain => none

theorem pushedSince_snoc (ops : List (RootsOp Raw)) (op : RootsOp Raw) :
    pushedSince (ops ++ [op]) = op.leave (pushedSince ops) := by
  rw [pushedSince, List.foldl_append]
  rfl

theorem unprotect_all (values : List Raw) :
    ∀ (yielded : List Raw) (protections : Protections Raw),
      values.foldlM ScopeRoots.unprotect (yielded, protections) =
        .ok (yielded ++ values,
          { protections with
            unprotectCalls := protections.unprotectCalls ++ values }) := by
  induction values with
  | nil =>
      intro yielded protections
      simp only [List.append_nil]
      rfl
  | cons value values inductionHypothesis =>
      intro yielded protections
      rw [List.foldlM_cons, ScopeRoots.unprotect]
      refine (inductionHypothesis _ _).trans ?_
      simp only [List.append_assoc, List.singleton_append]

namespace ScopeRoots

/-- What is known of the roots of a scope after these operations. -/
structure Follows (ops : List (RootsOp Raw)) (scope : ScopeRoots Raw) :
    Prop where
  holds : scope.roots.Holds (pushedSince ops)
  covered : scope.protections.protectCalls = ops.filterMap RootsOp.pushed?
  released : scope.protections.unprotectCalls ++ pushedSince ops =
    scope.protections.protectCalls

variable {scope : ScopeRoots Raw} {ops : List (RootsOp Raw)}

theorem new_follows : (new : ScopeRoots Raw).Follows [] where
  holds := LocalRootSlots.new_holds
  covered := rfl
  released := rfl

/-- Each operation can be performed, and a drain yields what was waiting. -/
theorem Follows.perform (follows : scope.Follows ops) (op : RootsOp Raw) :
    ∃ yielded next, scope.perform op = some (yielded, next) ∧
      next.Follows (ops ++ [op]) ∧
      yielded = (match op with
        | .push _ => []
        | .drain => pushedSince ops) := by
  cases op with
  | push value =>
      refine ⟨[], scope.push value, rfl, ?_, rfl⟩
      constructor
      · rw [pushedSince_snoc]
        exact follows.holds.push value
      · simp only [push, follows.covered, List.filterMap_append]
        rfl
      · rw [pushedSince_snoc]
        simp only [push, RootsOp.leave, ← follows.released, List.append_assoc]
  | drain =>
      obtain ⟨drain, begins, yields⟩ := follows.holds.drain
      have performed : scope.perform .drain =
          some (pushedSince ops, ⟨.new, ⟨scope.protections.protectCalls,
            scope.protections.unprotectCalls ++ pushedSince ops⟩⟩) := by
        simp only [ScopeRoots.perform, ScopeRoots.drain, begins]
        rw [yields unprotect ([], scope.protections), unprotect_all]
        rfl
      refine ⟨_, _, performed, ?_, rfl⟩
      constructor
      · rw [pushedSince_snoc]
        exact LocalRootSlots.new_holds
      · simp only [follows.covered, List.filterMap_append]
        exact (List.append_nil _).symm
      · rw [pushedSince_snoc]
        exact (List.append_nil _).trans follows.released

/-- The operations can be performed one after the other, and every drain among
them yields what was pushed since the one before it. -/
theorem Follows.performAll (ops : List (RootsOp Raw)) :
    ∀ (earlier : List (RootsOp Raw)) (scope : ScopeRoots Raw),
      scope.Follows earlier →
      ∃ trace last, scopeRoots.performAll scope ops = some (trace, last) ∧
        trace.map Exchange.op = ops ∧ last.Follows (earlier ++ ops) ∧
        ∀ before exchange after, trace = before ++ exchange :: after →
          exchange.op = .drain → exchange.reply =
            pushedSince (earlier ++ before.map Exchange.op) := by
  induction ops with
  | nil =>
      intro earlier scope follows
      refine ⟨[], scope, rfl, rfl, ?_, ?_⟩
      · rw [List.append_nil]
        exact follows
      · intro before exchange after split
        cases List.append_eq_nil_iff.mp split.symm with
        | intro _ none => cases none
  | cons op ops inductionHypothesis =>
      intro earlier scope follows
      obtain ⟨yielded, next, performed, followsNext, reply⟩ :=
        follows.perform op
      obtain ⟨trace, last, rest, replayed, followsLast, yields⟩ :=
        inductionHypothesis (earlier ++ [op]) next followsNext
      refine ⟨⟨op, yielded⟩ :: trace, last, ?_, ?_, ?_, ?_⟩
      · have first : scopeRoots.perform scope op = some (yielded, next) :=
          performed
        simp only [Component.performAll, first, rest]
      · rw [List.map_cons, replayed]
      · rw [List.append_assoc] at followsLast
        exact followsLast
      · intro before exchange after split drains
        cases before with
        | nil =>
            obtain ⟨same, _⟩ := List.cons.inj split
            subst same
            simp only at drains
            subst drains
            rw [List.map_nil, List.append_nil]
            exact reply
        | cons first before =>
            obtain ⟨same, split⟩ := List.cons.inj split
            rw [yields before exchange after split drains, ← same,
              List.map_cons, List.append_assoc]
            rfl

end ScopeRoots

/-- What comes of any sequence of pushes and drains. -/
structure FaithfulSequence
    (trace : List (Exchange (RootsOp Raw) (List Raw)))
    (last : ScopeRoots Raw) : Prop where
  /-- A drain yields the values pushed since the one before it, in order. -/
  yields : ∀ before exchange after, trace = before ++ exchange :: after →
    exchange.op = .drain →
    exchange.reply = pushedSince (before.map Exchange.op)
  /-- One value is protected for every push. -/
  covered : last.protections.protectCalls =
    (trace.map Exchange.op).filterMap RootsOp.pushed?
  /-- The protections were given back in order, but for those that wait. -/
  released : last.protections.unprotectCalls ++
    pushedSince (trace.map Exchange.op) = last.protections.protectCalls
  /-- After a drain the store is as it was made, and nothing is protected. -/
  emptied : ∀ before exchange, trace = before ++ [exchange] →
    exchange.op = .drain → last.roots = .new ∧
      last.protections.unprotectCalls = last.protections.protectCalls

/-- The store is a sequence of values, for any number of pushes and drains. -/
theorem localRoots_faithful (ops : List (RootsOp Raw)) :
    ∃ trace last, scopeRoots.performAll .new ops = some (trace, last) ∧
      trace.map Exchange.op = ops ∧ FaithfulSequence trace last := by
  obtain ⟨trace, last, performed, replayed, follows, yields⟩ :=
    ScopeRoots.Follows.performAll ops [] .new ScopeRoots.new_follows
  rw [List.nil_append] at follows
  refine ⟨trace, last, performed, replayed, ?_⟩
  refine ⟨yields, ?_, ?_, ?_⟩
  · rw [replayed]
    exact follows.covered
  · rw [replayed]
    exact follows.released
  · intro before exchange split drains
    have waiting : pushedSince ops = [] := by
      rw [← replayed, split, List.map_append, List.map_singleton,
        pushedSince_snoc, drains]
      rfl
    have holds := follows.holds
    have released := follows.released
    rw [waiting] at holds released
    rw [List.append_nil] at released
    exact ⟨holds.eq_new, released⟩

/-- The slots hold what the list does. -/
structure LocalRootSlots.Shows (slots : LocalRootSlots Raw)
    (roots : LocalRoots Raw) : Prop where
  holds : slots.Holds roots.values
  inline : roots.inline = roots.values.take inlineLocalRoots

namespace LocalRootSlots.Shows

variable {slots : LocalRootSlots Raw} {roots : LocalRoots Raw}

theorem new_shows : (new : LocalRootSlots Raw).Shows .new where
  holds := new_holds
  inline := rfl

theorem push (shows' : slots.Shows roots) (value : Raw) :
    (slots.push value).Shows (roots.push value) := by
  have appended : (roots.push value).values = roots.values ++ [value] := by
    unfold LocalRoots.push
    by_cases room : roots.inline.length < inlineLocalRoots
    · rw [if_pos room]
      have short := shows'.inline
      have all : roots.spill = [] := by
        have length := congrArg List.length short
        rw [List.length_take] at length
        have whole : roots.values.length ≤ inlineLocalRoots := by omega
        rw [List.take_of_length_le whole] at short
        exact List.append_right_eq_self.mp short.symm
      simp only [LocalRoots.values, all, List.append_nil]
    · rw [if_neg room]
      simp only [LocalRoots.values, List.append_assoc]
  constructor
  · rw [appended]
    exact shows'.holds.push value
  · rw [appended]
    unfold LocalRoots.push
    have short := shows'.inline
    have length := congrArg List.length short
    rw [List.length_take] at length
    by_cases room : roots.inline.length < inlineLocalRoots
    · rw [if_pos room]
      have whole : roots.values.length < inlineLocalRoots := by omega
      rw [List.take_of_length_le (Nat.le_of_lt whole)] at short
      rw [List.take_of_length_le (by simp; omega), ← short]
    · rw [if_neg room]
      have full : inlineLocalRoots ≤ roots.values.length := by omega
      rw [List.take_append_of_le_length full]
      exact short

variable {Payload : Type*}

/-- The body of the loop of `Drop` of a `Context` and of a `JscScope`. -/
def dropRoot (attached : Attached Raw Payload) (value : Raw) :
    Except Fault (Attached Raw Payload) :=
  let unprotected := attached.unprotect value
  match unprotected.shared.localBudget.release with
  | .error fault => .error fault
  | .ok budget => .ok (unprotected.withBudget budget)

theorem foldlM_dropRoot (values : List Raw) :
    ∀ attached : Attached Raw Payload,
      values.foldlM dropRoot attached = attached.dropRoots values := by
  induction values with
  | nil =>
      intro attached
      rfl
  | cons value values inductionHypothesis =>
      intro attached
      rw [List.foldlM_cons, dropRoot, Attached.dropRoots]
      cases (attached.unprotect value).shared.localBudget.release with
      | error fault => rfl
      | ok budget => exact inductionHypothesis _

/-- The loop over the slots does to the attachment what dropping the values in
order does. -/
theorem drop_eq (shows' : slots.Shows roots)
    (attached : Attached Raw Payload) :
    ∃ drain, slots.drain = some drain ∧
      drain.forEach dropRoot attached =
        (attached.dropRoots roots.values).map
          fun attached => (attached, .new) := by
  obtain ⟨drain, begins, yields⟩ := shows'.holds.drain
  refine ⟨drain, begins, ?_⟩
  rw [yields dropRoot attached, foldlM_dropRoot]

end LocalRootSlots.Shows

end RustJsi.BackendJsc

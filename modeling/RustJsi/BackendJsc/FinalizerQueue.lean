import RustJsi.Interleaving.Pool
import RustJsi.Linked.Chain

/-!
# The queue of finalizer tokens

Finalizers push their token onto a stack of one atomic pointer, and the owner
of the runtime detaches the whole stack.  A closed queue keeps a pointer that
is no token, and a push that meets it frees its own token.  Memory is a list of
cells: a token that is freed leaves a cell that a later one may be put in.
-/

namespace RustJsi.BackendJsc

open Interleaving

namespace FinalizerQueue

variable {Id : Type*}

/-- A `*mut FinalizerToken`. -/
inductive Pointer where
  | null
  /-- `closed_sentinel()`, at which no token can be. -/
  | closedSentinel
  | token (address : Nat)
  deriving DecidableEq, Repr

/-- A `FinalizerToken`, without the queue it leads back to. -/
structure Token (Id : Type*) where
  id : Id
  next : Pointer

/-- The cells of the heap that tokens are put in. -/
abbrev Heap (Id : Type*) : Type _ :=
  List (Option (Token Id))

/-- The queue, and the memory of its tokens. -/
structure Shared (Id : Type*) where
  head : Pointer
  pending : Nat
  heap : Heap Id

/-- `FinalizerQueue::new`. -/
def new : Shared Id where
  head := .null
  pending := 0
  heap := []

/-- The allocator puts the token in a cell that no token is in. -/
def allocate (heap : Heap Id) (address : Nat) (token : Token Id) :
    Option (Heap Id) :=
  if address = heap.length then some (heap ++ [some token])
  else
    match heap[address]? with
    | some none => some (heap.set address (some token))
    | _ => none

def tokenAt (heap : Heap Id) (address : Nat) : Option (Token Id) :=
  (heap[address]?).join

/-- `Box::from_raw`, and the end of the box. -/
def free (heap : Heap Id) (address : Nat) : Option (Heap Id) :=
  (tokenAt heap address).map fun _ => heap.set address none

inductive Op (Id : Type*) where
  /-- The finalizer of an object whose token names this state. -/
  | push (id : Id)
  | take
  | close
  deriving DecidableEq

/-- The point `settle_pending` has reached. -/
inductive SettlePoint where
  | load
  | exchange (observed : Nat)
  deriving DecidableEq, Repr

inductive SettleOutcome where
  | again (point : SettlePoint)
  | settled
  /-- `checked_sub` failed: the counter was zero. -/
  | metZero
  deriving DecidableEq, Repr

/-- The loop of `settle_pending` with a value it has read. -/
def observe (observed : Nat) : SettleOutcome :=
  match observed with
  | 0 => .metZero
  | _ + 1 => .again (.exchange observed)

/-- One access of `settle_pending`.  A failed exchange hands back the value it
found, which the loop goes on with. -/
def settlePending (spurious : Bool) (pending : Nat) :
    SettlePoint → Nat × SettleOutcome
  | .load => (pending, observe pending)
  | .exchange observed =>
      if pending = observed ∧ spurious = false then (observed - 1, .settled)
      else (pending, observe pending)

/-- Where the code of a call stands.  A push knows the identity in its own
token; the code has it in the token alone. -/
inductive Call (Id : Type*) where
  | creating (id : Id)
  /-- The token exists, and `pending` does not count it yet. -/
  | counting (id : Id) (token : Nat)
  | loading (id : Id) (token : Nat)
  | linking (id : Id) (token : Nat) (head : Pointer)
  | publishing (id : Id) (token : Nat) (head : Pointer)
  | discarding (id : Id) (token : Nat)
  | uncounting (id : Id) (point : SettlePoint)
  | pushed (id : Id)
  | discarded (id : Id)
  | taking (point : Option Pointer)
  | closing
  /-- The caller of `take` or `close` has this list to settle. -/
  | detached (token : Pointer)
  | settling (token : Nat) (next : Pointer) (point : SettlePoint)
  | freeing (token : Nat) (next : Pointer)
  | reclaimed
  deriving DecidableEq

inductive Choice where
  | allocate (address : Nat)
  | run (spurious : Bool)
  deriving DecidableEq, Repr

/-- What an access did.  Where a list is detached, the identities of its tokens
are read off the memory, unless the list does not end. -/
inductive Effect (Id : Type*) where
  | quiet
  | counted
  | published (id : Id)
  | discarded (id : Id)
  | took (list : Pointer) (tokens : Option (List Id))
  | closed (list : Pointer) (tokens : Option (List Id))
  | settled
  | metZero
  deriving DecidableEq

/-- The identities in a list that begins here. -/
def walk (heap : Heap Id) : Nat → Pointer → Option (List Id)
  | _, .null => some []
  | 0, _ => none
  | _ + 1, .closedSentinel => none
  | fuel + 1, .token address =>
      match tokenAt heap address with
      | none => none
      | some token => (walk heap fuel token.next).map (token.id :: ·)

def tokensFrom (heap : Heap Id) (list : Pointer) : Option (List Id) :=
  walk heap heap.length list

/-- The call and the effect after an access of `settle_pending`. -/
def afterSettle (again : SettlePoint → Call Id) (finished : Call Id) :
    SettleOutcome → Call Id × Effect Id
  | .again point => (again point, .quiet)
  | .settled => (finished, .settled)
  | .metZero => (finished, .metZero)

/-- The next access of a call. -/
def step (shared : Shared Id) :
    Choice → Call Id → Option (Shared Id × Call Id × Effect Id)
  | .allocate address, .creating id =>
      match allocate shared.heap address ⟨id, .null⟩ with
      | none => none
      | some heap => some ({ shared with heap }, .counting id address, .quiet)
  | .run _, .counting id token =>
      some ({ shared with pending := shared.pending + 1 }, .loading id token,
        .counted)
  | .run _, .loading id token =>
      if shared.head = .closedSentinel then
        some (shared, .discarding id token, .quiet)
      else some (shared, .linking id token shared.head, .quiet)
  | .run _, .discarding id token =>
      match free shared.heap token with
      | none => none
      | some heap =>
          some ({ shared with heap }, .uncounting id .load, .discarded id)
  | .run spurious, .uncounting id point =>
      let (pending, outcome) := settlePending spurious shared.pending point
      some ({ shared with pending },
        afterSettle (.uncounting id) (.discarded id) outcome)
  | .run _, .linking id token head =>
      match tokenAt shared.heap token with
      | none => none
      | some stored =>
          some ({ shared with
            heap := shared.heap.set token (some { stored with next := head }) },
            .publishing id token head, .quiet)
  | .run spurious, .publishing id token head =>
      if shared.head = head ∧ spurious = false then
        some ({ shared with head := .token token }, .pushed id,
          .published id)
      else some (shared, .loading id token, .quiet)
  | .run _, .taking none =>
      if shared.head = .closedSentinel then
        some (shared, .detached .null, .took .null (some []))
      else some (shared, .taking (some shared.head), .quiet)
  | .run spurious, .taking (some head) =>
      if shared.head = head ∧ spurious = false then
        some ({ shared with head := .null }, .detached head,
          .took head (tokensFrom shared.heap head))
      else some (shared, .taking none, .quiet)
  | .run _, .closing =>
      if shared.head = .closedSentinel then
        some ({ shared with head := .closedSentinel }, .detached .null,
          .closed .null (some []))
      else
        some ({ shared with head := .closedSentinel }, .detached shared.head,
          .closed shared.head (tokensFrom shared.heap shared.head))
  | .run _, .detached .null => some (shared, .reclaimed, .quiet)
  | .run _, .detached (.token address) =>
      match tokenAt shared.heap address with
      | none => none
      | some token =>
          some (shared, .settling address token.next .load, .quiet)
  | .run spurious, .settling token next point =>
      let (pending, outcome) := settlePending spurious shared.pending point
      some ({ shared with pending },
        afterSettle (.settling token next) (.freeing token next) outcome)
  | .run _, .freeing token next =>
      match free shared.heap token with
      | none => none
      | some heap => some ({ shared with heap }, .detached next, .quiet)
  | _, _ => none

/-- A queue under any number of finalizers, and of threads that drain it. -/
def machine (Id : Type*) :
    Machine (Shared Id) (Call Id) (Op Id) Choice (Effect Id) where
  start := fun op => match op with
    | .push id => .creating id
    | .take => .taking none
    | .close => .closing
  step := step

/-- Every run of a queue created by `FinalizerQueue::new`. -/
def system (Id : Type*) :
    System (Pool (Shared Id) (Call Id)) (PoolLabel (Op Id) (Effect Id)) :=
  (machine Id).system (fun shared => shared = new)

end FinalizerQueue

end RustJsi.BackendJsc

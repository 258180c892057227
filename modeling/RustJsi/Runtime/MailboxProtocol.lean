import RustJsi.Runtime.SignalledQueue
import RustJsi.Runtime.IngressProtocol

/-!
# What a closable mailbox is for

The abstract mailbox is a signalled queue behind two gates, together with the
phase of its terminal ownership.  Producers work under the first gate and
normal drains under the second.  The gates, the signal and the terminal phase
close in that order, each step only after the one before it is complete; this
order is what keeps a terminal owner alone with the queue.
-/

namespace RustJsi.Runtime

open Interleaving

/-- The phase of terminal ownership. -/
inductive TerminalPhase where
  | normal
  | pending
  | active
  | closed
  deriving DecidableEq, Repr

/-- What can happen to a closable mailbox. -/
inductive MailboxAction (Payload : Type*) where
  | producer (event : IngressGate.Event)
  | normal (event : IngressGate.Event)
  | work (event : QueueEvent Payload)
  | claimed
  | released
  | completed

namespace MailboxAction

variable {Payload : Type*}

/-- The step of the signalled queue an action is, if it is one. -/
def work? : MailboxAction Payload → Option (QueueEvent Payload)
  | .work event => some event
  | _ => none

end MailboxAction

structure MailboxLedger (Payload : Type*) (capacity : Nat) where
  producer : GateLedger
  normal : GateLedger
  work : SignalledQueue Payload capacity
  terminal : TerminalPhase

namespace MailboxLedger

variable {Payload : Type*} {capacity : Nat}

def fresh : MailboxLedger Payload capacity where
  producer := GateLedger.fresh
  normal := GateLedger.fresh
  work := SignalledQueue.fresh
  terminal := .normal

/-- What a step of the queue needs of the rest of the mailbox: pushing needs a
producer's admission that has not pushed, acquiring a drain admission without a
permit, popping one of the two kinds of drain, and closing the signal a sealed
normal gate. -/
def Allows (ledger : MailboxLedger Payload capacity) :
    QueueEvent Payload → Prop
  | .pushed _ => ledger.work.publishing < ledger.producer.live
  | .popped _ => 0 < ledger.work.signal.permits ∨ ledger.terminal = .active
  | .signal .acquired => ledger.work.signal.permits < ledger.normal.live
  | .signal (.closed _) => ledger.normal.phase = .sealed
  | _ => True

/-- What an operation on the normal gate needs: it closes only behind a sealed
producer gate, and only an admission without a permit settles. -/
def AllowsNormal (ledger : MailboxLedger Payload capacity) :
    IngressGate.Event → Prop
  | .closed _ => ledger.producer.phase = .sealed
  | .settled => ledger.work.signal.permits < ledger.normal.live
  | _ => True

/-- A producer settles its admission only after it has announced its push. -/
def AllowsProducer (ledger : MailboxLedger Payload capacity) :
    IngressGate.Event → Prop
  | .settled => ledger.work.publishing < ledger.producer.live
  | _ => True

/-- One indivisible step of a mailbox whose gates admit `limit` permits. -/
inductive Step (limit : Nat) (ledger : MailboxLedger Payload capacity) :
    MailboxAction Payload → MailboxLedger Payload capacity → Prop
  | producer {event : IngressGate.Event} {producer : GateLedger}
      (allowed : ledger.AllowsProducer event)
      (step : GateLedger.Step limit ledger.producer event producer) :
      Step limit ledger (.producer event) { ledger with producer }
  | normal {event : IngressGate.Event} {normal : GateLedger}
      (allowed : ledger.AllowsNormal event)
      (step : GateLedger.Step limit ledger.normal event normal) :
      Step limit ledger (.normal event) { ledger with normal }
  | work {event : QueueEvent Payload} {work : SignalledQueue Payload capacity}
      (allowed : ledger.Allows event)
      (step : SignalledQueue.Step ledger.work event work) :
      Step limit ledger (.work event) { ledger with work }
  | claim (closed : ledger.work.signal.state = .closed)
      (available : ledger.terminal = .normal ∨ ledger.terminal = .pending) :
      Step limit ledger .claimed { ledger with terminal := .active }
  | release (owned : ledger.terminal = .active) :
      Step limit ledger .released { ledger with terminal := .pending }
  | complete (owned : ledger.terminal = .active)
      (empty : ledger.work.queue.items = []) :
      Step limit ledger .completed { ledger with terminal := .closed }

def system (Payload : Type*) (capacity limit : Nat) :
    System (MailboxLedger Payload capacity) (MailboxAction Payload) where
  initial := fun ledger => ledger = fresh
  step := Step limit

/-- What a caller can have a share in. -/
inductive Stake where
  /-- An admission of the producer gate. -/
  | producer
  /-- An admission of the normal-drain gate. -/
  | admission
  | terminal
  | work (stake : SignalledQueue.Stake)
  deriving DecidableEq, Repr

/-- How many callers hold a share of each kind. -/
def held (ledger : MailboxLedger Payload capacity) : Stake → Nat
  | .producer => ledger.producer.live
  | .admission => ledger.normal.live
  | .terminal => if ledger.terminal = .active then 1 else 0
  | .work stake => ledger.work.held stake

/-! ## The order of closing -/

structure Sound (limit : Nat) (ledger : MailboxLedger Payload capacity) :
    Prop where
  producerSound : ledger.producer.Sound limit
  normalSound : ledger.normal.Sound limit
  workSound : ledger.work.Sound
  publishingLe : ledger.work.publishing ≤ ledger.producer.live
  permitsLe : ledger.work.signal.permits ≤ ledger.normal.live
  normalAfter : ledger.normal.phase ≠ .opened →
    ledger.producer.phase = .sealed
  signalAfter : ledger.work.signal.state = .closed →
    ledger.normal.phase = .sealed
  terminalAfter : ledger.terminal ≠ .normal →
    ledger.work.signal.state = .closed
  closedEmpty : ledger.terminal = .closed → ledger.work.queue.items = []

theorem Sound.fresh (limit : Nat) :
    (fresh : MailboxLedger Payload capacity).Sound limit where
  producerSound := ⟨Nat.zero_le _, nofun⟩
  normalSound := ⟨Nat.zero_le _, nofun⟩
  workSound := ⟨rfl, Nat.le_refl _, fun stranded => stranded.1 rfl⟩
  publishingLe := Nat.le_refl _
  permitsLe := Nat.le_refl _
  normalAfter := fun left => absurd rfl left
  signalAfter := nofun
  terminalAfter := fun left => absurd rfl left
  closedEmpty := fun _ => rfl

section Closed

variable {limit : Nat} {ledger next : MailboxLedger Payload capacity}

/-- Behind a sealed producer gate nobody produces. -/
theorem Sound.no_producer (sound : ledger.Sound limit)
    (isSealed : ledger.producer.phase = .sealed) :
    ledger.producer.live = 0 ∧ ledger.work.publishing = 0 := by
  have empty := sound.producerSound.sealedEmpty isSealed
  have fewer := sound.publishingLe
  exact ⟨empty, by omega⟩

/-- Behind a sealed normal gate nobody drains. -/
theorem Sound.no_drain (sound : ledger.Sound limit)
    (isSealed : ledger.normal.phase = .sealed) :
    ledger.normal.live = 0 ∧ ledger.work.signal.permits = 0 := by
  have empty := sound.normalSound.sealedEmpty isSealed
  have fewer := sound.permitsLe
  exact ⟨empty, by omega⟩

theorem Sound.producer_sealed_of_normal (sound : ledger.Sound limit)
    (isSealed : ledger.normal.phase = .sealed) :
    ledger.producer.phase = .sealed := by
  apply sound.normalAfter
  rw [isSealed]
  exact nofun

/-- Under a producer's admission the signal is not closed. -/
theorem Sound.not_closed_of_producer (sound : ledger.Sound limit)
    (admitted : 0 < ledger.producer.live) :
    ledger.work.signal.state ≠ .closed := by
  intro closed
  have isSealed :=
    sound.producer_sealed_of_normal (sound.signalAfter closed)
  have nobody := (sound.no_producer isSealed).1
  omega

/-- Under a drain's admission the signal is not closed. -/
theorem Sound.not_closed_of_admission (sound : ledger.Sound limit)
    (admitted : 0 < ledger.normal.live) :
    ledger.work.signal.state ≠ .closed := by
  intro closed
  have nobody := (sound.no_drain (sound.signalAfter closed)).1
  omega

private theorem Sound.producer_step (sound : ledger.Sound limit)
    {event : IngressGate.Event} {producer : GateLedger}
    (allowed : ledger.AllowsProducer event)
    (step : GateLedger.Step limit ledger.producer event producer) :
    Sound limit { ledger with producer } where
  producerSound := GateLedger.step_sound sound.producerSound step
  normalSound := sound.normalSound
  workSound := sound.workSound
  publishingLe := by
    have fewer := sound.publishingLe
    rcases GateLedger.step_live step with ⟨_, more⟩ | ⟨rfl, less⟩ | same
    · simp only
      omega
    · simp only [AllowsProducer] at allowed
      simp only
      omega
    · simp only
      omega
  permitsLe := sound.permitsLe
  normalAfter := fun left => GateLedger.step_sealed step (sound.normalAfter left)
  signalAfter := sound.signalAfter
  terminalAfter := sound.terminalAfter
  closedEmpty := sound.closedEmpty

private theorem Sound.normal_step (sound : ledger.Sound limit)
    {event : IngressGate.Event} {normal : GateLedger}
    (allowed : ledger.AllowsNormal event)
    (step : GateLedger.Step limit ledger.normal event normal) :
    Sound limit { ledger with normal } where
  producerSound := sound.producerSound
  normalSound := GateLedger.step_sound sound.normalSound step
  workSound := sound.workSound
  publishingLe := sound.publishingLe
  permitsLe := by
    have fewer := sound.permitsLe
    rcases GateLedger.step_live step with ⟨_, more⟩ | ⟨rfl, less⟩ | same
    · simp only
      omega
    · simp only [AllowsNormal] at allowed
      simp only
      omega
    · simp only
      omega
  normalAfter := by
    intro left
    rcases GateLedger.step_left_open step left with before | ⟨result, rfl⟩
    · exact sound.normalAfter before
    · exact allowed
  signalAfter := fun closed =>
    GateLedger.step_sealed step (sound.signalAfter closed)
  terminalAfter := sound.terminalAfter
  closedEmpty := sound.closedEmpty

/-- A step of the queue adds at most one publisher, the pushing one. -/
private theorem work_publishing
    {event : QueueEvent Payload} {work : SignalledQueue Payload capacity}
    (step : SignalledQueue.Step ledger.work event work) :
    (∃ value, event = .pushed value ∧
      work.publishing = ledger.work.publishing + 1) ∨
    work.publishing ≤ ledger.work.publishing := by
  cases step with
  | push pushed => exact Or.inl ⟨_, rfl, rfl⟩
  | publish pushed requested => exact Or.inr (Nat.sub_le _ _)
  | _ => exact Or.inr (Nat.le_refl _)

/-- A step of the queue adds at most one permit, the acquired one. -/
private theorem work_permits
    {event : QueueEvent Payload} {work : SignalledQueue Payload capacity}
    (step : SignalledQueue.Step ledger.work event work) :
    (event = .signal .acquired ∧
      work.signal.permits = ledger.work.signal.permits + 1) ∨
    work.signal.permits ≤ ledger.work.signal.permits := by
  cases step with
  | push pushed => exact Or.inr (Nat.le_refl _)
  | pop popped => exact Or.inr (Nat.le_refl _)
  | conclude draining empty => exact Or.inr (Nat.le_refl _)
  | publish pushed requested =>
      exact Or.inr (Nat.le_of_eq (SignalledQueue.requested_awake requested).1)
  | preserve draining requested =>
      exact Or.inr (Nat.le_of_eq (SignalledQueue.requested_awake requested).1)
  | acquire acquired =>
      cases acquired with
      | acquire available => exact Or.inl ⟨rfl, rfl⟩
  | refuse refused =>
      cases refused with
      | refuse unavailable => exact Or.inr (Nat.le_refl _)
  | settle looked settled =>
      cases settled with
      | settle live => exact Or.inr (Nat.sub_le _ _)
  | close closed =>
      cases closed with
      | close => exact Or.inr (Nat.le_refl _)

private theorem Sound.work_step (sound : ledger.Sound limit)
    {event : QueueEvent Payload} {work : SignalledQueue Payload capacity}
    (allowed : ledger.Allows event)
    (step : SignalledQueue.Step ledger.work event work) :
    Sound limit { ledger with work } where
  producerSound := sound.producerSound
  normalSound := sound.normalSound
  workSound := SignalledQueue.step_sound sound.workSound step
  publishingLe := by
    have fewer := sound.publishingLe
    rcases work_publishing step with ⟨value, rfl, more⟩ | less
    · simp only [Allows] at allowed
      simp only
      omega
    · exact Nat.le_trans less fewer
  permitsLe := by
    have fewer := sound.permitsLe
    rcases work_permits step with ⟨rfl, more⟩ | less
    · simp only [Allows] at allowed
      simp only
      omega
    · exact Nat.le_trans less fewer
  normalAfter := sound.normalAfter
  signalAfter := by
    intro closed
    by_cases before : ledger.work.signal.state = .closed
    · exact sound.signalAfter before
    · cases closes : event.closes with
      | false =>
          exact absurd closed
            (SignalledQueue.step_notClosed step before closes)
      | true =>
          cases event with
          | signal operation =>
              cases operation with
              | closed result => exact allowed
              | _ => cases closes
          | _ => cases closes
  terminalAfter := fun left =>
    SignalledQueue.step_closed step (sound.terminalAfter left)
  closedEmpty := by
    intro ended
    have empty := sound.closedEmpty ended
    cases step with
    | push pushed =>
        have closed := sound.terminalAfter (by rw [ended]; exact nofun)
        have admitted : 0 < ledger.producer.live := by
          simp only [Allows] at allowed
          omega
        exact absurd closed (sound.not_closed_of_producer admitted)
    | pop popped =>
        rw [ArrayQueue.pop_items popped] at empty
        cases empty
    | _ => exact empty

theorem step_sound {action : MailboxAction Payload}
    (sound : ledger.Sound limit) (step : Step limit ledger action next) :
    next.Sound limit := by
  cases step with
  | producer allowed step => exact sound.producer_step allowed step
  | normal allowed step => exact sound.normal_step allowed step
  | work allowed step => exact sound.work_step allowed step
  | claim closed available =>
      exact
        { sound with
          terminalAfter := fun _ => closed
          closedEmpty := nofun }
  | release owned =>
      have closed := sound.terminalAfter (by rw [owned]; exact nofun)
      exact
        { sound with
          terminalAfter := fun _ => closed
          closedEmpty := nofun }
  | complete owned empty =>
      have closed := sound.terminalAfter (by rw [owned]; exact nofun)
      exact
        { sound with
          terminalAfter := fun _ => closed
          closedEmpty := fun _ => empty }

/-- Completed terminal ownership is final. -/
theorem step_keeps_closed {action : MailboxAction Payload}
    (step : Step limit ledger action next)
    (closed : ledger.terminal = .closed) : next.terminal = .closed := by
  cases step with
  | claim _ available => simp [closed] at available
  | release owned => simp [closed] at owned
  | complete owned empty => rfl
  | _ => exact closed

/-- Once the signal is closed an empty queue stays empty. -/
theorem step_keeps_empty {action : MailboxAction Payload}
    (sound : ledger.Sound limit) (step : Step limit ledger action next)
    (closed : ledger.work.signal.state = .closed)
    (empty : ledger.work.queue.items = []) :
    next.work.queue.items = [] := by
  cases step with
  | work allowed step =>
      cases step with
      | push pushed =>
          have admitted : 0 < ledger.producer.live := by
            simp only [Allows] at allowed
            omega
          exact absurd closed (sound.not_closed_of_producer admitted)
      | pop popped =>
          rw [ArrayQueue.pop_items popped] at empty
          cases empty
      | _ => exact empty
  | _ => exact empty

theorem run_sound {trace : List (MailboxAction Payload)}
    (run : (system Payload capacity limit).Run trace ledger) :
    ledger.Sound limit := by
  refine System.Run.invariant (fun _ ledger => ledger.Sound limit) ?_ ?_ run
  · rintro ledger rfl
    exact Sound.fresh limit
  · intro _ before action after _ sound step
    exact step_sound sound step

end Closed

/-- Seen through its queue, a closable mailbox is a signalled queue. -/
def workSimulation (Payload : Type*) (capacity limit : Nat) :
    Simulation (system Payload capacity limit)
      (SignalledQueue.system Payload capacity) MailboxAction.work? where
  related := fun ledger work => ledger.work = work
  start := by
    rintro ledger rfl
    exact ⟨SignalledQueue.fresh, rfl, rfl⟩
  advance := by
    intro _ ledger work action next _ _ related step
    subst related
    cases step with
    | work allowed step => exact ⟨_, step, rfl⟩
    | _ => rfl

end MailboxLedger

end RustJsi.Runtime

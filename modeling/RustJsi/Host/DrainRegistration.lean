import RustJsi.Host.Identity

/-!
# Registrations of drain tasks

A host owner keeps the identity of the attachment that may be drained.  Tasks
name an attachment, and the registration says what has become of it.
-/

namespace RustJsi.Host

/-- Dispatchability state of one host-owned attachment registration. -/
inductive DrainRegistrationState where
  | active
  | closing
  deriving DecidableEq, Repr

/-- Host-owner resolution of an attachment-only drain task. -/
inductive DrainTaskResolution where
  | current
  | closing
  | retired
  | unregisteredAttachment
  | foreignRuntime
  deriving DecidableEq, Repr

inductive DrainRegistrationReplaceError where
  | notClosing (state : DrainRegistrationState)
  | foreignRuntime
  | notNewer
  deriving DecidableEq, Repr

structure DrainRegistration where
  current : AttachmentId
  state : DrainRegistrationState
  deriving DecidableEq, Repr

namespace DrainRegistration

def new (attachment : AttachmentId) : DrainRegistration where
  current := attachment
  state := .active

def runtimeId (registration : DrainRegistration) : RuntimeId :=
  registration.current.runtimeId

def attachmentId (registration : DrainRegistration) : AttachmentId :=
  registration.current

/-- Stops accepting new task dispatch for the current attachment. -/
def beginClose (registration : DrainRegistration) : DrainRegistration :=
  { registration with state := .closing }

/-- Replaces a closing attachment with a strictly newer epoch. -/
def replace (registration : DrainRegistration) (replacement : AttachmentId) :
    Except DrainRegistrationReplaceError Unit × DrainRegistration :=
  if registration.state ≠ .closing then
    (.error (.notClosing registration.state), registration)
  else if replacement.runtimeId ≠ registration.current.runtimeId then
    (.error .foreignRuntime, registration)
  else if replacement.epoch ≤ registration.current.epoch then
    (.error .notNewer, registration)
  else
    (.ok (), { current := replacement, state := .active })

/-- Resolves one attachment-only task before mailbox selection or host
entry. -/
def resolve (registration : DrainRegistration) (attachment : AttachmentId) :
    DrainTaskResolution :=
  if attachment.runtimeId ≠ registration.current.runtimeId then
    .foreignRuntime
  else if attachment.epoch < registration.current.epoch then
    .retired
  else if attachment ≠ registration.current then
    .unregisteredAttachment
  else
    match registration.state with
    | .active => .current
    | .closing => .closing

variable {registration next : DrainRegistration}
  {attachment replacement : AttachmentId}

/-- The later attachment of two of the same runtime. -/
def Older (first second : AttachmentId) : Prop :=
  first.runtimeId = second.runtimeId ∧ first.epoch < second.epoch

theorem Older.trans {first second third : AttachmentId}
    (earlier : Older first second) (later : Older second third) :
    Older first third := by
  refine ⟨earlier.1.trans later.1, ?_⟩
  have before := NonZeroU64.lt_iff.mp earlier.2
  have after := NonZeroU64.lt_iff.mp later.2
  exact NonZeroU64.lt_iff.mpr (Nat.lt_trans before after)

theorem Older.ne {first second : AttachmentId} (older : Older first second) :
    first ≠ second := by
  intro same
  subst same
  exact Nat.lt_irrefl _ (NonZeroU64.lt_iff.mp older.2)

/-- A replacement was closing, and installs an active newer attachment. -/
theorem replace_eq_ok (replaced : registration.replace replacement =
    (.ok (), next)) :
    registration.state = .closing ∧ Older registration.current replacement ∧
      next = .new replacement := by
  unfold replace at replaced
  split at replaced
  · cases replaced
  · rename_i closing
    split at replaced
    · cases replaced
    · rename_i sameRuntime
      split at replaced
      · cases replaced
      · rename_i newer
        cases replaced
        refine ⟨not_not.mp closing, ⟨(not_not.mp sameRuntime).symm, ?_⟩, rfl⟩
        exact NonZeroU64.not_le.mp newer

theorem replace_eq_error {error : DrainRegistrationReplaceError}
    (refused : registration.replace replacement = (.error error, next)) :
    next = registration := by
  unfold replace at refused
  split at refused
  · cases refused
    rfl
  · split at refused
    · cases refused
      rfl
    · split at refused
      · cases refused
        rfl
      · cases refused

/-- Only the registered attachment is current, and only while it is
active. -/
theorem resolve_eq_current_iff : registration.resolve attachment = .current ↔
    attachment = registration.current ∧ registration.state = .active := by
  unfold resolve
  by_cases same : attachment = registration.current
  · rw [if_neg (not_not.mpr (congrArg AttachmentId.runtimeId same)),
      if_neg (by
        rw [same]
        exact fun less => Nat.lt_irrefl _ (NonZeroU64.lt_iff.mp less)),
      if_neg (not_not.mpr same), and_iff_right same]
    cases registration.state with
    | active => exact iff_of_true rfl rfl
    | closing =>
        refine iff_of_false ?_ ?_
        · intro other
          cases other
        · intro other
          cases other
  · refine iff_of_false ?_ fun whole => same whole.1
    split
    · intro other
      cases other
    · split
      · intro other
        cases other
      · intro other
        cases other

theorem resolve_of_older (older : Older attachment registration.current) :
    registration.resolve attachment = .retired := by
  rw [resolve, if_neg (not_not.mpr older.1), if_pos older.2]

/-- What an owner does with a registration. -/
inductive Op where
  | beginClose
  | replace (replacement : AttachmentId)
  deriving DecidableEq, Repr

def perform (registration : DrainRegistration) : Op → DrainRegistration
  | .beginClose => registration.beginClose
  | .replace replacement => (registration.replace replacement).2

/-- The attachments that are current one after the other: the registered one,
and the one that each successful replacement installs. -/
def currents (registration : DrainRegistration) : List Op → List AttachmentId
  | [] => [registration.current]
  | .beginClose :: ops => registration.beginClose.currents ops
  | .replace replacement :: ops =>
      match registration.replace replacement with
      | (.ok (), next) => registration.current :: next.currents ops
      | (.error _, next) => next.currents ops

/-- Along a chain of replacements each attachment is newer than all before
it. -/
theorem currents_older (ops : List Op) :
    ∀ registration : DrainRegistration,
      (registration.currents ops).Pairwise Older ∧
        ∀ later ∈ registration.currents ops,
          later = registration.current ∨ Older registration.current later := by
  induction ops with
  | nil =>
      intro registration
      refine ⟨List.pairwise_singleton _ _, ?_⟩
      intro later member
      exact Or.inl (List.mem_singleton.mp member)
  | cons op ops inductionHypothesis =>
      intro registration
      cases op with
      | beginClose => exact inductionHypothesis registration.beginClose
      | replace replacement =>
          simp only [currents]
          split
          · rename_i next replaced
            obtain ⟨_, older, installed⟩ := replace_eq_ok replaced
            obtain ⟨ordered, above⟩ := inductionHypothesis next
            have newer : ∀ later ∈ next.currents ops,
                Older registration.current later := by
              intro later member
              subst installed
              cases above later member with
              | inl same =>
                  rw [same]
                  exact older
              | inr after => exact older.trans after
            refine ⟨List.pairwise_cons.mpr ⟨newer, ordered⟩, ?_⟩
            intro later member
            cases List.mem_cons.mp member with
            | inl same => exact Or.inl same
            | inr member => exact Or.inr (newer later member)
          · rename_i error next refused
            rw [replace_eq_error refused]
            exact inductionHypothesis registration

/-- No attachment is current twice. -/
theorem currents_nodup (registration : DrainRegistration) (ops : List Op) :
    (registration.currents ops).Nodup :=
  (currents_older ops registration).1.imp Older.ne

end DrainRegistration

end RustJsi.Host

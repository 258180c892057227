import RustJsi.NonZero

/-!
# Attachment identities

A logical runtime keeps its identity when its engine is replaced; each engine
attached to it gets a later epoch.
-/

namespace RustJsi.Host

/-- Identity of one logical host runtime. -/
structure RuntimeId where
  raw : NonZeroU64
  deriving DecidableEq, Repr

/-- Monotonic generation of an engine attachment to one logical runtime. -/
structure AttachmentEpoch where
  raw : NonZeroU64
  deriving DecidableEq, Repr

namespace AttachmentEpoch

instance : LT AttachmentEpoch where
  lt := fun first second => first.raw < second.raw

instance : LE AttachmentEpoch where
  le := fun first second => first.raw ≤ second.raw

instance (first second : AttachmentEpoch) : Decidable (first < second) :=
  inferInstanceAs (Decidable (first.raw < second.raw))

instance (first second : AttachmentEpoch) : Decidable (first ≤ second) :=
  inferInstanceAs (Decidable (first.raw ≤ second.raw))

end AttachmentEpoch

/-- Stable identity of exactly one engine attachment. -/
structure AttachmentId where
  runtimeId : RuntimeId
  epoch : AttachmentEpoch
  deriving DecidableEq, Repr

/-- Owner-held source of attachment identities for one logical runtime. -/
structure RuntimeIdentity where
  runtimeId : RuntimeId
  nextEpoch : Option NonZeroU64
  deriving DecidableEq, Repr

inductive IdentityError where
  | runtimeIdExhausted
  | attachmentEpochExhausted (runtime : RuntimeId)
  deriving DecidableEq, Repr

def RuntimeIdentity.nextAttachment (identity : RuntimeIdentity) :
    Except IdentityError AttachmentId × RuntimeIdentity :=
  match identity.nextEpoch with
  | none =>
      (.error (.attachmentEpochExhausted identity.runtimeId), identity)
  | some epoch =>
      (.ok ⟨identity.runtimeId, ⟨epoch⟩⟩,
        { identity with nextEpoch := epoch.checkedSucc })

end RustJsi.Host

/-
How far one upload or download has come.

Both directions run from the start through transferring and ending to
done. A step that fails leaves the transfer failed, with the cause, and
the device wherever it was; a later step may still be tried.
-/
import FlashLink.Failure

namespace FlashLink

/-- The phase of a transfer. -/
inductive TransferPhase where
  | start
  | transferring
  | ending
  | done
  | failed (cause : Failure)
  deriving DecidableEq, Repr, Inhabited

/-- A phase as it is shown. -/
def TransferPhase.display : TransferPhase → String
  | start => "START"
  | transferring => "TRANSFERRING"
  | ending => "END"
  | done => "DONE"
  | failed cause => s!"FAILED ({cause.message})"

/-- What a finished transfer moved. -/
structure Summary where
  bytes : Nat
  chunks : Nat
  deriving DecidableEq, Repr, Inhabited

namespace Summary

/-- Nothing moved yet. -/
def none : Summary := { bytes := 0, chunks := 0 }

/-- One more piece moved. -/
def add (s : Summary) (chunk : UInt32) : Summary :=
  { bytes := s.bytes + chunk.toNat, chunks := s.chunks + 1 }

end Summary

end FlashLink

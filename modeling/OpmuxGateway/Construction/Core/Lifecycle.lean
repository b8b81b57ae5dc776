import OpmuxGateway.Construction.Core.Catalog

/-
This file gives the admission limiter and the drain state of the process.
-/

namespace Opmux

inductive AdmissionDenied where
  | closed
  | noPermits
  deriving DecidableEq, Repr

/-- A semaphore counts its free permits, and a closed one stays closed. -/
structure Semaphore where
  permits : Nat
  closed : Bool
  deriving DecidableEq, Repr

/-- The process shares one semaphore and one published drain flag. -/
structure ShutdownState where
  admission : Semaphore
  draining : Bool
  deriving DecidableEq, Repr

namespace Semaphore

def new (permits : Nat) : Semaphore := ⟨permits, false⟩

/-- A closed semaphore answers before it looks at its permits. -/
def tryAcquire (semaphore : Semaphore) : Except AdmissionDenied Unit × Semaphore :=
  if semaphore.closed then (.error .closed, semaphore)
  else if semaphore.permits = 0 then (.error .noPermits, semaphore)
  else (.ok (), { semaphore with permits := semaphore.permits - 1 })

/-- A dropped permit returns to the semaphore, and a closed semaphore takes it too. -/
def release (semaphore : Semaphore) : Semaphore :=
  { semaphore with permits := semaphore.permits + 1 }

def close (semaphore : Semaphore) : Semaphore := { semaphore with closed := true }

end Semaphore

namespace ShutdownState

def isDraining (state : ShutdownState) : Bool := state.draining

end ShutdownState

end Opmux

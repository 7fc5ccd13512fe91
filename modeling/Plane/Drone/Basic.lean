import Mathlib.Order.Basic

/-! # The drone's data model

The states of a backend, what the engine reports about a container, and the errors
`Executor::step` propagates. `BackendState` and `EngineBackendStatus` are declared outside the
repository's sources, in `plane_core` and in the engine module; both are modelled from the
spec's lists. Backends are keyed by `BackendId`, a string.
-/

namespace Plane.Drone

/-- Results of the engine and the store are compared, so that runs of the model can be decided. -/
instance decEqExcept {ε α : Type} [DecidableEq ε] [DecidableEq α] : DecidableEq (Except ε α)
  | .error a, .error b => decidable_of_iff (a = b) (by simp)
  | .ok a, .ok b => decidable_of_iff (a = b) (by simp)
  | .error _, .ok _ => isFalse (by simp)
  | .ok _, .error _ => isFalse (by simp)

/-- `BackendId`. -/
structure BackendId where
  id : String
  deriving DecidableEq, Repr

/-- `BackendState`. Modelled from the spec: the variants in declaration order (§3). -/
inductive BackendState
  | loading
  | starting
  | ready
  | errorLoading
  | errorStarting
  | timedOutBeforeReady
  | failed
  | exited
  | swept
  | terminated
  deriving DecidableEq, Repr

namespace BackendState

/-- The position of a state in the declaration order. -/
def index : BackendState → Nat
  | loading => 0
  | starting => 1
  | ready => 2
  | errorLoading => 3
  | errorStarting => 4
  | timedOutBeforeReady => 5
  | failed => 6
  | exited => 7
  | swept => 8
  | terminated => 9

/-- `BackendState::running`. Modelled from the spec: `Starting` and `Ready` (§3). -/
def running : BackendState → Bool
  | starting | ready => true
  | _ => false

/-- The states of the last arm of `Executor::step`, whose step stops the container. -/
def terminal : BackendState → Bool
  | loading | starting | ready => false
  | _ => true

theorem index_le_terminated (s : BackendState) : s.index ≤ terminated.index := by
  cases s <;> simp [index]

@[simp] theorem running_terminal {s : BackendState} (h : s.running = true) :
    s.terminal = false := by
  cases s <;> simp_all [running, terminal]

end BackendState

/-- `EngineBackendStatus`. Modelled from the spec: what `backend_status` reports (§4.4). The
address of a running container is kept as its text. -/
inductive EngineBackendStatus
  | loading
  | starting
  | running (addr : String)
  | failed
  | exited
  | terminated
  deriving DecidableEq, Repr

/-- The `anyhow::Error`s of the executor. -/
inductive Error
  /-- An error of the engine, the local store or `wait_port_ready`, with its text. -/
  | engine (message : String)
  /-- chrono's `OutOfRangeError`, from `Duration::from_std` or `Duration::to_std`. -/
  | outOfRange
  /-- An error the executor raises itself with `anyhow!`. -/
  | message (text : String)
  deriving DecidableEq, Repr

end Plane.Drone

import Plane.Drone.Step

/-! # The task of one backend

`start_backend` writes a new backend to the local store, announces `Loading`, and runs
`run_backend`; `resume_backends` runs `run_backend` from a stored state. `run_backend` inserts
its sender into `backend_to_listener`, then loops: it races the step of the current state
against its signal channel (except in `Swept`, whose step runs alone), installs a monitor on
entering a running state, and writes each new state to the store and publishes it. It leaves
the loop when a step stops the container, or on an error, and then removes its monitor and its
sender.

The task is a state machine. Each `await` it passes is an `Event` the rest of the system
chooses: what a store write or a publish returned, which of the raced futures finished, what
the engine answered. What the task does that others see is a list of `Effect`s. `Task.run`
feeds a list of events to a task; it is `none` once an event cannot happen at that point.
-/

namespace Plane.Drone

open Plane

/-- `Signal`. -/
inductive Signal
  | interrupt
  | terminate
  deriving DecidableEq, Repr

/-- The fields of `SpawnRequest` the executor reads. -/
structure SpawnRequest where
  backendId : BackendId
  maxIdleSecs : Nat
  deriving DecidableEq, Repr

/-- Where the task of a backend is. -/
inductive Pc
  /-- `start_backend` awaits `database.insert_backend`. -/
  | insertBackend
  /-- `start_backend` awaits the publish of `Loading`. -/
  | announce
  /-- `run_backend` is about to insert its sender into `backend_to_listener`. -/
  | listen
  /-- The inner loop; `polled` once the step future has issued its engine call. -/
  | stepping (polled : Bool)
  /-- `update_backend_state` awaits the store; `exit` when the loop breaks afterwards. -/
  | storing (exit : Bool)
  /-- `update_backend_state` awaits the publish; `exit` as for `storing`. -/
  | publishing (exit : Bool)
  /-- After the loop, about to remove the monitor. -/
  | removeMonitor
  /-- After the loop, about to remove the sender. -/
  | removeListener
  /-- `run_backend` returned from its end. -/
  | done
  /-- `run_backend` returned on "Signal sender lost!". -/
  | lost
  deriving DecidableEq, Repr

/-- The state of a backend's task: the `state` variable of `run_backend` and where it is. -/
structure Task where
  state : BackendState
  pc : Pc
  deriving DecidableEq, Repr

/-- How an `await` of the task completes. -/
inductive Event
  /-- The store write returns, successfully or not (`log_error` swallows a failure). -/
  | store (ok : Bool)
  /-- `publish_jetstream` returns, successfully or not. -/
  | publish (ok : Bool)
  /-- A synchronous map operation: the task inserts or removes its entry. -/
  | advance
  /-- The step future issues its engine call. -/
  | poll
  /-- The step future returns, after the engine and the store gave `replies`. -/
  | complete (replies : StepReplies)
  /-- `recv()` returns; `none` when the sender was dropped. -/
  | signal (sig : Option Signal)
  deriving DecidableEq, Repr

/-- What a task does that the rest of the system sees. -/
inductive Effect
  /-- A write of the backend's state to the local store, and whether it succeeded. -/
  | store (state : BackendState) (ok : Bool)
  /-- A publish of the state on `backend.<B>.state`, and whether it succeeded. -/
  | publish (state : BackendState) (ok : Bool)
  /-- The step future of `state`, polled, issues its first engine call: `load` in `Loading`,
  `backend_status` in `Starting` and `Ready`, and `stop` in a terminal state, whose step is that
  call alone. The step awaits that call first (`step_error_of_firstCallError`), and only a
  terminal state's step calls `stop` (`step_of_terminal`, `step_stop_unread`). -/
  | engineCall (state : BackendState)
  | insertListener
  | removeListener
  | insertMonitor
  | removeMonitor
  deriving DecidableEq, Repr

namespace Task

/-- The task `start_backend` spawns: it awaits `insert_backend`, then the publish of `Loading`.
Modelled from the spec: `insert_backend` stores the backend in state `Loading`, the state
`start_backend` announces (§4.6). -/
def startBackend : Task := ⟨.loading, .insertBackend⟩

/-- The task `resume_backends` spawns for a backend stored in `state`: `run_backend` from that
state, about to insert its sender. -/
def resumeBackends (state : BackendState) : Task := ⟨state, .listen⟩

/-- The effects of entering state `s` after a step: a monitor when `s` is running. -/
def monitorFor (s : BackendState) : List Effect := if s.running then [.insertMonitor] else []

/-- What `run_backend` does with `next_state`, the result of the inner loop: move to the new
state and install a monitor if it is running; leave the loop on `Ok(None)`; on an error, move
`Loading` to `ErrorLoading` and leave the loop. -/
def afterStep (σ : Task) : Except Error (Option BackendState) → Task × List Effect
  | .ok (some s) => (⟨s, .storing false⟩, monitorFor s)
  | .ok none => (⟨σ.state, .removeMonitor⟩, [])
  | .error _ =>
      match σ.state with
      | .loading => (⟨.errorLoading, .storing true⟩, [])
      | _ => (⟨σ.state, .removeMonitor⟩, [])

variable (range : TimeRange) (maxIdleSecs : Nat)

/-- One event of the task, with the effects it has; `none` when the event cannot happen. The
task is `run_backend`'s loop, preceded by the two awaits of `start_backend` when that spawned it. -/
def runBackend (σ : Task) : Event → Option (Task × List Effect)
  | .store ok =>
      match σ.pc with
      | .insertBackend => some (⟨σ.state, .announce⟩, [.store .loading ok])
      | .storing exit => some (⟨σ.state, .publishing exit⟩, [.store σ.state ok])
      | _ => none
  | .publish ok =>
      match σ.pc with
      | .announce => some (⟨σ.state, .listen⟩, [.publish .loading ok])
      | .publishing exit =>
          some (⟨σ.state, if exit then .removeMonitor else .stepping false⟩, [.publish σ.state ok])
      | _ => none
  | .advance =>
      match σ.pc with
      | .listen => some (⟨σ.state, .stepping false⟩, [.insertListener])
      | .removeMonitor => some (⟨σ.state, .removeListener⟩, [.removeMonitor])
      | .removeListener => some (⟨σ.state, .done⟩, [.removeListener])
      | _ => none
  | .poll =>
      match σ.pc with
      | .stepping false => some (⟨σ.state, .stepping true⟩, [.engineCall σ.state])
      | _ => none
  | .complete replies =>
      match σ.pc with
      | .stepping true => (step range maxIdleSecs replies σ.state).map σ.afterStep
      | _ => none
  | .signal sig =>
      match σ.pc with
      | .stepping _ =>
          if σ.state = .swept then none
          else
            match sig with
            | some .interrupt => some (⟨σ.state, .stepping false⟩, [])
            | some .terminate => some (σ.afterStep (.ok (some .terminated)))
            | none => some (⟨σ.state, .lost⟩, [])
      | _ => none

/-- Feed events to a task in order, collecting its effects. -/
def run : Task → List Event → Option (Task × List Effect)
  | σ, [] => some (σ, [])
  | σ, e :: es =>
      (σ.runBackend range maxIdleSecs e).bind fun (τ, effs) =>
        (τ.run es).map fun (υ, effs') => (υ, effs ++ effs')

variable {range maxIdleSecs}

@[simp] theorem run_nil (σ : Task) : σ.run range maxIdleSecs [] = some (σ, []) := rfl

theorem run_cons {σ υ : Task} {e : Event} {es : List Event} {effs : List Effect} :
    σ.run range maxIdleSecs (e :: es) = some (υ, effs) ↔
      ∃ τ effs₁ effs₂, σ.runBackend range maxIdleSecs e = some (τ, effs₁) ∧
        τ.run range maxIdleSecs es = some (υ, effs₂) ∧ effs = effs₁ ++ effs₂ := by
  simp only [run, Option.bind_eq_some, Option.map_eq_some', Prod.mk.injEq, Prod.exists]
  constructor
  · rintro ⟨τ, effs₁, hnext, υ', effs₂, hrun, rfl, rfl⟩
    exact ⟨τ, effs₁, effs₂, hnext, hrun, rfl⟩
  · rintro ⟨τ, effs₁, effs₂, hnext, hrun, rfl⟩
    exact ⟨τ, effs₁, hnext, υ, effs₂, hrun, rfl, rfl⟩

theorem run_append {σ υ : Task} {es es' : List Event} {effs : List Effect} :
    σ.run range maxIdleSecs (es ++ es') = some (υ, effs) ↔
      ∃ τ effs₁ effs₂, σ.run range maxIdleSecs es = some (τ, effs₁) ∧
        τ.run range maxIdleSecs es' = some (υ, effs₂) ∧ effs = effs₁ ++ effs₂ := by
  induction es generalizing σ effs with
  | nil =>
      constructor
      · intro h
        exact ⟨σ, [], effs, rfl, h, rfl⟩
      · rintro ⟨τ, effs₁, effs₂, h, hrun, rfl⟩
        simp only [run_nil, Option.some.injEq, Prod.mk.injEq] at h
        obtain ⟨rfl, rfl⟩ := h
        exact hrun
  | cons e es ih =>
      simp only [List.cons_append, run_cons, ih]
      constructor
      · rintro ⟨τ, effs₁, effs₂, hnext, ⟨τ', effs₃, effs₄, hrun, hrun', rfl⟩, rfl⟩
        exact ⟨τ', effs₁ ++ effs₃, effs₄, ⟨τ, effs₁, effs₃, hnext, hrun, rfl⟩, hrun',
          (List.append_assoc _ _ _).symm⟩
      · rintro ⟨τ', effs', effs₄, ⟨τ, effs₁, effs₃, hnext, hrun, rfl⟩, hrun', rfl⟩
        exact ⟨τ, effs₁, effs₃ ++ effs₄, hnext, ⟨τ', effs₃, effs₄, hrun, hrun', rfl⟩,
          List.append_assoc _ _ _⟩

theorem run_append_next {σ τ υ : Task} {es : List Event} (e : Event) {effs effs' : List Effect}
    (h : σ.run range maxIdleSecs es = some (τ, effs))
    (hnext : τ.runBackend range maxIdleSecs e = some (υ, effs')) :
    σ.run range maxIdleSecs (es ++ [e]) = some (υ, effs ++ effs') := by
  refine run_append.mpr ⟨τ, effs, effs', h, ?_, rfl⟩
  simp [run, hnext]

theorem run_append_singleton {σ υ : Task} {es : List Event} {e : Event} {effs : List Effect} :
    σ.run range maxIdleSecs (es ++ [e]) = some (υ, effs) ↔
      ∃ τ effs₁ effs₂, σ.run range maxIdleSecs es = some (τ, effs₁) ∧
        τ.runBackend range maxIdleSecs e = some (υ, effs₂) ∧ effs = effs₁ ++ effs₂ := by
  constructor
  · intro h
    obtain ⟨τ, effs₁, effs₂, hrun, hlast, rfl⟩ := run_append.mp h
    obtain ⟨υ', effs₃, effs₄, hnext, hnil, rfl⟩ := run_cons.mp hlast
    simp only [run_nil, Option.some.injEq, Prod.mk.injEq] at hnil
    obtain ⟨rfl, rfl⟩ := hnil
    exact ⟨τ, effs₁, effs₃, hrun, hnext, by simp⟩
  · rintro ⟨τ, effs₁, effs₂, hrun, hnext, rfl⟩
    exact run_append_next e hrun hnext

/-! ## What one event can do -/

/-- The moves of a task, one constructor per transition of `run_backend`; a step's result is
kept only as far as `step` constrains it. -/
inductive Move : Task → Event → Task → List Effect → Prop
  | insertBackend (s : BackendState) (ok : Bool) :
      Move ⟨s, .insertBackend⟩ (.store ok) ⟨s, .announce⟩ [.store .loading ok]
  | announce (s : BackendState) (ok : Bool) :
      Move ⟨s, .announce⟩ (.publish ok) ⟨s, .listen⟩ [.publish .loading ok]
  | listen (s : BackendState) :
      Move ⟨s, .listen⟩ .advance ⟨s, .stepping false⟩ [.insertListener]
  | poll (s : BackendState) :
      Move ⟨s, .stepping false⟩ .poll ⟨s, .stepping true⟩ [.engineCall s]
  | stepTo (s s' : BackendState) (replies : StepReplies) (h : stepEdge s s' = true) :
      Move ⟨s, .stepping true⟩ (.complete replies) ⟨s', .storing false⟩ (monitorFor s')
  | stepStop (s : BackendState) (replies : StepReplies) (h : s.terminal = true) :
      Move ⟨s, .stepping true⟩ (.complete replies) ⟨s, .removeMonitor⟩ []
  | failLoading (replies : StepReplies) :
      Move ⟨.loading, .stepping true⟩ (.complete replies) ⟨.errorLoading, .storing true⟩ []
  | fail (s : BackendState) (replies : StepReplies) (h : s ≠ .loading) :
      Move ⟨s, .stepping true⟩ (.complete replies) ⟨s, .removeMonitor⟩ []
  | interrupt (s : BackendState) (polled : Bool) (h : s ≠ .swept) :
      Move ⟨s, .stepping polled⟩ (.signal (some .interrupt)) ⟨s, .stepping false⟩ []
  | terminate (s : BackendState) (polled : Bool) (h : s ≠ .swept) :
      Move ⟨s, .stepping polled⟩ (.signal (some .terminate)) ⟨.terminated, .storing false⟩ []
  | lose (s : BackendState) (polled : Bool) (h : s ≠ .swept) :
      Move ⟨s, .stepping polled⟩ (.signal none) ⟨s, .lost⟩ []
  | store (s : BackendState) (exit ok : Bool) :
      Move ⟨s, .storing exit⟩ (.store ok) ⟨s, .publishing exit⟩ [.store s ok]
  | publish (s : BackendState) (exit ok : Bool) :
      Move ⟨s, .publishing exit⟩ (.publish ok)
        ⟨s, if exit then .removeMonitor else .stepping false⟩ [.publish s ok]
  | removeMonitor (s : BackendState) :
      Move ⟨s, .removeMonitor⟩ .advance ⟨s, .removeListener⟩ [.removeMonitor]
  | removeListener (s : BackendState) :
      Move ⟨s, .removeListener⟩ .advance ⟨s, .done⟩ [.removeListener]

theorem Move.of_afterStep {s : BackendState} {replies : StepReplies}
    {r : Except Error (Option BackendState)} (hstep : step range maxIdleSecs replies s = some r) :
    Move ⟨s, .stepping true⟩ (.complete replies) (afterStep ⟨s, .stepping true⟩ r).1
      (afterStep ⟨s, .stepping true⟩ r).2 := by
  rcases r with e | _ | s'
  · by_cases hs : s = .loading
    · subst hs; exact .failLoading replies
    · cases s <;> first | exact absurd rfl hs | exact .fail _ replies hs
  · exact .stepStop s replies (terminal_of_step hstep)
  · exact .stepTo s s' replies (stepEdge_of_step hstep)

/-- Every event a task takes is one of its moves. -/
theorem Move.of_next {σ τ : Task} {e : Event} {effs : List Effect}
    (h : σ.runBackend range maxIdleSecs e = some (τ, effs)) : Move σ e τ effs := by
  obtain ⟨s, pc⟩ := σ
  rcases pc with _ | _ | _ | ⟨_ | _⟩ | exit | exit | _ | _ | _ | _ <;> cases e <;>
    simp only [runBackend, reduceCtorEq, Option.some.injEq] at h
  case stepping.true.complete replies =>
    obtain ⟨r, hstep, hr⟩ := Option.map_eq_some'.mp h
    have hmove := Move.of_afterStep hstep
    rwa [hr] at hmove
  all_goals first
    | (obtain ⟨rfl, rfl⟩ := Prod.mk.inj h; constructor)
    | skip
  all_goals
    split_ifs at h with hs
    rename_i sig
    rcases sig with _ | _ | _ <;>
      simp only [afterStep, monitorFor, BackendState.running, Option.some.injEq] at h <;>
      obtain ⟨rfl, rfl⟩ := Prod.mk.inj h <;> constructor <;> exact hs

/-- Run induction: a property of the task and of its effects so far that holds at the start
and that every move keeps holds after any run. -/
theorem run_induction (P : Task → List Effect → Prop) (Q : Event → Prop)
    (hstep : ∀ σ e τ effs acc, Q e → P σ acc → Move σ e τ effs → P τ (acc ++ effs))
    {σ υ : Task} {es : List Event} {effs : List Effect} (hQ : ∀ e ∈ es, Q e)
    (h0 : P σ []) (h : σ.run range maxIdleSecs es = some (υ, effs)) : P υ effs := by
  suffices ∀ {σ : Task} {acc effs : List Effect}, (∀ e ∈ es, Q e) → P σ acc →
      σ.run range maxIdleSecs es = some (υ, effs) → P υ (acc ++ effs) by
    simpa using this hQ h0 h
  clear hQ h0 h
  induction es with
  | nil =>
      intro σ acc effs _ h0 h
      simp only [run_nil, Option.some.injEq, Prod.mk.injEq] at h
      obtain ⟨rfl, rfl⟩ := h
      simpa using h0
  | cons e es ih =>
      intro σ acc effs hQ h0 h
      obtain ⟨τ, effs₁, effs₂, hnext, hrun, rfl⟩ := run_cons.mp h
      have hτ := hstep σ e τ effs₁ acc (hQ e (List.mem_cons_self _ _)) h0 (Move.of_next hnext)
      simpa using ih (fun e he => hQ e (List.mem_cons_of_mem _ he)) hτ hrun

end Task

end Plane.Drone

import Mathlib.Data.List.Chain
import Plane.Drone.RunBackend

/-! # The states a backend announces

`start_backend` announces `Loading` on `backend.<B>.state`, and `run_backend` publishes every
state it passes to `update_backend_state`. Two consecutive announced states are an edge of
`step`'s table, the move of a failed `Loading` to `ErrorLoading`, or a `Terminate` signal taken
in any state but `Swept`, whose step alone is not raced against the channel. So the announced
states rise through the declaration order, except that `Terminated` repeats when a second
`Terminate` arrives while the state is already `Terminated`.
-/

namespace Plane.Drone

open Plane

/-- The states a task passes to a publish, in order, whether or not the publish succeeded. -/
def announced (effs : List Effect) : List BackendState :=
  effs.filterMap fun
    | .publish s _ => some s
    | _ => none

@[simp] theorem announced_nil : announced [] = [] := rfl

@[simp] theorem announced_append (effs effs' : List Effect) :
    announced (effs ++ effs') = announced effs ++ announced effs' :=
  List.filterMap_append _ _ _

@[simp] theorem announced_publish (s : BackendState) (ok : Bool) :
    announced [.publish s ok] = [s] := rfl

@[simp] theorem announced_monitorFor (s : BackendState) : announced (Task.monitorFor s) = [] := by
  unfold Task.monitorFor; split <;> rfl

/-- The moves between consecutive announced states. -/
def transition : BackendState → BackendState → Bool
  | .swept, .terminated => false
  | _, .terminated => true
  | .loading, .errorLoading => true
  | a, b => stepEdge a b

/-- Consecutive announced states rise, except for a repeated `Terminated`. -/
def Rises (a b : BackendState) : Prop :=
  a.index < b.index ∨ (a = .terminated ∧ b = .terminated)

instance : IsTrans BackendState Rises where
  trans a b c hab hbc := by
    have hc := c.index_le_terminated
    rcases hab with hab | ⟨rfl, rfl⟩ <;> rcases hbc with hbc | ⟨hb, rfl⟩
    · exact .inl (by omega)
    · exact .inl (hb ▸ hab)
    · exact absurd hbc (by omega)
    · exact .inr ⟨rfl, rfl⟩

theorem transition_of_stepEdge {a b : BackendState} (h : stepEdge a b = true) :
    transition a b = true := by
  cases a <;> cases b <;> simp_all [stepEdge, transition]

theorem transition_terminated {a : BackendState} (h : a ≠ .swept) :
    transition a .terminated = true := by
  cases a <;> simp_all [transition]

theorem Rises.of_transition {a b : BackendState} (h : transition a b = true) : Rises a b := by
  cases a <;> cases b <;> simp_all [transition, stepEdge, Rises, BackendState.index]

/-- What the announced states `seq` say of a task: consecutive ones move by `transition`; while
the task steps, the last one is its state; while it writes a new state out, the last one moves
to it. -/
def Announces (σ : Task) (seq : List BackendState) : Prop :=
  seq.Chain' (fun a b => transition a b = true) ∧
    match σ.pc with
    | .insertBackend | .announce => seq = [] ∧ σ.state = .loading
    | .listen | .stepping _ => seq.getLast? = some σ.state
    | .storing _ | .publishing _ => ∃ p, seq.getLast? = some p ∧ transition p σ.state = true
    | _ => True

/-- Every move keeps `Announces`, with the states it announces appended. -/
theorem Task.Move.announces {σ τ : Task} {e : Event} {effs : List Effect} {seq : List BackendState}
    (hmove : Task.Move σ e τ effs) (h : Announces σ seq) : Announces τ (seq ++ announced effs) := by
  obtain ⟨hchain, hpc⟩ := h
  cases hmove with
  | insertBackend | listen | poll | interrupt | store =>
      simpa [announced, Announces] using ⟨hchain, hpc⟩
  | stepStop | fail | lose | removeMonitor | removeListener =>
      simpa [announced, Announces] using hchain
  | announce =>
      obtain ⟨rfl, rfl⟩ := hpc
      simp [announced, Announces]
  | stepTo s s' replies hedge =>
      exact ⟨by simpa using hchain, s, by simpa using hpc, transition_of_stepEdge hedge⟩
  | failLoading =>
      exact ⟨by simpa using hchain, .loading, by simpa using hpc, rfl⟩
  | terminate s polled hs =>
      exact ⟨by simpa using hchain, s, by simpa using hpc, transition_terminated hs⟩
  | publish s exit ok =>
      obtain ⟨p, hlast, hp⟩ := hpc
      rw [announced_publish]
      refine ⟨hchain.append (List.chain'_singleton s) (by simpa [hlast] using hp), ?_⟩
      cases exit <;> simp [Announces]

theorem announces_run {range : TimeRange} {maxIdleSecs : Nat} {σ υ : Task} {es : List Event}
    {effs : List Effect} {seq : List BackendState} (h : σ.run range maxIdleSecs es = some (υ, effs))
    (h0 : Announces σ seq) : Announces υ (seq ++ announced effs) := by
  exact Task.run_induction (fun τ acc => Announces τ (seq ++ announced acc)) (fun _ => True)
    (fun _ _ _ _ _ _ hτ hmove => by simpa using hmove.announces hτ) (fun _ _ => trivial)
    (by simpa using h0) h

/-- From `start_backend`, the announced states move by `transition`. -/
theorem start_announced_chain {range : TimeRange} {maxIdleSecs : Nat} {υ : Task} {es : List Event}
    {effs : List Effect} (h : Task.startBackend.run range maxIdleSecs es = some (υ, effs)) :
    (announced effs).Chain' (fun a b => transition a b = true) := by
  have h0 : Announces Task.startBackend [] := ⟨List.chain'_nil, rfl, rfl⟩
  simpa using (announces_run h h0).1

/-- The first state announced from `start_backend` is `Loading`. -/
theorem start_announced_head {range : TimeRange} {maxIdleSecs : Nat} {υ : Task} {es : List Event}
    {effs : List Effect} (h : Task.startBackend.run range maxIdleSecs es = some (υ, effs)) :
    ∀ s ∈ (announced effs).head?, s = .loading := by
  rcases es with _ | ⟨e, es⟩
  · simp_all
  obtain ⟨τ, effs₁, effs₂, hnext, hrun, rfl⟩ := Task.run_cons.mp h
  cases Task.Move.of_next hnext
  rcases es with _ | ⟨e', es⟩
  · simp_all [announced]
  obtain ⟨τ', effs₃, effs₄, hnext', -, rfl⟩ := Task.run_cons.mp hrun
  cases Task.Move.of_next hnext'
  simp [announced]

/-- From `start_backend`, the announced states rise through the declaration order, except for a
repeated `Terminated`. -/
theorem start_announced_rises {range : TimeRange} {maxIdleSecs : Nat} {υ : Task}
    {es : List Event} {effs : List Effect}
    (h : Task.startBackend.run range maxIdleSecs es = some (υ, effs)) :
    (announced effs).Pairwise Rises :=
  List.chain'_iff_pairwise.mp ((start_announced_chain h).imp fun _ _ => Rises.of_transition)

/-- For every backend started by `start_backend` and every interleaving of step results,
`Interrupt` and `Terminate` signals: the states it announces start with `Loading`; each moves to
the next by an edge of `step`'s table, by the failure of `Loading`, or by a `Terminate` in any
state but `Swept`; and they rise strictly in declaration order, except that `Terminated` may
repeat, so no other state is announced twice. -/
theorem start_announces_transitions (range : TimeRange) (maxIdleSecs : Nat) (es : List Event)
    (υ : Task) (effs : List Effect) (h : Task.startBackend.run range maxIdleSecs es = some (υ, effs)) :
    (∀ s ∈ (announced effs).head?, s = .loading) ∧
      (announced effs).Chain' (fun a b => transition a b = true) ∧
      (announced effs).Pairwise Rises :=
  ⟨start_announced_head h, start_announced_chain h, start_announced_rises h⟩

/-- A backend terminated while it loads announces `Loading`, then `Terminated`. -/
theorem start_announces_transitions_killed_loading :
    let effs : List Effect := [.store .loading true, .publish .loading true, .insertListener,
      .store .terminated true, .publish .terminated true]
    (∀ s ∈ (announced effs).head?, s = .loading) ∧
      (announced effs).Chain' (fun a b => transition a b = true) ∧
      (announced effs).Pairwise Rises :=
  start_announces_transitions ⟨0, 0, 0⟩ 0 [.store true, .publish true, .advance,
    .signal (some .terminate), .store true, .publish true] ⟨.terminated, .stepping false⟩ _ rfl

/-- Two `kill_backend` calls while the backend loads: the second `Terminate` is received while
the state is already `Terminated`, which is announced again. -/
theorem second_terminate_announces_terminated_twice :
    (Task.startBackend.run ⟨0, 0, 0⟩ 0 [.store true, .publish true, .advance, .signal (some .terminate),
      .store true, .publish true, .signal (some .terminate), .store true, .publish true]).map
      (fun r => announced r.2) = some [.loading, .terminated, .terminated] := by
  decide

end Plane.Drone

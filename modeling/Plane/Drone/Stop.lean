import Plane.Drone.RunBackend

/-! # Stopping the container of a terminal state

In a terminal state the step calls `engine.stop`, and `run_backend` leaves its loop when the
step returns. The step of `Swept` runs alone. The step of every other terminal state is raced
against the signal channel like any step, so a signal received while it runs abandons the stop:
an `Interrupt` issues it again in the same state, a `Terminate` moves to `Terminated` and issues
it there. A failed `Loading` is different: `run_backend` moves to `ErrorLoading` and leaves the
loop at once, without the step of `ErrorLoading`.
-/

namespace Plane.Drone

open Plane

/-- The calls to `engine.stop` among the effects: the engine calls of terminal states, whose
step is that call (`step_of_terminal`); no other step reads its answer (`step_stop_unread`). -/
def stops (effs : List Effect) : Nat :=
  effs.countP fun
    | .engineCall s => s.terminal
    | _ => false

@[simp] theorem stops_append (effs effs' : List Effect) :
    stops (effs ++ effs') = stops effs + stops effs' :=
  List.countP_append _ _ _

/-- Whether a signal is received. -/
def Event.isSignal : Event → Bool
  | .signal _ => true
  | _ => false

theorem stepEdge_of_terminal {s s' : BackendState} (h : s.terminal = true) :
    stepEdge s s' = false := by
  cases s <;> cases s' <;> simp_all [BackendState.terminal, stepEdge]

/-- After the state became terminal through a step or a `Terminate`: it stays terminal, and a
stop has been called once the step of the state has issued its engine call. -/
def StopPending (σ : Task) (acc : List Effect) : Prop :=
  σ.state.terminal = true ∧
    match σ.pc with
    | .storing false | .publishing false | .lost => True
    | .stepping polled => polled = true → 1 ≤ stops acc
    | .removeMonitor | .removeListener | .done => 1 ≤ stops acc
    | _ => False

/-- As `StopPending`, counting exactly one stop once it has been issued; kept by every move but
those of a signal. -/
def StopOnce (σ : Task) (acc : List Effect) : Prop :=
  σ.state.terminal = true ∧
    match σ.pc with
    | .storing false | .publishing false | .stepping false => stops acc = 0
    | .stepping true | .removeMonitor | .removeListener | .done => stops acc = 1
    | _ => False

theorem Task.Move.stopPending {σ τ : Task} {e : Event} {effs acc : List Effect}
    (hmove : Task.Move σ e τ effs) (h : StopPending σ acc) : StopPending τ (acc ++ effs) := by
  obtain ⟨hterm, hpc⟩ := h
  cases hmove with
  | poll s => exact ⟨hterm, fun _ => by simp [stops, hterm]⟩
  | stepTo s s' replies hedge => simp [stepEdge_of_terminal hterm] at hedge
  | failLoading => simp [BackendState.terminal] at hterm
  | interrupt | terminate | lose => exact ⟨by simp_all [BackendState.terminal], by simp⟩
  | store s exit ok | publish s exit ok =>
      cases exit <;> simp_all [StopPending, stops]
  | _ => simp_all [StopPending, stops]

theorem Task.Move.stopOnce {σ τ : Task} {e : Event} {effs acc : List Effect}
    (hmove : Task.Move σ e τ effs) (he : e.isSignal = false) (h : StopOnce σ acc) :
    StopOnce τ (acc ++ effs) := by
  obtain ⟨hterm, hpc⟩ := h
  cases hmove with
  | poll s => exact ⟨hterm, by simp_all [stops]⟩
  | stepTo s s' replies hedge => simp [stepEdge_of_terminal hterm] at hedge
  | failLoading => simp [BackendState.terminal] at hterm
  | interrupt | terminate | lose => simp [Event.isSignal] at he
  | store s exit ok | publish s exit ok =>
      cases exit <;> simp_all [StopOnce, stops]
  | _ => simp_all [StopOnce, stops]

/-- From `Swept` no signal is received: its step is not raced against the channel. -/
theorem Task.Move.swept_not_signal {σ τ : Task} {e : Event} {effs : List Effect}
    (hmove : Task.Move σ e τ effs) (hs : σ.state = .swept) :
    e.isSignal = false ∧ τ.state = .swept := by
  cases hmove <;> simp_all [Event.isSignal, stepEdge_of_terminal, BackendState.terminal]

section

variable {range : TimeRange} {maxIdleSecs : Nat} {σ υ : Task} {es : List Event} {effs : List Effect}

theorem stops_pos (hpc : σ.pc = .storing false) (hterm : σ.state.terminal = true)
    (h : σ.run range maxIdleSecs es = some (υ, effs)) (hdone : υ.pc = .done) : 1 ≤ stops effs := by
  have hend := Task.run_induction StopPending (fun _ => True)
    (fun _ _ _ _ _ _ hτ hmove => hmove.stopPending hτ) (fun _ _ => trivial)
    ⟨hterm, by simp [hpc]⟩ h
  simpa [StopPending, hdone] using hend.2

theorem stops_eq_one (hpc : σ.pc = .storing false) (hterm : σ.state.terminal = true)
    (hsig : ∀ e ∈ es, e.isSignal = false) (h : σ.run range maxIdleSecs es = some (υ, effs))
    (hdone : υ.pc = .done) : stops effs = 1 := by
  have hend := Task.run_induction StopOnce (fun e => e.isSignal = false)
    (fun _ _ _ _ _ he hτ hmove => hmove.stopOnce he hτ) hsig
    ⟨hterm, by simp [hpc, stops]⟩ h
  simpa [StopOnce, hdone] using hend.2

theorem stops_eq_one_of_swept (hpc : σ.pc = .storing false) (hs : σ.state = .swept)
    (h : σ.run range maxIdleSecs es = some (υ, effs)) (hdone : υ.pc = .done) :
    stops effs = 1 := by
  have hend := Task.run_induction (fun τ acc => τ.state = .swept ∧ StopOnce τ acc) (fun _ => True)
    (fun _ _ _ _ _ _ hτ hmove => ⟨(hmove.swept_not_signal hτ.1).2,
      hmove.stopOnce (hmove.swept_not_signal hτ.1).1 hτ.2⟩)
    (fun _ _ => trivial) ⟨hs, by simp [hs, BackendState.terminal], by simp [hpc, stops]⟩ h
  simpa [StopOnce, hdone] using hend.2.2

end

/-- Once the state of a backend's task becomes terminal through a step or a `Terminate` signal,
and the run then returns from the end of `run_backend` (its signal sender was not lost),
`engine.stop` was called at least once in between, and exactly once when the state is `Swept`
or no signal is received meanwhile. -/
theorem stop_after_terminal (range : TimeRange) (maxIdleSecs : Nat) (σ : Task)
    (hpc : σ.pc = .storing false) (hterm : σ.state.terminal = true) (es : List Event) (υ : Task)
    (effs : List Effect) (h : σ.run range maxIdleSecs es = some (υ, effs)) (hdone : υ.pc = .done) :
    1 ≤ stops effs ∧
      (σ.state = .swept ∨ (∀ e ∈ es, e.isSignal = false) → stops effs = 1) :=
  ⟨stops_pos hpc hterm h hdone, fun
    | .inl hs => stops_eq_one_of_swept hpc hs h hdone
    | .inr hsig => stops_eq_one hpc hterm hsig h hdone⟩

/-- A backend entering `Swept` stops its container once and ends. -/
theorem stop_after_terminal_swept :
    let stopped : StepReplies := ⟨.ok (), .ok .exited, .ok (), .ok (), [], .ok ()⟩
    let es : List Event := [.store true, .publish true, .poll, .complete stopped, .advance, .advance]
    let effs : List Effect := [.store .swept true, .publish .swept true, .engineCall .swept,
      .removeMonitor, .removeListener]
    1 ≤ stops effs ∧ (BackendState.swept = .swept ∨ (∀ e ∈ es, e.isSignal = false) →
      stops effs = 1) :=
  stop_after_terminal ⟨0, 0, 0⟩ 0 ⟨.swept, .storing false⟩ rfl rfl _ ⟨.swept, .done⟩ _ rfl rfl

/-- A terminal state's stop is skipped or repeated. A failed load moves to `ErrorLoading` and
ends the run with no stop; an `Interrupt` received while `Failed` stops its container issues the
stop twice. -/
theorem terminal_stop_skipped_or_repeated :
    let up : StepReplies := ⟨.ok (), .ok (.running "10.0.0.2:8080"), .ok (), .ok (), [], .ok ()⟩
    let down : StepReplies := ⟨.error "pull failed", .ok .failed, .ok (), .ok (), [], .ok ()⟩
    (Task.startBackend.run ⟨0, 0, 0⟩ 0 [.store true, .publish true, .advance, .poll, .complete down,
        .store true, .publish true, .advance, .advance]).map (fun r => (r.1, stops r.2)) =
      some (⟨.errorLoading, .done⟩, 0) ∧
    (Task.startBackend.run ⟨0, 0, 0⟩ 0 [.store true, .publish true, .advance,
        .poll, .complete up, .store true, .publish true,
        .poll, .complete up, .store true, .publish true,
        .poll, .complete down, .store true, .publish true,
        .poll, .signal (some .interrupt), .poll, .complete up, .advance, .advance]).map
        (fun r => (r.1, stops r.2)) =
      some (⟨.failed, .done⟩, 2) := by
  decide

end Plane.Drone

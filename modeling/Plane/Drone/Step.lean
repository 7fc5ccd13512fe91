import Plane.Chrono
import Plane.Drone.Basic

/-! # One step of the backend state machine

`Executor::step` maps a state to the next one through calls to the engine and the local store,
or stops the container in a terminal state. What those calls answer during one step is a
`StepReplies`; `step` reads only the answers its state asks for. In state `Ready` with a running
container, the step waits for the backend to go idle: a loop that reads the last-active time from
the store and the clock twice per turn. The loop can still be sleeping when the answers run out,
so `step` returns `none` when it has not finished.
-/

namespace Plane.Drone

open Plane

/-- What one turn of the idle-wait loop reads: the last-active time from the store, the clock
for the comparison with the deadline, and the clock again for the length of the sleep. -/
structure IdleTick where
  lastActive : Except String Int
  checkNow : Int
  sleepNow : Int
  deriving DecidableEq, Repr

/-- The idle-wait loop of `Executor::step` in state `Ready`. -/
def waitForIdle (range : TimeRange) (maxIdleSecs : Nat) : List IdleTick → Option (Except Error Unit)
  | [] => none
  | tick :: ticks =>
      match tick.lastActive with
      | .error e => some (.error (.engine e))
      | .ok lastActive =>
          match range.fromStd maxIdleSecs with
          | none => some (.error .outOfRange)
          | some maxIdle =>
              match range.checkedAddSigned lastActive maxIdle with
              | none => some (.error (.message "Checked add error."))
              | some nextCheck =>
                  if nextCheck < tick.checkNow then some (.ok ())
                  else
                    match toStd (nextCheck - tick.sleepNow) with
                    | none => some (.error .outOfRange)
                    | some _ => waitForIdle range maxIdleSecs ticks

/-- What the engine and the local store answer during one step. -/
structure StepReplies where
  load : Except String Unit
  backendStatus : Except String EngineBackendStatus
  waitPortReady : Except String Unit
  insertProxyRoute : Except String Unit
  idle : List IdleTick
  stop : Except String Unit
  deriving DecidableEq, Repr

/-- `Executor::step`: `some` of its result once the step has finished. Each `?` of the
source is the `.error` arm of a `match`. -/
def step (range : TimeRange) (maxIdleSecs : Nat) (replies : StepReplies) :
    BackendState → Option (Except Error (Option BackendState))
  | .loading => some <|
      match replies.load with
      | .error e => .error (.engine e)
      | .ok () => .ok (some .starting)
  | .starting => some <|
      match replies.backendStatus with
      | .error e => .error (.engine e)
      | .ok (.running _) =>
          match replies.waitPortReady, replies.insertProxyRoute with
          | .error e, _ => .error (.engine e)
          | .ok (), .error e => .error (.engine e)
          | .ok (), .ok () => .ok (some .ready)
      | .ok _ => .ok (some .errorStarting)
  | .ready =>
      match replies.backendStatus with
      | .error e => some (.error (.engine e))
      | .ok .failed => some (.ok (some .failed))
      | .ok .exited => some (.ok (some .exited))
      | .ok .terminated => some (.ok (some .swept))
      | .ok _ =>
          match waitForIdle range maxIdleSecs replies.idle with
          | none => none
          | some (.error e) => some (.error e)
          | some (.ok ()) => some (.ok (some .swept))
  | .errorLoading | .errorStarting | .timedOutBeforeReady | .failed | .exited | .swept
  | .terminated => some <|
      match replies.stop with
      | .error e => .error (.message ("Error stopping container: " ++ e))
      | .ok () => .ok none

/-- The transitions `step` can return: its table in §4.5. -/
def stepEdge : BackendState → BackendState → Bool
  | .loading, .starting => true
  | .starting, .ready => true
  | .starting, .errorStarting => true
  | .ready, .failed => true
  | .ready, .exited => true
  | .ready, .swept => true
  | _, _ => false

section

variable {range : TimeRange} {maxIdleSecs : Nat} {replies : StepReplies} {s s' : BackendState}

/-- A step that moves to a new state takes an edge of the table. -/
theorem stepEdge_of_step (h : step range maxIdleSecs replies s = some (.ok (some s'))) :
    stepEdge s s' = true := by
  cases s <;> simp only [step] at h <;> repeat' (first | split at h | simp at h)
  all_goals (subst h; rfl)

/-- A step that ends the run stops the container of a terminal state. -/
theorem terminal_of_step (h : step range maxIdleSecs replies s = some (.ok none)) :
    s.terminal = true := by
  cases s <;> simp only [step] at h <;> repeat' (first | split at h | simp at h)
  all_goals rfl

/-- The error of the engine call the step of a state issues first, if it failed: `load` in
`Loading`, `backend_status` in `Starting` and `Ready`, `stop` in a terminal state. -/
def StepReplies.firstCallError (replies : StepReplies) : BackendState → Option String
  | .loading =>
      match replies.load with
      | .error e => some e
      | .ok _ => none
  | .starting | .ready =>
      match replies.backendStatus with
      | .error e => some e
      | .ok _ => none
  | .errorLoading | .errorStarting | .timedOutBeforeReady | .failed | .exited | .swept
  | .terminated =>
      match replies.stop with
      | .error e => some e
      | .ok _ => none

/-- Each step awaits its first engine call before anything else: when that call fails, the step
fails, whatever the other calls would answer. -/
theorem step_error_of_firstCallError {e : String} (h : replies.firstCallError s = some e) :
    ∃ err, step range maxIdleSecs replies s = some (.error err) := by
  cases s <;> simp only [StepReplies.firstCallError] at h <;> split at h <;> cases h <;>
    simp_all [step]

/-- The step of a terminal state is its call to `engine.stop`: it ends as the stop answers. -/
theorem step_of_terminal (hs : s.terminal = true) :
    step range maxIdleSecs replies s = some
      (match replies.stop with
        | .error e => .error (.message ("Error stopping container: " ++ e))
        | .ok () => .ok none) := by
  cases s <;> first | rfl | simp [BackendState.terminal] at hs

/-- The step of any other state never reads what `engine.stop` answers: it does not call it. -/
theorem step_stop_unread (hs : s.terminal = false) (stop : Except String Unit) :
    step range maxIdleSecs { replies with stop := stop } s = step range maxIdleSecs replies s := by
  cases s <;> first | rfl | simp [BackendState.terminal] at hs

end

/-! ## The two clock reads of the idle-wait loop -/

/-- `next_check` in a turn of the idle-wait loop: `last_active + max_idle` when the store answered
and the sum is an instant. -/
def IdleTick.nextCheck (range : TimeRange) (maxIdle : Int) (tick : IdleTick) : Option Int :=
  match tick.lastActive with
  | .ok lastActive => range.checkedAddSigned lastActive maxIdle
  | .error _ => none

/-- A backend whose container runs, whose store answers, and whose deadline of ten seconds is
representable, still fails its `Ready` step: the clock reads exactly the deadline at the
comparison and one nanosecond later at the sleep, so `to_std` gets a negative duration. -/
theorem step_ready_fails_between_clock_reads :
    let range : TimeRange := ⟨-seconds 100, seconds 100, seconds 100⟩
    let replies : StepReplies :=
      { load := .ok (), backendStatus := .ok (.running "10.0.0.2:8080"), waitPortReady := .ok (),
        insertProxyRoute := .ok (), idle := [⟨.ok 0, seconds 10, seconds 10 + 1⟩], stop := .ok () }
    seconds 10 ≤ seconds 10 + 1 ∧ range.fromStd (seconds 10).toNat = some (seconds 10) ∧
      range.checkedAddSigned 0 (seconds 10) = some (seconds 10) ∧
      step range (seconds 10).toNat replies .ready = some (.error .outOfRange) := by
  decide

/-! ## When the idle wait ends -/

section

variable {range : TimeRange} {maxIdleSecs : Nat} {maxIdle nextCheck : Int} {tick : IdleTick}
  {ticks : List IdleTick}

theorem waitForIdle_cons_of_past (hstd : range.fromStd maxIdleSecs = some maxIdle)
    (hnext : tick.nextCheck range maxIdle = some nextCheck) (hlt : nextCheck < tick.checkNow) :
    waitForIdle range maxIdleSecs (tick :: ticks) = some (.ok ()) := by
  unfold IdleTick.nextCheck at hnext
  split at hnext
  · rename_i lastActive hactive
    simp only [waitForIdle, hactive, hstd, hnext, if_pos hlt]
  · cases hnext

theorem waitForIdle_cons_of_wait (hstd : range.fromStd maxIdleSecs = some maxIdle)
    (hnext : tick.nextCheck range maxIdle = some nextCheck) (hle : tick.checkNow ≤ nextCheck)
    (hsleep : tick.sleepNow ≤ nextCheck) :
    waitForIdle range maxIdleSecs (tick :: ticks) = waitForIdle range maxIdleSecs ticks := by
  have hsleep' : toStd (nextCheck - tick.sleepNow) = some (nextCheck - tick.sleepNow).toNat :=
    if_pos (by omega)
  unfold IdleTick.nextCheck at hnext
  split at hnext
  · rename_i lastActive hactive
    simp only [waitForIdle, hactive, hstd, hnext, if_neg (Int.not_lt.mpr hle), hsleep']
  · cases hnext

theorem waitForIdle_cons_eq_ok (h : waitForIdle range maxIdleSecs (tick :: ticks) = some (.ok ())) :
    ∃ maxIdle nextCheck, range.fromStd maxIdleSecs = some maxIdle ∧
      tick.nextCheck range maxIdle = some nextCheck ∧
      (nextCheck < tick.checkNow ∨ (tick.checkNow ≤ nextCheck ∧ tick.sleepNow ≤ nextCheck ∧
        waitForIdle range maxIdleSecs ticks = some (.ok ()))) := by
  simp only [waitForIdle] at h
  rcases hactive : tick.lastActive with e | lastActive <;> simp only [hactive] at h
  · simp at h
  rcases hstd : range.fromStd maxIdleSecs with _ | maxIdle <;> simp only [hstd] at h
  · simp at h
  rcases hadd : range.checkedAddSigned lastActive maxIdle with _ | nextCheck <;>
    simp only [hadd] at h
  · simp at h
  refine ⟨maxIdle, nextCheck, rfl, by simp [IdleTick.nextCheck, hactive, hadd], ?_⟩
  split_ifs at h with hlt
  · exact .inl hlt
  rcases hsleep : toStd (nextCheck - tick.sleepNow) with _ | d <;> simp only [hsleep] at h
  · simp at h
  · have hnonneg : ¬ nextCheck - tick.sleepNow < 0 := fun hneg => by
      simp [toStd_eq_none.mpr hneg] at hsleep
    exact .inr ⟨Int.not_lt.mp hlt, by omega, h⟩

end

/-- The idle-wait loop ends, and `step` in `Ready` returns `Swept`, exactly when in some turn the
clock is past `next_check`, and in every turn before it the store answered, `next_check` was an
instant the clock had not passed, and the loop could sleep until it. -/
theorem waitForIdle_eq_ok_iff (range : TimeRange) (maxIdleSecs : Nat) (ticks : List IdleTick) :
    waitForIdle range maxIdleSecs ticks = some (.ok ()) ↔
      ∃ maxIdle, range.fromStd maxIdleSecs = some maxIdle ∧
        ∃ pre tick post, ticks = pre ++ tick :: post ∧
          (∀ t ∈ pre, ∃ nextCheck, t.nextCheck range maxIdle = some nextCheck ∧
            t.checkNow ≤ nextCheck ∧ t.sleepNow ≤ nextCheck) ∧
          ∃ nextCheck, tick.nextCheck range maxIdle = some nextCheck ∧ nextCheck < tick.checkNow := by
  constructor
  · intro h
    induction ticks with
    | nil => simp [waitForIdle] at h
    | cons tick ticks ih =>
        obtain ⟨maxIdle, nextCheck, hstd, hnext, hlt | ⟨hle, hsleep, hrest⟩⟩ :=
          waitForIdle_cons_eq_ok h
        · exact ⟨maxIdle, hstd, [], tick, ticks, rfl, by simp, nextCheck, hnext, hlt⟩
        · obtain ⟨maxIdle', hstd', pre, t, post, rfl, hpre, ht⟩ := ih hrest
          cases hstd.symm.trans hstd'
          refine ⟨maxIdle, hstd, tick :: pre, t, post, rfl, ?_, ht⟩
          rintro t' (_ | ⟨_, ht'⟩)
          · exact ⟨nextCheck, hnext, hle, hsleep⟩
          · exact hpre t' ht'
  · rintro ⟨maxIdle, hstd, pre, tick, post, rfl, hpre, nextCheck, hnext, hlt⟩
    induction pre with
    | nil => exact waitForIdle_cons_of_past hstd hnext hlt
    | cons t pre ih =>
        obtain ⟨nextCheck', hnext', hle, hsleep⟩ := hpre t (List.mem_cons_self _ _)
        rw [List.cons_append, waitForIdle_cons_of_wait hstd hnext' hle hsleep]
        exact ih fun t' ht' => hpre t' (List.mem_cons_of_mem _ ht')

end Plane.Drone

import Plane.Controller.Scheduler

/-! # Scheduling returns exactly the live drones

A history is the list of status messages the controller received, each with the time it
applied it at. Drone `d` of cluster `c` is live at `now` when its last message in `c` is ready
and was applied later than `now - 5 s`. Replaying any history, in any order of clusters, drones
and timestamps, leaves the scheduler stamping exactly these last ready messages. So `schedule`
returns a drone only when it is live, and `NoDroneAvailable` only when the cluster has no live
drone.
-/

namespace Plane.Controller

/-- A status message with the time `update_status` applied it at. -/
abbrev StatusUpdate := Int × DroneStatusMessage

/-- The scheduler after applying `history`, in order, to `Scheduler::default()`. -/
def replay (history : List StatusUpdate) : Scheduler :=
  history.foldl (fun s u => s.updateStatus u.1 u.2) Scheduler.empty

/-- The last message of `history` about drone `d` of cluster `c`. -/
def lastMessage (history : List StatusUpdate) (c : ClusterName) (d : DroneId) :
    Option StatusUpdate :=
  (history.filter fun u => u.2.cluster = c ∧ u.2.droneId = d).getLast?

/-- Drone `d` of cluster `c` is live at `now`: its last message is ready and was applied
strictly later than `now - 5 s`. -/
def live (history : List StatusUpdate) (c : ClusterName) (d : DroneId) (now : Int) : Bool :=
  match lastMessage history c d with
  | some (t, status) => status.ready && decide (now - Scheduler.livenessWindow < t)
  | none => false

theorem replay_append_singleton (history : List StatusUpdate) (u : StatusUpdate) :
    replay (history ++ [u]) = (replay history).updateStatus u.1 u.2 := by
  simp [replay, List.foldl_append]

theorem lastMessage_append_singleton (history : List StatusUpdate) (u : StatusUpdate)
    (c : ClusterName) (d : DroneId) :
    lastMessage (history ++ [u]) c d =
      if u.2.cluster = c ∧ u.2.droneId = d then some u else lastMessage history c d := by
  unfold lastMessage
  rw [List.filter_append, List.getLast?_append]
  split_ifs with h <;> simp [h]

/-- The invariant of a replay: the scheduler stamps a drone with the time of its last message
when that message is ready, and holds no stamp for it otherwise. -/
theorem droneTime_replay (history : List StatusUpdate) (c : ClusterName) (d : DroneId) :
    (replay history).droneTime c d =
      (lastMessage history c d).bind fun u => if u.2.ready then some u.1 else none := by
  induction history using List.reverseRecOn with
  | nil => rfl
  | append_singleton history u ih =>
      rw [replay_append_singleton, Scheduler.droneTime_updateStatus, ih,
        lastMessage_append_singleton]
      split_ifs <;> simp_all

theorem live_iff_droneTime (history : List StatusUpdate) (c : ClusterName) (d : DroneId)
    (now : Int) :
    live history c d now = true ↔
      ∃ t, (replay history).droneTime c d = some t ∧ now - Scheduler.livenessWindow < t := by
  rw [droneTime_replay]
  unfold live
  rcases lastMessage history c d with _ | ⟨t, ⟨_, _, _ | _⟩⟩ <;> simp

/-- For every history of status updates and every `now` whose threshold `now - 5 s` chrono can
represent, `schedule` can return exactly the live drones of the cluster, and can return
`NoDroneAvailable` exactly when the cluster has none, a cluster never seen included. -/
theorem schedule_returns_live_drones (range : TimeRange) (history : List StatusUpdate)
    (c : ClusterName) (now : Int) (hnow : range.Represents (now - Scheduler.livenessWindow)) :
    (∀ d, (∃ pick, (replay history).schedule range c now pick = some (.ok d)) ↔
        live history c d now = true) ∧
      ((∃ pick, (replay history).schedule range c now pick = some (.error .noDroneAvailable)) ↔
        ∀ d, live history c d now = false) := by
  have hthreshold : range.checkedSubSigned now Scheduler.livenessWindow =
      some (now - Scheduler.livenessWindow) := by simp [hnow]
  refine ⟨fun d => ?_, ?_⟩
  · rw [Scheduler.exists_schedule_eq_ok hthreshold, live_iff_droneTime]
  · rw [Scheduler.exists_schedule_eq_error hthreshold]
    simp only [← Bool.not_eq_true, live_iff_droneTime, not_exists, not_and, Int.not_lt]

/-- A drone that reported ready at time 0 is scheduled alone at 3 s. -/
theorem schedule_returns_live_drones_one_ready :
    let range : TimeRange := ⟨-(seconds 100), seconds 100, seconds 100⟩
    let history : List StatusUpdate := [(0, ⟨⟨"d1"⟩, ⟨"c"⟩, true⟩)]
    (∀ d, (∃ pick, (replay history).schedule range ⟨"c"⟩ (seconds 3) pick = some (.ok d)) ↔
        live history ⟨"c"⟩ d (seconds 3) = true) ∧
      ((∃ pick, (replay history).schedule range ⟨"c"⟩ (seconds 3) pick =
          some (.error .noDroneAvailable)) ↔
        ∀ d, live history ⟨"c"⟩ d (seconds 3) = false) :=
  schedule_returns_live_drones _ _ _ _ (by decide)

end Plane.Controller

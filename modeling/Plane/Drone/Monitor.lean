import Plane.Drone.RunBackend

/-! # The monitor of a backend

`run_backend` installs a `BackendMonitor` in `backend_to_monitor` each time it enters a running
state, and `resume_backends` installs one before it resumes a backend stored in a running state.
The entry is removed once, after the loop: it stays while the steps of later states run, `Swept`
and the other terminal states included, and the return on a lost sender skips the removal.

`backend_to_monitor` is keyed by the backend id, so every run of a backend writes the same entry.
`monitorAfter` follows what one task writes to it: that is the entry of the backend while the task
is its only run, as it is when every start and resume names a backend with no run going
(`SpawnsFresh`, in `Plane.Drone.Listener`). A second run of the same backend overwrites or
removes the entry behind the first one's back, and these results say nothing of that case.
-/

namespace Plane.Drone

open Plane

/-- Whether the backend's monitor is installed after `effs`, when it was `installed` before. -/
def monitorAfter (installed : Bool) (effs : List Effect) : Bool :=
  effs.foldl (fun m e =>
    match e with
    | .insertMonitor => true
    | .removeMonitor => false
    | _ => m) installed

@[simp] theorem monitorAfter_nil (installed : Bool) : monitorAfter installed [] = installed := rfl

@[simp] theorem monitorAfter_append (installed : Bool) (effs effs' : List Effect) :
    monitorAfter installed (effs ++ effs') = monitorAfter (monitorAfter installed effs) effs' :=
  List.foldl_append _ _ _ _

end Plane.Drone

import Mathlib.Data.List.AList
import Plane.Chrono

/-! # The controller's scheduler

`Scheduler` keeps, for each cluster, the time of the last ready status of each of its drones.
`update_status` inserts a drone on a ready status and removes it on a not-ready one; `schedule`
keeps the drones heard from within the last five seconds and picks one of them at random.
Both maps are `DashMap`s; each is a Mathlib `AList`, whose keys are distinct by construction.
The random pick is an index drawn by the generator, so the results `schedule` can return are
those it returns for some index.
-/

namespace Plane.Controller

/-- `ClusterName`. -/
structure ClusterName where
  name : String
  deriving DecidableEq, Repr

/-- `DroneId`. -/
structure DroneId where
  id : String
  deriving DecidableEq, Repr

/-- The fields of `DroneStatusMessage` that the scheduler reads. -/
structure DroneStatusMessage where
  droneId : DroneId
  cluster : ClusterName
  ready : Bool
  deriving DecidableEq, Repr

/-- `SchedulerError`. -/
inductive SchedulerError
  | noDroneAvailable
  deriving DecidableEq, Repr

/-- The drones of one cluster, each with the time of its last ready status. -/
abbrev DroneTimes := AList fun _ : DroneId => Int

/-- `Scheduler`: `last_status` maps a cluster to its drones' last ready times. -/
structure Scheduler where
  lastStatus : AList fun _ : ClusterName => DroneTimes

namespace Scheduler

/-- `Scheduler::default()`. -/
def empty : Scheduler := ⟨∅⟩

/-- `Scheduler::update_status`: the cluster's map is created on first sight; a ready drone is
stamped with `timestamp`, a drone that is not ready is removed. -/
def updateStatus (s : Scheduler) (timestamp : Int) (status : DroneStatusMessage) : Scheduler :=
  let clusterMap := (s.lastStatus.lookup status.cluster).getD ∅
  let clusterMap := if status.ready then clusterMap.insert status.droneId timestamp
    else clusterMap.erase status.droneId
  ⟨s.lastStatus.insert status.cluster clusterMap⟩

/-- How long a ready status keeps a drone schedulable: `Duration::seconds(5)`. -/
def livenessWindow : Int := seconds 5

/-- `drone_ids` in `Scheduler::schedule`: the drones of `cluster` whose last ready status is
later than `thresholdTime`; `none` when the cluster has never been seen. -/
def liveDrones (s : Scheduler) (cluster : ClusterName) (thresholdTime : Int) :
    Option (List DroneId) :=
  (s.lastStatus.lookup cluster).map fun drones =>
    (drones.entries.filter fun d => thresholdTime < d.2).map Sigma.fst

/-- `SliceRandom::choose` with the index `pick` drawn by `thread_rng`. -/
def choose (droneIds : List DroneId) (pick : Nat) : Option DroneId :=
  droneIds[pick % droneIds.length]?

/-- `Scheduler::schedule`. The outer `none` is the panic of `unwrap` when
`current_timestamp - 5 s` leaves chrono's range. -/
def schedule (range : TimeRange) (s : Scheduler) (cluster : ClusterName)
    (currentTimestamp : Int) (pick : Nat) : Option (Except SchedulerError DroneId) :=
  (range.checkedSubSigned currentTimestamp livenessWindow).map fun thresholdTime =>
    match s.liveDrones cluster thresholdTime with
    | none => .error .noDroneAvailable
    | some droneIds =>
        match choose droneIds pick with
        | some droneId => .ok droneId
        | none => .error .noDroneAvailable

/-! ## Lookups after an update -/

/-- The time of the last ready status of drone `d` in cluster `c`. -/
def droneTime (s : Scheduler) (c : ClusterName) (d : DroneId) : Option Int :=
  (s.lastStatus.lookup c).bind (·.lookup d)

@[simp] theorem droneTime_empty (c : ClusterName) (d : DroneId) : empty.droneTime c d = none :=
  rfl

theorem lookup_getD_empty (o : Option DroneTimes) (d : DroneId) :
    (o.getD ∅).lookup d = o.bind (·.lookup d) := by
  cases o <;> rfl

theorem droneTime_updateStatus (s : Scheduler) (timestamp : Int) (status : DroneStatusMessage)
    (c : ClusterName) (d : DroneId) :
    (s.updateStatus timestamp status).droneTime c d =
      if status.cluster = c ∧ status.droneId = d then
        (if status.ready then some timestamp else none)
      else s.droneTime c d := by
  unfold droneTime updateStatus
  by_cases hc : status.cluster = c
  · subst hc
    simp only [AList.lookup_insert, Option.some_bind, true_and]
    by_cases hd : status.droneId = d
    · subst hd
      cases status.ready <;> simp [AList.lookup_insert, AList.lookup_erase]
    · cases status.ready <;>
        simp [AList.lookup_insert_ne (Ne.symm hd), AList.lookup_erase_ne (Ne.symm hd),
          lookup_getD_empty, hd]
  · simp [AList.lookup_insert_ne (Ne.symm hc), hc]

theorem isSome_lookup_updateStatus (s : Scheduler) (timestamp : Int)
    (status : DroneStatusMessage) (c : ClusterName) :
    ((s.updateStatus timestamp status).lastStatus.lookup c).isSome =
      (status.cluster = c || (s.lastStatus.lookup c).isSome) := by
  unfold updateStatus
  by_cases hc : status.cluster = c
  · subst hc; simp [AList.lookup_insert]
  · simp [AList.lookup_insert_ne (Ne.symm hc), hc]

/-! ## What `schedule` can return -/

theorem exists_choose_eq_some {droneIds : List DroneId} {d : DroneId} :
    (∃ pick, choose droneIds pick = some d) ↔ d ∈ droneIds := by
  simp only [choose, List.getElem?_eq_some_iff, List.mem_iff_getElem]
  constructor
  · rintro ⟨pick, h, rfl⟩
    exact ⟨_, h, rfl⟩
  · rintro ⟨n, h, rfl⟩
    exact ⟨n, by rwa [Nat.mod_eq_of_lt h], by simp [Nat.mod_eq_of_lt h]⟩

@[simp] theorem choose_nil (pick : Nat) : choose [] pick = none := rfl

@[simp] theorem choose_eq_none {droneIds : List DroneId} {pick : Nat} :
    choose droneIds pick = none ↔ droneIds = [] := by
  simp only [choose, List.getElem?_eq_none_iff]
  constructor
  · intro h
    by_contra hne
    have := Nat.mod_lt pick (List.length_pos.mpr hne)
    omega
  · rintro rfl
    simp

theorem mem_liveDrones {s : Scheduler} {c : ClusterName} {thresholdTime : Int}
    {droneIds : List DroneId} (h : s.liveDrones c thresholdTime = some droneIds) (d : DroneId) :
    d ∈ droneIds ↔ ∃ t, s.droneTime c d = some t ∧ thresholdTime < t := by
  unfold liveDrones at h
  unfold droneTime
  obtain ⟨drones, hlook, rfl⟩ := Option.map_eq_some'.mp h
  simp only [hlook, Option.some_bind, List.mem_map, List.mem_filter, decide_eq_true_eq]
  constructor
  · rintro ⟨⟨d', t⟩, ⟨hmem, ht⟩, rfl⟩
    exact ⟨t, AList.mem_lookup_iff.mpr hmem, ht⟩
  · rintro ⟨t, hlook', ht⟩
    exact ⟨⟨d, t⟩, ⟨AList.mem_lookup_iff.mp hlook', ht⟩, rfl⟩

theorem schedule_eq_some_ok {range : TimeRange} {s : Scheduler} {c : ClusterName}
    {currentTimestamp thresholdTime : Int}
    (hthreshold : range.checkedSubSigned currentTimestamp livenessWindow = some thresholdTime)
    (d : DroneId) :
    (∃ pick, s.schedule range c currentTimestamp pick = some (.ok d)) ↔
      ∃ droneIds, s.liveDrones c thresholdTime = some droneIds ∧ d ∈ droneIds := by
  simp only [schedule, hthreshold, Option.map_some', Option.some.injEq]
  cases hlive : s.liveDrones c thresholdTime with
  | none => simp
  | some droneIds =>
      simp only [Option.some.injEq, exists_eq_left', ← exists_choose_eq_some]
      refine exists_congr fun pick => ?_
      cases choose droneIds pick <;> simp

theorem schedule_eq_some_error {range : TimeRange} {s : Scheduler} {c : ClusterName}
    {currentTimestamp thresholdTime : Int}
    (hthreshold : range.checkedSubSigned currentTimestamp livenessWindow = some thresholdTime)
    (pick : Nat) :
    s.schedule range c currentTimestamp pick = some (.error .noDroneAvailable) ↔
      s.liveDrones c thresholdTime = none ∨ s.liveDrones c thresholdTime = some [] := by
  simp only [schedule, hthreshold, Option.map_some', Option.some.injEq]
  cases s.liveDrones c thresholdTime with
  | none => simp
  | some droneIds =>
      cases hchoose : choose droneIds pick with
      | none => simp [choose_eq_none.mp hchoose]
      | some d =>
          have hne : droneIds ≠ [] := by rintro rfl; simp at hchoose
          simp [hchoose, hne]

theorem liveDrones_eq_none {s : Scheduler} {c : ClusterName} {thresholdTime : Int} :
    s.liveDrones c thresholdTime = none ↔ s.lastStatus.lookup c = none := by
  simp [liveDrones]

/-- `schedule` can return drone `d` exactly when `d` is stamped after the threshold. -/
theorem exists_schedule_eq_ok {range : TimeRange} {s : Scheduler} {c : ClusterName}
    {currentTimestamp thresholdTime : Int}
    (hthreshold : range.checkedSubSigned currentTimestamp livenessWindow = some thresholdTime)
    (d : DroneId) :
    (∃ pick, s.schedule range c currentTimestamp pick = some (.ok d)) ↔
      ∃ t, s.droneTime c d = some t ∧ thresholdTime < t := by
  rw [schedule_eq_some_ok hthreshold]
  cases hlive : s.liveDrones c thresholdTime with
  | none =>
      have hlook := liveDrones_eq_none.mp hlive
      simp [droneTime, hlook]
  | some droneIds => simp [mem_liveDrones hlive]

/-- `schedule` can return `NoDroneAvailable` exactly when no drone of the cluster is stamped
after the threshold, the cluster never seen included. -/
theorem exists_schedule_eq_error {range : TimeRange} {s : Scheduler} {c : ClusterName}
    {currentTimestamp thresholdTime : Int}
    (hthreshold : range.checkedSubSigned currentTimestamp livenessWindow = some thresholdTime) :
    (∃ pick, s.schedule range c currentTimestamp pick = some (.error .noDroneAvailable)) ↔
      ∀ d t, s.droneTime c d = some t → t ≤ thresholdTime := by
  simp only [schedule_eq_some_error hthreshold, exists_const]
  cases hlive : s.liveDrones c thresholdTime with
  | none =>
      have hlook := liveDrones_eq_none.mp hlive
      simp [droneTime, hlook]
  | some droneIds =>
      simp only [reduceCtorEq, Option.some.injEq, false_or]
      constructor
      · rintro rfl d t hd
        by_contra hlt
        simpa using (mem_liveDrones hlive d).mpr ⟨t, hd, Int.lt_of_not_ge hlt⟩
      · intro hnone
        refine List.eq_nil_iff_forall_not_mem.mpr fun d hd => ?_
        obtain ⟨t, hd, hlt⟩ := (mem_liveDrones hlive d).mp hd
        exact absurd (hnone d t hd) (Int.not_le.mpr hlt)

/-! ## A ready status withdrawn -/

theorem erase_insert_of_not_mem {m : DroneTimes} {d : DroneId} (t : Int) (h : d ∉ m) :
    (m.insert d t).erase d = m :=
  AList.ext <| show (m.insert d t).entries.kerase d = m.entries by
    rw [AList.insert_entries_of_neg h]
    exact List.kerase_cons_eq rfl

/-- `schedule` answers from the drones of the cluster stamped after the threshold, a cluster never
seen counted as having none. -/
theorem schedule_eq_choose (range : TimeRange) (s : Scheduler) (c : ClusterName)
    (currentTimestamp : Int) (pick : Nat) :
    s.schedule range c currentTimestamp pick =
      (range.checkedSubSigned currentTimestamp livenessWindow).map fun thresholdTime =>
        match choose ((((s.lastStatus.lookup c).getD ∅).entries.filter
            fun d => thresholdTime < d.2).map Sigma.fst) pick with
        | some droneId => .ok droneId
        | none => .error .noDroneAvailable := by
  unfold schedule liveDrones
  congr
  funext thresholdTime
  cases s.lastStatus.lookup c <;> rfl

/-- A ready status and then a not-ready one from a drone that has no time leave each cluster's
drones as they were, in the same order; a cluster seen for the first time is left empty. -/
theorem lookup_getD_ready_then_not_ready {s : Scheduler} {c : ClusterName} {d : DroneId}
    (t t' : Int) (hd : s.droneTime c d = none) (c' : ClusterName) :
    (((s.updateStatus t ⟨d, c, true⟩).updateStatus t' ⟨d, c, false⟩).lastStatus.lookup c').getD ∅ =
      (s.lastStatus.lookup c').getD ∅ := by
  by_cases hc : c = c'
  · subst hc
    have hm : d ∉ (s.lastStatus.lookup c).getD ∅ := by
      rw [← AList.lookup_eq_none, lookup_getD_empty]
      exact hd
    simp [updateStatus, AList.lookup_insert, erase_insert_of_not_mem _ hm]
  · simp [updateStatus, AList.lookup_insert_ne (Ne.symm hc)]

/-- A ready status and then a not-ready one from a drone the scheduler has no time for change no
answer of `schedule`, whatever the cluster, the time and the random pick: the scheduler answers
as if it had never heard from the drone, though the first status creates the cluster's map when
the cluster is new. -/
theorem schedule_ready_then_not_ready (range : TimeRange) (s : Scheduler) (c : ClusterName)
    (d : DroneId) (t t' : Int) (hd : s.droneTime c d = none) (c' : ClusterName)
    (currentTimestamp : Int) (pick : Nat) :
    ((s.updateStatus t ⟨d, c, true⟩).updateStatus t' ⟨d, c, false⟩).schedule range c'
        currentTimestamp pick =
      s.schedule range c' currentTimestamp pick := by
  rw [schedule_eq_choose, schedule_eq_choose, lookup_getD_ready_then_not_ready t t' hd]

/-- A drone of a new cluster reports ready and then not ready; asked at 3 s, the scheduler
answers as it did before hearing from it. -/
theorem schedule_ready_then_not_ready_new_cluster :
    let range : TimeRange := ⟨-(seconds 100), seconds 100, seconds 100⟩
    empty.droneTime ⟨"c"⟩ ⟨"d1"⟩ = none ∧
      ((empty.updateStatus 0 ⟨⟨"d1"⟩, ⟨"c"⟩, true⟩).updateStatus (seconds 1)
          ⟨⟨"d1"⟩, ⟨"c"⟩, false⟩).schedule range ⟨"c"⟩ (seconds 3) 0 =
        empty.schedule range ⟨"c"⟩ (seconds 3) 0 :=
  ⟨rfl, schedule_ready_then_not_ready _ empty ⟨"c"⟩ ⟨"d1"⟩ 0 (seconds 1) rfl ⟨"c"⟩ (seconds 3) 0⟩

example : ((empty.updateStatus 0 ⟨⟨"d1"⟩, ⟨"c"⟩, true⟩).updateStatus (seconds 1)
    ⟨⟨"d1"⟩, ⟨"c"⟩, false⟩).lastStatus.lookup ⟨"c"⟩ = some ∅ :=
  rfl

end Scheduler

end Plane.Controller

import Plane.Drone.Executor

/-! # The entries of `backend_to_listener`

`run_backend` inserts its sender under its backend's id, and when it leaves its loop removes
whatever entry the id has; neither checks whose sender the entry holds. Still, the map never
holds the sender of a run that returned: a run returns after removing its backend's entry, or
because its own entry had gone. A kill waiting in `send` holds a `Ref` to the entry it read,
which no write replaces meanwhile.

Two runs of one backend are another matter. A second `start_backend` of a backend whose run is
still going replaces that run's entry, and whichever run ends first removes the other's. When
`start_backend` and `resume_backends` are given only backends none of whose runs is still going,
each backend has at most one such run, its entry is present exactly while the run is live, and
no run loses its sender.
-/

namespace Plane.Drone

open Plane

namespace Executor

variable {shard : BackendId → Nat} {range : TimeRange}

/-- Every entry of `backend_to_listener` holds the sender of a live run of its backend. -/
def EntriesLive (σ : Executor) : Prop :=
  ∀ b chan, σ.backendToListener.lookup b = some chan →
    ∃ r, σ.runs[chan]? = some r ∧ r.request.backendId = b ∧ r.task.pc.live = true

/-- A kill waiting in `send` holds the entry it read. -/
def KillsHoldEntries (σ : Executor) : Prop :=
  ∀ (k : Nat) (b : BackendId) (chan : Nat), σ.kills[k]? = some ⟨b, .sending chan⟩ →
    σ.backendToListener.lookup b = some chan

/-- The entries other than the one of run `i`'s backend survive a move of run `i` that keeps
the map's other entries. -/
theorem EntriesLive.set {σ : Executor} {i : Nat} {r : Run} {task : Task}
    (h : EntriesLive σ) (hr : σ.runs[i]? = some r) {b' : BackendId} {chan' : Nat}
    (hb : σ.backendToListener.lookup b' = some chan')
    (hne : b' ≠ r.request.backendId ∨ (r.task.pc.live = true → task.pc.live = true)) :
    ∃ r', (σ.runs.set i ⟨r.request, task⟩)[chan']? = some r' ∧ r'.request.backendId = b' ∧
      r'.task.pc.live = true := by
  obtain ⟨r', hr', hrb, hlive⟩ := h b' chan' hb
  by_cases hi : i = chan'
  · subst hi
    cases hr.symm.trans hr'
    refine ⟨_, getElem?_set_self_of_eq_some hr, hrb, ?_⟩
    rcases hne with hne | hne
    · exact absurd hrb.symm hne
    · exact hne hlive
  · exact ⟨r', by rwa [List.getElem?_set_ne hi], hrb, hlive⟩

theorem Move.entriesLive {σ τ : Executor} {a : Action} (hmove : Move shard range σ a τ)
    (h : EntriesLive σ) : EntriesLive τ := by
  cases hmove with
  | startBackend | resumeBackend =>
      intro b chan hb
      obtain ⟨r, hr, hrb, hlive⟩ := h b chan hb
      exact ⟨r, getElem?_append_of_eq_some hr, hrb, hlive⟩
  | @insert i r task effs hr hpc hnext hlock =>
      intro b chan hb
      by_cases hbi : b = r.request.backendId
      · subst hbi
        rw [AList.lookup_insert, Option.some.injEq] at hb
        subst hb
        refine ⟨_, getElem?_set_self_of_eq_some hr, rfl, ?_⟩
        rw [(Task.Move.of_next hnext).pc_of_listen hpc]
        rfl
      · rw [AList.lookup_insert_ne hbi] at hb
        exact h.set hr hb (.inl hbi)
  | @remove i r task effs hr hpc hnext hlock =>
      intro b chan hb
      by_cases hbi : b = r.request.backendId
      · subst hbi
        simp at hb
      · rw [AList.lookup_erase_ne hbi] at hb
        exact h.set hr hb (.inl hbi)
  | @receive i r sig task effs hr hnext hslot =>
      intro b chan hb
      exact h.set hr hb (.inr fun _ => ((Task.Move.of_next hnext).receive_live).2.1)
  | @lose i r task effs hr hnext hslot hentry =>
      intro b chan hb
      obtain ⟨r', hr', hrb, hlive⟩ := h b chan hb
      have hi : i ≠ chan := by
        rintro rfl
        cases hr.symm.trans hr'
        exact hentry (hrb ▸ hb)
      exact ⟨r', by rwa [List.getElem?_set_ne hi], hrb, hlive⟩
  | @inner i r e task effs hr hnext hl hrm he =>
      intro b chan hb
      exact h.set hr hb (.inr fun hlive =>
        ((Task.Move.of_next hnext).live_returned hl hrm he).1.trans hlive)
  | killBackend => simpa [EntriesLive] using h
  | _ => exact h

theorem Move.killsHoldEntries {σ τ : Executor} {a : Action} (hmove : Move shard range σ a τ)
    (h : KillsHoldEntries σ) : KillsHoldEntries τ := by
  cases hmove with
  | insert _ _ _ hlock =>
      intro k b chan hk
      rw [AList.lookup_insert_ne fun hb => shard_ne_of_not_readLocked hk hlock (congrArg shard hb)]
      exact h k b chan hk
  | remove _ _ _ hlock =>
      intro k b chan hk
      rw [AList.lookup_erase_ne fun hb => shard_ne_of_not_readLocked hk hlock (congrArg shard hb)]
      exact h k b chan hk
  | killBackend b =>
      intro k b' chan hk
      rw [killBackend_backendToListener]
      unfold Executor.killBackend at hk
      split at hk <;> rcases getElem?_append_singleton_eq_some hk with hk | ⟨-, hkill⟩
      · exact h k b' chan hk
      · cases hkill
        assumption
      · exact h k b' chan hk
      · cases hkill
  | sendClosed | deliver =>
      intro k b chan hk
      rcases getElem?_set_eq_some hk with ⟨-, hkill⟩ | ⟨-, hk⟩
      · cases hkill
      · exact h k b chan hk
  | _ => exact h

/-! ## When every backend is spawned once at a time -/

/-- `start_backend` or `resume_backends` is given a backend none of whose runs is still going. -/
def SpawnsFresh (σ : Executor) : Action → Prop
  | .startBackend request | .resumeBackend request _ =>
      ∀ r ∈ σ.runs, r.request.backendId = request.backendId → r.task.pc.returned = true
  | _ => True

/-- At most one run of each backend is still going. -/
def OneGoing (runs : List Run) : Prop :=
  ∀ (i j : Nat) (ri rj : Run), runs[i]? = some ri → runs[j]? = some rj →
    ri.request.backendId = rj.request.backendId → ri.task.pc.returned = false →
    rj.task.pc.returned = false → i = j

/-- What holds while every backend is spawned once at a time: one run of each backend is still
going, each live run holds its backend's entry, and no run has lost its sender. -/
structure OwnsEntry (σ : Executor) : Prop where
  oneGoing : OneGoing σ.runs
  owns : ∀ (i : Nat) (r : Run), σ.runs[i]? = some r → r.task.pc.live = true →
    σ.backendToListener.lookup r.request.backendId = some i
  notLost : ∀ (i : Nat) (r : Run), σ.runs[i]? = some r → r.task.pc ≠ .lost

theorem OneGoing.set {runs : List Run} {i : Nat} {r : Run} {task : Task} (h : OneGoing runs)
    (hr : runs[i]? = some r) (hret : task.pc.returned = false → r.task.pc.returned = false) :
    OneGoing (runs.set i ⟨r.request, task⟩) := by
  intro i' j' ri rj hi hj hb hri hrj
  rcases getElem?_set_eq_some hi with ⟨rfl, rfl⟩ | ⟨hi', hi⟩ <;>
    rcases getElem?_set_eq_some hj with ⟨rfl, rfl⟩ | ⟨hj', hj⟩
  · rfl
  · exact h _ _ _ _ hr hj hb (hret hri) hrj
  · exact h _ _ _ _ hi hr hb hri (hret hrj)
  · exact h _ _ _ _ hi hj hb hri hrj

/-- A move of run `i`, which is still going, keeps `OwnsEntry` when it keeps the other backends'
entries, gives run `i` its entry if it is live afterwards, and does not lose its sender. -/
theorem OwnsEntry.set {σ τ : Executor} {i : Nat} {r : Run} {task : Task} (h : OwnsEntry σ)
    (hr : σ.runs[i]? = some r) (hgoing : r.task.pc.returned = false) (hlost : task.pc ≠ .lost)
    (hruns : τ.runs = σ.runs.set i ⟨r.request, task⟩)
    (hother : ∀ b, b ≠ r.request.backendId →
      τ.backendToListener.lookup b = σ.backendToListener.lookup b)
    (hself : task.pc.live = true → τ.backendToListener.lookup r.request.backendId = some i) :
    OwnsEntry τ where
  oneGoing := hruns ▸ h.oneGoing.set hr fun _ => hgoing
  owns j rj hj hlive := by
    rw [hruns] at hj
    rcases getElem?_set_eq_some hj with ⟨rfl, rfl⟩ | ⟨hij, hj⟩
    · exact hself hlive
    · have hb : rj.request.backendId ≠ r.request.backendId := fun hb =>
        hij (h.oneGoing _ _ _ _ hr hj hb.symm hgoing (Pc.returned_eq_false_of_live hlive))
      rw [hother _ hb]
      exact h.owns j rj hj hlive
  notLost j rj hj := by
    rw [hruns] at hj
    rcases getElem?_set_eq_some hj with ⟨rfl, rfl⟩ | ⟨-, hj⟩
    · exact hlost
    · exact h.notLost j rj hj

/-- A spawn of a backend none of whose runs is still going keeps `OwnsEntry`. -/
theorem OwnsEntry.spawn {σ : Executor} {request : SpawnRequest} {task : Task} (h : OwnsEntry σ)
    (hfresh : ∀ r ∈ σ.runs, r.request.backendId = request.backendId → r.task.pc.returned = true)
    (hlive : task.pc.live = false) (hlost : task.pc ≠ .lost) :
    OwnsEntry (σ.spawn request task) where
  oneGoing i j ri rj hi hj hb hri hrj := by
    rcases getElem?_append_singleton_eq_some hi with hi | ⟨rfl, rfl⟩ <;>
      rcases getElem?_append_singleton_eq_some hj with hj | ⟨rfl, rfl⟩
    · exact h.oneGoing _ _ _ _ hi hj hb hri hrj
    · simp [hfresh ri (List.getElem?_mem hi) hb] at hri
    · simp [hfresh rj (List.getElem?_mem hj) hb.symm] at hrj
    · rfl
  owns i r hi hl := by
    rcases getElem?_append_singleton_eq_some hi with hi | ⟨-, rfl⟩
    · exact h.owns i r hi hl
    · simp [hlive] at hl
  notLost i r hi := by
    rcases getElem?_append_singleton_eq_some hi with hi | ⟨-, rfl⟩
    · exact h.notLost i r hi
    · exact hlost

theorem Move.ownsEntry {σ τ : Executor} {a : Action} (hmove : Move shard range σ a τ)
    (hfresh : SpawnsFresh σ a) (h : OwnsEntry σ) : OwnsEntry τ := by
  cases hmove with
  | startBackend request => exact h.spawn hfresh rfl (by simp [Task.startBackend])
  | resumeBackend request s => exact h.spawn hfresh rfl (by simp [Task.resumeBackends])
  | @insert i r task effs hr hpc hnext hlock =>
      have hpc' := (Task.Move.of_next hnext).pc_of_listen hpc
      exact h.set hr (by rw [hpc]; rfl) (by simp [hpc']) rfl
        (fun _ hb => AList.lookup_insert_ne hb) (fun _ => AList.lookup_insert _)
  | @remove i r task effs hr hpc hnext hlock =>
      have hpc' := (Task.Move.of_next hnext).pc_of_removeListener hpc
      exact h.set hr (by rw [hpc]; rfl) (by simp [hpc']) rfl
        (fun _ hb => AList.lookup_erase_ne hb) (fun hlive => by simp [hpc', Pc.live] at hlive)
  | @receive i r sig task effs hr hnext hslot =>
      obtain ⟨hl, -, hret, hret'⟩ := (Task.Move.of_next hnext).receive_live
      exact h.set hr hret (Pc.ne_lost_of_returned_eq_false hret') rfl (fun _ _ => rfl)
        fun _ => h.owns i r hr hl
  | @lose i r task effs hr hnext hslot hentry =>
      exact absurd (h.owns i r hr (Task.Move.of_next hnext).lose_live.1) hentry
  | @inner i r e task effs hr hnext hl hrm he =>
      have hmove := Task.Move.of_next hnext
      obtain ⟨hlive, hret⟩ := hmove.live_returned hl hrm he
      have hgoing := hmove.returned_eq_false
      exact h.set hr hgoing (Pc.ne_lost_of_returned_eq_false (hret.trans hgoing)) rfl
        (fun _ _ => rfl) fun hl' => h.owns i r hr (hlive ▸ hl')
  | killBackend =>
      exact ⟨by simpa using h.oneGoing, by simpa using h.owns, by simpa using h.notLost⟩
  | _ => exact ⟨h.oneGoing, h.owns, h.notLost⟩

end Executor

open Executor

/-- For every interleaving of the executor's tasks: every entry of `backend_to_listener` holds the
sender of a live run of its backend, and a kill waiting in `send` holds its backend's entry, so it
waits on a live run of that backend. When every `start_backend` and `resume_backends` names a
backend none of whose runs is still going, each backend has at most one run still going, a run's
sender is its backend's entry exactly while the run is live, and no run returns on a lost
sender. -/
theorem listener_entries_owned (shard : BackendId → Nat) (range : TimeRange)
    (allowed : Executor → Action → Prop) (σ : Executor)
    (hσ : Relation.ReflTransGen (Steps shard range allowed) init σ) :
    EntriesLive σ ∧ KillsHoldEntries σ ∧
      ((∀ τ a, allowed τ a → SpawnsFresh τ a) →
        OneGoing σ.runs ∧
          (∀ (i : Nat) (r : Run), σ.runs[i]? = some r →
            (σ.backendToListener.lookup r.request.backendId = some i ↔ r.task.pc.live = true)) ∧
          ∀ (i : Nat) (r : Run), σ.runs[i]? = some r → r.task.pc ≠ .lost) := by
  have hinv := reaches_induction (fun σ => EntriesLive σ ∧ KillsHoldEntries σ)
    (fun _ _ _ _ h hmove => ⟨hmove.entriesLive h.1, hmove.killsHoldEntries h.2⟩) hσ
    ⟨fun _ _ hb => by simp [init] at hb, fun _ _ _ hk => by simp [init] at hk⟩
  refine ⟨hinv.1, hinv.2, fun hfresh => ?_⟩
  have hown := reaches_induction OwnsEntry
    (fun _ _ _ ha h hmove => hmove.ownsEntry (hfresh _ _ ha) h) hσ
    ⟨fun _ _ _ _ hi => by simp [init] at hi, fun _ _ hi => by simp [init] at hi,
      fun _ _ hi => by simp [init] at hi⟩
  refine ⟨hown.oneGoing, fun i r hr => ⟨fun hb => ?_, hown.owns i r hr⟩, hown.notLost⟩
  obtain ⟨r', hr', -, hlive⟩ := hinv.1 _ _ hb
  cases hr.symm.trans hr'
  exact hlive

/-- A started backend whose run has inserted its sender. -/
theorem listener_entries_owned_after_insert :
    let σ : Executor :=
      ⟨[⟨⟨⟨"b"⟩, 0⟩, ⟨.loading, .stepping false⟩⟩], [none], [], (∅ : AList _).insert ⟨"b"⟩ 0⟩
    EntriesLive σ ∧ KillsHoldEntries σ ∧
      ((∀ τ a, SpawnsFresh τ a → SpawnsFresh τ a) →
        OneGoing σ.runs ∧
          (∀ (i : Nat) (r : Run), σ.runs[i]? = some r →
            (σ.backendToListener.lookup r.request.backendId = some i ↔ r.task.pc.live = true)) ∧
          ∀ (i : Nat) (r : Run), σ.runs[i]? = some r → r.task.pc ≠ .lost) :=
  listener_entries_owned (fun _ => 0) ⟨0, 0, 0⟩ SpawnsFresh _
    (.head ⟨.startBackend ⟨⟨"b"⟩, 0⟩, fun _ h => by simp [init] at h, rfl⟩ <|
      .head ⟨.runBackend 0 (.store true), trivial, rfl⟩ <|
      .head ⟨.runBackend 0 (.publish true), trivial, rfl⟩ <|
      .single ⟨.runBackend 0 .advance, trivial, rfl⟩)

/-- A second `start_backend` of a backend whose run is still going. Both runs are live and the
entry holds the second run's sender. The first run, writing `ErrorLoading` after a failed load and
so not receiving, then removes that entry and returns: the second run goes on with no entry, and
`kill_backend` answers `Unknown backend`. The map has one shard here; no lock decides anything. -/
theorem second_start_orphans_live_run :
    let b : BackendId := ⟨"b"⟩
    let failed : StepReplies := ⟨.error "pull failed", .ok .failed, .ok (), .ok (), [], .ok ()⟩
    let twice : List Action := [.startBackend ⟨b, 0⟩, .runBackend 0 (.store true),
      .runBackend 0 (.publish true), .runBackend 0 .advance, .runBackend 0 .poll,
      .runBackend 0 (.complete failed), .startBackend ⟨b, 0⟩, .runBackend 1 (.store true),
      .runBackend 1 (.publish true), .runBackend 1 .advance]
    let cleanup : List Action := [.runBackend 0 (.store true), .runBackend 0 (.publish true),
      .runBackend 0 .advance, .runBackend 0 .advance, .killBackend b]
    (init.exec (fun _ => 0) ⟨0, 0, 0⟩ twice).map
        (fun σ => (σ.runs.map (·.task.pc), σ.backendToListener.lookup b)) =
      some ([.storing true, .stepping false], some 1) ∧
    (init.exec (fun _ => 0) ⟨0, 0, 0⟩ (twice ++ cleanup)).map
        (fun σ => (σ.runs.map (·.task.pc), σ.backendToListener.lookup b, σ.kills)) =
      some ([.done, .stepping false], none, [⟨b, .finished (.error "Unknown backend b")⟩]) := by
  decide

end Plane.Drone

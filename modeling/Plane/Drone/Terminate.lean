import Plane.Drone.Listener

/-! # Who terminates a backend

A run of `run_backend` enters `Terminated` only on a `Terminate` received from its channel: `step`
never returns that state. The one caller of `send(Terminate)` is `kill_backend`, which sends to the
entry of the backend it was asked for, and returns `Ok(())` once the slot has taken the signal.
So, unless `resume_backends` restarts a backend stored as `Terminated`, every run that has taken a
`Terminate`, or holds one, is paired with its own call of `kill_backend` for its backend that
returned `Ok(())`: the entry of a backend holds the sender of a run of that backend, and each call
fills one slot once.

The `Ref` that `kill_backend` holds across its `send` keeps the entry, and with it the run's
receiver: a run returns only after removing its entry or on losing its sender. So `send` never
fails, and every call returns `Ok(())` or `Unknown backend <id>`.
-/

namespace Plane.Drone

open Plane

/-- A task enters `Terminated` only on a `Terminate`. -/
theorem Task.Move.state_terminated {σ τ : Task} {e : Event} {effs : List Effect}
    (h : Task.Move σ e τ effs) (hτ : τ.state = .terminated) :
    σ.state = .terminated ∨ e = .signal (some .terminate) := by
  cases h with
  | stepTo s s' replies hedge =>
      simp only at hτ
      subst hτ
      cases s <;> simp [stepEdge] at hedge
  | terminate => exact .inr rfl
  | failLoading => cases hτ
  | _ => exact .inl hτ

namespace Executor

variable {shard : BackendId → Nat} {range : TimeRange}

/-- What an event of run `i` does to the executor: it moves that run's task, and at most empties
its slot; a signal is taken only from the slot. -/
theorem runBackend_eq_some {σ τ : Executor} {i : Nat} {e : Event}
    (h : σ.runBackend shard range i e = some τ) :
    ∃ r task effs, σ.runs[i]? = some r ∧
      r.task.runBackend range r.request.maxIdleSecs e = some (task, effs) ∧
      τ.runs = σ.runs.set i ⟨r.request, task⟩ ∧
      (τ.slots = σ.slots ∨ τ.slots = σ.slots.set i none) ∧
      ∀ sig, e = .signal (some sig) → σ.slots[i]? = some (some sig) := by
  simp only [runBackend] at h
  split at h
  · rename_i r slot hr hslot
    split at h
    · cases h
    · rename_i task effs hnext
      refine ⟨r, task, effs, hr, hnext, ?_⟩
      split at h
      all_goals first
        | (split at h <;> cases h <;> simp_all)
        | (cases h; simp_all)
  · cases h

/-- Run `i` is `r`, and holds a `Terminate` in its slot or has taken one. -/
def Terminating (σ : Executor) (i : Nat) (r : Run) : Prop :=
  σ.runs[i]? = some r ∧ (σ.slots[i]? = some (some .terminate) ∨ r.task.state = .terminated)

/-- `g` pairs each run that holds or took a `Terminate` with a `kill_backend` call of the run's
backend that returned `Ok(())`, and no two such runs with the same call. -/
def KillsPaired (σ : Executor) (g : Nat → Nat) : Prop :=
  ∀ i r, Terminating σ i r →
    σ.kills[g i]? = some ⟨r.request.backendId, .finished (.ok ())⟩ ∧
      ∀ j r', Terminating σ j r' → g j = g i → j = i

/-- A pairing survives a move that adds no terminating run and keeps the calls that returned. -/
theorem KillsPaired.of_le {σ τ : Executor} {g : Nat → Nat} (h : KillsPaired σ g)
    (hrun : ∀ i r, Terminating τ i r → ∃ r₀, Terminating σ i r₀ ∧ r₀.request = r.request)
    (hkill : ∀ (k : Nat) (b : BackendId), σ.kills[k]? = some ⟨b, .finished (.ok ())⟩ →
      τ.kills[k]? = some ⟨b, .finished (.ok ())⟩) :
    KillsPaired τ g := by
  intro i r hi
  obtain ⟨r₀, hi₀, hreq⟩ := hrun i r hi
  obtain ⟨hk, huniq⟩ := h i r₀ hi₀
  refine ⟨hreq ▸ hkill _ _ hk, fun j r' hj hg => ?_⟩
  obtain ⟨r₁, hj₁, -⟩ := hrun j r' hj
  exact huniq j r₁ hj₁ hg

/-- A call that returned stays returned. -/
theorem Move.kill_finished {σ τ : Executor} {a : Action} (hmove : Move shard range σ a τ)
    {k : Nat} {b : BackendId} {result : Except String Unit}
    (hk : σ.kills[k]? = some ⟨b, .finished result⟩) : τ.kills[k]? = some ⟨b, .finished result⟩ := by
  rcases hmove.kills_frame hk with h | rfl
  · exact h
  · cases hmove with
    | sendClosed hk' | deliver hk' => cases hk.symm.trans hk'

/-- A move that leaves the runs alone and puts no `Terminate` in a slot adds no terminating
run. -/
theorem terminating_of_runs_eq {σ τ : Executor} (hruns : τ.runs = σ.runs)
    (hslots : ∀ j : Nat,
      τ.slots[j]? = some (some .terminate) → σ.slots[j]? = some (some .terminate))
    (i : Nat) (r : Run) (hi : Terminating τ i r) :
    ∃ r₀, Terminating σ i r₀ ∧ r₀.request = r.request :=
  ⟨r, ⟨hruns ▸ hi.1, hi.2.imp (hslots i) id⟩, rfl⟩

/-- A move of run `i` adds no terminating run when it enters `Terminated` only on a `Terminate`
in its slot. -/
theorem terminating_of_set {σ τ : Executor} {i : Nat} {r : Run} {task : Task}
    (hr : σ.runs[i]? = some r) (hruns : τ.runs = σ.runs.set i ⟨r.request, task⟩)
    (hslots : ∀ j : Nat,
      τ.slots[j]? = some (some .terminate) → σ.slots[j]? = some (some .terminate))
    (htask : task.state = .terminated →
      r.task.state = .terminated ∨ σ.slots[i]? = some (some .terminate))
    (j : Nat) (r' : Run) (hj : Terminating τ j r') :
    ∃ r₀, Terminating σ j r₀ ∧ r₀.request = r'.request := by
  obtain ⟨hj, hterm⟩ := hj
  rw [hruns] at hj
  rcases getElem?_set_eq_some hj with ⟨rfl, rfl⟩ | ⟨-, hj⟩
  · refine ⟨r, ⟨hr, ?_⟩, rfl⟩
    rcases hterm with hslot | hstate
    · exact .inl (hslots _ hslot)
    · exact (htask hstate).symm
  · exact ⟨r', ⟨hj, hterm.imp (hslots j) id⟩, rfl⟩

/-- A spawned run holds no signal, and adds no terminating run unless it starts in
`Terminated`. -/
theorem terminating_of_spawn {σ : Executor} {request : SpawnRequest} {task : Task}
    (hlen : σ.slots.length = σ.runs.length) (htask : task.state ≠ .terminated)
    (i : Nat) (r : Run) (hi : Terminating (σ.spawn request task) i r) :
    ∃ r₀, Terminating σ i r₀ ∧ r₀.request = r.request := by
  obtain ⟨hi, hterm⟩ := hi
  rcases getElem?_append_singleton_eq_some hi with hi | ⟨hlast, rfl⟩
  · have hlt := (List.getElem?_eq_some_iff.mp hi).1
    refine ⟨r, ⟨hi, ?_⟩, rfl⟩
    simpa [spawn, List.getElem?_append_left (hlen ▸ hlt)] using hterm
  · subst hlast
    rcases hterm with hslot | hstate
    · simp [spawn, ← hlen] at hslot
    · exact absurd hstate htask

/-- A `send` that fills the slot of run `chan` pairs that run with its kill, which has not
returned before and so is paired with no other run. -/
theorem KillsPaired.deliver {σ : Executor} {g : Nat → Nat} {k chan : Nat} {b : BackendId}
    {r : Run} (h : KillsPaired σ g) (hk : σ.kills[k]? = some ⟨b, .sending chan⟩)
    (hr : σ.runs[chan]? = some r) (hb : r.request.backendId = b) :
    KillsPaired { σ with
        slots := σ.slots.set chan (some .terminate)
        kills := σ.kills.set k ⟨b, .finished (.ok ())⟩ } (Function.update g chan k) := by
  have hfresh : ∀ i r, Terminating σ i r → g i ≠ k := fun i r hi heq => by
    have hkill := (h i r hi).1
    rw [heq, hk] at hkill
    cases hkill
  have hback : ∀ i r, i ≠ chan → Terminating { σ with
      slots := σ.slots.set chan (some .terminate)
      kills := σ.kills.set k ⟨b, .finished (.ok ())⟩ } i r → Terminating σ i r :=
    fun i r hic hi => ⟨hi.1, by simpa [List.getElem?_set_ne (Ne.symm hic)] using hi.2⟩
  intro i r' hi
  by_cases hic : i = chan
  · subst hic
    cases hr.symm.trans hi.1
    refine ⟨by simpa [hb] using getElem?_set_self_of_eq_some hk, fun j r'' hj hg => ?_⟩
    by_contra hji
    rw [Function.update_noteq hji, Function.update_same] at hg
    exact hfresh j r'' (hback j r'' hji hj) hg
  · obtain ⟨hkill, huniq⟩ := h i r' (hback i r' hic hi)
    refine ⟨?_, fun j r'' hj hg => ?_⟩
    · rw [Function.update_noteq hic]
      rwa [List.getElem?_set_ne (hfresh i r' (hback i r' hic hi)).symm]
    · by_cases hjc : j = chan
      · subst hjc
        rw [Function.update_same, Function.update_noteq hic] at hg
        exact absurd hg.symm (hfresh i r' (hback i r' hic hi))
      · rw [Function.update_noteq hjc, Function.update_noteq hic] at hg
        exact huniq j r'' (hback j r'' hjc hj) hg

/-- The invariant that carries the pairing: the entries and the kills hold what the listener
map's invariants say, every run has its slot, and the pairing exists. -/
structure TerminateInv (σ : Executor) : Prop where
  entriesLive : EntriesLive σ
  killsHoldEntries : KillsHoldEntries σ
  slotsLength : σ.slots.length = σ.runs.length
  paired : ∃ g, KillsPaired σ g

theorem TerminateInv.init : TerminateInv Executor.init :=
  ⟨fun _ _ h => by simp [Executor.init] at h, fun _ _ _ h => by simp [Executor.init] at h, rfl,
    ⟨id, fun _ _ h => by simp [Terminating, Executor.init] at h⟩⟩

theorem TerminateInv.step {σ τ : Executor} {a : Action} (h : TerminateInv σ)
    (hstep : σ.step shard range a = some τ)
    (ha : ∀ request, a ≠ .resumeBackend request .terminated) : TerminateInv τ := by
  have hmove := Move.of_step hstep
  obtain ⟨g, hg⟩ := h.paired
  refine ⟨hmove.entriesLive h.entriesLive, hmove.killsHoldEntries h.killsHoldEntries,
    hmove.slots_length h.slotsLength, ?_⟩
  have hkill : ∀ (k : Nat) (b : BackendId), σ.kills[k]? = some ⟨b, .finished (.ok ())⟩ →
      τ.kills[k]? = some ⟨b, .finished (.ok ())⟩ := fun _ _ hk => hmove.kill_finished hk
  cases a with
  | startBackend request =>
      cases hstep
      exact ⟨g, hg.of_le (terminating_of_spawn h.slotsLength (by decide)) hkill⟩
  | resumeBackend request s =>
      cases hstep
      exact ⟨g, hg.of_le (terminating_of_spawn h.slotsLength fun hs => ha request (by
        simp only [Task.resumeBackends] at hs
        rw [hs])) hkill⟩
  | runBackend i e =>
      obtain ⟨r, task, effs, hr, hnext, hruns, hslots, hsig⟩ := runBackend_eq_some hstep
      refine ⟨g, hg.of_le (terminating_of_set hr hruns (fun j hj => ?_) fun hterm => ?_) hkill⟩
      · rcases hslots with hs | hs <;> rw [hs] at hj
        · exact hj
        · rcases getElem?_set_eq_some hj with ⟨-, hnone⟩ | ⟨-, hj⟩
          · cases hnone
          · exact hj
      · rcases (Task.Move.of_next hnext).state_terminated hterm with hstate | rfl
        · exact .inl hstate
        · exact .inr (hsig _ rfl)
  | killBackend b =>
      cases hstep
      exact ⟨g, hg.of_le (terminating_of_runs_eq (killBackend_runs _ _) (by simp)) hkill⟩
  | send k =>
      cases hmove with
      | sendClosed => exact ⟨g, hg.of_le (terminating_of_runs_eq rfl fun _ hj => hj) hkill⟩
      | @deliver _ b chan r hk hr =>
          obtain ⟨r', hr', hb, -⟩ := h.entriesLive b chan (h.killsHoldEntries k b chan hk)
          cases hr.symm.trans hr'
          exact ⟨_, hg.deliver hk hr hb⟩
  | containerEvent b =>
      cases hmove with
      | @interrupt _ chan _ _ _ _ hslot =>
          refine ⟨g, hg.of_le (terminating_of_runs_eq rfl fun j hj => ?_) hkill⟩
          rcases getElem?_set_eq_some hj with ⟨-, hsig⟩ | ⟨-, hj⟩
          · cases hsig
          · exact hj
      | ignore => exact ⟨g, hg⟩

/-- Suppose `resume_backends` never resumes a backend stored as `Terminated`. Then in every state
the executor reaches, by any interleaving of its tasks, each run that has taken a `Terminate` or
holds one in its channel is paired with its own call of `kill_backend` for the run's backend,
a call that returned `Ok(())`: a run enters `Terminated` only by a kill of its own backend, and no
call terminates two runs. -/
theorem terminated_by_own_kill (shard : BackendId → Nat) (range : TimeRange)
    (allowed : Executor → Action → Prop)
    (hallowed : ∀ σ a, allowed σ a → ∀ request, a ≠ .resumeBackend request .terminated)
    (σ : Executor) (hσ : Relation.ReflTransGen (Steps shard range allowed) init σ) :
    ∃ g, KillsPaired σ g := by
  suffices TerminateInv σ from this.paired
  induction hσ with
  | refl => exact TerminateInv.init
  | tail _ hst ih =>
      obtain ⟨a, ha, hstep⟩ := hst
      exact ih.step hstep (hallowed _ a ha)

/-- A started backend is killed while it loads and takes the `Terminate`: its run is paired
with the kill. -/
theorem terminated_by_own_kill_while_loading :
    ∃ g, KillsPaired ⟨[⟨⟨⟨"b"⟩, 0⟩, ⟨.terminated, .storing false⟩⟩], [none],
      [⟨⟨"b"⟩, .finished (.ok ())⟩], (∅ : AList _).insert ⟨"b"⟩ 0⟩ g :=
  terminated_by_own_kill (fun _ => 0) ⟨0, 0, 0⟩
    (fun _ a => ∀ request, a ≠ .resumeBackend request .terminated) (fun _ _ h => h) _
    (reaches_of_exec_allowed [.startBackend ⟨⟨"b"⟩, 0⟩, .runBackend 0 (.store true),
      .runBackend 0 (.publish true), .runBackend 0 .advance, .killBackend ⟨"b"⟩, .send 0,
      .runBackend 0 (.signal (some .terminate))] rfl (by simp))

/-! ## What `kill_backend` returns -/

/-- Every `kill_backend` call that returned gave `Ok(())`, or the error that its backend is
unknown. -/
def KillResults (σ : Executor) : Prop :=
  ∀ (k : Nat) (b : BackendId) (result : Except String Unit),
    σ.kills[k]? = some ⟨b, .finished result⟩ →
      result = .ok () ∨ result = .error ("Unknown backend " ++ b.id)

/-- A `send` fails with `channel closed` only once the receiver is dropped, and the entry the kill
holds keeps its run live. -/
theorem Move.killResults {σ τ : Executor} {a : Action} (hmove : Move shard range σ a τ)
    (hE : EntriesLive σ) (hK : KillsHoldEntries σ) (h : KillResults σ) : KillResults τ := by
  intro k b result hk
  cases hmove with
  | killBackend b' =>
      unfold Executor.killBackend at hk
      split at hk <;> rcases getElem?_append_singleton_eq_some hk with hk | ⟨-, hkill⟩
      · exact h k b result hk
      · cases hkill
      · exact h k b result hk
      · cases hkill
        exact .inr rfl
  | sendClosed hk' hr hret =>
      obtain ⟨r', hr', -, hlive⟩ := hE _ _ (hK _ _ _ hk')
      cases hr.symm.trans hr'
      simp [Pc.returned_eq_false_of_live hlive] at hret
  | deliver =>
      rcases getElem?_set_eq_some hk with ⟨-, hkill⟩ | ⟨-, hk⟩
      · cases hkill
        exact .inl rfl
      · exact h k b result hk
  | _ => exact h k b result hk

/-- In every state the executor reaches, by any interleaving of its tasks, each `kill_backend`
call that returned gave `Ok(())` or `Unknown backend <id>`, never the `channel closed` error of
`send`: the `Ref` the call holds across the `send` keeps the run's entry, and so its receiver. -/
theorem kill_backend_never_closed (shard : BackendId → Nat) (range : TimeRange) (σ : Executor)
    (hσ : Reachable shard range σ) (k : Nat) (b : BackendId) (result : Except String Unit)
    (hk : σ.kills[k]? = some ⟨b, .finished result⟩) :
    result = .ok () ∨ result = .error ("Unknown backend " ++ b.id) :=
  (reaches_induction (fun σ => EntriesLive σ ∧ KillsHoldEntries σ ∧ KillResults σ)
    (fun _ _ _ _ ⟨hE, hK, h⟩ hmove =>
      ⟨hmove.entriesLive hE, hmove.killsHoldEntries hK, hmove.killResults hE hK h⟩) hσ
    ⟨fun _ _ h => by simp [init] at h, fun _ _ _ h => by simp [init] at h,
      fun _ _ _ h => by simp [init] at h⟩).2.2 k b result hk

/-- A kill of a backend never started returns that it is unknown, after which a kill of a started
backend that has inserted its sender fills the run's slot. -/
theorem kill_backend_never_closed_unknown :
    (.error "Unknown backend a" : Except String Unit) = .ok () ∨
      (.error "Unknown backend a" : Except String Unit) =
        .error ("Unknown backend " ++ (⟨"a"⟩ : BackendId).id) :=
  kill_backend_never_closed (fun _ => 0) ⟨0, 0, 0⟩
    ⟨[⟨⟨⟨"b"⟩, 0⟩, ⟨.loading, .stepping false⟩⟩], [some .terminate],
      [⟨⟨"a"⟩, .finished (.error "Unknown backend a")⟩, ⟨⟨"b"⟩, .finished (.ok ())⟩],
      (∅ : AList _).insert ⟨"b"⟩ 0⟩
    (reaches_of_exec [.killBackend ⟨"a"⟩, .startBackend ⟨⟨"b"⟩, 0⟩, .runBackend 0 (.store true),
      .runBackend 0 (.publish true), .runBackend 0 .advance, .killBackend ⟨"b"⟩, .send 1] rfl)
    0 ⟨"a"⟩ _ rfl

end Executor

end Plane.Drone

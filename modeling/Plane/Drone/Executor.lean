import Mathlib.Data.List.AList
import Mathlib.Logic.Relation
import Plane.Drone.RunBackend

/-! # The executor and its tasks

The drone's `Executor` runs one `run_backend` task per started or resumed backend, the task of
`listen_for_container_events`, and the `kill_backend` calls. They share `backend_to_listener`, a
`DashMap` from backend ids to the senders of the tasks' signal channels, and the channels
themselves, each of capacity one.

The map is split in shards, each behind a read-write lock: `get` holds a read lock for as long as
its `Ref` lives, `insert` and `remove` take the write lock. `kill_backend` keeps its `Ref` across
the awaited `send(Terminate)`; everything else holds a lock only for a synchronous call, so its
map operation is one atomic action here, enabled when no `Ref` is held into the shard.

Run `i`'s channel is channel `i`: the entry of a backend holds the index of the run whose sender
it is. The sender lives only in the map, so a run whose entry was replaced or removed has lost
its sender. The receiver is dropped when `run_backend` returns.
-/

namespace Plane.Drone

open Plane

/-- A task spawned to run `run_backend` for `request`. -/
structure Run where
  request : SpawnRequest
  task : Task
  deriving DecidableEq, Repr

/-- Where a `kill_backend` call is. -/
inductive KillPc
  /-- It holds a `Ref` to the entry of its backend, the sender of run `chan`, and awaits
  `send(Terminate)`. -/
  | sending (chan : Nat)
  /-- It returned `result`. -/
  | finished (result : Except String Unit)
  deriving DecidableEq, Repr

/-- A `kill_backend` call. -/
structure Kill where
  backendId : BackendId
  pc : KillPc
  deriving DecidableEq, Repr

/-- The executor's shared state and its tasks: the runs in the order they were spawned, the
one-slot buffer of each run's channel, the `kill_backend` calls, and `backend_to_listener`. -/
structure Executor where
  runs : List Run
  slots : List (Option Signal)
  kills : List Kill
  backendToListener : AList fun _ : BackendId => Nat

/-- What the environment of the executor does next. -/
inductive Action
  /-- `start_backend` spawns a run of `request` from its start. -/
  | startBackend (request : SpawnRequest)
  /-- `resume_backends` spawns a run of `request` from a stored `state`. -/
  | resumeBackend (request : SpawnRequest) (state : BackendState)
  /-- Run `i` takes event `e`. -/
  | runBackend (i : Nat) (e : Event)
  /-- `kill_backend` is called and takes its `get`. -/
  | killBackend (backendId : BackendId)
  /-- Kill `k` completes its `send(Terminate)`. -/
  | send (k : Nat)
  /-- `listen_for_container_events` receives the id of a backend from the engine. -/
  | containerEvent (backendId : BackendId)
  deriving DecidableEq, Repr

/-- The places after `run_backend` inserted its sender, before it returned. -/
def Pc.live : Pc → Bool
  | .stepping _ | .storing _ | .publishing _ | .removeMonitor | .removeListener => true
  | _ => false

/-- The places after `run_backend` returned: its receiver is dropped. -/
def Pc.returned : Pc → Bool
  | .done | .lost => true
  | _ => false

theorem Pc.returned_eq_false_of_live {pc : Pc} (h : pc.live = true) : pc.returned = false := by
  cases pc <;> simp_all [Pc.live, Pc.returned]

theorem Pc.ne_lost_of_returned_eq_false {pc : Pc} (h : pc.returned = false) : pc ≠ .lost := by
  rintro rfl
  cases h

/-- A task that returned takes no more events. -/
theorem Task.Move.returned_eq_false {σ τ : Task} {e : Event} {effs : List Effect}
    (h : Task.Move σ e τ effs) : σ.pc.returned = false := by
  cases h <;> rfl

/-- A move keeps a task live and keeps it from returning, except the insertion of its sender,
its removal, and the return on a lost sender. -/
theorem Task.Move.live_returned {σ τ : Task} {e : Event} {effs : List Effect}
    (h : Task.Move σ e τ effs) (hl : σ.pc ≠ .listen) (hr : σ.pc ≠ .removeListener)
    (he : e ≠ .signal none) : τ.pc.live = σ.pc.live ∧ τ.pc.returned = σ.pc.returned := by
  cases h with
  | publish s exit ok => cases exit <;> exact ⟨rfl, rfl⟩
  | _ => simp_all [Pc.live, Pc.returned]

/-- A task inserts or removes its sender only by `advance`. -/
theorem Task.Move.eq_advance {σ τ : Task} {e : Event} {effs : List Effect}
    (h : Task.Move σ e τ effs) (hpc : σ.pc = .listen ∨ σ.pc = .removeListener) : e = .advance := by
  cases h <;> simp_all

/-- Inserting the sender enters the loop. -/
theorem Task.Move.pc_of_listen {σ τ : Task} {e : Event} {effs : List Effect}
    (h : Task.Move σ e τ effs) (hpc : σ.pc = .listen) : τ.pc = .stepping false := by
  cases h <;> simp_all

/-- Removing the sender returns. -/
theorem Task.Move.pc_of_removeListener {σ τ : Task} {e : Event} {effs : List Effect}
    (h : Task.Move σ e τ effs) (hpc : σ.pc = .removeListener) : τ.pc = .done := by
  cases h <;> simp_all

/-- `None` is received only in the loop, and returns. -/
theorem Task.Move.lose_live {σ τ : Task} {effs : List Effect}
    (h : Task.Move σ (.signal none) τ effs) :
    σ.pc.live = true ∧ τ.pc = .lost := by
  cases h
  exact ⟨rfl, rfl⟩

/-- A signal is received only in the loop, and keeps the task in it or in its write. -/
theorem Task.Move.receive_live {σ τ : Task} {sig : Signal} {effs : List Effect}
    (h : Task.Move σ (.signal (some sig)) τ effs) : σ.pc.live = true ∧ τ.pc.live = true ∧
      σ.pc.returned = false ∧ τ.pc.returned = false := by
  cases h <;> exact ⟨rfl, rfl, rfl, rfl⟩

namespace Executor

/-- The executor as `Executor::new` leaves it: no task, an empty map. -/
def init : Executor := ⟨[], [], [], ∅⟩

variable (shard : BackendId → Nat) (range : TimeRange)

/-- Whether a kill holds a `Ref` into the shard of `backendId`, so that a write there waits. -/
def readLocked (σ : Executor) (backendId : BackendId) : Bool :=
  σ.kills.any fun k =>
    match k.pc with
    | .sending _ => shard k.backendId == shard backendId
    | .finished _ => false

/-- Spawn a run of `request` from `task`, with its channel empty. -/
def spawn (σ : Executor) (request : SpawnRequest) (task : Task) : Executor :=
  { σ with runs := σ.runs ++ [⟨request, task⟩], slots := σ.slots ++ [none] }

/-- Run `i` takes event `e`. Inserting and removing its sender write to the map; a signal is
received from the slot, and `None` is received once the slot is empty and the sender is gone. -/
def runBackend (σ : Executor) (i : Nat) (e : Event) : Option Executor :=
  match σ.runs[i]?, σ.slots[i]? with
  | some r, some slot =>
      match r.task.runBackend range r.request.maxIdleSecs e with
      | none => none
      | some (task, _) =>
          let runs := σ.runs.set i ⟨r.request, task⟩
          let b := r.request.backendId
          match r.task.pc, e with
          | .listen, .advance =>
              if σ.readLocked shard b then none
              else some { σ with runs := runs, backendToListener := σ.backendToListener.insert b i }
          | .removeListener, .advance =>
              if σ.readLocked shard b then none
              else some { σ with runs := runs, backendToListener := σ.backendToListener.erase b }
          | _, .signal (some sig) =>
              if slot = some sig then some { σ with runs := runs, slots := σ.slots.set i none }
              else none
          | _, .signal none =>
              if slot = none ∧ σ.backendToListener.lookup b ≠ some i then
                some { σ with runs := runs }
              else none
          | _, _ => some { σ with runs := runs }
  | _, _ => none

/-- `kill_backend` takes its `get`: it goes on to `send` holding the `Ref`, or returns the error
`Unknown backend <id>`. -/
def killBackend (σ : Executor) (backendId : BackendId) : Executor :=
  match σ.backendToListener.lookup backendId with
  | some chan => { σ with kills := σ.kills ++ [⟨backendId, .sending chan⟩] }
  | none =>
      let unknown := "Unknown backend " ++ backendId.id
      { σ with kills := σ.kills ++ [⟨backendId, .finished (.error unknown)⟩] }

@[simp] theorem killBackend_runs (σ : Executor) (b : BackendId) :
    (σ.killBackend b).runs = σ.runs := by
  unfold killBackend; split <;> rfl

@[simp] theorem killBackend_slots (σ : Executor) (b : BackendId) :
    (σ.killBackend b).slots = σ.slots := by
  unfold killBackend; split <;> rfl

@[simp] theorem killBackend_backendToListener (σ : Executor) (b : BackendId) :
    (σ.killBackend b).backendToListener = σ.backendToListener := by
  unfold killBackend; split <;> rfl

/-- Kill `k` completes `send(Terminate)`: with tokio's `SendError`, shown as `channel closed`,
once the receiver is dropped; by filling the slot when it is empty; otherwise it waits.

A `send` waiting on a full slot is not queued here. When the run receives and frees the slot, the
model lets a `containerEvent` fill it first, where tokio's semaphore hands the freed permit to the
waiting `send`. The model has these extra interleavings and no fewer: what holds of every one of
its traces holds of the drone. -/
def send (σ : Executor) (k : Nat) : Option Executor :=
  match σ.kills[k]? with
  | some ⟨b, .sending chan⟩ =>
      match σ.runs[chan]?, σ.slots[chan]? with
      | some r, some slot =>
          if r.task.pc.returned then
            some { σ with kills := σ.kills.set k ⟨b, .finished (.error "channel closed")⟩ }
          else if slot = none then
            some { σ with slots := σ.slots.set chan (some .terminate),
                          kills := σ.kills.set k ⟨b, .finished (.ok ())⟩ }
          else none
      | _, _ => none
  | _ => none

/-- `listen_for_container_events` receives `backendId`: `try_send(Interrupt)` to its entry's
sender, which fills the slot when it is empty and the receiver is there, and does nothing
otherwise. An empty slot is taken even while a `send` waits for it, which tokio does not allow
(see `send`). -/
def containerEvent (σ : Executor) (backendId : BackendId) : Executor :=
  match σ.backendToListener.lookup backendId with
  | some chan =>
      match σ.runs[chan]?, σ.slots[chan]? with
      | some r, some none =>
          if r.task.pc.returned then σ
          else { σ with slots := σ.slots.set chan (some .interrupt) }
      | _, _ => σ
  | none => σ

/-- One action; `none` when it cannot be taken. -/
def step (σ : Executor) : Action → Option Executor
  | .startBackend request => some (σ.spawn request Task.startBackend)
  | .resumeBackend request state => some (σ.spawn request (Task.resumeBackends state))
  | .runBackend i e => σ.runBackend shard range i e
  | .killBackend b => some (σ.killBackend b)
  | .send k => σ.send k
  | .containerEvent b => some (σ.containerEvent b)

/-- Take actions in order. -/
def exec : Executor → List Action → Option Executor
  | σ, [] => some σ
  | σ, a :: as => (σ.step shard range a).bind fun τ => τ.exec as

/-- One action that `allowed` lets the environment take. -/
def Steps (allowed : Executor → Action → Prop) (σ τ : Executor) : Prop :=
  ∃ a, allowed σ a ∧ σ.step shard range a = some τ

/-- The states the executor reaches from `Executor::new` by any actions. -/
def Reachable (σ : Executor) : Prop :=
  Relation.ReflTransGen (Steps shard range fun _ _ => True) init σ

variable {shard range}

/-- A trace of actions that `allowed` always permits is a run of allowed steps. -/
theorem reaches_of_exec_allowed {allowed : Executor → Action → Prop} {σ τ : Executor}
    (acts : List Action) (h : σ.exec shard range acts = some τ)
    (hall : ∀ a ∈ acts, ∀ υ, allowed υ a) :
    Relation.ReflTransGen (Steps shard range allowed) σ τ := by
  induction acts generalizing σ with
  | nil =>
      cases h
      exact .refl
  | cons a as ih =>
      obtain ⟨υ, hstep, hexec⟩ := Option.bind_eq_some.mp h
      exact .head ⟨a, hall a (List.mem_cons_self _ _) σ, hstep⟩
        (ih hexec fun a' ha' => hall a' (List.mem_cons_of_mem _ ha'))

theorem reaches_of_exec {σ τ : Executor} (acts : List Action)
    (h : σ.exec shard range acts = some τ) :
    Relation.ReflTransGen (Steps shard range fun _ _ => True) σ τ :=
  reaches_of_exec_allowed acts h fun _ _ _ => trivial

/-- What a trace reaches, known through what `f` computes of it. -/
theorem exists_exec_of_map {σ : Executor} {acts : List Action} {β : Type} (f : Executor → β)
    {x : β} (h : (σ.exec shard range acts).map f = some x) (P : Executor → Prop)
    (hP : ∀ τ, f τ = x → P τ) : ∃ τ, σ.exec shard range acts = some τ ∧ P τ := by
  obtain ⟨τ, hτ, hf⟩ := Option.map_eq_some'.mp h
  exact ⟨τ, hτ, hP τ hf⟩

theorem readLocked_of_sending {σ : Executor} {k : Nat} {b b' : BackendId} {chan : Nat}
    (hk : σ.kills[k]? = some ⟨b, .sending chan⟩) (hshard : shard b = shard b') :
    σ.readLocked shard b' = true :=
  List.any_eq_true.mpr ⟨_, List.getElem?_mem hk, by simp [hshard]⟩

theorem shard_ne_of_not_readLocked {σ : Executor} {k : Nat} {b b' : BackendId} {chan : Nat}
    (hk : σ.kills[k]? = some ⟨b, .sending chan⟩) (hlock : σ.readLocked shard b' = false) :
    shard b ≠ shard b' := fun hshard => by
  simp [readLocked_of_sending hk hshard] at hlock

theorem getElem?_set_eq_some {α : Type} {l : List α} {i j : Nat} {a b : α}
    (h : (l.set i a)[j]? = some b) : (i = j ∧ b = a) ∨ (i ≠ j ∧ l[j]? = some b) := by
  rw [List.getElem?_set] at h
  split_ifs at h with hij
  · exact .inl ⟨hij, (Option.some.inj h).symm⟩
  · exact .inr ⟨hij, h⟩

theorem getElem?_set_self_of_eq_some {α : Type} {l : List α} {i : Nat} {a b : α}
    (h : l[i]? = some a) : (l.set i b)[i]? = some b :=
  List.getElem?_set_self (List.getElem?_eq_some_iff.mp h).1

theorem getElem?_append_singleton_eq_some {α : Type} {l : List α} {j : Nat} {a b : α}
    (h : (l ++ [a])[j]? = some b) : l[j]? = some b ∨ (j = l.length ∧ b = a) := by
  rcases Nat.lt_or_ge j l.length with hj | hj
  · exact .inl (by rwa [List.getElem?_append_left hj] at h)
  · rw [List.getElem?_append_right hj] at h
    rcases hk : j - l.length with _ | k
    · rw [hk] at h
      exact .inr ⟨by omega, (Option.some.inj h).symm⟩
    · simp [hk] at h

theorem getElem?_append_of_eq_some {α : Type} {l l' : List α} {j : Nat} {b : α}
    (h : l[j]? = some b) : (l ++ l')[j]? = some b := by
  rwa [List.getElem?_append_left (List.getElem?_eq_some_iff.mp h).1]

/-! ## What one action can do -/

variable (shard range) in
/-- The moves of the executor, one constructor per kind of action and outcome. -/
inductive Move : Executor → Action → Executor → Prop
  | startBackend (σ : Executor) (request : SpawnRequest) :
      Move σ (.startBackend request) (σ.spawn request Task.startBackend)
  | resumeBackend (σ : Executor) (request : SpawnRequest) (s : BackendState) :
      Move σ (.resumeBackend request s) (σ.spawn request (Task.resumeBackends s))
  | insert {σ : Executor} {i : Nat} {r : Run} {task : Task} {effs : List Effect}
      (hr : σ.runs[i]? = some r) (hpc : r.task.pc = .listen)
      (hnext : r.task.runBackend range r.request.maxIdleSecs .advance = some (task, effs))
      (hlock : σ.readLocked shard r.request.backendId = false) :
      Move σ (.runBackend i .advance)
        { σ with
          runs := σ.runs.set i ⟨r.request, task⟩
          backendToListener := σ.backendToListener.insert r.request.backendId i }
  | remove {σ : Executor} {i : Nat} {r : Run} {task : Task} {effs : List Effect}
      (hr : σ.runs[i]? = some r) (hpc : r.task.pc = .removeListener)
      (hnext : r.task.runBackend range r.request.maxIdleSecs .advance = some (task, effs))
      (hlock : σ.readLocked shard r.request.backendId = false) :
      Move σ (.runBackend i .advance)
        { σ with
          runs := σ.runs.set i ⟨r.request, task⟩
          backendToListener := σ.backendToListener.erase r.request.backendId }
  | receive {σ : Executor} {i : Nat} {r : Run} {sig : Signal} {task : Task} {effs : List Effect}
      (hr : σ.runs[i]? = some r)
      (hnext : r.task.runBackend range r.request.maxIdleSecs (.signal (some sig)) = some (task, effs))
      (hslot : σ.slots[i]? = some (some sig)) :
      Move σ (.runBackend i (.signal (some sig)))
        { σ with runs := σ.runs.set i ⟨r.request, task⟩, slots := σ.slots.set i none }
  | lose {σ : Executor} {i : Nat} {r : Run} {task : Task} {effs : List Effect}
      (hr : σ.runs[i]? = some r)
      (hnext : r.task.runBackend range r.request.maxIdleSecs (.signal none) = some (task, effs))
      (hslot : σ.slots[i]? = some none)
      (hentry : σ.backendToListener.lookup r.request.backendId ≠ some i) :
      Move σ (.runBackend i (.signal none)) { σ with runs := σ.runs.set i ⟨r.request, task⟩ }
  | inner {σ : Executor} {i : Nat} {r : Run} {e : Event} {task : Task} {effs : List Effect}
      (hr : σ.runs[i]? = some r)
      (hnext : r.task.runBackend range r.request.maxIdleSecs e = some (task, effs))
      (hl : r.task.pc ≠ .listen) (hrm : r.task.pc ≠ .removeListener) (he : e ≠ .signal none) :
      Move σ (.runBackend i e) { σ with runs := σ.runs.set i ⟨r.request, task⟩ }
  | killBackend (σ : Executor) (b : BackendId) : Move σ (.killBackend b) (σ.killBackend b)
  | sendClosed {σ : Executor} {k : Nat} {b : BackendId} {chan : Nat} {r : Run}
      (hk : σ.kills[k]? = some ⟨b, .sending chan⟩) (hr : σ.runs[chan]? = some r)
      (hret : r.task.pc.returned = true) :
      Move σ (.send k) { σ with kills := σ.kills.set k ⟨b, .finished (.error "channel closed")⟩ }
  | deliver {σ : Executor} {k : Nat} {b : BackendId} {chan : Nat} {r : Run}
      (hk : σ.kills[k]? = some ⟨b, .sending chan⟩) (hr : σ.runs[chan]? = some r)
      (hret : r.task.pc.returned = false) (hslot : σ.slots[chan]? = some none) :
      Move σ (.send k)
        { σ with
          slots := σ.slots.set chan (some .terminate)
          kills := σ.kills.set k ⟨b, .finished (.ok ())⟩ }
  | interrupt {σ : Executor} {b : BackendId} {chan : Nat} {r : Run}
      (hb : σ.backendToListener.lookup b = some chan) (hr : σ.runs[chan]? = some r)
      (hret : r.task.pc.returned = false) (hslot : σ.slots[chan]? = some none) :
      Move σ (.containerEvent b) { σ with slots := σ.slots.set chan (some .interrupt) }
  | ignore (σ : Executor) (b : BackendId) : Move σ (.containerEvent b) σ

/-- Every action the executor takes is one of its moves. -/
theorem Move.of_step {σ τ : Executor} {a : Action} (h : σ.step shard range a = some τ) :
    Move shard range σ a τ := by
  cases a with
  | startBackend request => cases h; exact .startBackend σ request
  | resumeBackend request s => cases h; exact .resumeBackend σ request s
  | killBackend b => cases h; exact .killBackend σ b
  | containerEvent b =>
      cases h
      unfold containerEvent
      split
      · rename_i chan hb
        split
        · rename_i r hr hslot
          split
          · exact .ignore σ b
          · rename_i hret
            exact .interrupt hb hr (by simpa using hret) hslot
        · exact .ignore σ b
      · exact .ignore σ b
  | send k =>
      simp only [step, send] at h
      split at h
      · rename_i b chan hk
        split at h
        · rename_i r slot hr hslot
          split at h
          · rename_i hret
            cases h
            exact .sendClosed hk hr hret
          · rename_i hret
            split at h
            · rename_i hempty
              cases h
              subst hempty
              exact .deliver hk hr (by simpa using hret) hslot
            · cases h
        · cases h
      · cases h
  | runBackend i e =>
      simp only [step, runBackend] at h
      split at h
      · rename_i r slot hr hslot
        split at h
        · cases h
        · rename_i task effs hnext
          split at h
          · rename_i hpc
            split at h
            · cases h
            · rename_i hlock
              cases h
              exact .insert hr hpc hnext (by simpa using hlock)
          · rename_i hpc
            split at h
            · cases h
            · rename_i hlock
              cases h
              exact .remove hr hpc hnext (by simpa using hlock)
          · split at h
            · rename_i hs
              cases h
              subst hs
              exact .receive hr hnext hslot
            · cases h
          · split at h
            · rename_i hs
              cases h
              obtain ⟨rfl, hentry⟩ := hs
              exact .lose hr hnext hslot hentry
            · cases h
          · rename_i e _ hnone hl hrm
            cases h
            have hmove := Task.Move.of_next hnext
            exact .inner hr hnext (fun hpc => hl hpc (hmove.eq_advance (.inl hpc)))
              (fun hpc => hrm hpc (hmove.eq_advance (.inr hpc))) hnone
      · cases h

/-! ## What a move leaves alone -/

section Frame

variable {σ τ : Executor} {a : Action}

/-- A move changes a run only if it is that run's own event. -/
theorem Move.runs_frame (hmove : Move shard range σ a τ) {j : Nat} {r : Run}
    (hr : σ.runs[j]? = some r) : τ.runs[j]? = some r ∨ ∃ e, a = .runBackend j e := by
  cases hmove with
  | startBackend | resumeBackend => exact .inl (getElem?_append_of_eq_some hr)
  | @insert i _ _ _ _ _ _ _ | @remove i _ _ _ _ _ _ _ | @receive i _ _ _ _ _ _ _
  | @lose i _ _ _ _ _ _ _ | @inner i _ _ _ _ _ _ _ _ _ =>
      by_cases hij : i = j
      · exact .inr ⟨_, by rw [hij]⟩
      · exact .inl (by rwa [List.getElem?_set_ne hij])
  | killBackend => exact .inl (by simpa using hr)
  | _ => exact .inl hr

/-- A full slot stays full until its run receives. -/
theorem Move.slots_frame (hmove : Move shard range σ a τ) {j : Nat} {sig : Signal}
    (hslot : σ.slots[j]? = some (some sig)) :
    τ.slots[j]? = some (some sig) ∨ ∃ e, a = .runBackend j e := by
  cases hmove with
  | startBackend | resumeBackend => exact .inl (getElem?_append_of_eq_some hslot)
  | @receive i _ _ _ _ _ _ _ =>
      by_cases hij : i = j
      · exact .inr ⟨_, by rw [hij]⟩
      · exact .inl (by rwa [List.getElem?_set_ne hij])
  | @deliver _ _ chan _ _ _ _ hslot' | @interrupt _ chan _ _ _ _ hslot' =>
      have hc : chan ≠ j := by
        rintro rfl
        cases hslot.symm.trans hslot'
      exact .inl (by rwa [List.getElem?_set_ne hc])
  | killBackend => exact .inl (by simpa using hslot)
  | _ => exact .inl hslot

/-- A move changes a kill only if it is that kill's `send`. -/
theorem Move.kills_frame (hmove : Move shard range σ a τ) {k : Nat} {kill : Kill}
    (hk : σ.kills[k]? = some kill) : τ.kills[k]? = some kill ∨ a = .send k := by
  cases hmove with
  | killBackend =>
      unfold Executor.killBackend
      split <;> exact .inl (getElem?_append_of_eq_some hk)
  | @sendClosed k' _ _ _ _ _ _ | @deliver k' _ _ _ _ _ _ _ =>
      by_cases hk' : k' = k
      · exact .inr (by rw [hk'])
      · exact .inl (by rwa [List.getElem?_set_ne hk'])
  | _ => exact .inl hk

/-- A run about to write to the map does not move while a kill holds a read lock on its shard. -/
theorem Move.not_write_of_readLocked {j : Nat} {e : Event} {r : Run}
    (hmove : Move shard range σ (.runBackend j e) τ) (hr : σ.runs[j]? = some r)
    (hpc : r.task.pc = .listen ∨ r.task.pc = .removeListener)
    (hlock : σ.readLocked shard r.request.backendId = true) : False := by
  cases hmove with
  | insert hr' _ _ hlock' | remove hr' _ _ hlock' =>
      cases hr.symm.trans hr'
      simp [hlock] at hlock'
  | receive hr' hnext | lose hr' hnext =>
      cases hr.symm.trans hr'
      cases (Task.Move.of_next hnext).eq_advance hpc
  | inner hr' _ hl hrm =>
      cases hr.symm.trans hr'
      exact hpc.elim hl hrm

/-- A `send` into a full slot does not complete while the run is there to receive. -/
theorem Move.not_send_of_full {k chan : Nat} {b : BackendId} {r : Run} {sig : Signal}
    (hmove : Move shard range σ (.send k) τ) (hk : σ.kills[k]? = some ⟨b, .sending chan⟩)
    (hr : σ.runs[chan]? = some r) (hret : r.task.pc.returned = false)
    (hslot : σ.slots[chan]? = some (some sig)) : False := by
  cases hmove with
  | sendClosed hk' hr' hret' =>
      cases hk.symm.trans hk'
      cases hr.symm.trans hr'
      simp [hret] at hret'
  | deliver hk' _ _ hslot' =>
      cases hk.symm.trans hk'
      cases hslot.symm.trans hslot'

end Frame

/-- An invariant of the moves `allowed` permits holds after every run of them. -/
theorem reaches_induction {allowed : Executor → Action → Prop} (P : Executor → Prop)
    (hstep : ∀ σ a τ, allowed σ a → P σ → Move shard range σ a τ → P τ) {σ τ : Executor}
    (h : Relation.ReflTransGen (Steps shard range allowed) σ τ) (hσ : P σ) : P τ := by
  induction h with
  | refl => exact hσ
  | tail _ hst ih =>
      obtain ⟨a, ha, hstep'⟩ := hst
      exact hstep _ a _ ha ih (Move.of_step hstep')

/-- Every run has its channel. -/
theorem Move.slots_length {σ τ : Executor} {a : Action} (hmove : Move shard range σ a τ)
    (h : σ.slots.length = σ.runs.length) : τ.slots.length = τ.runs.length := by
  cases hmove <;> simp_all [spawn]

/-! ## Each run is a run of the task that spawned it -/

variable (range) in
/-- The runs `runs` are those `origins` spawned, in order: each has its origin's request, and its
task is where some run of the single-task model takes its origin's task. -/
def RunsFrom (runs : List Run) (origins : List (SpawnRequest × Task)) : Prop :=
  runs.length = origins.length ∧
    ∀ (i : Nat) (r : Run) (o : SpawnRequest × Task), runs[i]? = some r → origins[i]? = some o →
      r.request = o.1 ∧ ∃ es effs, o.2.run range r.request.maxIdleSecs es = some (r.task, effs)

theorem RunsFrom.spawn {runs : List Run} {origins : List (SpawnRequest × Task)}
    (h : RunsFrom range runs origins) (request : SpawnRequest) (task : Task) :
    RunsFrom range (runs ++ [⟨request, task⟩]) (origins ++ [(request, task)]) := by
  refine ⟨by simp [h.1], fun i r o hr ho => ?_⟩
  rcases getElem?_append_singleton_eq_some hr with hr | ⟨hi, rfl⟩
  · rw [List.getElem?_append_left (h.1 ▸ (List.getElem?_eq_some_iff.mp hr).1)] at ho
    exact h.2 i r o hr ho
  · rw [hi, h.1, List.getElem?_append_right (le_refl _), Nat.sub_self] at ho
    cases ho
    exact ⟨rfl, [], [], rfl⟩

theorem RunsFrom.set {runs : List Run} {origins : List (SpawnRequest × Task)}
    (h : RunsFrom range runs origins) {i : Nat} {r : Run} {e : Event} {task : Task}
    {effs : List Effect} (hr : runs[i]? = some r)
    (hnext : r.task.runBackend range r.request.maxIdleSecs e = some (task, effs)) :
    RunsFrom range (runs.set i ⟨r.request, task⟩) origins := by
  refine ⟨by simp [h.1], fun j r' o hj ho => ?_⟩
  rcases getElem?_set_eq_some hj with ⟨rfl, rfl⟩ | ⟨-, hj⟩
  · obtain ⟨hreq, es, effs₀, hrun⟩ := h.2 _ r o hr ho
    exact ⟨hreq, es ++ [e], effs₀ ++ effs, Task.run_append_next e hrun hnext⟩
  · exact h.2 j r' o hj ho

end Executor

end Plane.Drone

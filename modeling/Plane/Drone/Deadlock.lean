import Plane.Drone.Executor

/-! # `kill_backend` against the removal of the sender

`kill_backend` keeps the `Ref` from `get` across `send(Terminate).await`, a read lock on its
backend's shard of `backend_to_listener`. The send waits while the channel's slot is full, until
the run receives, and a run receives only in its loop. After the loop the run removes its sender,
a write to that same shard. So if the slot is full when the loop ends, and a kill took its `get`
before the removal, the kill waits for the run to receive and the run waits for the kill's lock.

The slot fills when the engine reports a container event while the run does not receive: during
the step of `Swept`, which stops the container and so causes such an event, or while the run
writes a new state out. Once so, neither task moves again, whatever the other tasks do, and every
write into the shard waits with them, such as the insertion of the sender of a backend started
later.
-/

namespace Plane.Drone

open Plane

namespace Executor

variable {shard : BackendId → Nat} {range : TimeRange}

/-- Kill `k` waits in `send` on the channel of run `chan`, whose slot is full, holding a read lock
on the shard of `b`, where run `chan`, which is `r`, waits to remove its sender. -/
structure Deadlocked (shard : BackendId → Nat) (σ : Executor) (k chan : Nat) (b : BackendId)
    (r : Run) : Prop where
  kill : σ.kills[k]? = some ⟨b, .sending chan⟩
  run : σ.runs[chan]? = some r
  removing : r.task.pc = .removeListener
  sameShard : shard r.request.backendId = shard b
  full : ∃ sig, σ.slots[chan]? = some (some sig)

/-- Run `j` waits to insert its sender into the shard of `b`. -/
def WaitsToInsert (shard : BackendId → Nat) (σ : Executor) (b : BackendId) (j : Nat) : Prop :=
  ∃ r, σ.runs[j]? = some r ∧ r.task.pc = .listen ∧ shard r.request.backendId = shard b

/-- No move frees a deadlocked kill or its run. -/
theorem Move.deadlocked {σ τ : Executor} {a : Action} {k chan : Nat} {b : BackendId} {r : Run}
    (hmove : Move shard range σ a τ) (h : Deadlocked shard σ k chan b r) :
    Deadlocked shard τ k chan b r := by
  obtain ⟨hk, hr, hpc, hshard, sig, hslot⟩ := h
  have hrun : ∀ e, a ≠ .runBackend chan e := by
    rintro e rfl
    exact hmove.not_write_of_readLocked hr (.inr hpc) (readLocked_of_sending hk hshard.symm)
  have hsend : a ≠ .send k := by
    rintro rfl
    exact hmove.not_send_of_full hk hr (by simp [hpc, Pc.returned]) hslot
  exact ⟨(hmove.kills_frame hk).resolve_right hsend,
    (hmove.runs_frame hr).resolve_right fun ⟨e, he⟩ => hrun e he, hpc, hshard, sig,
    (hmove.slots_frame hslot).resolve_right fun ⟨e, he⟩ => hrun e he⟩

/-- While a kill holds a read lock on the shard of `b`, a run waiting to insert its sender there
keeps waiting. -/
theorem Move.waitsToInsert {σ τ : Executor} {a : Action} {k chan j : Nat} {b : BackendId}
    (hmove : Move shard range σ a τ) (hk : σ.kills[k]? = some ⟨b, .sending chan⟩)
    (h : WaitsToInsert shard σ b j) : WaitsToInsert shard τ b j := by
  obtain ⟨r, hr, hpc, hshard⟩ := h
  refine ⟨r, (hmove.runs_frame hr).resolve_right ?_, hpc, hshard⟩
  rintro ⟨e, rfl⟩
  exact hmove.not_write_of_readLocked hr (.inl hpc) (readLocked_of_sending hk hshard.symm)

/-- Once deadlocked, the kill and the run stay so after any actions, and so does every run that
waits to insert its sender into the same shard. -/
theorem deadlocked_forever {allowed : Executor → Action → Prop} {σ τ : Executor} {k chan : Nat}
    {b : BackendId} {r : Run} (h : Relation.ReflTransGen (Steps shard range allowed) σ τ)
    (hd : Deadlocked shard σ k chan b r) :
    Deadlocked shard τ k chan b r ∧ ∀ j, WaitsToInsert shard σ b j → WaitsToInsert shard τ b j :=
  reaches_induction
    (fun υ => Deadlocked shard υ k chan b r ∧
      ∀ j, WaitsToInsert shard σ b j → WaitsToInsert shard υ b j)
    (fun _ _ _ _ h hmove =>
      ⟨hmove.deadlocked h.1, fun j hj => hmove.waitsToInsert h.1.kill (h.2 j hj)⟩)
    h ⟨hd, fun _ => id⟩

end Executor

open Executor

/-- `kill_backend` during the cleanup of a swept backend, idle for ten seconds past its last
activity, the longest idle time it is allowed. The `Swept` step stops the container and
the engine reports its exit: the listener's `Interrupt` fills the slot, which that step does not
read. A kill takes its `get` and waits in `send`; the step returns, and the run waits to remove its
sender from the shard the kill holds. For every assignment of backends to shards, neither moves
again; and a backend started later in the same shard waits to insert its sender forever. -/
theorem kill_during_sweep_deadlocks :
    let b : BackendId := ⟨"b"⟩
    let range : TimeRange := ⟨-seconds 100, seconds 100, seconds 100⟩
    let up : StepReplies := ⟨.ok (), .ok (.running "10.0.0.2:8080"), .ok (), .ok (), [], .ok ()⟩
    let idle : StepReplies := ⟨.ok (), .ok (.running "10.0.0.2:8080"), .ok (), .ok (),
      [⟨.ok 0, seconds 11, seconds 11⟩], .ok ()⟩
    let stopped : StepReplies := ⟨.ok (), .ok .exited, .ok (), .ok (), [], .ok ()⟩
    let sweep : List Action := [.startBackend ⟨b, (seconds 10).toNat⟩,
      .runBackend 0 (.store true), .runBackend 0 (.publish true), .runBackend 0 .advance,
      .runBackend 0 .poll, .runBackend 0 (.complete up),
      .runBackend 0 (.store true), .runBackend 0 (.publish true),
      .runBackend 0 .poll, .runBackend 0 (.complete up),
      .runBackend 0 (.store true), .runBackend 0 (.publish true),
      .runBackend 0 .poll, .runBackend 0 (.complete idle),
      .runBackend 0 (.store true), .runBackend 0 (.publish true), .runBackend 0 .poll,
      .containerEvent b, .killBackend b, .runBackend 0 (.complete stopped), .runBackend 0 .advance]
    (∀ shard : BackendId → Nat, ∃ σ, init.exec shard range sweep = some σ ∧
      ∀ τ, Relation.ReflTransGen (Steps shard range fun _ _ => True) σ τ →
        τ.kills[0]? = some ⟨b, .sending 0⟩ ∧ (τ.runs[0]?).map (·.task.pc) = some .removeListener) ∧
    ∃ σ, init.exec (fun _ => 0) range (sweep ++ [.startBackend ⟨⟨"c"⟩, (seconds 10).toNat⟩,
        .runBackend 1 (.store true), .runBackend 1 (.publish true)]) = some σ ∧
      ∀ τ, Relation.ReflTransGen (Steps (fun _ => 0) range fun _ _ => True) σ τ →
        (τ.runs[1]?).map (·.task.pc) = some .listen := by
  dsimp only
  refine ⟨fun shard =>
    exists_exec_of_map (fun σ => (σ.kills[0]?, σ.runs[0]?, σ.slots[0]?)) (by rfl) _
    fun σ hσ τ hτ => ?_, exists_exec_of_map
      (fun σ => (σ.kills[0]?, σ.runs[0]?, σ.slots[0]?, σ.runs[1]?)) (by rfl) _ fun σ hσ τ hτ => ?_⟩
  · simp only [Prod.mk.injEq] at hσ
    obtain ⟨hk, hr, -⟩ := (deadlocked_forever hτ ⟨hσ.1, hσ.2.1, rfl, rfl, .interrupt, hσ.2.2⟩).1
    exact ⟨hk, by rw [hr]; rfl⟩
  · simp only [Prod.mk.injEq] at hσ
    obtain ⟨r, hr, hpc, -⟩ := (deadlocked_forever hτ
      ⟨hσ.1, hσ.2.1, rfl, rfl, .interrupt, hσ.2.2.1⟩).2 1 ⟨_, hσ.2.2.2, rfl, rfl⟩
    rw [hr, Option.map_some', hpc]

end Plane.Drone

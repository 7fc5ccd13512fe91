import Plane.Drone.Announce

/-! # Resuming a backend after the drone restarts

`update_backend_state` writes a state to the local store before it publishes it, and
`resume_backends` restarts each stored backend from the state the store holds. The drone may stop
between any two events of a task. A stop between the write and the publish loses the publish, as
a failed publish would, which `log_error` swallows anyway. A write that failed, swallowed by
`log_error` too, leaves the store one state behind what was published, so the resumed run
publishes that state's successor a second time.

A crash is a run from `start_backend` cut after any prefix of events; the restart is a run of
`Task.resumeBackends` from the state `stored` says the store holds. `Restarts` chains any number of
them. The uninterrupted run these results build is the cut run, with the publish lost at the cut
(`pendingPublish`) as a failed one, then the resumed run: it announces exactly the cut run's
states, that lost publish, and the resumed run's states.

The store row and the subject `backend.<B>.state` are the backend's, shared by all its runs; the
runs here follow one another, one per life of the drone, so each is the backend's only run.
-/

namespace Plane.Drone

open Plane

/-- The state the store holds after `effs`, from `init`: the last write that succeeded. -/
def storedFrom (init : Option BackendState) (effs : List Effect) : Option BackendState :=
  effs.foldl (fun acc e =>
    match e with
    | .store s true => some s
    | _ => acc) init

/-- The state the local store holds for the backend after the effects of its task. -/
def stored (effs : List Effect) : Option BackendState := storedFrom none effs

/-- The states published on `backend.<B>.state`: the publishes that succeeded. -/
def published (effs : List Effect) : List BackendState :=
  effs.filterMap fun
    | .publish s true => some s
    | _ => none

@[simp] theorem storedFrom_append (init : Option BackendState) (effs effs' : List Effect) :
    storedFrom init (effs ++ effs') = storedFrom (storedFrom init effs) effs' :=
  List.foldl_append _ _ _ _

@[simp] theorem storedFrom_singleton (init : Option BackendState) (e : Effect) :
    storedFrom init [e] =
      match e with
      | .store s true => some s
      | _ => init := rfl

@[simp] theorem storedFrom_nil (init : Option BackendState) : storedFrom init [] = init := rfl

@[simp] theorem storedFrom_monitorFor (init : Option BackendState) (s : BackendState) :
    storedFrom init (Task.monitorFor s) = init := by
  unfold Task.monitorFor; split <;> rfl

@[simp] theorem published_monitorFor (s : BackendState) : published (Task.monitorFor s) = [] := by
  unfold Task.monitorFor; split <;> rfl

@[simp] theorem published_nil : published [] = [] := rfl

@[simp] theorem published_singleton (e : Effect) :
    published [e] =
      match e with
      | .publish s true => [s]
      | _ => [] := by
  rcases e with _ | ⟨_, _ | _⟩ | _ | _ | _ | _ | _ <;> rfl

@[simp] theorem published_append (effs effs' : List Effect) :
    published (effs ++ effs') = published effs ++ published effs' :=
  List.filterMap_append _ _ _

@[simp] theorem announced_singleton (e : Effect) :
    announced [e] =
      match e with
      | .publish s _ => [s]
      | _ => [] := by
  rcases e with _ | ⟨_, _ | _⟩ | _ | _ | _ | _ | _ <;> rfl

/-- The publish still owed after `effs`, from `init`: the state written last, until a publish
goes out. -/
def pendingFrom (init : List BackendState) (effs : List Effect) : List BackendState :=
  effs.foldl (fun acc e =>
    match e with
    | .store s _ => [s]
    | .publish _ _ => []
    | _ => acc) init

/-- The publish that a stop of the drone after the effects of a task loses: that of the state the
task wrote last, when it stopped between the write and the publish. -/
def pendingPublish (effs : List Effect) : List BackendState := pendingFrom [] effs

@[simp] theorem pendingFrom_append (init : List BackendState) (effs effs' : List Effect) :
    pendingFrom init (effs ++ effs') = pendingFrom (pendingFrom init effs) effs' :=
  List.foldl_append _ _ _ _

@[simp] theorem pendingFrom_singleton (init : List BackendState) (e : Effect) :
    pendingFrom init [e] =
      match e with
      | .store s _ => [s]
      | .publish _ _ => []
      | _ => init := rfl

@[simp] theorem pendingFrom_nil (init : List BackendState) : pendingFrom init [] = init := rfl

@[simp] theorem pendingFrom_monitorFor (init : List BackendState) (s : BackendState) :
    pendingFrom init (Task.monitorFor s) = init := by
  unfold Task.monitorFor; split <;> rfl

/-- What is published is announced: a publish that succeeded. -/
theorem published_sublist (effs : List Effect) : (published effs).Sublist (announced effs) := by
  induction effs with
  | nil => exact List.Sublist.slnil
  | cons e effs ih =>
      rcases e with _ | ⟨s, _ | _⟩ | _ | _ | _ | _ | _
      all_goals first
        | exact ih.cons₂ _
        | exact ih.cons _
        | exact ih

/-- A run from `start_backend` publishes no state twice but `Terminated`. -/
theorem start_published_rises {range : TimeRange} {maxIdleSecs : Nat} {υ : Task}
    {es : List Event} {effs : List Effect}
    (h : Task.startBackend.run range maxIdleSecs es = some (υ, effs)) :
    (published effs).Pairwise Rises :=
  (start_announced_rises h).sublist (published_sublist effs)

/-- Along a run from `start_backend` whose writes all succeed, the store holds `Loading` while the
task announces it, and the state being published while it publishes. -/
def StoreAhead (σ : Task) (acc : List Effect) : Prop :=
  (∀ s, .store s false ∉ acc) →
    (σ.pc = .announce → stored acc = some .loading) ∧
      (∀ exit, σ.pc = .publishing exit → stored acc = some σ.state)

theorem Task.Move.storeAhead {σ τ : Task} {e : Event} {effs acc : List Effect}
    (hmove : Task.Move σ e τ effs) (h : StoreAhead σ acc) : StoreAhead τ (acc ++ effs) := by
  intro hok
  have hprev := h fun s hs => hok s (List.mem_append_left _ hs)
  cases hmove with
  | insertBackend s ok | store s exit ok =>
      cases ok
      · exact absurd (List.mem_append_right _ (List.mem_singleton_self _)) (hok _)
      · simp [stored]
  | publish s exit ok => cases exit <;> simp_all [stored]
  | _ => simp_all [stored]

/-- The exits of the loop through `update_backend_state` write `ErrorLoading` only. -/
def ExitsErrorLoading (σ : Task) : Prop :=
  ∀ exit, (σ.pc = .storing exit ∨ σ.pc = .publishing exit) → exit = true → σ.state = .errorLoading

theorem Task.Move.exitsErrorLoading {σ τ : Task} {e : Event} {effs : List Effect}
    (hmove : Task.Move σ e τ effs) (h : ExitsErrorLoading σ) : ExitsErrorLoading τ := by
  cases hmove <;> simp_all [ExitsErrorLoading]
  all_goals rename_i exit ok; cases exit <;> simp_all

/-- The effects `effsC` of an uninterrupted run complete those of a run cut after `effs`: the
publish the stop lost is a failed publish, and the store and `backend.<B>.state` see nothing else. -/
structure Completes (effs effsC : List Effect) : Prop where
  announced_eq : announced effsC = announced effs ++ pendingPublish effs
  pending_eq : pendingPublish effsC = []
  published_eq : published effsC = published effs
  stored_eq : stored effsC = stored effs
  failed_store : ∀ s, .store s false ∈ effsC → .store s false ∈ effs

/-- A cut right after a write: the publish it owes fails. -/
theorem completes_lost_publish (effs : List Effect) (s : BackendState) :
    Completes (effs ++ [.store s true]) (effs ++ [.store s true] ++ [.publish s false]) where
  announced_eq := by
    simp only [announced_append, announced_singleton, pendingPublish, pendingFrom_append,
      pendingFrom_singleton, List.append_nil]
  pending_eq := by simp only [pendingPublish, pendingFrom_append, pendingFrom_singleton]
  published_eq := by simp only [published_append, published_singleton, List.append_nil]
  stored_eq := by simp only [stored, storedFrom_append, storedFrom_singleton]
  failed_store _ h := (List.mem_append.mp h).resolve_right (by simp)

/-- A cut right after a publish loses nothing. -/
theorem completes_of_publish (effs : List Effect) (s : BackendState) (ok : Bool) :
    Completes (effs ++ [.publish s ok]) (effs ++ [.publish s ok]) where
  announced_eq := by simp [pendingPublish]
  pending_eq := by simp [pendingPublish]
  published_eq := rfl
  stored_eq := rfl
  failed_store _ h := h

/-- Every prefix of a run from `start_backend` whose writes all succeed leaves the store at a
state from which an uninterrupted run, completing the prefix and with writes that all succeed, can
go on as a resumed one: it is at that state either where `resume_backends` starts or where the
loop begins. -/
theorem resumable_of_stored {range : TimeRange} {maxIdleSecs : Nat} (es : List Event) {σ : Task}
    {effs : List Effect} (h : Task.startBackend.run range maxIdleSecs es = some (σ, effs))
    (hok : ∀ s, .store s false ∉ effs) {s : BackendState} (hs : stored effs = some s)
    (hel : s ≠ .errorLoading) :
    ∃ esC τ effsC, Task.startBackend.run range maxIdleSecs esC = some (τ, effsC) ∧
      Completes effs effsC ∧ (∀ s, .store s false ∉ effsC) ∧
      (τ = Task.resumeBackends s ∨ τ = ⟨s, .stepping false⟩) := by
  induction es using List.reverseRecOn generalizing σ effs s with
  | nil =>
      simp only [Task.run_nil, Option.some.injEq, Prod.mk.injEq] at h
      obtain ⟨rfl, rfl⟩ := h
      simp [stored, storedFrom] at hs
  | append_singleton es e ih =>
      obtain ⟨σ', effs₁, effs₂, hrun, hnext, rfl⟩ := Task.run_append_singleton.mp h
      have hok₁ : ∀ s, .store s false ∉ effs₁ := fun s hs => hok s (List.mem_append_left _ hs)
      have hahead := Task.run_induction StoreAhead (fun _ => True)
        (fun _ _ _ _ _ _ hτ hmove => hmove.storeAhead hτ) (fun _ _ => trivial)
        (fun _ => ⟨fun h => by simp [Task.startBackend] at h,
          fun _ h => by simp [Task.startBackend] at h⟩)
        hrun hok₁
      have hexits := Task.run_induction (fun τ _ => ExitsErrorLoading τ) (fun _ => True)
        (fun _ _ _ _ _ _ hτ hmove => hmove.exitsErrorLoading hτ) (fun _ _ => trivial)
        (fun _ h => by simp [Task.startBackend] at h) hrun
      have hann := (announces_run hrun
        (show Announces Task.startBackend [] from ⟨List.chain'_nil, rfl, rfl⟩)).2
      have hrun' := Task.run_append_next e hrun hnext
      rw [stored, storedFrom_append] at hs
      cases Task.Move.of_next hnext with
      | insertBackend s' ok =>
          cases ok
          · exact absurd (List.mem_append_right _ (List.mem_singleton_self _)) (hok _)
          simp only [storedFrom_singleton, Option.some.injEq] at hs
          subst hs
          obtain ⟨-, rfl⟩ := hann
          exact ⟨_, _, _, Task.run_append_next (.publish false) hrun' rfl,
            completes_lost_publish effs₁ _, by simpa using hok₁, .inl rfl⟩
      | store s' exit ok =>
          cases ok
          · exact absurd (List.mem_append_right _ (List.mem_singleton_self _)) (hok _)
          simp only [storedFrom_singleton, Option.some.injEq] at hs
          subst hs
          cases exit
          · exact ⟨_, _, _, Task.run_append_next (.publish false) hrun' rfl,
              completes_lost_publish effs₁ _, by simpa using hok₁, .inr rfl⟩
          · exact absurd (hexits true (.inl rfl) rfl) hel
      | announce s' ok =>
          obtain ⟨-, rfl⟩ := hann
          have hst : storedFrom none effs₁ = some .loading := hahead.1 rfl
          simp only [storedFrom_singleton, hst, Option.some.injEq] at hs
          subst hs
          exact ⟨_, _, _, hrun', completes_of_publish effs₁ _ ok, hok, .inl rfl⟩
      | publish s' exit ok =>
          have hst : storedFrom none effs₁ = some s' := hahead.2 exit rfl
          simp only [storedFrom_singleton, hst, Option.some.injEq] at hs
          subst hs
          cases exit
          · exact ⟨_, _, _, hrun', completes_of_publish effs₁ _ ok, hok, .inr rfl⟩
          · exact absurd (hexits true (.inr rfl) rfl) hel
      | _ =>
          obtain ⟨esC, τ, effsC, hC, hc, hokC, hτ⟩ := ih hrun hok₁ (by simpa using hs) hel
          exact ⟨esC, τ, effsC, hC,
            ⟨by simp [hc.announced_eq, pendingPublish], hc.pending_eq, by simp [hc.published_eq],
              by simpa [stored] using hc.stored_eq,
              fun s h => List.mem_append_left _ (hc.failed_store s h)⟩,
            hokC, hτ⟩

/-- A resumed run goes on as the loop of an uninterrupted one: its first event inserts the
sender. -/
theorem resume_run_from_loop {range : TimeRange} {maxIdleSecs : Nat} {s : BackendState}
    {e : Event} {es : List Event} {σ : Task} {effs : List Effect}
    (h : (Task.resumeBackends s).run range maxIdleSecs (e :: es) = some (σ, effs)) :
    ∃ effs', (⟨s, .stepping false⟩ : Task).run range maxIdleSecs es = some (σ, effs') ∧
      effs = .insertListener :: effs' := by
  obtain ⟨τ, effs₁, effs₂, hnext, hrun, rfl⟩ := Task.run_cons.mp h
  cases Task.Move.of_next hnext
  exact ⟨effs₂, hrun, rfl⟩

/-- How the effects `effs` of an uninterrupted run continue a run cut after `effs₁` with a
resumed run's `effs₂`: the run announces the cut run's states, the publish lost at the cut, then
the resumed run's; it publishes what the two publish, owes what the resumed run owes, leaves the
store as the resumed run does, and has a failed write only where the resumed run has one. -/
structure Continues (effs₁ effs₂ effs : List Effect) : Prop where
  announced_eq : announced effs = announced effs₁ ++ pendingPublish effs₁ ++ announced effs₂
  pending_eq : pendingPublish effs = pendingPublish effs₂
  published_eq : published effs = published effs₁ ++ published effs₂
  stored_eq : stored effs = storedFrom (stored effs₁) effs₂
  failed_store : ∀ s, .store s false ∈ effs → .store s false ∈ effs₂

theorem Completes.continues {effs₁ effsC : List Effect} (hc : Completes effs₁ effsC)
    (hokC : ∀ s, .store s false ∉ effsC) (effs₂ : List Effect) :
    Continues effs₁ effs₂ (effsC ++ effs₂) where
  announced_eq := by rw [announced_append, hc.announced_eq]
  pending_eq := by
    rw [pendingPublish, pendingFrom_append]
    exact congrArg (pendingFrom · effs₂) hc.pending_eq
  published_eq := by rw [published_append, hc.published_eq]
  stored_eq := by rw [stored, storedFrom_append, ← stored, hc.stored_eq]
  failed_store s h := (List.mem_append.mp h).resolve_left (hokC s)

/-- The sender a resumed run inserts first is already in place in the uninterrupted run. -/
theorem Continues.insertListener {effs₁ effs₂ effs : List Effect} (h : Continues effs₁ effs₂ effs) :
    Continues effs₁ (.insertListener :: effs₂) effs where
  announced_eq := h.announced_eq
  pending_eq := h.pending_eq
  published_eq := h.published_eq
  stored_eq := h.stored_eq
  failed_store s hs := List.mem_cons_of_mem _ (h.failed_store s hs)

/-- A run from `start_backend` whose writes all succeed, cut where the store holds `s`, and a run
resumed from `s` make up an uninterrupted run from `start_backend`, which ends in the resumed run's
state and continues the two. -/
theorem resume_extends_run {range : TimeRange} {maxIdleSecs : Nat} {es₁ : List Event} {σ₁ : Task}
    {effs₁ : List Effect} (h₁ : Task.startBackend.run range maxIdleSecs es₁ = some (σ₁, effs₁))
    (hok : ∀ s, .store s false ∉ effs₁) {s : BackendState} (hs : stored effs₁ = some s)
    (hel : s ≠ .errorLoading) {es₂ : List Event} {σ₂ : Task} {effs₂ : List Effect}
    (h₂ : (Task.resumeBackends s).run range maxIdleSecs es₂ = some (σ₂, effs₂)) :
    ∃ es σ effs, Task.startBackend.run range maxIdleSecs es = some (σ, effs) ∧
      σ.state = σ₂.state ∧ Continues effs₁ effs₂ effs := by
  obtain ⟨esC, τ, effsC, hC, hc, hokC, rfl | rfl⟩ := resumable_of_stored es₁ h₁ hok hs hel
  · exact ⟨esC ++ es₂, σ₂, effsC ++ effs₂, Task.run_append.mpr ⟨_, _, _, hC, h₂, rfl⟩, rfl,
      hc.continues hokC effs₂⟩
  · rcases es₂ with _ | ⟨e, es₂⟩
    · simp only [Task.run_nil, Option.some.injEq, Prod.mk.injEq] at h₂
      obtain ⟨rfl, rfl⟩ := h₂
      exact ⟨esC, _, effsC, hC, rfl, List.append_nil effsC ▸ hc.continues hokC []⟩
    · obtain ⟨effs', hrun, rfl⟩ := resume_run_from_loop h₂
      exact ⟨esC ++ es₂, σ₂, effsC ++ effs', Task.run_append.mpr ⟨_, _, _, hC, hrun, rfl⟩, rfl,
        (hc.continues hokC effs').insertListener⟩

/-- Suppose no write of a backend's state to the local store failed before the drone stopped,
wherever it stopped, and the store does not hold `ErrorLoading`. Then an uninterrupted run from
`start_backend` continues the run before the stop with the run that `resume_backends` restarts
from the store: it ends in the resumed run's state; it announces the states announced before the
stop, then the state whose publish the stop lost if it fell between a write and its publish, then
the states announced after the restart; and it publishes the states published before the stop and
after the restart. The two runs are the backend's only ones, one on each side of the stop, so the
store row and `backend.<B>.state` are theirs alone. -/
theorem resume_continues_some_run (range : TimeRange) (maxIdleSecs : Nat) (es₁ : List Event)
    (σ₁ : Task) (effs₁ : List Effect)
    (h₁ : Task.startBackend.run range maxIdleSecs es₁ = some (σ₁, effs₁))
    (hok : ∀ s, .store s false ∉ effs₁) (s : BackendState) (hs : stored effs₁ = some s)
    (hel : s ≠ .errorLoading) (es₂ : List Event) (σ₂ : Task) (effs₂ : List Effect)
    (h₂ : (Task.resumeBackends s).run range maxIdleSecs es₂ = some (σ₂, effs₂)) :
    ∃ es σ effs, Task.startBackend.run range maxIdleSecs es = some (σ, effs) ∧
      σ.state = σ₂.state ∧
      announced effs = announced effs₁ ++ pendingPublish effs₁ ++ announced effs₂ ∧
      published effs = published effs₁ ++ published effs₂ :=
  let ⟨es, σ, effs, h, hstate, hc⟩ := resume_extends_run h₁ hok hs hel h₂
  ⟨es, σ, effs, h, hstate, hc.announced_eq, hc.published_eq⟩

/-- The drone stops after writing `Starting` and before publishing it; resumed from `Starting`,
the backend goes on to `Ready`. The uninterrupted run announces `Loading`, the lost `Starting`,
then `Ready`. -/
theorem resume_continues_some_run_after_starting :
    ∃ es σ effs, Task.startBackend.run ⟨0, 0, 0⟩ 0 es = some (σ, effs) ∧
      σ.state = BackendState.ready ∧
      announced effs =
        announced [.store .loading true, .publish .loading true, .insertListener,
          .engineCall .loading, .insertMonitor, .store .starting true] ++
        pendingPublish [.store .loading true, .publish .loading true, .insertListener,
          .engineCall .loading, .insertMonitor, .store .starting true] ++
        announced [.insertListener, .engineCall .starting, .insertMonitor, .store .ready true,
          .publish .ready true] ∧
      published effs =
        published [.store .loading true, .publish .loading true, .insertListener,
          .engineCall .loading, .insertMonitor, .store .starting true] ++
        published [.insertListener, .engineCall .starting, .insertMonitor, .store .ready true,
          .publish .ready true] :=
  resume_continues_some_run ⟨0, 0, 0⟩ 0
    [.store true, .publish true, .advance, .poll, .complete ⟨.ok (), .ok (.running "10.0.0.2:8080"),
      .ok (), .ok (), [], .ok ()⟩, .store true] ⟨.starting, .publishing false⟩
    [.store .loading true, .publish .loading true, .insertListener, .engineCall .loading,
      .insertMonitor, .store .starting true] rfl (by simp)
    .starting rfl (by decide)
    [.advance, .poll,
      .complete ⟨.ok (), .ok (.running "10.0.0.2:8080"), .ok (), .ok (), [], .ok ()⟩,
      .store true, .publish true] ⟨.ready, .stepping false⟩ _ rfl

/-- A write of `Starting` to the store fails and `log_error` swallows it; `Starting` is published
and the drone stops. The store still holds `Loading`, so the resumed backend loads again and
publishes `Starting` a second time, which no uninterrupted run publishes. -/
theorem lost_store_write_publishes_starting_twice :
    let up : StepReplies := ⟨.ok (), .ok (.running "10.0.0.2:8080"), .ok (), .ok (), [], .ok ()⟩
    (Task.startBackend.run ⟨0, 0, 0⟩ 0 [.store true, .publish true, .advance, .poll, .complete up,
        .store false, .publish true]).map (fun r => (stored r.2, published r.2)) =
      some (some .loading, [.loading, .starting]) ∧
    ((Task.resumeBackends .loading).run ⟨0, 0, 0⟩ 0 [.advance, .poll, .complete up, .store true,
        .publish true]).map (fun r => published r.2) = some [.starting] ∧
    ∀ range maxIdleSecs es σ effs, Task.startBackend.run range maxIdleSecs es = some (σ, effs) →
      published effs ≠ [.loading, .starting, .starting] := by
  refine ⟨by decide, by decide, fun range maxIdleSecs es σ effs h heq => ?_⟩
  have hrises := start_published_rises h
  rw [heq] at hrises
  simp [Rises, BackendState.index] at hrises

/-! ## Any number of restarts -/

end Plane.Drone

import Plane.Drone.Basic

/-! # `StatsStream`

The Docker engine turns the container's raw stats into `BackendStatsMessage`s with a
`StatsStream`: each sample after the first is paired with the one before it by
`BackendStatsMessage::from_stats_messages`, whose result is unwrapped. On the first sample,
`poll_next` keeps it and returns `Pending` though the inner stream returned `Ready`, so no waker
is registered. A consumer that polls again after `Pending` only once woken, as an async task
does, is never polled again: from a fresh stream it gets no message at all. One that polls in a
loop gets a message for each consecutive pair of samples.

The inner stream is the sequence of what its `poll_next_unpin` returns, one result per poll.
`Stats`, `BackendStatsMessage` and `from_stats_messages` come from outside the repository's
sources; they are parameters here.
-/

namespace Plane.Drone

open Plane

/-- `Poll`. -/
inductive Poll (α : Type)
  | ready (a : α)
  | pending
  deriving DecidableEq, Repr

/-- `StatsStream`, without its inner stream. -/
structure StatsStream (Stats : Type) where
  last : Option Stats
  backendId : BackendId
  deriving DecidableEq, Repr

namespace StatsStream

variable {Stats Msg : Type} (fromStatsMessages : BackendId → Stats → Stats → Option Msg)

/-- `StatsStream::new`. -/
def new (backendId : BackendId) : StatsStream Stats := ⟨none, backendId⟩

/-- `poll_next`, given what the inner stream returned; `none` when `unwrap` panics. -/
def pollNext (s : StatsStream Stats) :
    Poll (Option Stats) → Option (StatsStream Stats × Poll (Option Msg))
  | .pending => some (s, .pending)
  | .ready none => some (s, .ready none)
  | .ready (some stat) =>
      match s.last with
      | some last =>
          (fromStatsMessages s.backendId last stat).map fun v =>
            ({ s with last := some stat }, .ready (some v))
      | none => some ({ s with last := some stat }, .pending)

/-- How a consumer stops polling. -/
inductive Stop
  /-- `poll_next` returned `Ready(None)`. -/
  | finished
  /-- `poll_next` returned `Pending` with no waker registered, so no one wakes the consumer. -/
  | stalled
  /-- The inner stream's results ran out while the consumer still polls. -/
  | polling
  deriving DecidableEq, Repr

/-- A consumer that polls again after `Ready`, and after `Pending` once woken: the inner stream
wakes it only after a `Pending` of its own. The messages it gets, and how it stops. -/
def drive (s : StatsStream Stats) : List (Poll (Option Stats)) → Option (List Msg × Stop)
  | [] => some ([], .polling)
  | p :: ps =>
      match s.pollNext fromStatsMessages p with
      | none => none
      | some (s', .ready (some v)) => (drive s' ps).map fun (msgs, stop) => (v :: msgs, stop)
      | some (_, .ready none) => some ([], .finished)
      | some (s', .pending) =>
          match p with
          | .pending => drive s' ps
          | _ => some ([], .stalled)

/-- A consumer that polls in a loop until `Ready(None)`, woken or not. -/
def busyPoll (s : StatsStream Stats) : List (Poll (Option Stats)) → Option (List Msg × Stop)
  | [] => some ([], .polling)
  | p :: ps =>
      match s.pollNext fromStatsMessages p with
      | none => none
      | some (s', .ready (some v)) => (busyPoll s' ps).map fun (msgs, stop) => (v :: msgs, stop)
      | some (_, .ready none) => some ([], .finished)
      | some (s', .pending) => busyPoll s' ps

/-- The samples among the inner stream's results. -/
def samples : List (Poll (Option Stats)) → List Stats
  | [] => []
  | .ready (some stat) :: ps => stat :: samples ps
  | _ :: ps => samples ps

/-- What the stream should yield: one message per consecutive pair of samples, the first paired
with `last` if there is one; `none` when `from_stats_messages` fails. -/
def messages (backendId : BackendId) : Option Stats → List Stats → Option (List Msg)
  | _, [] => some []
  | none, stat :: stats => messages backendId (some stat) stats
  | some last, stat :: stats =>
      (fromStatsMessages backendId last stat).bind fun v =>
        (messages backendId (some stat) stats).map (v :: ·)

/-! ## What a consumer gets -/

variable {fromStatsMessages}

/-- A stream that has no sample yet gives a consumer that waits to be woken no message, whatever
the inner stream returns: on the first sample it answers `Pending` with no waker registered. -/
theorem drive_of_last_none (s : StatsStream Stats) (hs : s.last = none)
    (inner : List (Poll (Option Stats))) :
    ((s.drive fromStatsMessages inner).map Prod.fst : Option (List Msg)) = some [] := by
  induction inner generalizing s with
  | nil => rfl
  | cons p ps ih =>
      rcases p with _ | _ | _
      · rename_i stat
        rcases stat with _ | stat
        · rfl
        · simp [drive, pollNext, hs]
      · exact ih s hs

/-- A fresh `StatsStream` gives a consumer that waits to be woken no message, whatever the inner
stream returns and whatever `from_stats_messages` computes. -/
theorem new_stream_yields_nothing (backendId : BackendId) (inner : List (Poll (Option Stats))) :
    (((new backendId).drive fromStatsMessages inner).map Prod.fst : Option (List Msg)) = some [] :=
  drive_of_last_none _ rfl inner

/-- Polled in a loop, the stream yields one message per consecutive pair of samples, the first
paired with the sample it kept, and then `None`; it panics exactly when `from_stats_messages`
fails on one of these pairs. -/
theorem busyPoll_eq_messages (s : StatsStream Stats) (ps : List (Poll (Option Stats)))
    (hps : .ready none ∉ ps) :
    s.busyPoll fromStatsMessages (ps ++ [.ready none]) =
      (messages fromStatsMessages s.backendId s.last (samples ps)).map (·, .finished) := by
  induction ps generalizing s with
  | nil => rcases s with ⟨_ | _, _⟩ <;> rfl
  | cons p ps ih =>
      have hps' : .ready none ∉ ps := fun h => hps (List.mem_cons_of_mem _ h)
      rcases p with _ | _ | _
      · rename_i stat
        rcases stat with _ | stat
        · simp at hps
        · rcases hlast : s.last with _ | last
          · simp only [List.cons_append, busyPoll, pollNext, hlast, samples, messages]
            exact ih _ hps'
          · simp only [List.cons_append, busyPoll, pollNext, hlast, samples, messages]
            rcases fromStatsMessages s.backendId last stat with _ | v
            · rfl
            · simp only [Option.map_some', Option.some_bind, List.append_eq, ih _ hps',
                Option.map_map]
              rfl
      · exact ih s hps'

/-- Two samples with a `Pending` between them yield the message of the pair. -/
theorem busyPoll_eq_messages_pending_between :
    let pair : BackendId → Nat → Nat → Option (Nat × Nat) := fun _ a b => some (a, b)
    (new ⟨"b"⟩ : StatsStream Nat).busyPoll pair
        ([.ready (some 1), .pending, .ready (some 2)] ++ [.ready none]) =
      (messages pair ⟨"b"⟩ none (samples [.ready (some 1), .pending, .ready (some 2)])).map
        (·, .finished) :=
  busyPoll_eq_messages _ _ (by decide)

/-- Two samples and the end. `poll_next` answers the first sample with `Pending` and registers no
waker, so a consumer that waits to be woken stalls and never gets the message of the pair, which
a consumer polling in a loop gets. -/
theorem stats_stream_stalls_on_first_sample :
    let pair : BackendId → Nat → Nat → Option (Nat × Nat) := fun _ a b => some (a, b)
    let inner : List (Poll (Option Nat)) := [.ready (some 1), .ready (some 2), .ready none]
    (new ⟨"b"⟩ : StatsStream Nat).pollNext pair (.ready (some 1)) =
        some (⟨some 1, ⟨"b"⟩⟩, .pending) ∧
      (new ⟨"b"⟩).drive pair inner = some ([], .stalled) ∧
      (new ⟨"b"⟩).busyPoll pair inner = some ([(1, 2)], .finished) ∧
      messages pair ⟨"b"⟩ none (samples inner) = some [(1, 2)] := by
  decide

end StatsStream

end Plane.Drone

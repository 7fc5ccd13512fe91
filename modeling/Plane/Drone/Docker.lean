import Mathlib.Data.List.AList

/-! # What the drone reads from Docker

Two parsers of the Docker engine's reports. `ContainerEvent::from_event_message` reads an event
of Docker's event stream: it accepts exactly the events whose action is the word of one of the
container event types, alone or with metadata after a colon, from an actor that names the
container, and gives back that type and name. `get_ip_of_container` reads a container's address
from its inspect response: the container's own address when it has a nonempty one, else the
address of its only network; it never panics.

bollard's records are modelled by the fields these functions read, Docker's maps by `AList`s.
-/

namespace Plane.Drone.Docker

/-! ## Container events -/

/-- `ContainerEventType`. -/
inductive ContainerEventType
  | attach | commit | copy | create | destroy | detach | die | execCreate | execDetach
  | execDie | execStart | «export» | healthStatus | kill | oom | pause | rename | resize
  | restart | start | stop | top | unpause | update
  deriving DecidableEq, Repr

namespace ContainerEventType

/-- The match of `from_event_message`, from an action word to its event type. -/
def ofAction : String → Option ContainerEventType
  | "attach" => some .attach
  | "commit" => some .commit
  | "copy" => some .copy
  | "create" => some .create
  | "destroy" => some .destroy
  | "detach" => some .detach
  | "die" => some .die
  | "exec_create" => some .execCreate
  | "exec_detach" => some .execDetach
  | "exec_die" => some .execDie
  | "exec_start" => some .execStart
  | "export" => some .«export»
  | "health_status" => some .healthStatus
  | "kill" => some .kill
  | "oom" => some .oom
  | "pause" => some .pause
  | "rename" => some .rename
  | "resize" => some .resize
  | "restart" => some .restart
  | "start" => some .start
  | "stop" => some .stop
  | "top" => some .top
  | "unpause" => some .unpause
  | "update" => some .update
  | _ => none

/-- The action word of each event type: the match of `from_event_message` read the other way. -/
def action : ContainerEventType → String
  | .attach => "attach"
  | .commit => "commit"
  | .copy => "copy"
  | .create => "create"
  | .destroy => "destroy"
  | .detach => "detach"
  | .die => "die"
  | .execCreate => "exec_create"
  | .execDetach => "exec_detach"
  | .execDie => "exec_die"
  | .execStart => "exec_start"
  | .«export» => "export"
  | .healthStatus => "health_status"
  | .kill => "kill"
  | .oom => "oom"
  | .pause => "pause"
  | .rename => "rename"
  | .resize => "resize"
  | .restart => "restart"
  | .start => "start"
  | .stop => "stop"
  | .top => "top"
  | .unpause => "unpause"
  | .update => "update"

theorem ofAction_action (t : ContainerEventType) : ofAction t.action = some t := by
  cases t <;> rfl

theorem eq_action_of_ofAction {a : String} {t : ContainerEventType} (h : ofAction a = some t) :
    a = t.action := by
  unfold ofAction at h
  split at h <;> cases h <;> rfl

theorem colon_not_mem_action (t : ContainerEventType) : ':' ∉ t.action.data := by
  cases t <;> decide

end ContainerEventType

/-- `action.split(':').next()`: the action up to its first colon, all of it when it has none. -/
def actionWord (action : String) : String := ⟨action.data.takeWhile (· != ':')⟩

/-- An action as the event stream reports it: the word of its event type, and after a colon the
metadata some actions carry. -/
def reportedAction (t : ContainerEventType) : Option String → String
  | none => t.action
  | some metadata => t.action ++ ":" ++ metadata

theorem actionWord_reportedAction (t : ContainerEventType) (metadata : Option String) :
    actionWord (reportedAction t metadata) = t.action := by
  have hword : ∀ c ∈ t.action.data, (c != ':') = true := fun c hc => by
    simpa using ne_of_mem_of_not_mem hc t.colon_not_mem_action
  cases metadata with
  | none => exact congrArg String.mk (List.takeWhile_eq_self_iff.mpr hword)
  | some metadata =>
      refine congrArg String.mk ?_
      simp only [reportedAction, String.data_append, List.append_assoc,
        List.takeWhile_append_of_pos hword]
      exact List.append_nil _

theorem eq_reportedAction_of_actionWord {a : String} {t : ContainerEventType}
    (h : actionWord a = t.action) : ∃ metadata, a = reportedAction t metadata := by
  have hsplit := List.takeWhile_append_dropWhile (· != ':') a.data
  have hhead := List.head?_dropWhile_not (· != ':') a.data
  rw [show a.data.takeWhile (· != ':') = t.action.data from congrArg String.data h] at hsplit
  rcases hdrop : a.data.dropWhile (· != ':') with _ | ⟨c, rest⟩
  · exact ⟨none, String.ext (by simpa [hdrop] using hsplit.symm)⟩
  · rw [hdrop] at hsplit hhead
    have hc : c = ':' := by simpa using hhead
    subst hc
    exact ⟨some ⟨rest⟩, String.ext (by simpa [reportedAction] using hsplit.symm)⟩

/-- The field of bollard's `EventActor` that `from_event_message` reads. -/
structure EventActor where
  attributes : Option (AList fun _ : String => String)

/-- The fields of bollard's `EventMessage` that `from_event_message` reads. -/
structure EventMessage where
  action : Option String
  actor : Option EventActor

/-- `ContainerEvent`. -/
structure ContainerEvent where
  event : ContainerEventType
  name : String
  deriving DecidableEq, Repr

/-- `ContainerEvent::from_event_message`. The first item of a split always exists, so its
`expect` never fires. -/
def ContainerEvent.fromEventMessage (event : EventMessage) : Option ContainerEvent :=
  event.action.bind fun action =>
    event.actor.bind fun actor =>
      actor.attributes.bind fun attributes =>
        (attributes.lookup "name").bind fun name =>
          (ContainerEventType.ofAction (actionWord action)).map fun event => ⟨event, name⟩

/-- The parser accepts exactly the events the stream reports: an action word of the table, with or
without metadata after a colon, from an actor whose attributes name the container. -/
theorem fromEventMessage_eq_some_iff (event : EventMessage) (e : ContainerEvent) :
    ContainerEvent.fromEventMessage event = some e ↔
      ∃ metadata attributes, attributes.lookup "name" = some e.name ∧
        event = ⟨some (reportedAction e.event metadata), some ⟨some attributes⟩⟩ := by
  constructor
  · intro h
    simp only [ContainerEvent.fromEventMessage, Option.bind_eq_some, Option.map_eq_some'] at h
    obtain ⟨action, haction, ⟨_⟩, hactor, attributes, rfl, name, hname, t, ht, rfl⟩ := h
    obtain ⟨metadata, rfl⟩ :=
      eq_reportedAction_of_actionWord (ContainerEventType.eq_action_of_ofAction ht)
    rcases event with ⟨_, _⟩
    cases haction
    cases hactor
    exact ⟨metadata, attributes, hname, rfl⟩
  · rintro ⟨metadata, attributes, hname, rfl⟩
    simp [ContainerEvent.fromEventMessage, hname, actionWord_reportedAction,
      ContainerEventType.ofAction_action]

example : ContainerEvent.fromEventMessage
    ⟨some "health_status: healthy", some ⟨some ⟨[⟨"name", "web"⟩], List.nodupKeys_singleton _⟩⟩⟩ =
      some ⟨.healthStatus, "web"⟩ := by decide

/-! ## A container's address -/

/-- The field of bollard's `EndpointSettings` that `get_ip_of_container` reads. -/
structure EndpointSettings where
  ipAddress : Option String

/-- The fields of bollard's `NetworkSettings` that `get_ip_of_container` reads. -/
structure NetworkSettings where
  ipAddress : Option String
  networks : Option (AList fun _ : String => EndpointSettings)

/-- The field of bollard's `ContainerInspectResponse` that `get_ip_of_container` reads. -/
structure ContainerInspectResponse where
  networkSettings : Option NetworkSettings

section GetIp

variable {IpAddr : Type} (parse : String → Except String IpAddr)

/-- The address of the container's one network: what `get_ip_of_container` does when the
container has no address of its own. `none` when the `expect` after the length check panics. -/
def ipOfNetworks :
    Option (AList fun _ : String => EndpointSettings) → Option (Except String IpAddr)
  | none => some (.error "Inspect did not return an IP or networks.")
  | some networks =>
      if networks.entries.length ≠ 1 then
        some (.error ("Expected exactly one network, got " ++ toString networks.entries.length))
      else
        networks.entries.head?.map fun ⟨_, network⟩ =>
          match network.ipAddress with
          | none => .error "One network found, but did not have IP address."
          | some ip => parse ip

/-- `get_ip_of_container`. `parse` is `str::parse` into an `IpAddr`, whose error `?` passes on;
`none` when an `expect` panics. -/
def getIpOfContainer (inspectResponse : ContainerInspectResponse) :
    Option (Except String IpAddr) :=
  match inspectResponse.networkSettings with
  | none => some (.error "Inspect did not return network settings.")
  | some networkSettings =>
      match networkSettings.ipAddress with
      | some ipAddr =>
          if ipAddr ≠ "" then some (parse ipAddr) else ipOfNetworks parse networkSettings.networks
      | none => ipOfNetworks parse networkSettings.networks

variable {parse}

theorem ipOfNetworks_isSome (networks : Option (AList fun _ : String => EndpointSettings)) :
    (ipOfNetworks parse networks).isSome := by
  rcases networks with _ | ⟨_ | ⟨network, _ | _⟩, _⟩ <;> rfl

/-- The `expect` after the length check never fires: `get_ip_of_container` always returns. -/
theorem getIpOfContainer_isSome (inspectResponse : ContainerInspectResponse) :
    (getIpOfContainer parse inspectResponse).isSome := by
  rcases inspectResponse with ⟨_ | ⟨_ | ipAddr, networks⟩⟩
  · rfl
  · exact ipOfNetworks_isSome networks
  · by_cases h : ipAddr = "" <;> simp [getIpOfContainer, h, ipOfNetworks_isSome]

theorem ipOfNetworks_eq_error {networks : Option (AList fun _ : String => EndpointSettings)}
    {msg : String} (h : ipOfNetworks parse networks = some (.error msg)) :
    msg = "Inspect did not return an IP or networks." ∨
      (∃ n, n ≠ 1 ∧ msg = "Expected exactly one network, got " ++ toString n) ∨
      msg = "One network found, but did not have IP address." ∨ ∃ s, parse s = .error msg := by
  rcases networks with _ | ⟨entries, _⟩
  · exact .inl (by simpa [ipOfNetworks] using h.symm)
  · by_cases hlen : entries.length = 1
    · obtain ⟨⟨name, ⟨_ | s⟩⟩, rfl⟩ := List.length_eq_one.mp hlen
      · exact .inr (.inr (.inl (by simpa [ipOfNetworks] using h.symm)))
      · exact .inr (.inr (.inr ⟨s, by simpa [ipOfNetworks] using h⟩))
    · exact .inr (.inl ⟨_, hlen, by simpa [ipOfNetworks, hlen] using h.symm⟩)

/-- Every error of `get_ip_of_container` is one of its own texts, each naming what the response
lacks, or an error of the address parser. -/
theorem getIpOfContainer_eq_error {inspectResponse : ContainerInspectResponse} {msg : String}
    (h : getIpOfContainer parse inspectResponse = some (.error msg)) :
    msg = "Inspect did not return network settings." ∨
      msg = "Inspect did not return an IP or networks." ∨
      (∃ n, n ≠ 1 ∧ msg = "Expected exactly one network, got " ++ toString n) ∨
      msg = "One network found, but did not have IP address." ∨ ∃ s, parse s = .error msg := by
  rcases inspectResponse with ⟨_ | ⟨_ | ipAddr, networks⟩⟩
  · exact .inl (by simpa [getIpOfContainer] using h.symm)
  · exact .inr (ipOfNetworks_eq_error h)
  · by_cases hempty : ipAddr = ""
    · exact .inr (ipOfNetworks_eq_error (by simpa [getIpOfContainer, hempty] using h))
    · exact .inr (.inr (.inr (.inr ⟨ipAddr, by simpa [getIpOfContainer, hempty] using h⟩)))

example :
    getIpOfContainer (fun s => if s = "10.0.0.2" then .ok 2 else .error "invalid IP address syntax")
      ⟨some ⟨some "", some ⟨[⟨"a", ⟨some "10.0.0.2"⟩⟩, ⟨"b", ⟨none⟩⟩], by simp [List.NodupKeys]⟩⟩⟩ =
      some (.error "Expected exactly one network, got 2") :=
  rfl

end GetIp

end Plane.Drone.Docker

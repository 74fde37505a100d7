import RedDock.Inventory
import RedDock.Executions
import RedDock.Fallible

/-!
# The nmap report

`NmapAdapter.normalize`: the assets, services and observations of a parsed XML
report, and how the identified services and the observations of them go
together.
-/
set_option autoImplicit false
namespace RedDock.NmapReport
open Text Inventory Fallible
open Detection (Json)
open Executions (Raised)

/-- An element of the parsed report. -/
inductive Element
  | node (tag : Text) (attributes : List (Text × Text)) (children : List Element)

namespace Element

def tag : Element → Text
  | node tag _ _ => tag

def get (element : Element) (key : String) : Option Text :=
  match element with
  | node _ attributes _ => attributes.lookup key.toList

def findall (element : Element) (tag : String) : List Element :=
  match element with
  | node _ _ children => children.filter fun child => child.tag = tag.toList

def find (element : Element) (tag : String) : Option Element := (element.findall tag).head?

/-- `findall("./first/second")` -/
def findall_in (element : Element) (first second : String) : List Element :=
  (element.findall first).flatMap fun child => child.findall second

end Element

/-- `str.isdigit`, `int`, which raises where it is absent, and `str.upper`. -/
structure Strings where
  isdigit : Text → Bool
  int : Text → Option Nat
  upper : Text → Text

def PORT_STATES : List Text :=
  OPEN_SERVICE_STATES ++ ["closed".toList, "filtered".toList, "unfiltered".toList, "closed|filtered".toList]
def MAX_SUMMARY_PORTS : Nat := 1000

/-- What `_normalize_ports` has collected. -/
structure Ports where
  services : List DiscoveredService := []
  observations : List DiscoveredObservation := []
  seen : List (Text × Nat) := []

/-- A port with its state, as `_append_port` is given it. -/
structure Port where
  transport : Text
  port : Nat
  state : Text
  reason : Text
  identified : List (Text × Text) := []

def Port.get (port : Port) (key : String) : Option Text := port.identified.lookup key.toList

section
variable (strings : Strings)

/-- `_port_number` -/
def port_number (raw : Option Text) : Except Raised (Option Nat) :=
  match raw with
  | none => .ok none
  | some raw =>
    if !strings.isdigit raw then .ok none
    else match strings.int raw with
      | none => .error .unexpected
      | some number => .ok (if 1 ≤ number ∧ number ≤ 65535 then some number else none)

/-- `_describe` -/
def describe (port : Port) : Text :=
  let product := (or_else (port.get "product") (some ((port.get "name").getD []))).getD []
  join " ".toList ([product, (port.get "version").getD []].filter (!·.isEmpty))

def discovered_service (port : Port) : DiscoveredService where
  transport := port.transport
  port := port.port
  state := port.state
  service_name := port.get "name"
  product := port.get "product"
  version := port.get "version"

def port_state (address : Text) (port : Port) : DiscoveredObservation where
  observation_type := "port_state".toList
  summary := strings.upper port.transport ++ "/".toList ++ dec port.port ++ " ".toList ++ port.state ++ " on ".toList ++ address
  confidence := .observed
  asset_identity := some address
  service_port := some (port.transport, port.port)
  detail := some [("reason".toList, .str port.reason)]

def IDENTIFICATION : Text := "service_identified".toList

def service_identified (address : Text) (port : Port) : DiscoveredObservation where
  observation_type := IDENTIFICATION
  summary := strings.upper port.transport ++ "/".toList ++ dec port.port ++ " identified as ".toList ++ describe port
  confidence := .reported
  asset_identity := some address
  service_port := some (port.transport, port.port)
  detail := some (port.identified.map fun member => (member.1, Json.str member.2))

/-- `_append_port` -/
def append_port (address : Text) (ports : Ports) (port : Port) : Except Raised Ports :=
  if (port.transport, port.port) ∈ ports.seen then
    .error (.adapter_error "Nmap port summary contains a duplicate port".toList)
  else .ok {
    services := ports.services ++ [discovered_service port]
    observations := ports.observations ++ port_state strings address port ::
      (if port.identified.isEmpty then [] else [service_identified strings address port])
    seen := (port.transport, port.port) :: ports.seen }

/-- A value that is present and not empty. -/
def nonempty : Option Text → Option Text
  | some (c :: cs) => some (c :: cs)
  | _ => none

/-- `_identified_service` -/
def identified_service (port : Element) : List (Text × Text) :=
  match port.find "service" with
  | none => []
  | some service =>
    if service.get "method" ≠ some "probed".toList then []
    else
      let identified := ["name", "product", "version"].filterMap fun key =>
        (nonempty (service.get key)).map fun value => (key.toList, value)
      if service.get "tunnel" = some "ssl".toList then
        identified.map fun member => if member.1 = "name".toList then (member.1, "ssl/".toList ++ member.2) else member
      else identified

/-- One `port` element. -/
def normalize_port (address : Text) (ports : Ports) (port : Element) : Except Raised Ports :=
  match port.find "state" with
  | none => .ok ports
  | some state_element => do
    match ← port_number strings (port.get "portid") with
    | none => return ports
    | some number =>
      let state := (state_element.get "state").getD "unknown".toList
      if state ∉ PORT_STATES then return ports
      else append_port strings address ports {
        transport := (port.get "protocol").getD "tcp".toList
        port := number
        state := state
        reason := (state_element.get "reason").getD []
        identified := if state ∈ OPEN_SERVICE_STATES then identified_service port else [] }

/-- The ports of one item of a summary: a port or a range of them. -/
def summary_item (item : Text) : Except Raised (List Nat) :=
  match item.splitOn '-' with
  | [bound] => do return ((← port_number strings (some bound)).map fun port => [port]).getD []
  | [start, last] => do
    match ← port_number strings (some start), ← port_number strings (some last) with
    | some start, some last => return if start ≤ last then (List.range (last + 1 - start)).map (start + ·) else []
    | _, _ => return []
  | _ => return []

def add_summary_port (ports : List Nat) (port : Nat) : Except Raised (List Nat) :=
  if port ∈ ports then .error (.adapter_error "Nmap port summary contains a duplicate port".toList)
  else if MAX_SUMMARY_PORTS < ports.length + 1 then
    .error (.adapter_error "Nmap port summary exceeds the configured scan bound".toList)
  else .ok (ports ++ [port])

/-- `_expand_port_summary` -/
def expand_port_summary (raw : Text) : Except Raised (List Nat) :=
  (raw.splitOn ',').foldlM (fun ports item => do
    let values ← summary_item strings item
    if values.isEmpty then .error (.adapter_error "Nmap port summary is invalid".toList)
    else values.foldlM add_summary_port ports) []

/-- One `extrareasons` element of a state. -/
def normalize_summary (address state : Text) (ports : Ports) (reason : Element) : Except Raised Ports :=
  match reason.get "proto", reason.get "ports" with
  | some transport, some raw_ports =>
    if transport ≠ "tcp".toList then .ok ports
    else do
      let numbers ← expand_port_summary strings raw_ports
      let mismatch : Except Raised Ports :=
        .error (.adapter_error "Nmap port summary count does not match its exact ports".toList)
      match reason.get "count" with
      | none => mismatch
      | some raw_count =>
        if !strings.isdigit raw_count then mismatch
        else match strings.int raw_count with
          | none => .error .unexpected
          | some count =>
            if count ≠ numbers.length then mismatch
            else numbers.foldlM (fun ports number => append_port strings address ports {
              transport := transport
              port := number
              state := state
              reason := (reason.get "reason").getD [] }) ports
  | _, _ => .ok ports

def normalize_extra (address : Text) (ports : Ports) (extra : Element) : Except Raised Ports :=
  let state := (extra.get "state").getD "unknown".toList
  if state ∉ PORT_STATES then .ok ports
  else (extra.findall "extrareasons").foldlM (normalize_summary strings address state) ports

/-- `_normalize_ports` -/
def normalize_ports (host : Element) (address : Text) : Except Raised Ports := do
  let ports ← (host.findall_in "ports" "port").foldlM (normalize_port strings address) {}
  (host.findall_in "ports" "extraports").foldlM (normalize_extra strings address) ports

/-- `_host_address` -/
def host_address (host : Element) : Option Text :=
  ((host.findall "address").find? fun address =>
    address.get "addrtype" = some "ipv4".toList || address.get "addrtype" = some "ipv6".toList).bind (·.get "addr")

/-- What `normalize` has collected. -/
structure Report where
  assets : List DiscoveredAsset := []
  observations : List DiscoveredObservation := []

def host_asset (hostname : Option Text) (address : Text) (services : List DiscoveredService) : DiscoveredAsset where
  asset_type := .host
  identity := address
  display_name := (or_else hostname (some address)).getD []
  ip_address := some address
  hostname := hostname
  services := services

def host_responded (address reason : Text) : DiscoveredObservation where
  observation_type := "host_responded".toList
  summary := "Host ".toList ++ address ++ " responded (".toList ++ reason ++ ")".toList
  confidence := .observed
  asset_identity := some address
  detail := some [("reason".toList, .str reason)]

/-- One `host` element. -/
def normalize_host (hostname : Option Text) (report : Report) (host : Element) : Except Raised Report :=
  match host_address host with
  | none => .ok report
  | some address =>
    let status := host.find "status"
    if ((status.bind (·.get "state")).getD "unknown".toList) ≠ "up".toList then .ok report
    else do
      let ports ← normalize_ports strings host address
      let reason := (status.bind (·.get "reason")).getD "response".toList
      return {
        assets := report.assets ++ [host_asset hostname address ports.services]
        observations := report.observations ++ host_responded address reason :: ports.observations }

/-- `normalize` -/
def normalize (document : Element) (hostname : Option Text) : Except Raised Report :=
  (document.findall "host").foldlM (normalize_host strings hostname) {}

end

/-! ### Identified services and their observations -/

/-- An address with a transport and a port. -/
abbrev Socket := Text × Text × Nat

/-- The recorded detail of an identified service. -/
def details (discovered : DiscoveredService) : List (Text × Json) :=
  [("name", discovered.service_name), ("product", discovered.product), ("version", discovered.version)].filterMap
    fun field => field.2.map fun value => (field.1.toList, .str value)

def service_identification (identity : Text) (discovered : DiscoveredService) : Option (Socket × List (Text × Json)) :=
  if discovered.identified then some ((identity, discovered.transport, discovered.port), details discovered) else none

/-- What an observation identifies. -/
def identification (observation : DiscoveredObservation) : Option (Socket × List (Text × Json)) :=
  match observation.asset_identity, observation.service_port, observation.detail with
  | some identity, some (transport, port), some detail =>
    if observation.observation_type = IDENTIFICATION then some ((identity, transport, port), detail) else none
  | _, _, _ => none

/-- A service of a report: identified when it is open, or without any name,
    product and version. -/
structure Reported (discovered : DiscoveredService) : Prop where
  identified_open : discovered.identified = true → discovered.state ∈ OPEN_SERVICE_STATES
  plain : discovered.identified = false →
    discovered.service_name = none ∧ discovered.product = none ∧ discovered.version = none

/-- The identified services of a report and the observations of them, in order. -/
structure Aligned (services : List (Text × DiscoveredService)) (observations : List DiscoveredObservation) : Prop where
  reported : ∀ service ∈ services, Reported service.2
  named : ∀ observation ∈ observations, observation.observation_type = IDENTIFICATION → (identification observation).isSome = true
  together : observations.filterMap identification = services.filterMap fun service => service_identification service.1 service.2

theorem Aligned.append {first second : List (Text × DiscoveredService)} {before after : List DiscoveredObservation}
    (left : Aligned first before) (right : Aligned second after) : Aligned (first ++ second) (before ++ after) where
  reported := List.forall_mem_append.mpr ⟨left.reported, right.reported⟩
  named := List.forall_mem_append.mpr ⟨left.named, right.named⟩
  together := by rw [List.filterMap_append, List.filterMap_append, left.together, right.together]

/-- An observation that identifies nothing. -/
theorem aligned_other {observation : DiscoveredObservation} (other : observation.observation_type ≠ IDENTIFICATION) :
    Aligned [] [observation] where
  reported := by simp
  named := by simp [other]
  together := by
    have nothing : identification observation = none := by
      unfold identification
      split <;> simp [other]
    simp [nothing]

/-- The members of an identification as `_identified_service` gives them. -/
structure Members (port : Port) : Prop where
  fields : port.identified = ["name", "product", "version"].filterMap fun key => (port.get key).map fun value => (key.toList, value)
  nonempty : ∀ key ∈ ["name", "product", "version"], port.get key ≠ some []
  is_open : port.identified ≠ [] → port.state ∈ OPEN_SERVICE_STATES

theorem truthy_iff {value : Option Text} (nonempty : value ≠ some []) : truthy value = value.isSome := by
  cases value with
  | none => rfl
  | some t =>
    cases t with
    | nil => simp at nonempty
    | cons c cs => rfl

theorem Members.identified {port : Port} (members : Members port) :
    (discovered_service port).identified = !port.identified.isEmpty := by
  have name := truthy_iff (members.nonempty "name" (by simp))
  have product := truthy_iff (members.nonempty "product" (by simp))
  have version := truthy_iff (members.nonempty "version" (by simp))
  rw [DiscoveredService.identified, members.fields]
  simp only [discovered_service, name, product, version]
  cases n : port.get "name" <;> cases p : port.get "product" <;> cases v : port.get "version" <;> simp [n, p, v]

theorem Members.details {port : Port} (members : Members port) :
    details (discovered_service port) = port.identified.map fun member => (member.1, Json.str member.2) := by
  rw [members.fields]
  simp only [NmapReport.details, discovered_service]
  cases n : port.get "name" <;> cases p : port.get "product" <;> cases v : port.get "version" <;> simp [n, p, v]

theorem Members.reported {port : Port} (members : Members port) : Reported (discovered_service port) where
  identified_open identified := by
    rw [members.identified, Bool.not_eq_true', List.isEmpty_eq_false_iff] at identified
    exact members.is_open identified
  plain unidentified := by
    rw [DiscoveredService.identified, Bool.or_eq_false_iff, Bool.or_eq_false_iff] at unidentified
    obtain ⟨⟨name, product⟩, version⟩ := unidentified
    simp only [discovered_service] at name product version ⊢
    rw [truthy_iff (members.nonempty "name" (by simp))] at name
    rw [truthy_iff (members.nonempty "product" (by simp))] at product
    rw [truthy_iff (members.nonempty "version" (by simp))] at version
    exact ⟨Option.isSome_eq_false_iff.mp name |> Option.isNone_iff_eq_none.mp, Option.isSome_eq_false_iff.mp product |> Option.isNone_iff_eq_none.mp,
      Option.isSome_eq_false_iff.mp version |> Option.isNone_iff_eq_none.mp⟩

theorem members_none (port : Port) (nothing : port.identified = []) : Members port where
  fields := by simp [nothing, Port.get]
  nonempty := by simp [nothing, Port.get]
  is_open := by simp [nothing]

/-- Three members, of those that have a value. -/
def present (a b c : Text) (x y z : Option Text) : List (Text × Text) :=
  [(a, x), (b, y), (c, z)].filterMap fun field => field.2.map fun value => (field.1, value)

theorem present_lookup {a b c : Text} (ab : a ≠ b) (ac : a ≠ c) (bc : b ≠ c) (x y z : Option Text) :
    (present a b c x y z).lookup a = x ∧ (present a b c x y z).lookup b = y ∧ (present a b c x y z).lookup c = z := by
  have distinct : (a == b) = false ∧ (b == a) = false ∧ (a == c) = false ∧ (c == a) = false ∧ (b == c) = false ∧
      (c == b) = false := by simp [ab, ac, bc, ab.symm, ac.symm, bc.symm]
  obtain ⟨ab, ba, ac, ca, bc, cb⟩ := distinct
  cases x <;> cases y <;> cases z <;> simp [present, List.lookup, ab, ba, ac, ca, bc, cb]

theorem present_map {a b c : Text} (ba : b ≠ a) (ca : c ≠ a) (x y z : Option Text) (f : Text → Text) :
    (present a b c x y z).map (fun member => if member.1 = a then (member.1, f member.2) else member) =
      present a b c (x.map f) y z := by
  cases x <;> cases y <;> cases z <;> simp [present, ba, ca]

/-- The members of an identification with some of its values. -/
def fields (name product version : Option Text) : List (Text × Text) :=
  present "name".toList "product".toList "version".toList name product version

theorem nonempty_ne (value : Option Text) : nonempty value ≠ some [] := by
  unfold nonempty
  split <;> simp

theorem identified_service_fields (port : Element) : ∃ name product version, identified_service port = fields name product version ∧
    name ≠ some [] ∧ product ≠ some [] ∧ version ≠ some [] := by
  have nothing : ∃ name product version, [] = fields name product version ∧
      name ≠ some [] ∧ product ≠ some [] ∧ version ≠ some [] := ⟨none, none, none, rfl, by simp, by simp, by simp⟩
  unfold identified_service
  split
  · exact nothing
  rename_i service _
  split
  · exact nothing
  have name := nonempty_ne (service.get "name")
  have product := nonempty_ne (service.get "product")
  have version := nonempty_ne (service.get "version")
  by_cases tunnel : service.get "tunnel" = some "ssl".toList
  · refine ⟨(nonempty (service.get "name")).map fun value => "ssl/".toList ++ value, nonempty (service.get "product"),
      nonempty (service.get "version"), ?_, by simp, product, version⟩
    simp only [tunnel, if_true]
    exact present_map (by decide) (by decide) _ _ _ _
  · refine ⟨nonempty (service.get "name"), nonempty (service.get "product"), nonempty (service.get "version"), ?_, name,
      product, version⟩
    simp only [tunnel, if_false]
    rfl

theorem identified_service_members {port : Port} {element : Element} (identified : port.identified = identified_service element)
    (is_open : port.state ∈ OPEN_SERVICE_STATES) : Members port := by
  obtain ⟨n, p, v, is, name, product, version⟩ := identified_service_fields element
  rw [is] at identified
  have found : (fields n p v).lookup "name".toList = n ∧ (fields n p v).lookup "product".toList = p ∧
      (fields n p v).lookup "version".toList = v := present_lookup (by decide) (by decide) (by decide) n p v
  obtain ⟨named, produced, versioned⟩ := found
  rw [← identified] at named produced versioned
  refine ⟨?_, ?_, fun _ => is_open⟩
  · rw [identified]
    simp only [Port.get, List.filterMap_cons, List.filterMap_nil, named, produced, versioned]
    rfl
  · simp only [List.mem_cons, List.not_mem_nil, or_false, forall_eq_or_imp, forall_eq, Port.get, named, produced, versioned]
    exact ⟨name, product, version⟩

section
variable {strings : Strings}

/-- The services of ports, at their address. -/
def addressed (address : Text) (services : List DiscoveredService) : List (Text × DiscoveredService) :=
  services.map fun discovered => (address, discovered)

/-- What has been collected at an address. -/
abbrev AlignedPorts (address : Text) (ports : Ports) : Prop := Aligned (addressed address ports.services) ports.observations

theorem append_port_aligned {address : Text} {ports ports' : Ports} {port : Port} (members : Members port)
    (aligned : AlignedPorts address ports) (ran : append_port strings address ports port = .ok ports') :
    AlignedPorts address ports' := by
  unfold append_port at ran
  split at ran
  · simp at ran
  cases ran
  rw [AlignedPorts, addressed, List.map_append]
  have state : Aligned [] [port_state strings address port] := by
    refine aligned_other ?_
    show "port_state".toList ≠ IDENTIFICATION
    decide
  have found : Aligned [(address, discovered_service port)]
      (if port.identified.isEmpty then [] else [service_identified strings address port]) := by
    refine ⟨by simpa using members.reported, ?_, ?_⟩
    · intro observation member
      split at member
      · simp at member
      · rw [List.mem_singleton] at member
        rw [member]
        simp [identification, service_identified]
    · have same := members.identified
      simp only [List.filterMap_cons, List.filterMap_nil, service_identification, same]
      by_cases nothing : port.identified.isEmpty = true
      · simp [nothing]
      · simp only [nothing, Bool.not_false, if_true, if_false, Bool.false_eq_true, List.filterMap_cons, List.filterMap_nil,
          identification, service_identified, members.details]
        rfl
  exact aligned.append (state.append found)

theorem normalize_port_aligned {address : Text} {ports ports' : Ports} {element : Element} (aligned : AlignedPorts address ports)
    (ran : normalize_port strings address ports element = .ok ports') : AlignedPorts address ports' := by
  unfold normalize_port at ran
  split at ran
  · cases ran
    exact aligned
  obtain ⟨number, _, ran⟩ := bind_eq_ok.mp ran
  split at ran
  · cases ran
    exact aligned
  simp only at ran
  split at ran
  · cases ran
    exact aligned
  · refine append_port_aligned ?_ aligned ran
    split
    · rename_i is_open
      exact identified_service_members rfl is_open
    · exact members_none _ rfl

theorem normalize_summary_aligned {address state : Text} {ports ports' : Ports} {element : Element}
    (aligned : AlignedPorts address ports) (ran : normalize_summary strings address state ports element = .ok ports') :
    AlignedPorts address ports' := by
  unfold normalize_summary at ran
  split at ran
  · split at ran
    · cases ran
      exact aligned
    obtain ⟨numbers, _, ran⟩ := bind_eq_ok.mp ran
    split at ran
    · simp at ran
    split at ran
    · simp at ran
    split at ran
    · simp at ran
    split at ran
    · simp at ran
    · refine foldlM_invariant (AlignedPorts address) ?_ aligned ran
      intro ports number ports' aligned ran
      exact append_port_aligned (members_none _ rfl) aligned ran
  · cases ran
    exact aligned

theorem normalize_extra_aligned {address : Text} {ports ports' : Ports} {element : Element} (aligned : AlignedPorts address ports)
    (ran : normalize_extra strings address ports element = .ok ports') : AlignedPorts address ports' := by
  unfold normalize_extra at ran
  simp only at ran
  split at ran
  · cases ran
    exact aligned
  · exact foldlM_invariant (AlignedPorts address) (fun _ _ _ aligned ran => normalize_summary_aligned aligned ran) aligned ran

theorem normalize_ports_aligned {host : Element} {address : Text} {ports : Ports}
    (ran : normalize_ports strings host address = .ok ports) : AlignedPorts address ports := by
  obtain ⟨listed, first, second⟩ := bind_eq_ok.mp ran
  have empty : AlignedPorts address {} := ⟨by simp [addressed], by simp, by simp [addressed]⟩
  have direct := foldlM_invariant (AlignedPorts address) (fun _ _ _ aligned ran => normalize_port_aligned aligned ran) empty first
  exact foldlM_invariant (AlignedPorts address) (fun _ _ _ aligned ran => normalize_extra_aligned aligned ran) direct second

/-- The services of a report, at the addresses of their hosts. -/
def reported_services (assets : List DiscoveredAsset) : List (Text × DiscoveredService) :=
  assets.flatMap fun asset => addressed asset.identity asset.services

/-- What has been collected from a report: hosts, aligned with what is observed
    of them. -/
def AlignedReport (report : Report) : Prop :=
  (∀ asset ∈ report.assets, asset.asset_type = .host) ∧ Aligned (reported_services report.assets) report.observations

theorem normalize_host_aligned {hostname : Option Text} {report report' : Report} {host : Element} (aligned : AlignedReport report)
    (ran : normalize_host strings hostname report host = .ok report') : AlignedReport report' := by
  unfold normalize_host at ran
  split at ran
  · cases ran
    exact aligned
  rename_i address _
  simp only at ran
  split at ran
  · cases ran
    exact aligned
  obtain ⟨ports, normalized, ran⟩ := bind_eq_ok.mp ran
  cases ran
  have responded : ∀ reason, Aligned [] [host_responded address reason] := by
    intro reason
    refine aligned_other ?_
    show "host_responded".toList ≠ IDENTIFICATION
    decide
  refine ⟨?_, ?_⟩
  · exact List.forall_mem_append.mpr ⟨aligned.1, by simp [host_asset]⟩
  · rw [reported_services, List.flatMap_append]
    have here := (responded ((((host.find "status").bind (·.get "reason")).getD "response".toList))).append
      (normalize_ports_aligned normalized)
    simpa [host_asset, reported_services] using aligned.2.append here

/-- In a report the identified services and the observations of them go
    together. -/
theorem normalize_aligned {document : Element} {hostname : Option Text} {report : Report}
    (ran : normalize strings document hostname = .ok report) : AlignedReport report :=
  foldlM_invariant AlignedReport (fun _ _ _ aligned ran => normalize_host_aligned aligned ran)
    ⟨by simp, by simp [reported_services], by simp, by simp [reported_services]⟩ ran

end
end RedDock.NmapReport

/-
**The vendor requests of the Sangfor adapter** (`app/adapters/sangfor/disposition.py`).

An accepted command becomes one request. Blocks and tickets take the object they act on from the
command; a virus scan lists the configured devices and a compensation the configured policy ids,
whatever the command says.
-/

import ShadowTrace.Models.Enums

namespace ShadowTrace.Sangfor

inductive EntityActionCode
  | blockIp | blockDomain | scanHostForVirus | createTicket | other
  deriving DecidableEq

inductive OperationParams
  | setEventDisposition (target : SourceDisposition)
  | submitEntityAction (code : EntityActionCode) (canonicalTarget : String)
  | recordCompensation

/-- `parentDispositionId` is the disposition a compensation takes back. -/
structure DispositionCommand where
  sourceObjectId : String
  parentDispositionId : Option String := none
  params : OperationParams

inductive CompensationKind
  | unblock | unisolate | disposefilerule

/-- `SangforBlockConfig` as its accessors leave it: the usable devices of a block and of a scan, and
the stripped compensation ids (of an `unisolate`, the hexadecimal ones). -/
structure SangforBlockConfig (Device : Type) where
  endpointChannel : Bool := false
  usableDevices : List Device := []
  usableScanDevices : List Device := []
  ticketReady : Bool := false
  compensationKind : Option CompensationKind := none
  usableCompensationIds : List String := []

inductive VendorObject (Device : Type)
  | ip (address : String)
  | domain (name : String)
  | device (device : Device)
  | incident (id : String)
  | policy (kind : CompensationKind) (id : String)

/-- A request: where it goes, what the vendor acts on, and the devices a block is enforced at. -/
structure Request (Device : Type) where
  path : String
  objects : List (VendorObject Device)
  enforcedAt : List Device := []

def CompensationKind.path : CompensationKind → String
  | .unblock => "/api/xdr/v1/responses/blockiprule/unblock"
  | .unisolate => "/api/xdr/v1/responses/host/unisolate"
  | .disposefilerule => "/api/xdr/v1/responses/disposefilerule"

/-- `canonical_target.partition(":")` with the expected prefix and a target behind it. -/
def parseTarget (expected canonicalTarget : String) : Option String :=
  (canonicalTarget.toList.dropPrefix? (expected ++ ":").toList).bind fun target =>
    if target = [] then none else some (.ofList target)

section Adapter

variable {Device : Type} (config : SangforBlockConfig Device)

/-- `validate_command` and the request that `submit` then sends. -/
def submit (cmd : DispositionCommand) : Option (Request Device) :=
  match cmd.params with
  | .setEventDisposition target =>
    if target = .unknown then none
    else some { path := "/api/xdr/v1/incidents/dealstatus"
                objects := [.incident cmd.sourceObjectId] }
  | .submitEntityAction .blockIp canonicalTarget =>
    if config.usableDevices = [] then none
    else (parseTarget "ip" canonicalTarget).map fun target =>
      ⟨if config.endpointChannel then "/api/xdr/v1/responses/blockiprule/endpoint"
        else "/api/xdr/v1/responses/blockiprule/network", [.ip target], config.usableDevices⟩
  | .submitEntityAction .blockDomain canonicalTarget =>
    if config.endpointChannel = true ∨ config.usableDevices = [] then none
    else (parseTarget "domain" canonicalTarget).map fun target =>
      ⟨"/api/xdr/v1/responses/blockiprule/network", [.domain target], config.usableDevices⟩
  | .submitEntityAction .scanHostForVirus canonicalTarget =>
    if config.usableScanDevices = [] then none
    else (parseTarget "host" canonicalTarget).map fun _ =>
      { path := "/api/xdr/v1/responses/virusscantask"
        objects := config.usableScanDevices.map .device }
  | .submitEntityAction .createTicket canonicalTarget =>
    if config.ticketReady = false then none
    else (parseTarget "ticket" canonicalTarget).map fun _ =>
      { path := "/api/xdr/v1/orders", objects := [.incident cmd.sourceObjectId] }
  | .submitEntityAction .other _ => none
  | .recordCompensation =>
    if config.usableCompensationIds = [] then none
    else config.compensationKind.map fun kind =>
      { path := kind.path, objects := config.usableCompensationIds.map (.policy kind) }

end Adapter

/-! ### Targets -/

inductive Target
  | entity (canonicalTarget : String)
  | incident (id : String)
  | compensated (disposition : Option String)
  deriving DecidableEq

section

variable (cmd : DispositionCommand)

/-- A status or a ticket is about the source object of its command, so two tickets for one incident
have one target. -/
def DispositionCommand.target : Target :=
  match cmd.params with
  | .setEventDisposition _ => .incident cmd.sourceObjectId
  | .submitEntityAction .createTicket _ => .incident cmd.sourceObjectId
  | .submitEntityAction _ canonicalTarget => .entity canonicalTarget
  | .recordCompensation => .compensated cmd.parentDispositionId

def DispositionCommand.scans : Prop :=
  ∃ canonicalTarget, cmd.params = .submitEntityAction .scanHostForVirus canonicalTarget

def DispositionCommand.compensates : Prop :=
  cmd.params = .recordCompensation

end

section Frame

variable {Device : Type} {config : SangforBlockConfig Device}
  {cmd first second : DispositionCommand} {req other : Request Device}

/-- The command an object of its request stands for. -/
def Names (cmd : DispositionCommand) : VendorObject Device → Prop
  | .ip address => cmd.target = .entity ("ip:" ++ address)
  | .domain name => cmd.target = .entity ("domain:" ++ name)
  | .device _ => cmd.scans
  | .incident id => cmd.target = .incident id
  | .policy _ _ => cmd.compensates

theorem parseTarget_eq_some {expected canonicalTarget target : String}
    (parsed : parseTarget expected canonicalTarget = some target) :
    expected ++ ":" ++ target = canonicalTarget := by
  obtain ⟨_, dropped, kept⟩ := Option.bind_eq_some_iff.mp parsed
  split at kept
  · cases kept
  cases kept
  rw [List.dropPrefix?_eq_some_iff] at dropped
  obtain ⟨front, whole, same⟩ := dropped
  rw [← String.toList_inj, String.toList_append, String.toList_ofList, whole]
  simp_all

section

variable (sent : submit config cmd = some req)

include sent

theorem names_of_submit {object : VendorObject Device} (listed : object ∈ req.objects) :
    Names cmd object := by
  unfold submit at sent
  split at sent <;> rename_i params <;> try cases sent
  case h_1 =>
    split at sent
    · cases sent
    · cases sent
      obtain rfl := List.mem_singleton.mp listed
      simp [Names, DispositionCommand.target, params]
  all_goals
    split at sent
    · cases sent
    obtain ⟨target, parsed, rfl⟩ := Option.map_eq_some_iff.mp sent
  iterate 2
    · obtain rfl := List.mem_singleton.mp listed
      simp [Names, DispositionCommand.target, params, ← parseTarget_eq_some parsed]
  · obtain ⟨-, _, rfl⟩ := List.mem_map.mp listed
    exact ⟨_, params⟩
  · obtain rfl := List.mem_singleton.mp listed
    simp [Names, DispositionCommand.target, params]
  · obtain ⟨_, _, rfl⟩ := List.mem_map.mp listed
    exact params

theorem scan_objects (scans : cmd.scans) :
    config.usableScanDevices ≠ [] ∧ req.objects = config.usableScanDevices.map .device := by
  obtain ⟨_, params⟩ := scans
  simp only [submit, params] at sent
  split at sent
  · cases sent
  · obtain ⟨_, _, rfl⟩ := Option.map_eq_some_iff.mp sent
    exact ⟨by assumption, rfl⟩

theorem compensation_objects (compensates : cmd.compensates) :
    config.usableCompensationIds ≠ [] ∧ ∃ kind, config.compensationKind = some kind ∧
      req.objects = config.usableCompensationIds.map (.policy kind) := by
  simp only [submit, show cmd.params = _ from compensates] at sent
  split at sent
  · cases sent
  · obtain ⟨kind, known, rfl⟩ := Option.map_eq_some_iff.mp sent
    exact ⟨by assumption, kind, known, rfl⟩

end

/-- Two scans, or two compensations: what their requests list is in the configuration alone. -/
def BothConfigured (first second : DispositionCommand) : Prop :=
  first.scans ∧ second.scans ∨ first.compensates ∧ second.compensates

theorem shared_of_bothConfigured (sent : submit config first = some req)
    (sentOther : submit config second = some other) (both : BothConfigured first second) :
    ∃ object ∈ req.objects, object ∈ other.objects := by
  have shared : req.objects ≠ [] ∧ other.objects = req.objects := by
    obtain ⟨scans, scansOther⟩ | ⟨compensates, compensatesOther⟩ := both
    · obtain ⟨used, objects⟩ := scan_objects sent scans
      simp [objects, used, (scan_objects sentOther scansOther).2]
    obtain ⟨used, kind, known, objects⟩ := compensation_objects sent compensates
    obtain ⟨-, kind', known', objects'⟩ := compensation_objects sentOther compensatesOther
    obtain rfl := Option.mem_unique known known'
    simp [objects, used, objects']
  obtain ⟨object, listed⟩ := List.exists_mem_of_ne_nil _ shared.1
  exact ⟨object, listed, shared.2 ▸ listed⟩

variable (config)

/-- The requests of two accepted commands touch only what each was commanded: different targets have
no object in common, and a compensation names what the compensated action created. -/
def Framed (created : DispositionCommand → List (VendorObject Device))
    (first second : DispositionCommand) : Prop :=
  ∀ req ∈ submit config first, ∀ other ∈ submit config second,
    (first.target ≠ second.target → ∀ object ∈ req.objects, object ∉ other.objects) ∧
      (first.compensates → ∀ object ∈ req.objects, object ∈ created first)

/-- **The frame of the requests**: it holds for two accepted commands exactly when they are not two
scans or two compensations for different targets, and every configured policy id was created by the
action that the first, as a compensation, takes back. -/
theorem requests_framed_iff (created : DispositionCommand → List (VendorObject Device))
    (first second : DispositionCommand) :
    Framed config created first second ↔
      ((submit config first).isSome → (submit config second).isSome →
        (BothConfigured first second → first.target = second.target) ∧
          (first.compensates → ∀ kind ∈ config.compensationKind,
            ∀ id ∈ config.usableCompensationIds, .policy kind id ∈ created first)) := by
  constructor
  · intro framed accepted acceptedOther
    obtain ⟨req, sent⟩ := Option.isSome_iff_exists.mp accepted
    obtain ⟨other, sentOther⟩ := Option.isSome_iff_exists.mp acceptedOther
    obtain ⟨apart, kept⟩ := framed req sent other sentOther
    constructor
    · intro both
      by_contra differ
      obtain ⟨object, listed, listedOther⟩ := shared_of_bothConfigured sent sentOther both
      exact apart differ object listed listedOther
    · intro compensates _ known _ used
      obtain ⟨-, kind', known', objects⟩ := compensation_objects sent compensates
      obtain rfl := Option.some.inj (Eq.trans known.symm known')
      exact kept compensates _ (objects ▸ List.mem_map_of_mem used)
  · intro holds _ sent _ sentOther
    obtain ⟨apart, kept⟩ := holds (Option.isSome_of_mem sent) (Option.isSome_of_mem sentOther)
    constructor
    · intro differ object listed listedOther
      have here := names_of_submit sent listed
      have there := names_of_submit sentOther listedOther
      cases object with
      | ip | domain | incident => exact differ (here.trans there.symm)
      | device => exact differ (apart (.inl ⟨here, there⟩))
      | policy => exact differ (apart (.inr ⟨here, there⟩))
    · intro compensates _ listed
      obtain ⟨-, kind, known, objects⟩ := compensation_objects sent compensates
      rw [objects] at listed
      obtain ⟨id, used, rfl⟩ := List.mem_map.mp listed
      exact kept compensates kind known id used

end Frame

/-- Scans of two hosts both run on the one configured agent. -/
theorem scans_not_framed :
    ¬ Framed { usableScanDevices := ["agent"] } (fun _ => [])
      ⟨"incident", none, .submitEntityAction .scanHostForVirus "host:a"⟩
      ⟨"incident", none, .submitEntityAction .scanHostForVirus "host:b"⟩ := by
  intro framed
  have listed : VendorObject.device "agent" ∈ ["agent"].map VendorObject.device := by simp
  exact (framed _ rfl _ rfl).1 (by decide) _ listed listed

end ShadowTrace.Sangfor

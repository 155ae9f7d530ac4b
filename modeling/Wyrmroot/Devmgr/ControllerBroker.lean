import Wyrmroot.Lib.Ascending
import Wyrmroot.Lib.Component
import Wyrmroot.Devmgr.Publications
import Wyrmroot.Devmgr.RegistryLoss

/-!
# The controller and its broker

`devmgr/src/main.rs` holds a resident controller and, from the first published
driver on, one connector broker. The numbers of a driver are reserved in two
places only: `launch_driver_staged` reserves those of the launch and of its
stages, and `activate_connector_broker` those that the broker begins with. An
error of either makes `main` return; every other call of the two components
may come at any time.
-/

namespace Wyrmroot.Devmgr

open Outcome

structure NativeDevmgr where
  resident : ResidentController
  connectorBroker : Option ConnectorBroker
deriving DecidableEq

/-- Why a call failed; a code is the argument of the source's `failure`. -/
inductive Failure where
  | resident (error : DevmgrError)
  | connector (error : ConnectorModelError)
  | code (code : Nat)
  | brokerAbsent
deriving DecidableEq

abbrev Native (α : Type) := Prog NativeDevmgr Empty Failure α

def onResident {α : Type} (err : DevmgrError → Failure) (m : Resident α) : Native α :=
  m.within NativeDevmgr.resident (fun resident self => { self with resident }) err

def onBroker {α : Type} (broker : ConnectorBroker) (err : ConnectorModelError → Failure)
    (m : Broker α) : Native α :=
  m.within (fun _ => broker) (fun broker self => { self with connectorBroker := some broker }) err

/-- The accessor `publication_service_generation()`. -/
def ResidentController.activeServiceGeneration (self : ResidentController) : Option Nat :=
  if self.activeBinding.isSome && self.publicationServiceGeneration ≠ 0 then
    some self.publicationServiceGeneration
  else none

def NativeDevmgr.publishedDriver (resident : ResidentController) (request : DriverLaunchRequest) :
    Outcome Failure PublishedDriver := do
  rejectIf (resident.activeDriverRequest ≠ some request || !resident.driverReady) (.code 242)
  let publicationGeneration ← okOr resident.activeServiceGeneration (.code 243)
  let bundleGeneration ← okOr resident.bundleGeneration (.code 244)
  pure { publicationGeneration,
         control := { roleId := request.roleId, bundleGeneration,
                      attemptGeneration := request.attemptGeneration, endpoint := request.endpoint,
                      transactionId := request.transactionId } }

/-- What `launch_driver_staged` asks of the controller before it stages the device. -/
def launchDriverStaged : Native (DriverLaunchRequest × D3StageCorrelations) := do
  let request ← onResident (fun _ => .code 59)
    (ResidentController.issueDriverLaunchWithBundle true .exactReduced)
  onResident (fun _ => .code 66) ResidentController.driverConstructed
  let correlations ← onResident (fun _ => .code 68)
    (ResidentController.reserveD3StageCorrelations request)
  pure (request, correlations)

/-- The broker is made once and given every later driver. -/
def activateConnectorBroker : Native PublishedDriver := do
  let self ← .get
  let request ← .lift (okOr self.resident.activeDriverRequest (.code 245))
  let current ← .lift (NativeDevmgr.publishedDriver self.resident request)
  match self.connectorBroker with
  | some broker => do
      .lift (rejectIf (broker.slot ≠ .empty || broker.current.isSome) (.code 246))
      onBroker broker (fun _ => .code 247) (ConnectorBroker.replacePublishedDriver current)
      pure current
  | none => do
      let pair ← onResident (fun _ => .code 248)
        (ResidentController.reserveD3ConnectorCorrelations request)
      let broker ← .lift ((ConnectorBroker.new (some current) pair.1 pair.2).mapErr
        fun _ => .code 249)
      .modify ({ · with connectorBroker := some broker })
      pure current

/-! ## The machine -/

/-- The operations that reserve numbers. -/
def ResidentOp.reserves : ResidentOp → Bool
  | .issueDriverLaunch _ _ | .issueDriverLaunchWithBundle _ _ | .reserveD3StageCorrelations _
  | .reserveD3ConnectorCorrelations _ => true
  | _ => false

def Op.replaces : Op → Bool
  | .replacePublishedDriver _ => true
  | _ => false

inductive NativeOp where
  | resident (op : ResidentOp) (hop : op.reserves = false)
  | broker (op : Op) (hop : op.replaces = false)
  | launchDriverStaged
  | activateConnectorBroker
deriving DecidableEq

inductive NativeReply where
  | resident (reply : ResidentReply)
  | broker (reply : Reply)
  | launched (request : DriverLaunchRequest) (correlations : D3StageCorrelations)
  | activated (driver : PublishedDriver)
deriving DecidableEq

def drive (abi : DeviceResourceAbi) : NativeOp → Native NativeReply
  | .resident op _ => .resident <$> onResident .resident (serve abi op)
  | .broker op _ => do
      let self ← .get
      match self.connectorBroker with
      | some broker => .broker <$> onBroker broker .connector (exec op)
      | none => .throw .brokerAbsent
  | .launchDriverStaged => (fun pair => .launched pair.1 pair.2) <$> launchDriverStaged
  | .activateConnectorBroker => .activated <$> activateConnectorBroker

abbrev NativeCall := Call NativeOp NativeDevmgr Empty Failure NativeReply

end Wyrmroot.Devmgr

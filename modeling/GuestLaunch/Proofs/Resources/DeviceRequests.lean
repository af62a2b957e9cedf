import GuestLaunch.Assembly.Plan
import GuestLaunch.Proofs.Resources.Requests

/-!
What each kind of device asks for, and its options once that has been granted. Rendering a
device is putting its requests to the run and then writing the options, which read nothing of
the run but the grants.
-/

namespace GuestLaunch

-----------------------------------------------------------------------------------------
-- Requests that several kinds share
-----------------------------------------------------------------------------------------

/-- The slot of the root bus that a bus and an address name together. -/
def rootSlotOf? (bus address : String) : Option Nat :=
  if isRootBus bus then BusAddress.slotBeforeFunction? address else none

def claimRequests (bus address : String) : List Request :=
  ((rootSlotOf? bus address).map Request.claim).toList

/-- The request for a slot, with the address of a device that takes one. -/
def slotRequests (address : Option String) : List Request :=
  (address.map Request.place).toList

/-- The request of a device that leaves the choice of its boot index to the run. -/
def indexRequests (configured : Option String) : List Request :=
  if configured = some BootIndex.automatic then [.number] else []

/-- The request for the descriptors of a list that is not empty. -/
def inheritRequests (key : String) (descriptors : List Int32) : List Request :=
  if descriptors = [] then [] else [.inherit key descriptors]

/-- The boot index to be rendered for a configured one, once the requests are granted. -/
def bootIndexFor (configured : Option String) (grants : List Grant) : Option String :=
  match configured with
  | none => none
  | some text =>
      if text.isEmpty then none
      else if text = BootIndex.automatic then
        (indexIn? grants).map fun index => Text.decimal index.toNat
      else
        some text

/-- Claiming a slot is serving the claim. -/
theorem claimRootSlot_eq (bus address : String)
    : Render.claimRootSlot bus address
      = (fun _ => ()) <$> serveAll (claimRequests bus address) := by
  cases named : BusAddress.slotBeforeFunction? address with
  | none => simp [Render.claimRootSlot, claimRequests, rootSlotOf?, named, serveAll]
  | some slot =>
      by_cases root : isRootBus bus
      · simp [Render.claimRootSlot, claimRequests, rootSlotOf?, named, root, serveAll,
          Request.serve_claim]
      · simp [Render.claimRootSlot, claimRequests, rootSlotOf?, named, root, serveAll]

/-- Resolving a boot index is serving the request for it, by the form of the configured
index.
-/
theorem resolveBootIndex_eq (configured : Option String)
    : Render.resolveBootIndex configured
      = bootIndexFor configured <$> serveAll (indexRequests configured) := by
  cases configured with
  | none => simp [Render.resolveBootIndex, bootIndexFor, indexRequests, serveAll]
  | some text =>
      by_cases automatic : text = BootIndex.automatic
      · have present : BootIndex.automatic.isEmpty = false := by decide
        simp [Render.resolveBootIndex, bootIndexFor, indexRequests, serveAll, automatic,
          present, Request.serve_number]
      · by_cases empty : text.isEmpty <;>
          simp [Render.resolveBootIndex, bootIndexFor, indexRequests, serveAll, automatic,
            empty]

-----------------------------------------------------------------------------------------
-- Controllers and disks
-----------------------------------------------------------------------------------------

namespace RootPort

def optionsFor (port : RootPort) (placement : Placement) : List LaunchOption :=
  [.setting .device (port.params placement)]

def requests (port : RootPort) : List Request := claimRequests port.bus port.effectiveAddress

theorem render_eq (port : RootPort) (placement : Placement)
    : port.render placement
      = (fun _ => port.optionsFor placement) <$> serveAll port.requests := by
  simp [render, optionsFor, requests, claimRootSlot_eq]

end RootPort

namespace Bridge

def optionsFor (bridge : Bridge) (placement : Placement) : List LaunchOption :=
  [.setting .device (bridge.params placement)]

def requests (bridge : Bridge) : List Request := claimRequests bridge.bus bridge.address

theorem render_eq (bridge : Bridge) (placement : Placement)
    : bridge.render placement
      = (fun _ => bridge.optionsFor placement) <$> serveAll bridge.requests := by
  simp [render, optionsFor, requests, claimRootSlot_eq]

end Bridge

namespace ScsiController

/-- The address with which a controller asks for a slot, which it does on PCI. -/
def slotAddress? (controller : ScsiController) (transport : Transport) : Option String :=
  if transport = .pci then some controller.address else none

def optionsFor (controller : ScsiController) (placement : Placement) (grants : List Grant)
    : List LaunchOption :=
  .setting .device (controller.params placement (slotIn? grants))
    :: controller.threadOptions

def requests (controller : ScsiController) (transport : Transport) : List Request :=
  slotRequests (controller.slotAddress? transport)

theorem render_eq (controller : ScsiController) (placement : Placement)
    : controller.render placement
      = controller.optionsFor placement
          <$> serveAll (controller.requests placement.transport) := by
  by_cases pci : placement.transport = .pci <;>
    simp [render, optionsFor, requests, slotAddress?, slotRequests, serveAll, pci,
      Request.serve_place]

end ScsiController

namespace PciController

def optionsFor (controller : PciController) (busParams : List Param) (grants : List Grant)
    : List LaunchOption :=
  (slotIn? grants).toList.map fun slot => .setting .device (controller.params slot busParams)

def requests (controller : PciController) : List Request :=
  slotRequests (some controller.address)

theorem renderIde_eq (controller : PciController)
    : controller.renderIde
      = controller.optionsFor controller.busParams <$> serveAll controller.requests := by
  simp [renderIde, optionsFor, requests, slotRequests, serveAll, Request.serve_place]

theorem renderUsb_eq (controller : PciController)
    : controller.renderUsb = controller.optionsFor [] <$> serveAll controller.requests := by
  simp [renderUsb, optionsFor, requests, slotRequests, serveAll, Request.serve_place]

end PciController

namespace Disk

/-- The address with which a disk asks for a slot, which a virtio disk on PCI does. -/
def slotAddress? (disk : Disk) (transport : Transport) : Option String :=
  if !disk.driveOnly && disk.isVirtio && transport == .pci then some disk.address else none

/-- The options of a disk, once its requests are granted. -/
def optionsFor (disk : Disk) (placement : Placement) (grants : List Grant)
    : List LaunchOption :=
  .setting .drive disk.driveParams
    :: (if disk.driveOnly then []
      else
        [.setting .device
          (disk.deviceParams placement (bootIndexFor disk.bootIndex grants)
            (slotIn? grants))])

/-- A disk asks for its boot index and then for its slot. -/
def requests (disk : Disk) (transport : Transport) : List Request :=
  if disk.driveOnly then []
  else indexRequests disk.bootIndex ++ slotRequests (disk.slotAddress? transport)

/-- Rendering a disk is serving its requests, by what the disk asks for. -/
theorem render_eq (disk : Disk) (placement : Placement)
    : disk.render placement
      = disk.optionsFor placement <$> serveAll (disk.requests placement.transport) := by
  by_cases alone : disk.driveOnly
  · simp [render, optionsFor, requests, serveAll, alone]
  · by_cases takes : disk.takesSlot placement
    all_goals
      have address : disk.slotAddress? placement.transport
          = if disk.takesSlot placement then some disk.address else none := rfl
      by_cases automatic : disk.bootIndex = some BootIndex.automatic <;>
        simp [render, optionsFor, requests, address, slotRequests, indexRequests, serveAll,
          alone, takes, automatic, resolveBootIndex_eq, Request.serve_place,
          Request.serve_number, bootIndexFor]

end Disk

namespace EntropySource

/-- The address with which a source asks for a slot, which it does on PCI. -/
def slotAddress? (source : EntropySource) (transport : Transport) : Option String :=
  if transport = .pci then some source.address else none

def optionsFor (source : EntropySource) (placement : Placement) (grants : List Grant)
    : List LaunchOption :=
  [.setting .object source.objectParams,
    .setting .device (source.deviceParams placement (slotIn? grants))]

def requests (source : EntropySource) (transport : Transport) : List Request :=
  slotRequests (source.slotAddress? transport)

theorem render_eq (source : EntropySource) (placement : Placement)
    : source.render placement
      = source.optionsFor placement <$> serveAll (source.requests placement.transport) := by
  by_cases pci : placement.transport = .pci <;>
    simp [render, optionsFor, requests, slotAddress?, slotRequests, serveAll, pci,
      Request.serve_place]

end EntropySource

end GuestLaunch

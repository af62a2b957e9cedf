import GuestLaunch.Category

/-!
The plan of an assembly: every device of the configuration with its transport, in the order in
which the devices are rendered. Before any of them is, all explicit boot indices are recorded,
so that automatic ones cannot take them.
-/

namespace GuestLaunch

/-- A device with the transport that has been resolved for it. -/
structure PlannedDevice where
  device : Device
  transport : Transport
deriving DecidableEq, Repr

/-- Resolves the transport of a device. -/
def PlannedDevice.of (host : Host) (device : Device) : PlannedDevice where
  device := device
  transport := host.resolveTransport device.transport?

/-- All devices of a configuration with their transports. -/
def Config.plan (config : Config) (host : Host) : List PlannedDevice :=
  config.devices.map (PlannedDevice.of host)

/-- The explicit boot index of a device. -/
def Device.explicitBootIndex? (device : Device) : Option UInt32 :=
  device.bootIndex?.bind BootIndex.explicit?

/-- Records the explicit boot indices of the devices in their order. -/
def reserveBootIndices : List Device → Render Unit
  | [] => pure ()
  | device :: rest => do
      match device.explicitBootIndex? with
      | some index => Render.reserveBootIndex index
      | none => pure ()
      reserveBootIndices rest

/-- Renders the planned devices, with one group of options for each. -/
def renderPlan (architecture : Architecture) (iommuPlatform : Bool)
    : List PlannedDevice → Render (List (List LaunchOption))
  | [] => pure []
  | planned :: rest => do
      let placement : Placement := { transport := planned.transport, iommuPlatform }
      let options ← planned.device.render placement architecture
      let later ← renderPlan architecture iommuPlatform rest
      pure (options :: later)

end GuestLaunch

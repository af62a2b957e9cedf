import GuestLaunch.CommandLine
import GuestLaunch.Firmware
import GuestLaunch.Main
import GuestLaunch.Proofs.Resources.DeviceRequests
import GuestLaunch.Proofs.Resources.NetRequests
import GuestLaunch.Proofs.Resources.PlanRequests
import GuestLaunch.Proofs.Resources.AssemblyRun
import GuestLaunch.Proofs.Placement.DeviceSlots
import GuestLaunch.Proofs.Placement.RenderTrace
import GuestLaunch.Proofs.Placement.SlotOwnership
import GuestLaunch.Proofs.Placement.SlotMachine
import GuestLaunch.Proofs.Placement.AutomaticPlacement
import GuestLaunch.Proofs.Placement.Collisions
import GuestLaunch.Proofs.Placement.SharedSlots
import GuestLaunch.Proofs.Outcome.CollisionPolicies
import GuestLaunch.Proofs.Descriptors.Numbering
import GuestLaunch.Proofs.Descriptors.Readback
import GuestLaunch.Proofs.Outcome.Classification
import GuestLaunch.Proofs.Descriptors.Inheritance
import GuestLaunch.Proofs.Descriptors.BackendValues
import GuestLaunch.Proofs.Descriptors.Pieces
import GuestLaunch.Proofs.Descriptors.Naming
import GuestLaunch.Proofs.Indices.CallHistory
import GuestLaunch.Proofs.BootOrder.Precedence
import GuestLaunch.Proofs.Identifiers.Distinctness
import GuestLaunch.Proofs.DeviceOrder.Buses
import GuestLaunch.Proofs.Arguments.Grouping
import GuestLaunch.Proofs.Sockets.Agreement
import GuestLaunch.Proofs.Documents.RoundTrip
import GuestLaunch.Proofs.RunGrowth.AppendOnly
import GuestLaunch.Proofs.BootOrder.Overflow
import GuestLaunch.Proofs.Documents.Omission
import GuestLaunch.Proofs.Documents.Records
import GuestLaunch.Proofs.Isolation.DeviceStage
import GuestLaunch.Proofs.Problems.Accounting
import GuestLaunch.Proofs.Problems.Removal
import GuestLaunch.Proofs.Transports.OffPci
import GuestLaunch.Proofs.Placement.BridgePlaces
import GuestLaunch.Proofs.ShellLines.ReadBack
import GuestLaunch.Proofs.Descriptors.CardQueues
import GuestLaunch.Proofs.Placement.NestedBuses
import GuestLaunch.Proofs.Firmware.Relocation
import GuestLaunch.Proofs.Placement.PortRanges
import GuestLaunch.Proofs.GuestDevices.DeviceNumbers
import GuestLaunch.Proofs.GuestDevices.PlatformIommu
import GuestLaunch.Proofs.GuestDevices.DriverNames
import GuestLaunch.Proofs.Placement.PortMarks
import GuestLaunch.Proofs.Outcome.SkippedSettings
import GuestLaunch.Proofs.Smbios.Releases
import GuestLaunch.Proofs.Options.DriveProperties
import GuestLaunch.Proofs.Placement.SearchOrder
import GuestLaunch.Proofs.Documents.Forms
import GuestLaunch.Proofs.Addresses.Grammar
import GuestLaunch.Proofs.Smbios.IntegerEnds
import GuestLaunch.Proofs.Options.ForwardingRules

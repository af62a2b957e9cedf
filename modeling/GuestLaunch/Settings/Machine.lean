import GuestLaunch.Json.Layout
import GuestLaunch.LaunchOption
import GuestLaunch.Problem

/-!
The machine descriptor: type, accelerator and the switches of the machine.
-/

namespace GuestLaunch
open Json

/-- The settings of `-machine`. -/
structure Machine where
  type : String := ""
  acceleration : String := ""
  /-- Free text that is appended as it is. -/
  options : String := ""
  smm : String := ""
  kernelIrqChip : String := ""
  vmPort : String := ""
  /-- The size of the shadow page tables in bytes; zero leaves it open. -/
  kvmShadowMemory : UInt64 := 0
  dumpGuestCore : String := ""
  memoryMerge : String := ""
  igdPassthrough : String := ""
  aesKeyWrap : String := ""
  deaKeyWrap : String := ""
  suppressVmDescription : String := ""
  nvdimm : String := ""
  enforceConfigSection : String := ""
deriving DecidableEq, Repr, Inhabited

namespace Machine

def schema : Schema Machine where
  layout :=
    .field "type" .string "" <|
    .field "acceleration" .string "" <|
    .field "options" .string "" <|
    .field "smm" .string "" <|
    .field "kernel-irq-chip" .string "" <|
    .field "vm-port" .string "" <|
    .field "kvm-shadow-mem-size-bytes" .uint64 0 <|
    .field "dump-guest-core" .string "" <|
    .field "memory-merge" .string "" <|
    .field "igd-passthrough" .string "" <|
    .field "aes-key-wrap" .string "" <|
    .field "dea-key-wrap" .string "" <|
    .field "suppress-vm-description" .string "" <|
    .field "nvdimm" .string "" <|
    .field "enforce-config-section" .string "" .done
  pack := fun (type, acceleration, options, smm, kernelIrqChip, vmPort, kvmShadowMemory,
      dumpGuestCore, memoryMerge, igdPassthrough, aesKeyWrap, deaKeyWrap,
      suppressVmDescription, nvdimm, enforceConfigSection, ()) =>
    { type, acceleration, options, smm, kernelIrqChip, vmPort, kvmShadowMemory, dumpGuestCore,
      memoryMerge, igdPassthrough, aesKeyWrap, deaKeyWrap, suppressVmDescription, nvdimm,
      enforceConfigSection }
  unpack machine :=
    (machine.type, machine.acceleration, machine.options, machine.smm, machine.kernelIrqChip,
      machine.vmPort, machine.kvmShadowMemory, machine.dumpGuestCore, machine.memoryMerge,
      machine.igdPassthrough, machine.aesKeyWrap, machine.deaKeyWrap,
      machine.suppressVmDescription, machine.nvdimm, machine.enforceConfigSection, ())

/-- A switch of the machine: the property it renders as, its key, and its value. -/
structure MachineSwitch where
  property : String
  key : String
  value : String

/-- The switches in their order. -/
def switches (machine : Machine) : List MachineSwitch :=
  [⟨"smm", "smm", machine.smm⟩,
    ⟨"dump-guest-core", "dump-guest-core", machine.dumpGuestCore⟩,
    ⟨"mem-merge", "memory-merge", machine.memoryMerge⟩,
    ⟨"igd-passthrough", "igd-passthrough", machine.igdPassthrough⟩,
    ⟨"aes-key-wrap", "aes-key-wrap", machine.aesKeyWrap⟩,
    ⟨"dea-key-wrap", "dea-key-wrap", machine.deaKeyWrap⟩,
    ⟨"suppress-vmdesc", "suppress-vm-description", machine.suppressVmDescription⟩,
    ⟨"nvdimm", "nvdimm", machine.nvdimm⟩,
    ⟨"enforce-config-section", "enforce-config-section", machine.enforceConfigSection⟩]

def label : String := "Machine"

/-- The checks of the values with a fixed choice, in their order. -/
def checks (machine : Machine) : List (Option Problem) :=
  [checkOneOf label "kernel-irq-chip" machine.kernelIrqChip ["on", "off", "split"]
      "'on', 'off', or 'split'",
    checkOneOf label "vm-port" machine.vmPort ["on", "off", "auto"]
      "'on', 'off', or 'auto'"]
    ++ machine.switches.map fun switch => checkOnOff label switch.key switch.value

def problems (machine : Machine) : List Problem := problemsOf machine.checks

def params (machine : Machine) : List Param :=
  [.bare machine.type]
    ++ Param.unlessEmpty "accel" machine.acceleration
    ++ Param.unlessEmpty "kernel_irqchip" machine.kernelIrqChip
    ++ Param.unlessEmpty "vmport" machine.vmPort
    ++ (if 0 < machine.kvmShadowMemory then
        [.pair "kvm_shadow_mem" (Text.decimal machine.kvmShadowMemory.toNat)]
      else
        [])
    ++ machine.switches.flatMap (fun switch => Param.unlessEmpty switch.property switch.value)
    ++ (if machine.options.isEmpty then [] else [.bare machine.options])

/-- The options of a machine; there are none without a type. -/
def launchOptions (machine : Machine) : List LaunchOption :=
  if machine.type.isEmpty then [] else [.setting .machine machine.params]

end Machine

end GuestLaunch

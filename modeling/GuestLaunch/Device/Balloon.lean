import GuestLaunch.Device.Placement
import GuestLaunch.Problem

/-!
Memory balloons, through which the guest gives memory back to the host.
-/

namespace GuestLaunch
open Json Text

/-- A memory balloon. -/
structure Balloon where
  id : String := ""
  /-- Lets the guest deflate the balloon when it runs out of memory. -/
  deflateOnOom : Bool := false
  disableModern : Bool := false
  romFile : String := ""
  deviceNumber : String := ""
  transport : Option Transport := none
deriving DecidableEq, Repr, Inhabited

namespace Balloon

def schema : Schema Balloon where
  layout :=
    .field "id" .string "" <|
    .field "deflate-on-oom" .bool false <|
    .field "disable-modern" .bool false <|
    .field "rom-file" .string "" <|
    .field "devno" .string "" <|
    .field "transport" (.optional Transport.format) none .done
  pack := fun (id, deflateOnOom, disableModern, romFile, deviceNumber, transport, ()) =>
    { id, deflateOnOom, disableModern, romFile, deviceNumber, transport }
  unpack balloon :=
    (balloon.id, balloon.deflateOnOom, balloon.disableModern, balloon.romFile,
      balloon.deviceNumber, balloon.transport, ())

def label : String := "BalloonDevice"

/-- A balloon needs an identifier. -/
def problem? (balloon : Balloon) : Option Problem := checkPresent label "id" balloon.id

def params (balloon : Balloon) (placement : Placement) : List Param :=
  [.bare (placement.transport.deviceName "virtio-balloon"), .pair "id" balloon.id]
    ++ placement.romParams balloon.romFile
    ++ placement.deviceNumberParams balloon.deviceNumber
    ++ [.pair "deflate-on-oom" (Param.onOff balloon.deflateOnOom)]
    ++ placement.disableModernParams balloon.disableModern

def launchOptions (balloon : Balloon) (placement : Placement) : List LaunchOption :=
  [.setting .device (balloon.params placement)]

end Balloon

end GuestLaunch

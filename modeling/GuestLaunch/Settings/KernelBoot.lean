import GuestLaunch.Json.Layout
import GuestLaunch.LaunchOption

/-!
Direct boot of a kernel, without a boot loader in the guest.
-/

namespace GuestLaunch
open Json

/-- A kernel image with its initial file system and its command line. -/
structure KernelBoot where
  path : String := ""
  initrdPath : String := ""
  params : String := ""
deriving DecidableEq, Repr, Inhabited

namespace KernelBoot

def schema : Schema KernelBoot where
  layout :=
    .field "path" .string "" <|
    .field "initrd-path" .string "" <|
    .field "params" .string "" .done
  pack := fun (path, initrdPath, params, ()) => { path, initrdPath, params }
  unpack boot := (boot.path, boot.initrdPath, boot.params, ())

/-- The options of a direct boot; there are none without a kernel. -/
def launchOptions (boot : KernelBoot) : List LaunchOption :=
  if boot.path.isEmpty then []
  else
    [.value .kernel boot.path]
      ++ LaunchOption.unlessEmpty .initrd boot.initrdPath
      ++ LaunchOption.unlessEmpty .append boot.params

end KernelBoot

end GuestLaunch

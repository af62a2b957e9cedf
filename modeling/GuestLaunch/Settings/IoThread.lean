import GuestLaunch.Json.Layout
import GuestLaunch.LaunchOption

/-!
Threads for input and output, which devices refer to by identifier.
-/

namespace GuestLaunch
open Json

/-- A thread for input and output. -/
structure IoThread where
  id : String := ""
deriving DecidableEq, Repr, Inhabited

namespace IoThread

def schema : Schema IoThread where
  layout := .field "id" .string "" .done
  pack := fun (id, ()) => { id }
  unpack thread := (thread.id, ())

/-- The option of a thread; one without an identifier is skipped. -/
def launchOptions (thread : IoThread) : List LaunchOption :=
  if thread.id.isEmpty then []
  else [.setting .object [.bare "iothread", .pair "id" thread.id]]

end IoThread

end GuestLaunch

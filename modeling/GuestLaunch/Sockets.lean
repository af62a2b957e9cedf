import GuestLaunch.Config

/-!
The unix sockets that a guest will have, read off its configuration without assembling it.
Whoever starts the guest waits for them, or removes them afterwards.
-/

namespace GuestLaunch

/-- The path of an endpoint that is a socket. -/
def Endpoint.socketPath? (endpoint : Endpoint) : Option String :=
  if endpoint.backend = some .socket then some endpoint.path else none

/-- The path of a character device whose endpoint is a socket. -/
def CharDevice.socketPath? (device : CharDevice) : Option String :=
  if device.backend = .socket then some device.path else none

/-- The path of a control socket of the unix family. -/
def ControlSocket.socketPath? (socket : ControlSocket) : Option String :=
  if socket.isUnix then some socket.name else none

/-- The paths of the unix sockets: of character devices, monitors, old serial ports and control
sockets, each in the order of the configuration.
-/
def Config.socketPaths (config : Config) : List String :=
  config.charDevices.filterMap CharDevice.socketPath?
    ++ config.monitors.filterMap (fun monitor => monitor.endpoint.socketPath?)
    ++ config.legacySerials.filterMap (fun port => port.endpoint.socketPath?)
    ++ config.controlSockets.filterMap ControlSocket.socketPath?

end GuestLaunch

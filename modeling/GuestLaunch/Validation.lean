import GuestLaunch.Category

/-!
Validation: all problems of a configuration at once, in a fixed order. No state is touched, so
a configuration can be checked without assembling it.
-/

namespace GuestLaunch

/-- The problems of the devices of one category, given the identifiers that came before: each
device's own problem, and then a repeated identifier.
-/
def categoryProblems (seen : List String) : List Device → List Problem
  | [] => []
  | device :: rest =>
      let repeated :=
        match device.id? with
        | some id => if seen.contains id then [Problem.duplicateId device.label id] else []
        | none => []
      device.problem?.toList ++ repeated
        ++ categoryProblems (device.id?.toList ++ seen) rest

/-- The problems of a configuration: of the machine and the other settings, then of the devices
of each category, and last of the processors.
-/
def Config.problems (config : Config) : List Problem :=
  config.machine.problems
    ++ (config.spice.bind Spice.problem?).toList
    ++ (config.tpm.bind Tpm.problem?).toList
    ++ config.smbios.problems
    ++ problemsOf (config.controlSockets.map ControlSocket.problem?)
    ++ Category.all.flatMap (fun category => categoryProblems [] (category.devices config))
    ++ config.processors.problem?.toList

end GuestLaunch

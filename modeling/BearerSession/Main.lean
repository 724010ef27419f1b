import BearerSession.CommandLine.Run

namespace BearerSession.CommandLine

/-- Copies what stands on the way to a path. -/
def copyPath (disk : Disk) (path : String) : IO Disk := do
  let root ← IO.currentDir
  let l := Path.resolve disk.base path
  let mut disk := disk
  for n in List.range l.length do
    let step := l.take (n + 1)
    let place := root / Disk.key step
    if ← place.isDir then
      disk := disk.put step .directory
    else if ← place.pathExists then
      let octets ← IO.FS.readBinFile place
      disk := disk.put step (.file (Content.ofOctets octets.toList) 0o600)
  return disk

/-- Writes the jar where a run changed it. -/
def keepJar (before after : Disk) (path : String) : IO Unit := do
  let root ← IO.currentDir
  let l := Path.resolve after.base path
  if before.at? l ≠ after.at? l then
    match after.at? l with
    | some (.file (.text text) _) =>
      IO.FS.createDirAll (root / Disk.key l.dropLast)
      IO.FS.writeFile (root / Disk.key l) text
      IO.setAccessRights (root / Disk.key l) { user := { read := true, write := true } }
    | _ => pure ()

/-- The time, as a file that was just made tells it. -/
def clock : IO Instant := do
  let (_, path) ← IO.FS.createTempFile
  let time := (← path.metadata).modified
  IO.FS.removeFile path
  return (Instant.ofNanos? (time.sec * 1000000000 + time.nsec.toNat)).getD .least

/-- The values of the variables that a run looks at. -/
def environment : IO (String → Option String) := do
  let names := ["HOME", "XDG_CONFIG_HOME", "XDG_DATA_HOME", passwordVariable]
  let values ← names.filterMapM fun name => do
    return (← IO.getEnv name).map fun value => (name, value)
  return fun name => (values.find? (·.1 = name)).map (·.2)

/-- The configuration that a command starts with, and the files that it may look at. -/
def filesOf (config : Config) : Command → List String
  | .query file _ => [config.settings.jarPath, file]
  | _ => [config.settings.jarPath]

end BearerSession.CommandLine

open BearerSession BearerSession.CommandLine in
/-- Runs the client. -/
def main (arguments : List String) : IO UInt32 := do
  let lookUp ← environment
  let base := Path.resolve [] (← IO.currentDir).toString
  let mut disk ← copyPath (Disk.blank base) "."
  let mut input := ""
  let mut jar : Option String := none
  if let .ok invocation := read arguments then
    let places := Places.ofEnvironment lookUp
    let path := invocation.config.getD places.configPath
    disk ← copyPath disk path
    if let .ok config := Config.load { jarPath := places.jarPath } disk path then
      for file in filesOf config invocation.command do
        disk ← copyPath disk file
      jar := some config.settings.jarPath
    if let .query "-" _ := invocation.command then
      input ← (← IO.getStdin).readToEnd
  let setting := ⟨arguments, lookUp, input, ← clock, Work.unreachable⟩
  let outcome := run setting disk
  if let some path := jar then keepJar disk outcome.disk path
  IO.print outcome.output
  IO.eprint outcome.complaints
  return outcome.exit.toUInt32

import Tunebook.Command.Run

/-!
# The command

The outer layer of the command: it looks at the places that a run may follow, runs, and puts the outcome into
effect. What the run does is decided by `Tunebook.Command.run` alone.
-/

namespace Tunebook.Command

def placeText (place : Place) : String := "/" ++ String.intercalate "/" place

def placesOf (site : Site) (p : Path) : List Place :=
  (List.range (p.names.length + 1)).map fun n => settled (site.start p) (p.names.take n)

def pathsOf (site : Site) (o : Options) : List Path :=
  let inputs := (inputPath site o).toOption.toList
  let targets := inputs.filterMap fun input => (o.target site input).toOption
  inputs ++ targets ++ [.ofText o.config, .ofText site.ownSettings]

def probe (place : Place) : IO (Option Entry) := do
  try
    let real ← IO.FS.realPath (placeText place)
    if ← real.isDir then return some .directory
    let content ← IO.FS.readBinFile real
    return some (.file content.toList)
  catch _ => return none

def look (places : List Place) : IO FileTree := do
  let mut files : FileTree := {}
  for place in places do
    match ← probe place with
    | some e => files := files.put place e
    | none => pure ()
  return files

def settle (before after : FileTree) : IO Unit := do
  for (place, e) in after.entries do
    if before.get? place ≠ some e then
      match e with
      | .directory => IO.FS.createDirAll (placeText place)
      | .file content => IO.FS.writeBinFile (placeText place) (ByteArray.mk content.toArray)

def execute (arguments : List String) : IO UInt32 := do
  let here ← IO.currentDir
  let home := (← IO.getEnv "HOME").getD "/"
  let bare : Site :=
    { here := (Path.ofText here.toString).names
      home := home
      ownSettings := home ++ "/.config/" ++ commandName ++ "/config.yaml" }
  let places := match Request.read arguments with
    | .ok (.perform o) => (pathsOf bare o).flatMap (placesOf bare)
    | _ => []
  let files ← look places
  let outcome := run (bare.withFiles files) arguments
  settle files outcome.files
  for line in outcome.output do
    IO.println line
  for line in outcome.errors do
    IO.eprintln line
  match outcome.ending with
  | .status code => return code.toUInt32
  | .fault f =>
    IO.eprintln (faultLine f)
    return 1

end Tunebook.Command

def main (arguments : List String) : IO UInt32 := Tunebook.Command.execute arguments

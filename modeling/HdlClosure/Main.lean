import HdlClosure.Program

/-! The command line. A run is a function of a file tree, so the part of the disk that it can ask for
is read first: the settings file, then the two source directories. -/
namespace HdlClosure.Main

open CommandLine

/-- The location of a path, with the dots taken out of it. -/
def locationOf (here : Location) (path : String) : Location :=
  (FileTree.steps path).foldl (fun place step =>
      if step = "" ∨ step = "." then place
      else if step = ".." then place.dropLast
      else place ++ [step])
    (FileTree.startOf here path)

def plant (tree : FileTree) (location : Location) (entry : Entry) : FileTree :=
  let above := (List.range location.length).map location.take
  (above.foldl (fun tree place => tree.put place .directory) tree).put location entry

/-- What was read from the disk, with the names in each directory in the order in which the disk
lists them. -/
structure Disk where
  tree : FileTree
  listings : Std.TreeMap Location (List String) := ∅

def Disk.order (disk : Disk) : Listing.Order := fun location =>
  match disk.listings[location]? with
  | some names =>
    names.filterMap fun name => (disk.tree.entry? (location ++ [name])).map (name, ·)
  | none => disk.tree.children location

def loadFile (disk : Disk) (path : String) : IO Disk := do
  try
    let content ← IO.FS.readBinFile path
    let location := locationOf disk.tree.here path
    return { disk with tree := plant disk.tree location (.file content) }
  catch _ => return disk

/-- Reads a directory, and in it the files whose names are wanted. A link that leads nowhere stays
one. -/
def loadDirectory (wanted : String → Bool) (disk : Disk) (path : String) : IO Disk := do
  let folder := (← IO.currentDir) / path
  if ← folder.isDir then
    let location := locationOf disk.tree.here path
    let entries ← folder.readDir
    let names := entries.toList.map (·.fileName)
    let mut disk : Disk :=
      { tree := plant disk.tree location .directory
        listings := disk.listings.insert location names }
    for entry in entries do
      let place := location ++ [entry.fileName]
      if ← entry.path.isDir then
        disk := { disk with tree := plant disk.tree place .directory }
      else if ← entry.path.pathExists then
        disk := { disk with tree := plant disk.tree place (.file ByteArray.empty) }
        if wanted entry.fileName then disk ← loadFile disk (Path.join path entry.fileName)
      else disk := { disk with tree := plant disk.tree place (.link (entry.fileName ++ " ")) }
    return disk
  else loadFile disk path

/-- What a run with these options can ask the disk for. -/
def load (options : Options) : IO Disk := do
  let here := FileTree.steps (← IO.currentDir).toString
  let mut disk : Disk := { tree := plant { here := here, entries := ∅ } here .directory }
  match options.initConfig with
  | some path =>
    disk ← loadDirectory (fun _ => false) disk (Path.join (Settings.parentPath path) ".")
    loadDirectory (fun _ => false) disk path
  | none =>
    if let some path := options.config then disk ← loadDirectory (fun _ => false) disk path
    match (Program.settingsOf options disk.tree).result with
    | .ok settings =>
      let wanted := Listing.hasExtension settings.language.extension
      disk ← loadDirectory wanted disk settings.hdlDir
      loadDirectory wanted disk settings.simDir
    | .error _ => return disk

/-- Brings the one file that a run can write to the disk. -/
def store (options : Options) (outcome : Outcome) : IO Unit := do
  if let some path := options.initConfig then
    if let .ok content := outcome.tree.readBytes path then
      if outcome.exitCode = 0 then IO.FS.writeBinFile path content

def report (outcome : Outcome) : IO UInt32 := do
  let time := toString (← IO.monoMsNow)
  for event in outcome.events do
    IO.eprintln (event.line outcome.coloured time)
  IO.print outcome.output
  if let some error := outcome.error then IO.eprintln error
  return UInt32.ofNat outcome.exitCode

end HdlClosure.Main

def main (arguments : List String) : IO UInt32 := do
  let environment ← IO.getEnv "RUST_LOG"
  match HdlClosure.CommandLine.request arguments with
  | .go options =>
    let disk ← HdlClosure.Main.load options
    let outcome := HdlClosure.Program.run disk.tree environment arguments disk.order
    HdlClosure.Main.store options outcome
    HdlClosure.Main.report outcome
  | _ => HdlClosure.Main.report (HdlClosure.Program.run {} environment arguments)

import SampleProfile.Workspace

/-!
# A disk in memory

A `Disk` is a workspace as a value: named files and directories, temporary files apart from them,
and a schedule by which operations are refused.  Whatever is done through a `Workspace` can be run
on a disk and reasoned about.
-/

namespace SampleProfile

/-- What stands at a place on a disk. -/
inductive Entry where
  | file (contents : ByteArray)
  | directory

/-- A disk in memory. -/
structure Disk where
  /-- Files and directories by the names that lead to them from the working directory. -/
  entries : OrderedMap (List String) Entry := ∅
  /-- Contents of temporary files. -/
  temporaries : OrderedMap String ByteArray := ∅
  /-- How many operations have been tried. -/
  clock : Nat := 0
  /-- The operations, by number, that are refused whatever the disk holds. -/
  refusals : Nat → Option FileFault := fun _ => none
  /-- What has been noted, latest last. -/
  events : List Event := []

namespace Disk

/-- The root directory, as the first name of an absolute place. -/
def root : List String := ["/"]

/-- What stands at a place; the working directory and the root directory always exist. -/
def lookup? (disk : Disk) (place : List String) : Option Entry :=
  if place = [] || place = root then some .directory else disk.entries[place]?

/-- Goes on by one part of a path; an empty part or a point stays where it is. -/
def advance (disk : Disk) (place : List String) (part : String) : Except FileFault (List String) :=
  match disk.lookup? place with
  | none => .error .missing
  | some (.file _) => .error .notDirectory
  | some .directory =>
      if part = "" || part = "." then
        .ok place
      else if part = ".." then
        .ok (if place = root then root else place.dropLast)
      else
        .ok (place ++ [part])

/-- Where a path starts. -/
def origin (path : String) : List String :=
  if Workspace.isAbsolute path then root else []

/-- The place that a path names. -/
def locate (disk : Disk) (path : String) : Except FileFault (List String) :=
  if path.toList.contains '\x00' then
    .error .badName
  else if path = "" then
    .error .missing
  else
    (Workspace.parts path).foldlM disk.advance (origin path)

/-- The contents of the file that a path names. -/
def contents (disk : Disk) (path : String) : Except FileFault ByteArray :=
  match disk.locate path with
  | .error fault => .error fault
  | .ok place =>
      match disk.lookup? place with
      | none => .error .missing
      | some .directory => .error .isDirectory
      | some (.file contents) => .ok contents

/-- Whether a path names a directory. -/
def checkDirectory (disk : Disk) (path : String) : Except FileFault Unit :=
  match disk.locate path with
  | .error fault => .error fault
  | .ok place =>
      match disk.lookup? place with
      | none => .error .missing
      | some (.file _) => .error .notDirectory
      | some .directory => .ok ()

/-- The place to which a file can be moved under a path: its last part must be a name, and no
directory. -/
def target (disk : Disk) (path : String) : Except FileFault (List String) :=
  if path.toList.contains '\x00' then
    .error .badName
  else if path = "" then
    .error .missing
  else
    let names := (Workspace.parts path).filter (· ≠ "")
    match names.dropLast.foldlM disk.advance (origin path) with
    | .error fault => .error fault
    | .ok directory =>
        match disk.lookup? directory, names.getLast? with
        | none, _ => .error .missing
        | some (.file _), _ => .error .notDirectory
        | some .directory, none => .error .busy
        | some .directory, some name =>
            let place := directory ++ [name]
            if name = "." || name = ".." then
              .error .busy
            else if path.toList.getLast? = some '/' then
              .error .notDirectory
            else
              match disk.lookup? place with
              | some .directory => .error .isDirectory
              | _ => .ok place

/-- Puts a file or directory at a path and makes the directories that lead there. -/
def place (disk : Disk) (path : String) (entry : Entry) : Disk :=
  let names := (Workspace.parts path).filter fun part => part ≠ "" && part ≠ "."
  let outer := ((List.range names.length).map names.take).filter (· ≠ [])
  let prepared := outer.foldl
    (fun (entries : OrderedMap (List String) Entry) directory =>
      entries.insertIfNew directory .directory) disk.entries
  { disk with entries := prepared.insert names entry }

/-- Tries an operation, unless it is refused by the schedule. -/
def attempt {Answer : Type} (operation : Disk → Except FileFault (Answer × Disk)) (disk : Disk) :
    Except FileFault Answer × Disk :=
  let later := { disk with clock := disk.clock + 1 }
  match disk.refusals disk.clock with
  | some fault => (.error fault, later)
  | none =>
      match operation later with
      | .error fault => (.error fault, later)
      | .ok (answer, changed) => (.ok answer, changed)

/-- Reads a file. -/
def read (path : String) : Disk → Except FileFault ByteArray × Disk :=
  attempt fun disk => (disk.contents path).map fun contents => (contents, disk)

/-- Whether a path names a file. -/
def isFile (disk : Disk) (path : String) : Bool :=
  (disk.contents path).toBool

/-- Makes an empty temporary file in a directory; no two have the same name. -/
def makeTemporary (directory : String) (disk : Disk) : Except WriteFault String × Disk :=
  let path := directory ++ "/.tmp" ++ toString disk.clock
  let outcome := disk.attempt fun disk =>
    (disk.checkDirectory directory).map fun () =>
      ((), { disk with temporaries := disk.temporaries.insert path .empty })
  match outcome with
  | (.ok (), changed) => (.ok path, changed)
  | (.error fault, changed) => (.error ⟨fault, some path⟩, changed)

/-- Writes the contents of a temporary file. -/
def fill (temporary : String) (contents : ByteArray) : Disk → Except FileFault Unit × Disk :=
  attempt fun disk =>
    .ok ((), { disk with temporaries := disk.temporaries.insert temporary contents })

/-- Moves a temporary file to a path. -/
def rename (temporary path : String) : Disk → Except FileFault Unit × Disk :=
  attempt fun disk =>
    match disk.target path, disk.temporaries[temporary]? with
    | .error fault, _ => .error fault
    | .ok _, none => .error .missing
    | .ok place, some contents =>
        .ok ((), { disk with
          entries := disk.entries.insert place (.file contents)
          temporaries := disk.temporaries.erase temporary })

/-- Deletes a temporary file. -/
def discard (temporary : String) (disk : Disk) : Disk :=
  { disk with temporaries := disk.temporaries.erase temporary }

/-- Adds to what has been noted. -/
def note (event : Event) (disk : Disk) : Disk :=
  { disk with events := disk.events ++ [event] }

end Disk

/-- Computations on a disk. -/
abbrev DiskM := StateM Disk

instance : Workspace DiskM where
  read := Disk.read
  isFile path := fun disk => (disk.isFile path, disk)
  makeTemporary := Disk.makeTemporary
  fill := Disk.fill
  rename := Disk.rename
  discard temporary := fun disk => ((), disk.discard temporary)
  note event := fun disk => ((), disk.note event)

end SampleProfile

import SampleProfile.Bytes
import SampleProfile.Text.Hexadecimal
import SampleProfile.Text.Integer
import SampleProfile.Text.Lossy
import SampleProfile.OrderedMap

/-!
# Build-ids of mapped files

A capture may list the build-ids of the files that were mapped.  An entry of that list and a mapping
belong together if they have the same `SharedObject`: the file's path, or one of the pieces of code
that the kernel brings along.
-/

namespace SampleProfile.Capture

/-- In which mode of the processor a record arose. -/
inductive ProcessorMode where
  | unknown
  | kernel
  | user
  | guestKernel
  | guestUser
deriving DecidableEq, Repr

/-- The mode in the low bits of a record's flags. -/
def ProcessorMode.ofFlags (flags : Nat) : ProcessorMode :=
  match flags % 8 with
  | 1 => kernel
  | 2 => user
  | 4 => guestKernel
  | 5 => guestUser
  | _ => unknown

/-- Whether code of the kernel ran. -/
def ProcessorMode.isKernel : ProcessorMode → Bool
  | kernel => true
  | guestKernel => true
  | _ => false

/-- What a mapped piece of code is. -/
inductive SharedObject where
  | kernel
  | guestKernel
  | kernelModule (name : String)
  | file (path : List UInt8)
  /-- Code that the kernel maps into processes under a name of its own. -/
  | special (name : String)
deriving DecidableEq, Repr

/-- Names of memory without code of a file. -/
def anonymousNames : List String :=
  ["//anon", "[stack]", "[heap]", "[vvar]"]

/-- Names of code that the kernel maps into processes. -/
def specialNames : List String :=
  ["[vdso32]", "[vdsox32]", "[vdso]", "[vsyscall]"]

/-- The last part of a path. -/
def lastPart (path : List UInt8) : List UInt8 :=
  (path.reverse.takeWhile (· ≠ 0x2F)).reverse

/-- The name of a kernel module whose file ends in `.ko`. -/
def moduleName? (path : List UInt8) : Option String :=
  let name := lastPart path
  let ending := textBytes ".ko"
  if ending.isSuffixOf name then
    some ("[" ++ Text.lossy (name.take (name.length - ending.length)) ++ "]")
  else
    none

/-- What a path names, seen from a mode; memory that belongs to no file is nothing. -/
def SharedObject.of? (path : List UInt8) (mode : ProcessorMode) : Option SharedObject :=
  if anonymousNames.any (textBytes · = path) then
    none
  else if (textBytes "[kernel.kallsyms]").isPrefixOf path then
    some (if mode = .guestKernel then guestKernel else kernel)
  else if (textBytes "[guest.kernel.kallsyms").isPrefixOf path then
    some guestKernel
  else
    match specialNames.find? (textBytes · = path) with
    | some name => some (special name)
    | none =>
        if mode.isKernel && path.head? = some 0x5B then
          some (kernelModule (Text.lossy path))
        else
          match mode, moduleName? path with
          | .kernel, some name => some (kernelModule name)
          | .guestKernel, some name => some (kernelModule name)
          | .kernel, none => some kernel
          | .guestKernel, none => some guestKernel
          | .user, _ => some (file path)
          | .guestUser, _ => some (file path)
          | .unknown, _ => none

/-- Known build-ids, a later one of the same object first. -/
abbrev BuildIds := List (SharedObject × String)

/-- The known build-id of what a path names. -/
def BuildIds.find? (known : BuildIds) (path : List UInt8) (mode : ProcessorMode) :
    Option String :=
  (SharedObject.of? path mode).bind fun object =>
    (List.find? (fun entry => entry.1 = object) known).map Prod.snd

/-- The length of a build-id that is filled up with zeros, in steps of four bytes. -/
def paddedLength (bytes : List UInt8) : Nat :=
  let significant := (bytes.reverse.dropWhile (· = 0)).length
  (significant + 3) / 4 * 4

/-- The flag of entries that give the length of the build-id. -/
def lengthFlag : Nat := 0x8000

/-- Reads an entry of the list of build-ids: its mode, path and build-id. -/
def readBuildId : Reading (ProcessorMode × List UInt8 × String) := do
  let _ ← Reading.number 4
  let flags ← Reading.number 2
  let size ← Reading.number 2
  Reading.skip 4
  let stored ← Reading.list 24
  let path ← Reading.list (size - 36)
  let length :=
    if flags / lengthFlag % 2 = 1 then
      min ((stored[20]?.getD 0).toNat) 20
    else
      paddedLength stored
  return (.ofFlags flags, path.takeWhile (· ≠ 0), Text.hexadecimal (stored.take length))

/-- Reads entries as long as they are complete; each takes at least a byte. -/
def readBuildIds (known : BuildIds) : Nat → Cursor → BuildIds
  | 0, _ => known
  | bound + 1, cursor =>
      match readBuildId cursor with
      | none => known
      | some ((mode, path, buildId), later) =>
          match SharedObject.of? path mode with
          | none => readBuildIds known bound later
          | some object => readBuildIds ((object, buildId) :: known) bound later

/-- The build-ids in a section of a capture. -/
def BuildIds.ofSection (cursor : Cursor) : BuildIds :=
  readBuildIds [] cursor.remaining cursor

end SampleProfile.Capture

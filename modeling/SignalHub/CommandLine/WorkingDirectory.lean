import SignalHub.CommandLine.Surroundings
import SignalHub.CrashDump
import SignalHub.Text.Pieces

/-!
# Opening files

What becomes of an attempt to open a file for writing when the program runs in
an empty directory.  A path is followed component by component; its last
component names the file, which is created where it is missing and can be.  Of
the world outside, only what every system has is known: the usual folders, the
devices, and the views of the process on itself.
-/

namespace SignalHub.CommandLine

open Output Text

/-- A folder that a path may lead through. -/
inductive Folder where
  | working
  | root
  | devices
  /-- The processes, one of them, its open files, and all other views on
  them. -/
  | processes
  | process
  | descriptors
  | views
  /-- What the kernel shows of itself. -/
  | kernel
  /-- A folder of the system that holds further folders and files. -/
  | system (folders files : List String)
deriving DecidableEq, Repr

/-- A folder, with the folders that it lies in, from the inside. -/
structure Place where
  folder : Folder
  above : List Folder
deriving DecidableEq, Repr

/-- What a name in a folder stands for. -/
inductive Entry where
  | inner (folder : Folder)
  | link (place : Place)
  | file (opened : OpenedFile)
  /-- A file that cannot be opened for writing. -/
  | closed (fault : Fault)
deriving DecidableEq, Repr

/-- The longest name of a file, and the longest path. -/
def nameLimit : Nat := 255

def pathLimit : Nat := 4095

/-- The components of a path, empty ones included. -/
def components (path : Bytes) : List Bytes :=
  pieces CrashDump.separator path

namespace OpenedFile

/-- A file outside of the working directory. -/
def elsewhere : OpenedFile := ⟨.elsewhere, Device.boundless⟩

end OpenedFile

namespace Folder

/-- A folder that is known to exist, and nothing more. -/
def bare : Folder := .system [] []

/-- Holds folders for all that programs leave behind. -/
def leftovers : Folder :=
  .system ["backups", "cache", "lib", "local", "lock", "log", "mail", "opt",
    "run", "spool", "tmp"] []

/-- Holds what is installed. -/
def installed : Folder :=
  .system ["bin", "games", "include", "lib", "lib64", "libexec", "local",
    "sbin", "share", "src"] []

/-- Holds the settings of the system. -/
def settings : Folder :=
  .system ["apt", "default", "init.d", "ld.so.conf.d", "opt", "profile.d",
      "security", "skel", "ssl"]
    ["bash.bashrc", "debian_version", "environment", "fstab", "group",
      "gshadow", "host.conf", "hostname", "hosts", "issue", "ld.so.cache",
      "ld.so.conf", "login.defs", "mtab", "nsswitch.conf", "os-release",
      "passwd", "profile", "resolv.conf", "shadow", "shells"]

/-- Holds programs. -/
def programs : Folder :=
  .system [] ["bash", "cat", "cp", "echo", "env", "false", "ls", "mv", "rm",
    "sh", "sleep", "true"]

end Folder

namespace Place

/-- The top of the tree. -/
def root : Place := ⟨.root, []⟩

/-- The working directory lies in a folder for temporary files. -/
def working : Place := ⟨.working, [.bare, .root]⟩

/-- The folder of the open files of the process. -/
def descriptors : Place := ⟨.descriptors, [.process, .processes, .root]⟩

/-- The folder above; the root has none but itself. -/
def parent (place : Place) : Place :=
  match place.above with
  | [] => place
  | folder :: above => ⟨folder, above⟩

/-- A folder in this one. -/
def inside (place : Place) (folder : Folder) : Place :=
  ⟨folder, place.folder :: place.above⟩

end Place

namespace Folder

/-- The open files of the process by number. -/
def descriptor? : String → Option Entry
  | "0" => some (.file .elsewhere)
  | "1" => some (.file ⟨.standardOutput, Device.boundless⟩)
  | "2" => some (.file ⟨.standardError, Device.boundless⟩)
  | _ => none

/-- What stands under a name in a folder. -/
def entry? : Folder → String → Option Entry
  | working, _ => none
  | root, "dev" => some (.inner devices)
  | root, "proc" => some (.inner processes)
  | root, "sys" => some (.inner kernel)
  | root, "etc" => some (.inner settings)
  | root, "usr" => some (.inner installed)
  | root, "var" => some (.inner leftovers)
  | root, "bin" => some (.inner programs)
  | root, name =>
      if ["boot", "home", "lib", "lib64", "media", "mnt", "opt", "root",
          "run", "sbin", "srv", "tmp"].contains name then
        some (.inner bare)
      else none
  | devices, "full" => some (.file ⟨.elsewhere, Device.full⟩)
  | devices, "stdin" => descriptor? "0"
  | devices, "stdout" => descriptor? "1"
  | devices, "stderr" => descriptor? "2"
  | devices, "fd" => some (.link Place.descriptors)
  | devices, "tty" => some (.closed (.system Fault.noSuchDevice))
  | devices, name =>
      if ["null", "zero", "random", "urandom", "ptmx"].contains name then
        some (.file .elsewhere)
      else if ["pts", "shm", "mqueue"].contains name then some (.inner bare)
      else none
  | processes, "self" | processes, "thread-self" => some (.inner process)
  | processes, "1" | processes, "sys" | processes, "net" =>
      some (.inner views)
  | processes, _ => none
  | process, "cwd" => some (.link Place.working)
  | process, "root" => some (.link Place.root)
  | process, "fd" => some (.inner descriptors)
  | process, "exe" => some (.closed (.system Fault.fileBusy))
  | process, "task" | process, "ns" | process, "net" => some (.inner views)
  | process, _ => none
  | descriptors, name => descriptor? name
  | views, _ => none
  | kernel, "kernel" | kernel, "class" | kernel, "devices" | kernel, "fs" =>
      some (.inner kernel)
  | kernel, _ => none
  | system folders files, name =>
      if folders.contains name then some (.inner bare)
      else if files.contains name then some (.file .elsewhere)
      else none

/-- What becomes of a name that nothing stands under, when a file is to be
created. -/
def create (folder : Folder) (name : Bytes) : Except Fault OpenedFile :=
  match folder with
  | .working => .ok ⟨.named name, Device.boundless⟩
  | .processes | .process | .descriptors | .views =>
      .error (.system Fault.noSuchFile)
  | .kernel => .error (.system Fault.accessDenied)
  | .root | .devices | .system _ _ => .ok .elsewhere

end Folder

namespace Place

def isDot (component : Bytes) : Bool :=
  component.isEmpty || component == bytes "."

def isDots (component : Bytes) : Bool :=
  component == bytes ".."

/-- One component on the way. -/
def enter (place : Place) (component : Bytes) : Except Fault Place :=
  if isDot component then .ok place
  else if isDots component then .ok place.parent
  else if nameLimit < component.length then
    .error (.system Fault.nameTooLong)
  else
    match place.folder.entry? (decode component) with
    | some (.inner folder) => .ok (place.inside folder)
    | some (.link target) => .ok target
    | some _ => .error (.system Fault.notDirectory)
    | none => .error (.system Fault.noSuchFile)

/-- The last component names the file. -/
def openIn (place : Place) (name : Bytes) : Except Fault OpenedFile :=
  if isDot name || isDots name then .error (.system Fault.isDirectory)
  else if nameLimit < name.length then .error (.system Fault.nameTooLong)
  else
    match place.folder.entry? (decode name) with
    | some (.inner _) | some (.link _) => .error (.system Fault.isDirectory)
    | some (.file opened) => .ok opened
    | some (.closed fault) => .error fault
    | none => place.folder.create name

/-- Follows components to the last one.  A separator after a name demands a
directory. -/
def follow (place : Place) : List Bytes → Except Fault OpenedFile
  | [] => .error (.system Fault.noSuchFile)
  | [name] => place.openIn name
  | component :: next :: rest =>
      if !(isDot component || isDots component) &&
          (next :: rest).all List.isEmpty then
        .error (.system Fault.isDirectory)
      else
        match place.enter component with
        | .error fault => .error fault
        | .ok inner => inner.follow (next :: rest)

end Place

/-- Opens a file for writing, in an empty working directory. -/
def openInEmptyDirectory (path : Bytes) : Except Fault OpenedFile :=
  if pathLimit < path.length then .error (.system Fault.nameTooLong)
  else
    match path with
    | [] => .error (.system Fault.noSuchFile)
    | byte :: _ =>
        let start :=
          if byte = CrashDump.separator then Place.root else Place.working
        start.follow (components path)

end SignalHub.CommandLine

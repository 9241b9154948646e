import SignalHub.Fault.SystemText

/-!
# Faults of input and output

Why a device refuses.  A fault has a kind and a text; the operating system's
faults have a code, which decides both.
-/

namespace SignalHub

inductive FaultKind where
  | notFound
  | permissionDenied
  | connectionRefused
  | connectionReset
  | hostUnreachable
  | networkUnreachable
  | connectionAborted
  | notConnected
  | addrInUse
  | addrNotAvailable
  | networkDown
  | brokenPipe
  | alreadyExists
  | wouldBlock
  | notADirectory
  | isADirectory
  | directoryNotEmpty
  | readOnlyFilesystem
  | filesystemLoop
  | staleNetworkFileHandle
  | invalidInput
  | invalidData
  | timedOut
  | writeZero
  | storageFull
  | notSeekable
  | quotaExceeded
  | fileTooLarge
  | resourceBusy
  | executableFileBusy
  | deadlock
  | crossesDevices
  | tooManyLinks
  | invalidFilename
  | argumentListTooLong
  | interrupted
  | unsupported
  | unexpectedEof
  | outOfMemory
  | other
  | uncategorized
deriving DecidableEq, Repr

namespace FaultKind

def all : List FaultKind :=
  [.notFound,
    .permissionDenied,
    .connectionRefused,
    .connectionReset,
    .hostUnreachable,
    .networkUnreachable,
    .connectionAborted,
    .notConnected,
    .addrInUse,
    .addrNotAvailable,
    .networkDown,
    .brokenPipe,
    .alreadyExists,
    .wouldBlock,
    .notADirectory,
    .isADirectory,
    .directoryNotEmpty,
    .readOnlyFilesystem,
    .filesystemLoop,
    .staleNetworkFileHandle,
    .invalidInput,
    .invalidData,
    .timedOut,
    .writeZero,
    .storageFull,
    .notSeekable,
    .quotaExceeded,
    .fileTooLarge,
    .resourceBusy,
    .executableFileBusy,
    .deadlock,
    .crossesDevices,
    .tooManyLinks,
    .invalidFilename,
    .argumentListTooLong,
    .interrupted,
    .unsupported,
    .unexpectedEof,
    .outOfMemory,
    .other,
    .uncategorized]

def name : FaultKind → String
  | .notFound => "NotFound"
  | .permissionDenied => "PermissionDenied"
  | .connectionRefused => "ConnectionRefused"
  | .connectionReset => "ConnectionReset"
  | .hostUnreachable => "HostUnreachable"
  | .networkUnreachable => "NetworkUnreachable"
  | .connectionAborted => "ConnectionAborted"
  | .notConnected => "NotConnected"
  | .addrInUse => "AddrInUse"
  | .addrNotAvailable => "AddrNotAvailable"
  | .networkDown => "NetworkDown"
  | .brokenPipe => "BrokenPipe"
  | .alreadyExists => "AlreadyExists"
  | .wouldBlock => "WouldBlock"
  | .notADirectory => "NotADirectory"
  | .isADirectory => "IsADirectory"
  | .directoryNotEmpty => "DirectoryNotEmpty"
  | .readOnlyFilesystem => "ReadOnlyFilesystem"
  | .filesystemLoop => "FilesystemLoop"
  | .staleNetworkFileHandle => "StaleNetworkFileHandle"
  | .invalidInput => "InvalidInput"
  | .invalidData => "InvalidData"
  | .timedOut => "TimedOut"
  | .writeZero => "WriteZero"
  | .storageFull => "StorageFull"
  | .notSeekable => "NotSeekable"
  | .quotaExceeded => "QuotaExceeded"
  | .fileTooLarge => "FileTooLarge"
  | .resourceBusy => "ResourceBusy"
  | .executableFileBusy => "ExecutableFileBusy"
  | .deadlock => "Deadlock"
  | .crossesDevices => "CrossesDevices"
  | .tooManyLinks => "TooManyLinks"
  | .invalidFilename => "InvalidFilename"
  | .argumentListTooLong => "ArgumentListTooLong"
  | .interrupted => "Interrupted"
  | .unsupported => "Unsupported"
  | .unexpectedEof => "UnexpectedEof"
  | .outOfMemory => "OutOfMemory"
  | .other => "Other"
  | .uncategorized => "Uncategorized"

/-- How a fault of this kind is shown if nothing more is known of it. -/
def text : FaultKind → String
  | .notFound => "entity not found"
  | .permissionDenied => "permission denied"
  | .connectionRefused => "connection refused"
  | .connectionReset => "connection reset"
  | .hostUnreachable => "host unreachable"
  | .networkUnreachable => "network unreachable"
  | .connectionAborted => "connection aborted"
  | .notConnected => "not connected"
  | .addrInUse => "address in use"
  | .addrNotAvailable => "address not available"
  | .networkDown => "network down"
  | .brokenPipe => "broken pipe"
  | .alreadyExists => "entity already exists"
  | .wouldBlock => "operation would block"
  | .notADirectory => "not a directory"
  | .isADirectory => "is a directory"
  | .directoryNotEmpty => "directory not empty"
  | .readOnlyFilesystem => "read-only filesystem or storage medium"
  | .filesystemLoop => "filesystem loop or indirection limit (e.g. symlink loop)"
  | .staleNetworkFileHandle => "stale network file handle"
  | .invalidInput => "invalid input parameter"
  | .invalidData => "invalid data"
  | .timedOut => "timed out"
  | .writeZero => "write zero"
  | .storageFull => "no storage space"
  | .notSeekable => "seek on unseekable file"
  | .quotaExceeded => "quota exceeded"
  | .fileTooLarge => "file too large"
  | .resourceBusy => "resource busy"
  | .executableFileBusy => "executable file busy"
  | .deadlock => "deadlock"
  | .crossesDevices => "cross-device link or rename"
  | .tooManyLinks => "too many links"
  | .invalidFilename => "invalid filename"
  | .argumentListTooLong => "argument list too long"
  | .interrupted => "operation interrupted"
  | .unsupported => "unsupported"
  | .unexpectedEof => "unexpected end of file"
  | .outOfMemory => "out of memory"
  | .other => "other error"
  | .uncategorized => "uncategorized error"

def ofName? (name : String) : Option FaultKind :=
  all.find? fun kind => kind.name == name

/-- The codes of the operating system that have a kind of their own. -/
def systemKinds : List (Nat × FaultKind) :=
  [(1, .permissionDenied),
    (2, .notFound),
    (4, .interrupted),
    (7, .argumentListTooLong),
    (11, .wouldBlock),
    (12, .outOfMemory),
    (13, .permissionDenied),
    (16, .resourceBusy),
    (17, .alreadyExists),
    (18, .crossesDevices),
    (20, .notADirectory),
    (21, .isADirectory),
    (22, .invalidInput),
    (26, .executableFileBusy),
    (27, .fileTooLarge),
    (28, .storageFull),
    (29, .notSeekable),
    (30, .readOnlyFilesystem),
    (31, .tooManyLinks),
    (32, .brokenPipe),
    (35, .deadlock),
    (36, .invalidFilename),
    (38, .unsupported),
    (39, .directoryNotEmpty),
    (40, .filesystemLoop),
    (95, .unsupported),
    (98, .addrInUse),
    (99, .addrNotAvailable),
    (100, .networkDown),
    (101, .networkUnreachable),
    (103, .connectionAborted),
    (104, .connectionReset),
    (107, .notConnected),
    (110, .timedOut),
    (111, .connectionRefused),
    (113, .hostUnreachable),
    (116, .staleNetworkFileHandle),
    (122, .quotaExceeded)]

def ofCode (code : Int) : FaultKind :=
  match systemKinds.find? fun entry => (entry.1 : Int) == code with
  | some entry => entry.2
  | none => .uncategorized

end FaultKind

inductive Fault where
  | plain (kind : FaultKind)
  | system (code : Int)
  | textUnwritten
  | heldUnwritten
deriving DecidableEq, Repr

namespace Fault

/-- The codes that this library itself meets. -/
def noSuchFile : Int := 2

def interruptedCall : Int := 4

def badDescriptor : Int := 9

def notDirectory : Int := 20

def isDirectory : Int := 21

def noSpace : Int := 28

def nameTooLong : Int := 36

def noSuchDevice : Int := 6

def accessDenied : Int := 13

def fileBusy : Int := 26

def kind : Fault → FaultKind
  | .plain kind => kind
  | .system code => FaultKind.ofCode code
  | .textUnwritten | .heldUnwritten => .writeZero

def text : Fault → String
  | .plain kind => kind.text
  | .system code => systemFaultText code
  | .textUnwritten => "failed to write whole buffer"
  | .heldUnwritten => "failed to write the buffered data"

/-- How the failure of a printing call is shown; the fault is its cause. -/
def printMessage : String := "Input/Output error"

end Fault

end SignalHub

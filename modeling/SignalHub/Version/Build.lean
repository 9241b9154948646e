import SignalHub.Bounded

/-!
# The build

What identifies a build, and its description in a bounded text: the verbose
form also names the dialect and what the build was made from.
-/

namespace SignalHub

open Text

inductive Variant where
  | production
  | debug
  | assert
deriving DecidableEq, Repr

namespace Variant

def name : Variant → String
  | .production => "Production"
  | .debug => "Debug"
  | .assert => "Assert"

def all : List Variant :=
  [.production, .debug, .assert]

def ofName? (name : String) : Option Variant :=
  all.find? fun variant => variant.name == name

end Variant

structure Build where
  dialect : String
  version : String
  buildName : String
  compiler : String
  variant : Variant
  objectMemory : String
  sharedMemory : Bool
  timerHeartbeat : Bool
  interpreter : String
  extended : String
  source : String
  timestamp : String
deriving DecidableEq, Repr

namespace Build

/-- The size of the buffer for a description, terminator included. -/
def descriptionSize : Nat := 4096

/-- This build, whose compiler and time of building are told from outside. -/
def current (compiler timestamp : String) : Build :=
  { dialect := "Pharo"
    version := "unknown"
    buildName := "local"
    compiler
    variant := .assert
    objectMemory := "Spur 64-bit"
    sharedMemory := false
    timerHeartbeat := false
    interpreter := "unknown interpreter"
    extended := ""
    source := "unknown revision"
    timestamp }

/-- Variant, object memory if there is one, and the kind of heartbeat. -/
def flavour (build : Build) : String :=
  build.variant.name ++
    (if build.objectMemory.isEmpty then "" else " " ++ build.objectMemory) ++
    (if build.timerHeartbeat then " ITHB" else "")

def sharedMemoryMark (build : Build) : String :=
  if build.sharedMemory then " XShm" else ""

def shortVersion (build : Build) : String :=
  build.version ++ "-" ++ build.buildName

/-- The pieces that a description is put together from. -/
def fragments (build : Build) (verbose : Bool) : List String :=
  let identity :=
    [build.version, "-", build.buildName, build.sharedMemoryMark, " ",
      build.compiler, " [", build.flavour, " VM]\n"]
  if verbose then
    [build.dialect, "VM version:"] ++ identity ++
      ["Built from: ", build.interpreter, "\n With:", build.extended,
        "\n Revision: ", build.source]
  else
    identity ++
      [build.interpreter, "\n", build.extended, "\n", build.source]

/-- The description without any bound. -/
def fullDescription (build : Build) (verbose : Bool) : String :=
  String.join (build.fragments verbose)

/-- The description, cut where its buffer ends. -/
def describe (build : Build) (verbose : Bool) : String :=
  (Formatter.ofPieces false false (build.fragments verbose)).bounded
    descriptionSize

end Build

end SignalHub

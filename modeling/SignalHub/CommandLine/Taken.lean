import SignalHub.CommandLine.UsageFault

/-!
# Values taken from a command line

The switches and values that were found so far.  A value is read when it is
put: as a text, as a path that is not empty, or as an integer.
-/

namespace SignalHub.CommandLine

open Text

structure Taken where
  switches : List Switch
  enable : List String
  output : Option Bytes
  category : Option String
  level : Option Int
  message : Option String
  directory : Option Bytes
deriving DecidableEq, Repr

/-- A value that must be text. -/
def readText (value : Bytes) : Except UsageFault String :=
  match decode? value with
  | some text => .ok text
  | none => .error .notText

/-- A value that must be a path. -/
def readPath (parameter : Parameter) (value : Bytes) :
    Except UsageFault Bytes :=
  if value.isEmpty then .error (.missingValue parameter) else .ok value

/-- A value that must be an integer. -/
def readLevel (parameter : Parameter) (value : Bytes) :
    Except UsageFault Int :=
  match readText value with
  | .error fault => .error fault
  | .ok text =>
      (readInteger text.toList).mapError (.notInteger text parameter)

namespace Taken

def nothing : Taken :=
  ⟨[], [], none, none, none, none, none⟩

def isNothing (taken : Taken) : Bool :=
  taken == nothing

def has (taken : Taken) (switch : Switch) : Bool :=
  taken.switches.contains switch

/-- Puts a switch, which may be given once. -/
def putSwitch (taken : Taken) (switch : Switch) : Except UsageFault Taken :=
  if taken.has switch then .error (.repeated (longForm switch.name))
  else .ok { taken with switches := taken.switches ++ [switch] }

/-- Puts a value.  Categories may be enabled one after the other; there is one
output at most. -/
def put (taken : Taken) (parameter : Parameter) (value : Bytes) :
    Except UsageFault Taken :=
  match parameter with
  | .enable => do
      let category ← readText value
      .ok { taken with enable := taken.enable ++ [category] }
  | .output =>
      if taken.output.isSome then .error (.repeated parameter.label)
      else do
        let path ← readPath parameter value
        .ok { taken with output := some path }
  | .category => do
      let category ← readText value
      .ok { taken with category := some category }
  | .level => do
      let level ← readLevel parameter value
      .ok { taken with level := some level }
  | .message => do
      let message ← readText value
      .ok { taken with message := some message }
  | .directory => do
      let directory ← readPath parameter value
      .ok { taken with directory := some directory }

/-- The options that were taken. -/
def options (taken : Taken) : Options :=
  { enable := taken.enable
    all := taken.has .all
    forward := taken.has .forward
    output := taken.output }

/-- The command of a name, if all values that it needs were taken. -/
def command? (taken : Taken) : CommandName → Option Command
  | .version => some (.version (taken.has .verbose) (taken.has .report))
  | .log => do return .log (← taken.category) (← taken.message)
  | .severity => do return .severity (← taken.level) (← taken.message)
  | .printf => taken.message.map .printf
  | .crashDump => some (.crashDump taken.directory)
  | .fatal => taken.message.map .fatal
  | .help => none

end Taken

end SignalHub.CommandLine

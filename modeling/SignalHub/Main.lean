import SignalHub.CommandLine.Run
import Std.Time.DateTime

/-!
# The program

Gathers the surroundings, runs the command line, and delivers the outcome.
-/

namespace SignalHub.CommandLine

open Output Text Std.Time

/-- A number with two digits at least. -/
def twoDigits (value : Int) : String :=
  if value < 10 then "0" ++ toString value else toString value

/-- A date and the time of day with a separator between them. -/
def momentText (separator : String) (moment : PlainDateTime) : String :=
  toString moment.year.toInt ++ "-" ++ twoDigits moment.month.val ++ "-" ++
    twoDigits moment.day.val ++ separator ++ twoDigits moment.hour.val ++
    ":" ++ twoDigits moment.minute.val ++ ":" ++ twoDigits moment.second.val

/-- The present moment. -/
def present : IO PlainDateTime := do
  let moment ← Timestamp.now
  return .ofWallTime (.ofSeconds moment.toSecondsSinceUnixEpoch)

/-- The value of a variable of the environment. -/
def variableValue (name : String) : IO (Option Bytes) := do
  return (← IO.getEnv name).map bytes

/-- The fault of the system behind a failed call. -/
def faultOf : IO.Error → Fault
  | .noFileOrDirectory _ code _ | .permissionDenied _ code _
  | .inappropriateType _ code _ | .invalidArgument _ code _ =>
      .system code.toNat
  | _ => .plain .other

/-- Opens the output file of a request, if it asks for one. -/
def openFileAt (path : Option Bytes) :
    IO (Option (Except Fault IO.FS.Handle)) := do
  match path with
  | none => return none
  | some path =>
      try
        return some (.ok (← IO.FS.Handle.mk (decode path) .write))
      catch fault => return some (.error (faultOf fault))

/-- Gathers the surroundings, the output file being open already. -/
def gather (opened : Option (Except Fault IO.FS.Handle)) :
    IO Surroundings := do
  let moment ← present
  let opening : Except Fault OpenedFile :=
    match opened with
    | some (.error fault) => .error fault
    | _ => .ok ⟨.elsewhere, Device.boundless⟩
  return {
    categories := ← variableValue categoriesVariable
    directives := ← variableValue directivesVariable
    styles := ← variableValue stylesVariable
    plain := ← variableValue plainVariable
    journalStyle := ← variableValue journalStyleVariable
    directory := bytes (← IO.currentDir).toString
    clock := momentText " " moment
    stamp := momentText "T" moment ++ "Z"
    origin := ⟨"SignalHub/Main.lean", "main", 1⟩
    build := Build.current "Lean 4" "an unknown day"
    openFile := fun _ => opening }

/-- Delivers what is seen of an outcome. -/
def deliver (surroundings : Surroundings) (outcome : Outcome)
    (opened : Option (Except Fault IO.FS.Handle)) : IO Unit := do
  let output ← IO.getStdout
  output.write (ByteArray.mk outcome.shown.toArray)
  output.flush
  (← IO.getStderr).putStr (outcome.errors surroundings)
  match opened, outcome.file? with
  | some (.ok handle), some content =>
      handle.write (ByteArray.mk content.toArray)
      handle.flush
  | _, _ => return

/-- The code of a process that aborts. -/
def abortCode : Nat := 134

/-- Runs the program on its arguments. -/
def execute (arguments : List Bytes) : IO UInt32 := do
  let opened ← openFileAt (outputPath arguments)
  let surroundings ← gather opened
  let outcome := run surroundings arguments
  deliver surroundings outcome opened
  return UInt32.ofNat (outcome.code?.getD abortCode)

end SignalHub.CommandLine

def main (arguments : List String) : IO UInt32 :=
  SignalHub.CommandLine.execute (arguments.map SignalHub.Text.bytes)

import SignalHub.CommandLine.Outcome
import SignalHub.CommandLine.Reading
import SignalHub.CrashDump
import SignalHub.Text.Quoted
import SignalHub.Version.Report

/-!
# Running a command line

A run reads its arguments, sets up the shared hub by the options, performs the
command and flushes the output.  It ends at the first step that fails.
-/

namespace SignalHub.CommandLine

open Output Text

/-! ## Setting up -/

/-- The categories that are enabled: those of the variable and those of the
options, which are taken as they stand. -/
def enabledSet (surroundings : Surroundings) (options : Options) :
    CategorySet :=
  (CategorySet.ofVariable surroundings.categories).extend options.enable

/-- The record of the enabled categories. -/
def enabledRecord (set : CategorySet) : Record :=
  ⟨.debug, "vm_diagnostics_cli::options",
    "Enabled log categories: " ++ quotedList set.enabled, none⟩

/-- The filter that the options ask for. -/
def filterFor (surroundings : Surroundings) (options : Options) :
    Filter × Trace :=
  if options.all then (.all, [])
  else
    let set := enabledSet surroundings options
    (.members set, [.record (enabledRecord set)])

/-- The sink that the options ask for. -/
def sinkFor (options : Options) : Sink :=
  if options.forward then .journal else .console

def outputName : String := "output"

/-- The capacity of the buffer in front of the output file. -/
def outputCapacity : Nat := 8192

/-- An opened file as the target of prints.  A file has no flush of its own
that could fail. -/
def targetOn (device : Device) : Target :=
  .stream (Stream.buffered outputName device.unfailing outputCapacity)

/-- A hub on the way to a command: what happened so far, and the file that
prints go to, or why there is none. -/
structure Prepared where
  host : Host
  trace : Trace
  opened : Except Failure (Option Destination)

/-- Makes an opened file the target of prints, if one is asked for. -/
def openOutput (surroundings : Surroundings) (options : Options)
    (host : Host) : Prepared :=
  match options.output with
  | none => ⟨host, [], .ok none⟩
  | some path =>
      match surroundings.openFile path with
      | .error fault => ⟨host, [], .error (.system fault)⟩
      | .ok file =>
          let (after, trace) :=
            host.replaceOutput .shared (some (targetOn file.device))
          ⟨after, trace, .ok (some file.destination)⟩

/-- Sets up the shared hub: sink, filter, output and status printer. -/
def setUp (surroundings : Surroundings) (options : Options) : Prepared :=
  let (filter, noted) := filterFor surroundings options
  let gated :=
    ((Host.fresh surroundings.paint surroundings.clock).setSink .shared
      (some (sinkFor options))).setFilter .shared (some filter)
  let prepared := openOutput surroundings options gated
  let ready :=
    match prepared.opened with
    | .ok _ => prepared.host.setStatusPrinter .shared (some ⟨.native, []⟩)
    | .error _ => prepared.host
  ⟨ready, Trace.writing .shared (noted ++ prepared.trace), prepared.opened⟩

/-! ## Commands -/

/-- Shows a text and a line break on standard output. -/
def showLine (host : Host) (text : Bytes) : Host × Trace :=
  let data := text ++ [Screen.lineBreak]
  ({ host with ports.screen := host.ports.screen.print data },
    [.shown data])

/-- The record of a print. -/
def printedRecord (count : Nat) : Record :=
  ⟨.debug, "vm_diagnostics_cli",
    "Wrote " ++ toString count ++ " bytes to the vm output stream", none⟩

/-- The description of the build that the version command shows. -/
def versionText (surroundings : Surroundings) (verbose report : Bool) :
    String :=
  if report then surroundings.build.report surroundings.paint
  else surroundings.build.describe verbose

/-- Performs a command on a host that is set up. -/
def perform (surroundings : Surroundings) (host : Host) :
    Command → Host × Trace × Ending
  | .version verbose report =>
      let (after, trace) :=
        showLine host (bytes (versionText surroundings verbose report))
      (after, trace, .success)
  | .log category message =>
      let (after, trace) :=
        host.emit .shared category surroundings.origin (Message.text message)
      (after, trace, .success)
  | .severity level message =>
      match Severity.ofIndex level with
      | .error fault => (host, [], .failed (.severity fault))
      | .ok severity =>
          let (after, trace) :=
            host.emitBySeverity .shared severity surroundings.origin
              (Message.text message)
          (after, trace, .success)
  | .printf message =>
      let (after, trace, result) := host.printBytes .shared (bytes message)
      let read := Trace.reading .shared trace
      match result with
      | .error fault => (after, read, .failed (.printing fault))
      | .ok count =>
          (after, read ++ [.record (printedRecord count)], .success)
  | .crashDump directory =>
      let path :=
        CrashDump.inDirectory (directory.getD surroundings.directory)
      let (after, trace) := showLine host (bytes (decode path))
      (after, trace, .success)
  | .fatal message =>
      let (after, trace) := host.fatal .shared surroundings.origin message
      (after, trace, .aborted)

/-! ## Runs -/

/-- Flushes the output, whose fault makes the run fail. -/
def finish (host : Host) : Host × Trace × Ending :=
  let (after, trace, fault) := host.flushOutput .shared
  (after, .lock .read :: trace ++ [.lock .unshare],
    match fault with
    | some cause => .failed (.system cause)
    | none => .success)

/-- Fulfils a request. -/
def Request.run (surroundings : Surroundings) (request : Request) :
    Outcome :=
  let prepared := setUp surroundings request.options
  match prepared.opened with
  | .error failure =>
      ⟨prepared.host, prepared.trace, none, .failed failure⟩
  | .ok destination =>
      match perform surroundings prepared.host request.command with
      | (done, during, .success) =>
          let (last, after, ending) := finish done
          ⟨last, prepared.trace ++ during ++ after, destination, ending⟩
      | (done, during, ending) =>
          ⟨done, prepared.trace ++ during, destination, ending⟩

/-- What a stop leaves behind.  Whoever asked for the guide finds it on
standard output. -/
def stopped (surroundings : Surroundings) (stop : Stop) : Outcome :=
  let host := Host.fresh surroundings.paint surroundings.clock
  let shown : Trace :=
    match stop with
    | .guideWanted => [.shown (bytes (written guide))]
    | _ => []
  ⟨host, shown, none, .stopped stop⟩

/-- Runs the program on its arguments. -/
def run (surroundings : Surroundings) (arguments : List Bytes) : Outcome :=
  match readRequest arguments with
  | .error stop => stopped surroundings stop
  | .ok request => request.run surroundings

/-- The path of the output file that arguments ask for. -/
def outputPath (arguments : List Bytes) : Option Bytes :=
  match readRequest arguments with
  | .ok request => request.options.output
  | .error _ => none

end SignalHub.CommandLine

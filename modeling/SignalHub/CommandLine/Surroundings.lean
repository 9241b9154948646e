import SignalHub.Journal.Directives
import SignalHub.Output.Device
import SignalHub.Version.Build

/-!
# Surroundings

All that a run of the program takes from outside besides its arguments.
-/

namespace SignalHub.CommandLine

open Output Text

/-- Lists the enabled categories. -/
def categoriesVariable : String := "VM_DIAGNOSTICS_CATEGORIES"

/-- Lists the directives of the journal. -/
def directivesVariable : String := "RUST_LOG"

/-- Asks for styles even where there is no terminal. -/
def stylesVariable : String := "CLICOLOR_FORCE"

/-- Says whether the journal is styled. -/
def journalStyleVariable : String := "RUST_LOG_STYLE"

/-- Asks for plain text, however styled it could be. -/
def plainVariable : String := "NO_COLOR"

/-- Where the bytes of an opened file are found. -/
inductive Destination where
  | named (name : Bytes)
  | standardOutput
  | standardError
  | elsewhere
deriving DecidableEq, Repr

/-- A file that was opened for writing, created if it was missing. -/
structure OpenedFile where
  destination : Destination
  device : Device
deriving DecidableEq, Repr

/-- The values of the variables, the directory that the program runs in, the
time as the console and as the journal show it, where the program's own
signals come from, the build, and what opening a file gives. -/
structure Surroundings where
  categories : Option Bytes
  directives : Option Bytes
  styles : Option Bytes
  plain : Option Bytes
  journalStyle : Option Bytes
  directory : Bytes
  clock : String
  stamp : String
  origin : Origin
  build : Build
  openFile : Bytes → Except Fault OpenedFile

namespace Surroundings

/-- Whether output is styled: any value but zero asks for it. -/
def paint (surroundings : Surroundings) : Bool :=
  match surroundings.styles.bind decode? with
  | some value => value != "0"
  | none => false

/-- Whether faults of usage are styled: any value but an empty one asks for it,
and any value of the other variable but an empty one against it. -/
def emphasises (surroundings : Surroundings) : Bool :=
  !(surroundings.styles.getD []).isEmpty &&
    (surroundings.plain.getD []).isEmpty

/-- Whether the journal is styled, which one word alone asks for. -/
def paintsJournal (surroundings : Surroundings) : Bool :=
  surroundings.journalStyle.bind decode? = some "always"

/-- The directives of the journal, with the complaints about them. -/
def journal (surroundings : Surroundings) : Directives × List String :=
  match surroundings.directives.bind decode? with
  | some list => Directives.parse list
  | none => (⟨[], none⟩, [])

end Surroundings

end SignalHub.CommandLine

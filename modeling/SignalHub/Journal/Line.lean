import SignalHub.Journal
import SignalHub.Text.Pieces
import SignalHub.Text.Style

/-!
# Lines of the journal

How a record is shown: time, level and target in front of the message.  Where
styles are wanted, the level has a colour of its own and the brackets are
faint.
-/

namespace SignalHub

open Text

/-- The styles of a level. -/
def Level.styles : Level → List Style
  | .error => [Style.bold, Style.red]
  | .warn => [Style.yellow]
  | .info => [Style.green]
  | .debug => [Style.blue]
  | .trace => [Style.cyan]

namespace Record

/-- Names of levels are as wide as the longest of them. -/
def levelWidth : Nat := 5

/-- The lines of a message after the first are indented. -/
def indented (message : String) : String :=
  "\n    ".intercalate (piecesOf '\n' message)

/-- A record as it is shown. -/
def line (stamp : String) (painted : Bool) (record : Record) : String :=
  let level :=
    String.ofList (record.level.name.toList.rightpad levelWidth ' ')
  Style.fresh painted [Style.gray] "[" ++ stamp ++ " " ++
    Style.fresh painted record.level.styles level ++ " " ++ record.target ++
    Style.fresh painted [Style.gray] "]" ++ " " ++
    indented record.message ++ "\n"

end Record

end SignalHub

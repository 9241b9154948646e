import SignalHub.Text.Grid
import SignalHub.Text.Style
import SignalHub.Version.Build

/-!
# The report

A build for the eyes of a person: an introduction and a grid of components.
-/

namespace SignalHub.Build

open Text

def introduction (build : Build) : String :=
  build.dialect ++ " VM " ++ build.version ++ " built on " ++ build.timestamp

/-- The components with their values. -/
def components (build : Build) : List (String × String) :=
  [("VM", build.shortVersion),
    ("Variant", build.flavour ++ " VM"),
    ("Compiler", build.compiler),
    ("Interpreter", build.interpreter),
    ("Revision", build.source)]

def grid (build : Build) : Grid :=
  { header := ["Component".toList, "Version".toList]
    rows := build.components.map fun entry =>
      [entry.1.toList, entry.2.toList] }

/-- Introduction, an empty line and the grid. -/
def report (build : Build) (paint : Bool) : String :=
  Style.heading.apply paint build.introduction ++ "\n\n" ++ build.grid.render

end SignalHub.Build

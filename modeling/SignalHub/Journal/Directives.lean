import SignalHub.Journal
import SignalHub.Pattern.Search
import SignalHub.Text.Pieces
import SignalHub.Text.Property

/-!
# Directives of the journal

Which records are shown.  A list of directives gives a maximum to all targets
or to those with a name in front, and may end in a pattern that the message must
match.  The longest name that fits a target decides.
-/

namespace SignalHub

open Text

/-- A maximum for the targets that begin with a name, or for all. -/
structure Directive where
  target : Option String
  maximum : Verbosity
deriving DecidableEq, Repr

structure Directives where
  entries : List Directive
  required : Option Pattern.Expression
deriving DecidableEq, Repr

namespace Directive

def appliesTo (directive : Directive) (target : String) : Bool :=
  match directive.target with
  | none => true
  | some start => start.toList.isPrefixOf target.toList

/-- How much of a target the directive names. -/
def reach (directive : Directive) : Nat :=
  (directive.target.getD "").length

/-- Without a maximum everything is shown. -/
def everything : Verbosity := .upTo .trace

/-- Reads one entry: a maximum, a name, or a name with its maximum.  An entry
that cannot be read is given back as far as it is at fault. -/
def read (entry : String) : Except String Directive :=
  match piecesOf '=' entry with
  | [single] =>
      match Verbosity.ofName? single with
      | some maximum => .ok ⟨none, maximum⟩
      | none => .ok ⟨some single, everything⟩
  | [target, maximum] =>
      if (trim maximum).isEmpty then .ok ⟨some target, everything⟩
      else
        match Verbosity.ofName? (trim maximum) with
        | some maximum => .ok ⟨some target, maximum⟩
        | none => .error (trim maximum)
  | _ => .error entry

end Directive

namespace Directives

/-- What holds if nothing was asked for: only errors are shown. -/
def standard : List Directive :=
  [⟨none, .upTo .error⟩]

/-- A later directive for a name takes the place of an earlier one. -/
def insert (entries : List Directive) (directive : Directive) :
    List Directive :=
  if entries.any fun entry => entry.target == directive.target then
    entries.map fun entry =>
      if entry.target == directive.target then directive else entry
  else entries ++ [directive]

/-- The complaint about a part that cannot be read. -/
def ignored (part : String) : String :=
  "warning: invalid logging spec '" ++ part ++ "', ignoring it"

/-- Reads entries in order, with the complaints about them. -/
def readEntries (list : String) : List Directive × List String :=
  let read := ((piecesOf ',' list).map trim).filterMap fun entry =>
    if entry.isEmpty then none else some (Directive.read entry)
  (read.foldl
      (fun entries result =>
        match result with
        | .ok directive => insert entries directive
        | .error _ => entries)
      [],
    read.filterMap fun
      | .ok _ => none
      | .error part => some (ignored part))

/-- The expression of a pattern, and the complaint about a pattern that cannot
be searched for, which then does not count. -/
def readPattern (pattern : String) :
    Option Pattern.Expression × List String :=
  match Pattern.compile pattern with
  | .ok expression => (some expression, [])
  | .error refusal =>
      (none, ["warning: invalid regex filter - " ++
        "\n".intercalate (refusal.lines pattern)])

/-- Reads a list of directives, with the complaints about it.  What follows a
slash is the pattern that messages must match; more than one slash makes the
whole list void. -/
def parse (list : String) : Directives × List String :=
  match piecesOf '/' list with
  | [entries] =>
      let (directives, complaints) := readEntries entries
      (⟨directives, none⟩, complaints)
  | [entries, required] =>
      let (directives, complaints) := readEntries entries
      let (expression, refusals) := readPattern required
      (⟨directives, expression⟩, complaints ++ refusals)
  | _ => (⟨[], none⟩, [ignored list ++ " (too many '/'s)"])

/-- The directives that are in force. -/
def inForce (directives : Directives) : List Directive :=
  if directives.entries.isEmpty then standard else directives.entries

/-- The directive for a target: the one that names most of it, of two that
name as much the later one. -/
def deciding (directives : Directives) (target : String) :
    Option Directive :=
  (directives.inForce.filter (·.appliesTo target)).foldl
    (fun best entry =>
      match best with
      | none => some entry
      | some other =>
          if other.reach ≤ entry.reach then some entry else some other)
    none

/-- Whether a record is shown. -/
def shows (directives : Directives) (record : Record) : Bool :=
  (match directives.deciding record.target with
    | none => false
    | some directive => directive.maximum.admits record.level) &&
  (match directives.required with
    | none => true
    | some expression => expression.isIn record.message)

end Directives

end SignalHub

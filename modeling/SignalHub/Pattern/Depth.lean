import SignalHub.Pattern.Complaint
import SignalHub.Pattern.Tree

/-!
# Depth

How deep parts of a pattern may lie in one another.  The first part that lies
too deep is complained about.
-/

namespace SignalHub.Pattern

/-- The flaw of a part below others. -/
def refuseDepth (depth : Nat) (span : Span) : Except Complaint Unit :=
  if depthLimit ≤ depth then .error (.of .tooDeep span) else .ok ()

mutual

/-- Checks the members of a class below some parts. -/
def Members.checkDepth (depth : Nat) : Members → Except Complaint Unit
  | .brackets span _ members => do
      refuseDepth depth span
      members.checkDepth (depth + 1)
  | .union span parts => do
      refuseDepth depth span
      Members.checkDepths (depth + 1) parts
  | .operation span _ left right => do
      refuseDepth depth span
      left.checkDepth (depth + 1)
      right.checkDepth (depth + 1)
  | .none _ | .letter _ | .range _ _ _ | .ascii _ _ _ | .kind _ _ _
  | .property _ _ => .ok ()

def Members.checkDepths (depth : Nat) : List Members → Except Complaint Unit
  | [] => .ok ()
  | part :: rest => do
      part.checkDepth depth
      Members.checkDepths depth rest

end

mutual

/-- Checks a tree below some parts. -/
def Tree.checkDepth (depth : Nat) : Tree → Except Complaint Unit
  | .brackets span _ members => do
      refuseDepth depth span
      members.checkDepth (depth + 1)
  | .repeated span tree _ _ | .group span _ tree => do
      refuseDepth depth span
      tree.checkDepth (depth + 1)
  | .choice span trees | .sequence span trees => do
      refuseDepth depth span
      Tree.checkDepths (depth + 1) trees
  | .empty _ | .flags _ _ | .letter _ | .dot _ | .assertion _ _
  | .kind _ _ _ | .property _ _ => .ok ()

def Tree.checkDepths (depth : Nat) : List Tree → Except Complaint Unit
  | [] => .ok ()
  | tree :: rest => do
      tree.checkDepth depth
      Tree.checkDepths depth rest

end

end SignalHub.Pattern

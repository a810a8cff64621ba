import ScopeTokenizer.Nesting.Basic

/-!
# Descriptions of nestings

A nesting spelled out for people, one line for each frame, indented by its depth.
-/

namespace ScopeTokenizer

/-- A position that may be missing. -/
def describePosition : Option Nat → String
  | none => "None"
  | some position => s!"Some({position})"

/-- The scopes of a path, separated by blanks. -/
def ScopePath.describe (path : ScopePath) : String := " ".intercalate path.names

namespace Frame

/-- A frame on one line. What is usual is left out. -/
def describe (frame : Frame) : String :=
  let rule := frame.rule
  let names := frame.nameScopes.describe
  let contents := frame.contentScopes.describe
  let anchor := describePosition frame.anchor
  let tookLineEnd := frame.tookLineEnd
  let content := if frame.contentScopes = frame.nameScopes then "" else s!", content=[{contents}]"
  let pattern :=
    match frame.pattern with
    | none => ""
    | some pattern => s!", end_pattern=\"{pattern}\""
  let entered :=
    match frame.entered with
    | none => ""
    | some position =>
      if frame.anchor = some position then "" else s!", enter_pos={position}"
  s!"rule={rule} name=[{names}]" ++ content ++ pattern ++
    s!", anchor_pos={anchor}" ++ entered ++ s!", begin_rule_has_captured_eol={tookLineEnd}\n"

end Frame

namespace Nesting

/-- All frames, each two blanks further in than the one before. -/
def describe (nesting : Nesting) : String :=
  "StateStack:\n" ++ String.join (nesting.frames.zipIdx.map fun (frame, depth) =>
    String.ofList (List.replicate (2 * depth) ' ') ++ frame.describe)

end Nesting

end ScopeTokenizer

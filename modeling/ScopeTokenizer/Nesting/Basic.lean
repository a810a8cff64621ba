import ScopeTokenizer.Grammar.Rule
import ScopeTokenizer.Scope.Path

/-!
# Nestings

A text is read with a stack of open regions, that of the grammar itself at the bottom. It is
all that one line hands to the next. Positions on a line are part of it only while that line
is read, and make no difference between nestings.
-/

namespace ScopeTokenizer

open Grammar

/-- An open region. -/
structure Frame where
  /-- How many regions are open up to this one. -/
  depth : Nat := 1
  /-- The rule that opened it. -/
  rule : RuleId
  /-- The pattern that closes it or that its lines have to match, if that depends on what
  the opening captured. -/
  pattern : Option String := none
  /-- The scopes of the whole region. -/
  nameScopes : ScopePath
  /-- The scopes of the text inside. -/
  contentScopes : ScopePath
  /-- The opening took the line to its end. -/
  tookLineEnd : Bool := false
  /-- Where it was opened, on the line being read. -/
  entered : Option Nat := none
  /-- Where the anchor for the current place was before it was opened. -/
  anchor : Option Nat := none
  deriving DecidableEq

namespace Frame

/-- The frame without positions on a line. -/
def reset (frame : Frame) : Frame := { frame with entered := none, anchor := none }

/-- Whether two frames are alike for the lines that follow. Positions on a line do not
count. -/
def agrees (first second : Frame) : Bool :=
  first.depth == second.depth && first.rule == second.rule && first.pattern == second.pattern &&
    first.nameScopes == second.nameScopes && first.contentScopes == second.contentScopes &&
    first.tookLineEnd == second.tookLineEnd

@[simp] theorem reset_reset (frame : Frame) : frame.reset.reset = frame.reset := rfl

/-- Frames are alike if only their positions tell them apart. -/
theorem agrees_iff (first second : Frame) :
    first.agrees second = true ↔ first.reset = second.reset := by
  cases first
  cases second
  simp [agrees, reset, and_assoc]

end Frame

/-- A stack of open regions. -/
inductive Nesting where
  /-- The region of the grammar itself. -/
  | root (frame : Frame)
  | above (outer : Nesting) (frame : Frame)
  deriving DecidableEq

namespace Nesting

/-- The innermost frame. -/
def top : Nesting → Frame
  | root frame | above _ frame => frame

/-- The nesting outside the innermost frame. -/
def outer? : Nesting → Option Nesting
  | root _ => none
  | above outer _ => some outer

/-- The nesting outside the innermost frame. The region of the grammar is never left. -/
def pop : Nesting → Nesting
  | root frame => root frame
  | above outer _ => outer

/-- How many frames there are, as the innermost one has it. -/
def depth (nesting : Nesting) : Nat := nesting.top.depth

/-- The nesting with one more region inside. -/
def push (outer : Nesting) (frame : Frame) : Nesting :=
  above outer { frame with depth := outer.depth + 1 }

/-- How many frames there are. -/
def height : Nesting → Nat
  | root _ => 1
  | above outer _ => outer.height + 1

/-- The nesting with a change to the innermost frame. -/
def withTop (nesting : Nesting) (frame : Frame) : Nesting :=
  match nesting with
  | root _ => root frame
  | above outer _ => above outer frame

/-- The nesting with other scopes of the text inside. -/
def withContentScopes (nesting : Nesting) (scopes : ScopePath) : Nesting :=
  nesting.withTop { nesting.top with contentScopes := scopes }

/-- The nesting with a pattern for the innermost frame. -/
def withPattern (nesting : Nesting) (pattern : String) : Nesting :=
  nesting.withTop { nesting.top with pattern := some pattern }

/-- The nesting without positions on a line. -/
def reset : Nesting → Nesting
  | root frame => root frame.reset
  | above outer frame => above outer.reset frame.reset

/-- Whether two nestings read the following lines alike: there are as many frames, and these
agree. -/
def agrees : Nesting → Nesting → Bool
  | root first, root second => first.agrees second
  | above outer first, above other second => first.agrees second && outer.agrees other
  | root _, above _ _ | above _ _, root _ => false

/-- The nestings from the outermost one to this one, followed by others. -/
def levelsBefore (inner : List Nesting) : Nesting → List Nesting
  | root frame => root frame :: inner
  | above outer frame => outer.levelsBefore (above outer frame :: inner)

/-- The nestings from the outermost one to this one. -/
def levels (nesting : Nesting) : List Nesting := nesting.levelsBefore []

/-- The frames, that of the grammar first. -/
def frames (nesting : Nesting) : List Frame := nesting.levels.map top

/-- The frame of the grammar itself. -/
def bottom : Nesting → Frame
  | root frame => frame
  | above outer _ => outer.bottom

/-- Whether a region of the same rule as that of a frame was opened at the same position.
Only the innermost regions that were opened there are looked at. -/
def opened (frame : Frame) : Nesting → Bool
  | root other => other.entered == frame.entered && other.rule == frame.rule
  | above outer other =>
    other.entered == frame.entered && (other.rule == frame.rule || outer.opened frame)

@[simp] theorem reset_reset (nesting : Nesting) : nesting.reset.reset = nesting.reset := by
  induction nesting with
  | root frame => rfl
  | above outer frame ih => simp [reset, ih]

/-- Nestings agree if only positions tell them apart. -/
theorem agrees_iff (first second : Nesting) :
    first.agrees second = true ↔ first.reset = second.reset := by
  induction first generalizing second with
  | root frame =>
    cases second with
    | root other => simp [agrees, reset, Frame.agrees_iff]
    | above outer other => simp [agrees, reset]
  | above outer frame ih =>
    cases second with
    | root other => simp [agrees, reset]
    | above around other => simp [agrees, reset, Frame.agrees_iff, ih, and_comm]

@[simp] theorem agrees_reset (nesting : Nesting) : nesting.reset.agrees nesting := by
  simp [agrees_iff]

theorem levelsBefore_eq (nesting : Nesting) (inner : List Nesting) :
    nesting.levelsBefore inner = nesting.levels ++ inner := by
  induction nesting generalizing inner with
  | root frame => rfl
  | above outer frame ih =>
    simp only [levels, levelsBefore]
    rw [ih (above outer frame :: inner), ih [above outer frame]]
    simp

@[simp] theorem bottom_reset (nesting : Nesting) : nesting.reset.bottom = nesting.bottom.reset := by
  induction nesting with
  | root frame => rfl
  | above outer frame ih => exact ih

@[simp] theorem levels_root (frame : Frame) : (root frame).levels = [root frame] := rfl

@[simp] theorem levels_above (outer : Nesting) (frame : Frame) :
    (above outer frame).levels = outer.levels ++ [above outer frame] :=
  levelsBefore_eq outer [above outer frame]

/-- There are as many levels as frames. -/
@[simp] theorem length_levels (nesting : Nesting) : nesting.levels.length = nesting.height := by
  induction nesting with
  | root frame => rfl
  | above outer frame ih => simp [height, ih]

@[simp] theorem frames_root (frame : Frame) : (root frame).frames = [frame] := rfl

@[simp] theorem frames_above (outer : Nesting) (frame : Frame) :
    (above outer frame).frames = outer.frames ++ [frame] := by
  simp [frames, top]

@[simp] theorem frames_push (outer : Nesting) (frame : Frame) :
    (outer.push frame).frames = outer.frames ++ [{ frame with depth := outer.depth + 1 }] :=
  frames_above _ _

@[simp] theorem frames_reset (nesting : Nesting) :
    nesting.reset.frames = nesting.frames.map Frame.reset := by
  induction nesting with
  | root frame => rfl
  | above outer frame ih => simp [reset, ih]

theorem top_mem_frames (nesting : Nesting) : nesting.top ∈ nesting.frames := by
  cases nesting with
  | root frame => exact List.mem_singleton_self frame
  | above outer frame =>
    rw [frames_above]
    exact List.mem_append_right _ (List.mem_singleton_self frame)

@[simp] theorem length_frames (nesting : Nesting) : nesting.frames.length = nesting.height := by
  simp [frames]

/-- The nestings around a nesting stand on the same region of a grammar. -/
theorem bottom_of_mem_levels {nesting level : Nesting} (mem : level ∈ nesting.levels) :
    level.bottom = nesting.bottom := by
  induction nesting with
  | root frame =>
    obtain rfl := List.mem_singleton.mp mem
    rfl
  | above outer frame ih =>
    rw [levels_above] at mem
    rcases List.mem_append.mp mem with mem | mem
    · exact ih mem
    · obtain rfl := List.mem_singleton.mp mem
      rfl

theorem frames_prefix_of_mem_levels {nesting level : Nesting} (mem : level ∈ nesting.levels) :
    level.frames <+: nesting.frames := by
  induction nesting with
  | root frame =>
    obtain rfl := List.mem_singleton.mp mem
    exact List.prefix_rfl
  | above outer frame ih =>
    rw [levels_above] at mem
    rcases List.mem_append.mp mem with mem | mem
    · rw [frames_above]
      exact (ih mem).trans (List.prefix_append _ _)
    · obtain rfl := List.mem_singleton.mp mem
      exact List.prefix_rfl

/-- None of them has more frames. -/
theorem height_le_of_mem_levels {nesting level : Nesting} (mem : level ∈ nesting.levels) :
    level.height ≤ nesting.height := by
  have shorter := (frames_prefix_of_mem_levels mem).length_le
  rwa [length_frames, length_frames] at shorter

end Nesting

end ScopeTokenizer

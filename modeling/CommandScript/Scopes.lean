import CommandScript.Table

/-! Variables in nested frames. Every procedure call opens a frame on top of its caller's; the
frame at the bottom is never left. -/

namespace CommandScript

abbrev Frame := Table String

/-- The global frame, or a frame opened on top of outer ones. -/
inductive Scopes where
  | globals (frame : Frame)
  | inner (frame : Frame) (outer : Scopes)

namespace Scopes

def empty : Scopes := .globals {}

def height : Scopes → Nat
  | .globals _ => 1
  | .inner _ outer => outer.height + 1

/-- The frames, innermost first. -/
def frames : Scopes → List Frame
  | .globals frame => [frame]
  | .inner frame outer => frame :: outer.frames

def push (s : Scopes) : Scopes := .inner {} s

/-- Leaves the innermost frame, unless it is the global one. -/
def pop : Scopes → Scopes
  | .globals frame => .globals frame
  | .inner _ outer => outer

/-- The value in the innermost frame that holds the name. -/
def get? (s : Scopes) (name : String) : Option String :=
  match s with
  | .globals frame => frame.get? name
  | .inner frame outer => (frame.get? name).or (outer.get? name)

/-- Binds a name in the innermost frame, whatever outer frames hold. -/
def setLocal (s : Scopes) (name value : String) : Scopes :=
  match s with
  | .globals frame => .globals (frame.insert name value)
  | .inner frame outer => .inner (frame.insert name value) outer

/-- Rebinds a name in the innermost frame that holds it. -/
def update (s : Scopes) (name value : String) : Scopes :=
  match s with
  | .globals frame => .globals (if frame.contains name then frame.insert name value else frame)
  | .inner frame outer =>
    if frame.contains name then .inner (frame.insert name value) outer
    else .inner frame (outer.update name value)

/-- Rebinds a name where it is bound; an unbound one is bound in the innermost frame. -/
def set (s : Scopes) (name value : String) : Scopes :=
  if (s.get? name).isSome then s.update name value else s.setLocal name value

/-- Unbinds a name in the innermost frame that holds it. -/
def clear (s : Scopes) (name : String) : Scopes :=
  match s with
  | .globals frame => .globals (frame.erase name)
  | .inner frame outer =>
    if frame.contains name then .inner (frame.erase name) outer
    else .inner frame (outer.clear name)

/-- Unbinds a name in the innermost frame that holds it, and tells what it held. -/
def remove (s : Scopes) (name : String) : Option String × Scopes :=
  match s with
  | .globals frame => (frame.get? name, .globals (frame.erase name))
  | .inner frame outer =>
    match frame.get? name with
    | some value => (some value, .inner (frame.erase name) outer)
    | none =>
      let (value, rest) := outer.remove name
      (value, .inner frame rest)

end Scopes

end CommandScript

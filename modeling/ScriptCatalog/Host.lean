/-! What a host program passes in when it calls a procedure: references to its images, their items
and its displays, and the mode of the call. -/

namespace ScriptCatalog

inductive HostKind where
  | image
  | item
  | drawable
  | layer
  | channel
  | vectors
  | display
  deriving DecidableEq

namespace HostKind

def name : HostKind → String
  | image => "Image"
  | item => "Item"
  | drawable => "Drawable"
  | layer => "Layer"
  | channel => "Channel"
  | vectors => "Vectors"
  | display => "Display"

/-- Layers and channels are drawables; drawables and paths are items. -/
def isA : HostKind → HostKind → Bool
  | layer, drawable => true
  | channel, drawable => true
  | layer, item => true
  | channel, item => true
  | drawable, item => true
  | vectors, item => true
  | kind, other => kind == other

theorem isA_self (kind : HostKind) : kind.isA kind = true := by cases kind <;> rfl

theorem isA_trans (first second third : HostKind) (left : first.isA second = true)
    (right : second.isA third = true) : first.isA third = true := by
  cases first <;> cases second <;> cases third <;> simp_all [isA]

end HostKind

inductive RunMode where
  | interactive
  | noninteractive
  | withLastValues
  deriving DecidableEq

namespace RunMode

def all : List RunMode := [interactive, noninteractive, withLastValues]

/-- The number that a call has for the mode. -/
def number : RunMode → Nat
  | interactive => 0
  | noninteractive => 1
  | withLastValues => 2

end RunMode

end ScriptCatalog

/-!
The classification of a point of a window: its content, the part that moves the window, or one of
the eight resize borders.
-/

set_option autoImplicit false
set_option relaxedAutoImplicit false

namespace WindowRouting

/-- What a point of a window is for. -/
inductive HitTest
  /-- Content, which handles the pointer itself. -/
  | client
  /-- A title bar: dragging it moves the window. -/
  | grab
  | edgeN
  | edgeNE
  | edgeE
  | edgeSE
  | edgeS
  | edgeSW
  | edgeW
  | edgeNW
deriving DecidableEq, Repr

namespace HitTest

/-- A point is content unless something else is said of it. -/
instance : Inhabited HitTest := ⟨client⟩

/-- The number that stands for the class at the native side. -/
def code : HitTest → Nat
  | client => 0
  | grab => 1
  | edgeN => 2
  | edgeNE => 3
  | edgeE => 4
  | edgeSE => 5
  | edgeS => 6
  | edgeSW => 7
  | edgeW => 8
  | edgeNW => 9

/-- The point lies on a resize border. -/
def isEdge : HitTest → Bool
  | client | grab => false
  | _ => true

/-- The name of the class. -/
def name : HitTest → String
  | client => "Client"
  | grab => "Grab"
  | edgeN => "EdgeN"
  | edgeNE => "EdgeNE"
  | edgeE => "EdgeE"
  | edgeSE => "EdgeSE"
  | edgeS => "EdgeS"
  | edgeSW => "EdgeSW"
  | edgeW => "EdgeW"
  | edgeNW => "EdgeNW"

/-- All classes, by code. -/
def all : List HitTest :=
  [client, grab, edgeN, edgeNE, edgeE, edgeSE, edgeS, edgeSW, edgeW, edgeNW]

end HitTest

end WindowRouting

import WindowRouting.Geometry

/-!
Windows and the descriptors they are created from.
-/

set_option autoImplicit false
set_option relaxedAutoImplicit false

namespace WindowRouting

/-- What a window is created from. Two descriptors are compared field by field, and the scale
factors as numbers: the zeros are equal and a NaN is not even equal to itself. -/
structure Descriptor where
  size : Size
  scaleFactor : Float32
  title : String

namespace Descriptor

/-- The title of a window that is given none. -/
def defaultTitle : String := "wndbridge-window: 0.1.0-alpha"

/-- The descriptor that stands in for what is not given. -/
instance : Inhabited Descriptor := ⟨⟨⟨0, 0⟩, 1, defaultTitle⟩⟩

/-- The comparison of descriptors. -/
def same (d e : Descriptor) : Bool :=
  d.size == e.size && d.scaleFactor == e.scaleFactor && d.title == e.title

end Descriptor

/-- A window. -/
structure Window where
  descriptor : Descriptor
  /-- Somebody asked for the window to be closed. -/
  closeRequested : Bool

namespace Window

/-- The scale factor of the window. -/
def scaleFactor (w : Window) : Float32 := w.descriptor.scaleFactor

/-- The window with another scale factor. -/
def withScale (w : Window) (scale : Float32) : Window :=
  { w with descriptor := { w.descriptor with scaleFactor := scale } }

end Window

/-- New values for some of the fields of a window. -/
structure WindowPatch where
  size : Option Size
  scaleFactor : Option Float32
  title : Option String
  closeRequested : Option Bool

namespace WindowPatch

/-- The window with the fields of the patch written over its own. -/
def apply (p : WindowPatch) (w : Window) : Window where
  descriptor :=
    { size := p.size.getD w.descriptor.size
      scaleFactor := p.scaleFactor.getD w.descriptor.scaleFactor
      title := p.title.getD w.descriptor.title }
  closeRequested := p.closeRequested.getD w.closeRequested

/-- The descriptor of the patch, with defaults for the fields that it leaves open. -/
def descriptor (p : WindowPatch) : Descriptor :=
  (p.apply ⟨default, false⟩).descriptor

end WindowPatch

end WindowRouting

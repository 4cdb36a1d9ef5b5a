import WindowRouting.Config
import WindowRouting.Store.Window
import WindowRouting.Input.Modifiers
import WindowRouting.Json.Value

/-!
Settings, descriptors and modifiers as values in JSON. A record is written as an object, whose
members may come in any order and among others of unknown names, or as an array of its fields in
order; fields that are left out have their defaults (`fields?`).
-/

set_option autoImplicit false
set_option relaxedAutoImplicit false

namespace WindowRouting.Json

namespace Value

/-- The text that a value is. -/
def text? : Value → Option (List Char)
  | string pieces => Piece.text? pieces
  | _ => none

/-- The 32-bit word that a value is. -/
def word? : Value → Option UInt32
  | number n => n.word?
  | _ => none

/-- The number in single precision that a value is. -/
def single? : Value → Option Float32
  | number n => n.single?
  | _ => none

/-- The size that a value is: an array of its width and its height. -/
def size? : Value → Option Size
  | array [w, h] => do
    let w ← w.word?
    let h ← h.word?
    some ⟨w, h⟩
  | _ => none

/-- The only value among the members with a key, if there is one; two are refused. -/
def member? (members : List (List Char × Value)) (key : String) : Option (Option Value) :=
  match members.filter (·.1 = key.toList) with
  | [] => some none
  | [(_, v)] => some (some v)
  | _ => none

/-- The values given for the fields of a record with these names, in their order. -/
def fields? (names : List String) : Value → Option (List (Option Value))
  | array elements =>
    if elements.length ≤ names.length then
      some (elements.map some ++ List.replicate (names.length - elements.length) none)
    else none
  | object members => do
    let members ← members.mapM fun (key, v) ↦ (Piece.text? key).map (·, v)
    names.mapM (member? members)
  | _ => none

/-- The value of a field as `read?` takes it, or its default. -/
def fieldOr {α : Type} (default : α) (read? : Value → Option α) : Option Value → Option α
  | none => some default
  | some v => read? v

end Value

end WindowRouting.Json

namespace WindowRouting

open Json (Value)

/-- The settings that a value describes. -/
def Config.ofJson? (v : Value) : Option Config := do
  match ← v.fields? ["scroll_gesture_timeout", "smooth_scroll_scale"] with
  | [timeout, scale] =>
    let timeout ← Value.fieldOr (default : Config).gestureTimeout Value.word? timeout
    let scale ← Value.fieldOr (default : Config).scrollScale Value.single? scale
    some ⟨timeout, scale⟩
  | _ => none

/-- The descriptor that a value describes. -/
def Descriptor.ofJson? (v : Value) : Option Descriptor := do
  match ← v.fields? ["size", "scale_factor", "title"] with
  | [size, scale, title] =>
    let size ← Value.fieldOr (default : Descriptor).size Value.size? size
    let scale ← Value.fieldOr (default : Descriptor).scaleFactor Value.single? scale
    let title ← Value.fieldOr (default : Descriptor).title (·.text?.map String.ofList) title
    some ⟨size, scale, title⟩
  | _ => none

/-- The modifiers that a value names. -/
def Modifiers.ofJson? (v : Value) : Option Modifiers := v.text?.bind Modifiers.parse?

end WindowRouting

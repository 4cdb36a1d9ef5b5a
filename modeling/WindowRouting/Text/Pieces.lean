/-!
The pieces of a text. A text is cut at every separator (`pieces`), and texts are put together with
a separator between each two (`join`).
-/

set_option autoImplicit false
set_option relaxedAutoImplicit false

namespace WindowRouting.Text

/-- The pieces between the separators, in order: one more than there are separators. -/
def pieces (separator : Char) : List Char → List (List Char)
  | [] => [[]]
  | c :: cs =>
    if c = separator then [] :: pieces separator cs
    else
      match pieces separator cs with
      | [] => [[c]]
      | piece :: rest => (c :: piece) :: rest

/-- The texts with the separator between each two. -/
def join (separator : List Char) : List (List Char) → List Char
  | [] => []
  | [s] => s
  | s :: t :: rest => s ++ separator ++ join separator (t :: rest)

end WindowRouting.Text

import WindowRouting.Json.Token

/-!
The values of texts in JSON. The tokens of a text are read one by one; what has been read so far is
a stack of arrays and objects that are still open (`State`), so values may be nested to any depth.
-/

set_option autoImplicit false
set_option relaxedAutoImplicit false

namespace WindowRouting.Json

/-- A value. The members of an object keep their order, and a key may occur more than once. -/
inductive Value
  | null
  | bool (b : Bool)
  | number (n : Numeral)
  | string (pieces : List Piece)
  | array (elements : List Value)
  | object (members : List (List Piece × Value))

/-- An array or object that is open, with what it has already, the last first. -/
inductive Frame
  | array (elements : List Value)
  /-- The value of the member with this key comes next. -/
  | object (members : List (List Piece × Value)) (key : List Piece)

/-- What the next token may be, with the open arrays and objects, the innermost first. -/
inductive State
  /-- A value. -/
  | value (stack : List Frame)
  /-- The first element of an array, or its end. -/
  | element (stack : List Frame)
  /-- The first key of an object, or its end. -/
  | firstKey (stack : List Frame)
  /-- Another key of an object. -/
  | key (members : List (List Piece × Value)) (stack : List Frame)
  /-- The colon after a key. -/
  | colon (members : List (List Piece × Value)) (key : List Piece) (stack : List Frame)
  /-- What follows a value: a comma, the end of what is open, or nothing. -/
  | after (value : Value) (stack : List Frame)

namespace State

/-- The token begins a value. -/
def begin? (stack : List Frame) : Token → Option State
  | .null => some (after .null stack)
  | .bool b => some (after (.bool b) stack)
  | .number n => some (after (.number n) stack)
  | .string pieces => some (after (.string pieces) stack)
  | .openArray => some (element stack)
  | .openObject => some (firstKey stack)
  | _ => none

/-- Reads a token. -/
def next? : State → Token → Option State
  | value stack, t => begin? stack t
  | element stack, .closeArray => some (after (.array []) stack)
  | element stack, t => begin? (.array [] :: stack) t
  | firstKey stack, .closeObject => some (after (.object []) stack)
  | firstKey stack, .string k => some (colon [] k stack)
  | key members stack, .string k => some (colon members k stack)
  | colon members k stack, .colon => some (value (.object members k :: stack))
  | after v (.array elements :: stack), .comma => some (value (.array (v :: elements) :: stack))
  | after v (.array elements :: stack), .closeArray =>
    some (after (.array (v :: elements).reverse) stack)
  | after v (.object members k :: stack), .comma => some (key ((k, v) :: members) stack)
  | after v (.object members k :: stack), .closeObject =>
    some (after (.object ((k, v) :: members).reverse) stack)
  | _, _ => none

end State

/-- The value that the tokens stand for. -/
def Value.ofTokens? (ts : List Token) : Option Value :=
  match ts.foldlM State.next? (.value []) with
  | some (.after v []) => some v
  | _ => none

/-- The value of a text. -/
def Value.parse? (s : List Char) : Option Value := (tokens? s).bind Value.ofTokens?

end WindowRouting.Json

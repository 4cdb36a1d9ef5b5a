import WindowRouting.Seat.Signal

/-!
The numbers and texts of the boundary. The native side knows buttons and classes of points by their
numbers, and the log knows entry points and errors by their texts. Here they are listed one by one,
as relations that owe nothing to the definitions which compute them: the button of a number
(`Button.Numbered`), what a key event reports (`NativeKeyEvent.Reports`), the number that goes back
(`Reply.GoesBack`), the name of an entry point (`Signal.Enters`) and the text of an error
(`Error.Reads`). What is computed is what is listed.
-/

set_option autoImplicit false
set_option relaxedAutoImplicit false

namespace WindowRouting

/-! ### What comes in -/

/-- The buttons and their native numbers. -/
inductive Button.Numbered : Button → UInt8 → Prop
  | left : Numbered .left 1
  | middle : Numbered .middle 2
  | right : Numbered .right 3
  | back : Numbered .back 8
  | forward : Numbered .forward 9
  | other {n : UInt8} (hn : n ∉ [1, 2, 3, 8, 9]) : Numbered (.other n) n

theorem Button.numbered_iff {b : Button} {n : UInt8} : b.Numbered n ↔ b = .ofNative n := by
  constructor
  · intro h
    cases h with
    | other hn =>
      simp only [List.mem_cons, List.not_mem_nil, or_false, not_or] at hn
      obtain ⟨h₁, h₂, h₃, h₈, h₉⟩ := hn
      rw [ofNative, if_neg h₁, if_neg h₂, if_neg h₃, if_neg h₈, if_neg h₉]
    | _ => rfl
  · rintro rfl
    unfold ofNative
    split
    case isTrue h₁ => exact h₁ ▸ .left
    case isFalse h₁ =>
    split
    case isTrue h₂ => exact h₂ ▸ .middle
    case isFalse h₂ =>
    split
    case isTrue h₃ => exact h₃ ▸ .right
    case isFalse h₃ =>
    split
    case isTrue h₈ => exact h₈ ▸ .back
    case isFalse h₈ =>
    split
    case isTrue h₉ => exact h₉ ▸ .forward
    case isFalse h₉ => exact .other (by simp [h₁, h₂, h₃, h₈, h₉])

/-- What a native key event reports. Of its state the seven bits of modifiers count, and of the byte
that marks a modifier the lowest one. -/
structure NativeKeyEvent.Reports (key : NativeKeyEvent) (e : KeyEvent) : Prop where
  keyval : e.keyval = key.keyval
  keycode : e.keycode = key.keycode
  modifiers : e.modifiers.bits = key.state &&& 0x1c00000f
  isModifier : e.isModifier = true ↔ key.isModifier.toNat % 2 = 1
  time : e.time.millis = key.time

theorem NativeKeyEvent.reports_ofNative (key : NativeKeyEvent) : key.Reports (.ofNative key) where
  keyval := rfl
  keycode := rfl
  modifiers := rfl
  isModifier := by
    rw [KeyEvent.ofNative, decide_eq_true_iff, ne_eq, ← UInt8.toNat_inj, UInt8.toNat_and]
    change ¬key.isModifier.toNat &&& 1 = 0 ↔ _
    rw [Nat.and_one_is_mod]
    omega
  time := rfl

theorem NativeKeyEvent.Reports.eq_ofNative {key : NativeKeyEvent} {e : KeyEvent}
    (h : key.Reports e) : e = .ofNative key := by
  have hkey := key.reports_ofNative
  have hmodifier : e.isModifier = (KeyEvent.ofNative key).isModifier :=
    Bool.eq_iff_iff.mpr (h.isModifier.trans hkey.isModifier.symm)
  obtain ⟨keyval, keycode, ⟨bits⟩, isModifier, ⟨millis⟩⟩ := e
  obtain ⟨rfl, rfl, hbits, -, rfl⟩ := h
  obtain rfl : bits = _ := hbits
  obtain rfl : isModifier = _ := hmodifier
  rfl

/-! ### What goes back -/

/-- The classes of points and their numbers. -/
inductive HitTest.Numbered : HitTest → Nat → Prop
  | client : Numbered .client 0
  | grab : Numbered .grab 1
  | edgeN : Numbered .edgeN 2
  | edgeNE : Numbered .edgeNE 3
  | edgeE : Numbered .edgeE 4
  | edgeSE : Numbered .edgeSE 5
  | edgeS : Numbered .edgeS 6
  | edgeSW : Numbered .edgeSW 7
  | edgeW : Numbered .edgeW 8
  | edgeNW : Numbered .edgeNW 9

theorem HitTest.numbered_code (hit : HitTest) : hit.Numbered hit.code := by
  cases hit <;> constructor

/-- What goes back for a reply: the number of a class, one for a key that was consumed and zero for
one that was not, and nothing for any other event. -/
inductive Reply.GoesBack : Reply → Option Nat → Prop
  | nothing : GoesBack .nothing none
  | hit {hit : HitTest} {n : Nat} (hn : hit.Numbered n) : GoesBack (.hit hit) (some n)
  | consumed : GoesBack (.handled true) (some 1)
  | notConsumed : GoesBack (.handled false) (some 0)

theorem Reply.goesBack_code (reply : Reply) : reply.GoesBack reply.code := by
  cases reply with
  | nothing => exact .nothing
  | hit hit => exact .hit hit.numbered_code
  | handled consumed =>
    cases consumed with
    | false => exact .notConsumed
    | true => exact .consumed

/-- A number goes back to the native side. -/
def Signal.asks : Signal → Bool
  | hitTest _ | keyPress _ | keyRelease _ => true
  | _ => false

theorem Signal.code_neutral (q : Signal) :
    q.neutral.code = if q.asks then some 0 else none := by
  cases q <;> rfl

/-! ### What is logged -/

/-- The entry points of the signals. -/
inductive Signal.Enters : Signal → String → Prop
  | draw (context : UInt64) : Enters (.draw context) "draw"
  | scale : Enters .scale "dpi_scale_changed"
  | hitTest (loc : Vec) : Enters (.hitTest loc) "nc_hit_test"
  | keyPress (key : Option NativeKeyEvent) : Enters (.keyPress key) "key_press"
  | keyRelease (key : Option NativeKeyEvent) : Enters (.keyRelease key) "key_release"
  | button (loc : Vec) (pressed number : Int32) : Enters (.button loc pressed number) "button"
  | motion (loc : Vec) : Enters (.motion loc) "motion"
  | leave : Enters .leave "leave"
  | discreteScroll (loc native : Vec) : Enters (.discreteScroll loc native) "discrete_scroll"
  | smoothScroll (loc native : Vec) (time : UInt32) :
      Enters (.smoothScroll loc native time) "smooth_scroll"
  | scrollStop (time : UInt32) : Enters (.scrollStop time) "smooth_scroll_stop"

theorem Signal.enters_entry (q : Signal) : q.Enters q.entry := by
  cases q <;> constructor

/-- The texts of the errors for which signals are refused. -/
inductive Error.Reads : Error → String → Prop
  | invalidHandle : Reads (.invalidHandle 0) "0x0 is not a valid window handle"
  | unknownHandle (h : Handle) : Reads (.unknownHandle h)
      ("the window handle 0x" ++ String.ofList (Nat.toDigits 16 h.toNat) ++
        " does not belong to a live window")
  | notInstalled : Reads .notInstalled "no widget dispatcher is installed on this thread"
  | reentrant : Reads .reentrant
      "the widget dispatcher is already in use (re-entrant call from a listener)"
  | context : Reads (.nullPointer "cr") "the native `cr` pointer is null"
  | event : Reads (.nullPointer "event") "the native `event` pointer is null"

/-- The numeral of a handle is the mark and the hexadecimal digits. -/
theorem Handle.hex_eq (h : Handle) :
    h.hex = "0x" ++ String.ofList (Nat.toDigits 16 h.toNat) := by
  change String.ofList (['0', 'x'] ++ Nat.toDigits 16 h.toNat) = _
  exact String.ofList_append

theorem Error.message_unknownHandle (h : Handle) : (unknownHandle h).message =
    "the window handle 0x" ++ String.ofList (Nat.toDigits 16 h.toNat) ++
      " does not belong to a live window" := by
  have hmark : "the window handle " ++ "0x" = "the window handle 0x" := by decide
  have hnumeral : "the window handle " ++ h.hex =
      "the window handle 0x" ++ String.ofList (Nat.toDigits 16 h.toNat) := by
    rw [h.hex_eq, ← String.append_assoc, hmark]
  exact congrArg (· ++ " does not belong to a live window") hnumeral

theorem Error.Reads.eq_message {e : Error} {text : String} (h : e.Reads text) :
    text = e.message := by
  cases h with
  | unknownHandle h => exact (message_unknownHandle h).symm
  | _ => rfl

end WindowRouting

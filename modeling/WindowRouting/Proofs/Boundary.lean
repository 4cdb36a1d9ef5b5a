import WindowRouting.Proofs.Agreement
import WindowRouting.Proofs.Conversions
import WindowRouting.Proofs.Steps.Delivery

/-!
The boundary to the native side. What a signal says is fixed by its arguments alone: it conveys an
event (`Signal.Conveys`) unless a pointer in it is null. A signal is refused for one of five
reasons, of which the first that applies counts (`Signal.Refused`); as the stores of a router agree,
there are no others (`Router.Agrees.signal_eq_error_iff`). A refused signal leaves one notice and
nothing else (`signal_refused`), and every other signal takes the course of the request to send its
event (`signal_refines_send`).
-/

set_option autoImplicit false
set_option relaxedAutoImplicit false

namespace WindowRouting

variable {C : Client} {σ : Type}

/-! ### What a signal says -/

namespace Button

theorem ofWord_of_byte {number : Int32} {n : UInt8} (h : number.toInt = n.toNat) :
    ofWord number = ofNative n := by
  have hlt := n.toNat_lt
  rw [ofWord, if_pos (by omega), h, Int.toNat_natCast, UInt8.ofNat_toNat]

theorem ofWord_of_not_byte {number : Int32} (h : number.toInt < 0 ∨ 255 < number.toInt) :
    ofWord number = other 0 := by
  rw [ofWord, if_neg (by omega)]

end Button

namespace Signal

/-- The pointer that is null in a signal. -/
def null? : Signal → Option String
  | draw context => if context = 0 then some "cr" else none
  | keyPress none | keyRelease none => some "event"
  | _ => none

/-- The event that a signal conveys. A button number that is no byte conveys button zero. -/
inductive Conveys : Signal → Event → Prop
  | draw {context : UInt64} (hcontext : context ≠ 0) : Conveys (.draw context) (.draw context)
  | scale : Conveys .scale .scale
  | hitTest (loc : Vec) : Conveys (.hitTest loc) (.hitTest loc)
  | keyPress {key : NativeKeyEvent} {e : KeyEvent} (he : key.Reports e) :
      Conveys (.keyPress (some key)) (.keyPress e)
  | keyRelease {key : NativeKeyEvent} {e : KeyEvent} (he : key.Reports e) :
      Conveys (.keyRelease (some key)) (.keyRelease e)
  | button (loc : Vec) (pressed : Int32) {number : Int32} {n : UInt8} {b : Button}
      (hn : number.toInt = n.toNat) (hb : b.Numbered n) :
      Conveys (.button loc pressed number) (.button loc (decide (pressed ≠ 0)) b)
  | noButton (loc : Vec) (pressed : Int32) {number : Int32}
      (hnumber : number.toInt < 0 ∨ 255 < number.toInt) :
      Conveys (.button loc pressed number) (.button loc (decide (pressed ≠ 0)) (.other 0))
  | motion (loc : Vec) : Conveys (.motion loc) (.motion loc)
  | leave : Conveys .leave .leave
  | discreteScroll (loc native : Vec) :
      Conveys (.discreteScroll loc native) (.discreteScroll loc native)
  | smoothScroll (loc native : Vec) (time : UInt32) :
      Conveys (.smoothScroll loc native time) (.smoothScroll loc native ⟨time⟩)
  | scrollStop (time : UInt32) : Conveys (.scrollStop time) (.scrollStop ⟨time⟩)

theorem Conveys.event_eq {q : Signal} {e : Event} (h : q.Conveys e) : q.event = .ok e := by
  cases h with
  | draw hcontext => rw [event, if_neg hcontext]
  | keyPress he => rw [event, he.eq_ofNative]
  | keyRelease he => rw [event, he.eq_ofNative]
  | button loc pressed hn hb =>
    rw [event, Button.ofWord_of_byte hn, Button.numbered_iff.mp hb]
  | noButton loc pressed hnumber => rw [event, Button.ofWord_of_not_byte hnumber]
  | _ => rfl

/-- A signal without null pointers conveys an event. -/
theorem exists_conveys {q : Signal} (hq : q.null? = none) : ∃ e, q.Conveys e := by
  cases q with
  | draw context =>
    refine ⟨_, .draw fun hcontext ↦ ?_⟩
    rw [null?, if_pos hcontext] at hq
    exact nomatch hq
  | scale => exact ⟨_, .scale⟩
  | hitTest loc => exact ⟨_, .hitTest loc⟩
  | keyPress key =>
    cases key with
    | none => exact nomatch hq
    | some key => exact ⟨_, .keyPress key.reports_ofNative⟩
  | keyRelease key =>
    cases key with
    | none => exact nomatch hq
    | some key => exact ⟨_, .keyRelease key.reports_ofNative⟩
  | button loc pressed number =>
    by_cases hnumber : number.toInt < 0 ∨ 255 < number.toInt
    · exact ⟨_, .noButton loc pressed hnumber⟩
    · have hlt : number.toInt.toNat < 256 := by omega
      have hn : number.toInt = (UInt8.ofNat number.toInt.toNat).toNat := by
        rw [UInt8.toNat_ofNat_of_lt' hlt]
        omega
      exact ⟨_, .button loc pressed hn (Button.numbered_iff.mpr rfl)⟩
  | motion loc => exact ⟨_, .motion loc⟩
  | leave => exact ⟨_, .leave⟩
  | discreteScroll loc native => exact ⟨_, .discreteScroll loc native⟩
  | smoothScroll loc native time => exact ⟨_, .smoothScroll loc native time⟩
  | scrollStop time => exact ⟨_, .scrollStop time⟩

theorem event_of_null {q : Signal} {pointer : String} (hq : q.null? = some pointer) :
    q.event = .error (.nullPointer pointer) := by
  unfold null? at hq
  split at hq
  · split at hq
    case isTrue hcontext =>
      rw [event, if_pos hcontext]
      exact Option.some.inj hq ▸ rfl
    case isFalse => exact nomatch hq
  · exact Option.some.inj hq ▸ rfl
  · exact Option.some.inj hq ▸ rfl
  · exact nomatch hq

/-- Why a signal is refused at a seat: the first of the reasons that applies. -/
inductive Refused : Seat C → Handle → Signal → Error → Prop
  | reentrant (h : Handle) (q : Signal) : Refused .busy h q .reentrant
  | notInstalled (h : Handle) (q : Signal) : Refused .vacant h q .notInstalled
  | zero (r : Router C) (q : Signal) : Refused (.taken r) 0 q (.invalidHandle 0)
  | unknown {r : Router C} {h : Handle} (hne : h ≠ 0)
      (hnone : ∀ id, (r.window? id).isSome → r.handle? id ≠ some h) (q : Signal) :
      Refused (.taken r) h q (.unknownHandle h)
  | null {r : Router C} {h : Handle} {id : WindowId} (hne : h ≠ 0)
      (hopen : (r.window? id).isSome) (hid : r.handle? id = some h) {q : Signal}
      {pointer : String} (hnull : q.null? = some pointer) :
      Refused (.taken r) h q (.nullPointer pointer)

theorem Refused.exists_reads {seat : Seat C} {h : Handle} {q : Signal} {e : Error}
    (hrefused : q.Refused seat h e) : ∃ text, e.Reads text := by
  cases hrefused with
  | reentrant => exact ⟨_, .reentrant⟩
  | notInstalled => exact ⟨_, .notInstalled⟩
  | zero => exact ⟨_, .invalidHandle⟩
  | unknown => exact ⟨_, .unknownHandle h⟩
  | null hne hopen hid hnull =>
    unfold null? at hnull
    split at hnull
    · split at hnull
      case isTrue => exact Option.some.inj hnull ▸ ⟨_, .context⟩
      case isFalse => exact nomatch hnull
    · exact Option.some.inj hnull ▸ ⟨_, .event⟩
    · exact Option.some.inj hnull ▸ ⟨_, .event⟩
    · exact nomatch hnull

end Signal

/-! ### Routers whose stores agree -/

namespace Router

variable {r : Router C} {h : Handle} {id : WindowId} {q : Signal}

/-- A handle that refers to a window refers to an open one. -/
theorem Agrees.find?_of_resolve (hr : r.Agrees) (hid : r.resolve h = .ok id) :
    ∃ w receiver, r.find? id = some (⟨id, w, receiver.listener⟩, receiver) := by
  obtain ⟨receiver, hreceiver⟩ :=
    hr.exists_receiver ((hr.twoWay.resolve_eq_ok_iff h id).mp hid)
  have hwindow := hr.open_eq id
  rw [hreceiver, Option.isSome_some] at hwindow
  obtain ⟨w, hw⟩ := Option.isSome_iff_exists.mp hwindow
  exact ⟨w, receiver, by rw [find?, hw, hreceiver]⟩

theorem Agrees.isSome_window? (hr : r.Agrees) (hid : r.handle? id = some h) :
    (r.window? id).isSome = true := by
  rw [window?, hr.open_eq, ← hr.handle_eq, hid, Option.isSome_some]

/-- What becomes of a signal once its handle refers to a window. -/
theorem signal_of_resolve (hid : r.resolve h = .ok id) (q : Signal) :
    r.signal h q = q.event.bind fun e ↦ r.deliver id e := by
  rw [signal, hid]
  rfl

/-- A router refuses a signal for the reasons listed, and for no others. -/
theorem Agrees.signal_eq_error_iff (hr : r.Agrees) {e : Error} :
    r.signal h q = .error e ↔ q.Refused (.taken r) h e := by
  constructor
  · intro hsignal
    by_cases hzero : h = 0
    · subst hzero
      obtain rfl := Except.error.inj hsignal
      exact .zero r q
    · cases hresolve : r.resolve h with
      | ok id =>
        have hid : r.handle? id = some h := (hr.twoWay.resolve_eq_ok_iff h id).mp hresolve
        rw [signal_of_resolve hresolve] at hsignal
        cases hnull : q.null? with
        | none =>
          -- The event would be delivered, since the handle refers to an open window.
          obtain ⟨event, hevent⟩ := Signal.exists_conveys hnull
          obtain ⟨w, receiver, hfind⟩ := hr.find?_of_resolve hresolve
          rw [hevent.event_eq] at hsignal
          simp [Except.bind, deliver, hfind] at hsignal
        | some pointer =>
          rw [Signal.event_of_null hnull] at hsignal
          obtain rfl := Except.error.inj hsignal
          exact .null hzero (hr.isSome_window? hid) hid hnull
      | error e' =>
        have hnone (id : WindowId) : r.handle? id ≠ some h := fun hid ↦ by
          have hok : r.resolve h = .ok id := (hr.twoWay.resolve_eq_ok_iff h id).mpr hid
          exact nomatch hresolve.symm.trans hok
        have hunknown : r.resolve h = .error (.unknownHandle h) :=
          hr.twoWay.resolve_of_unassigned hzero hnone
        rw [signal, hunknown] at hsignal
        obtain rfl := Except.error.inj hsignal
        exact .unknown hzero (fun id _ ↦ hnone id) q
  · intro hrefused
    cases hrefused with
    | zero => rfl
    | unknown hne hnone =>
      have hunknown : r.resolve h = .error (.unknownHandle h) :=
        hr.twoWay.resolve_of_unassigned hne fun id hid ↦ hnone id (hr.isSome_window? hid) hid
      rw [signal, hunknown]
      rfl
    | null hne hopen hid hnull =>
      rw [signal_of_resolve ((hr.twoWay.resolve_eq_ok_iff h _).mpr hid),
        Signal.event_of_null hnull]
      rfl

/-- A signal that conveys an event of an open window takes the plan of the event. -/
theorem Agrees.exists_plan (hr : r.Agrees) (hid : r.resolve h = .ok id) {e : Event}
    (he : q.Conveys e) : ∃ plan, r.deliver id e = .ok plan ∧ r.signal h q = .ok plan := by
  obtain ⟨w, receiver, hfind⟩ := hr.find?_of_resolve hid
  have hdeliver : r.deliver id e = .ok (r.handle ⟨id, w, receiver.listener⟩ receiver e) := by
    rw [deliver, hfind]
  refine ⟨_, hdeliver, ?_⟩
  rw [signal_of_resolve hid, he.event_eq]
  exact hdeliver

end Router

/-! ### Seats -/

namespace Seat

variable {r : Router C} {h : Handle} {q : Signal} (W : World C σ) (w : σ)

/-- The request to send an event follows the plan of the event. -/
theorem serve_send {id : WindowId} {e : Event} {plan : Plan C (Router C) Reply}
    (hplan : r.deliver id e = .ok plan) :
    (taken r).serve W (.send id e) w =
      (.ok ((plan.run W w).1.map .reply), .taken (plan.run W w).2.1, (plan.run W w).2.2) := by
  have hserve : (taken r).router.bind (·.serve (.send id e)) = .ok (plan.mapAnswer .reply) := by
    change (r.deliver id e).map _ = _
    rw [hplan]
    rfl
  simp only [serve, hserve, Plan.mapAnswer, Plan.run_map]

/-- A seat refuses a signal for the reasons listed, and for no others. -/
theorem signal_eq_error_iff {seat : Seat C} (hseat : ∀ r, seat = .taken r → r.Agrees)
    {e : Error} : seat.router.bind (·.signal h q) = .error e ↔ q.Refused seat h e := by
  cases seat with
  | vacant =>
    constructor
    · intro hsignal
      obtain rfl := Except.error.inj hsignal
      exact .notInstalled h q
    · rintro ⟨⟩
      rfl
  | taken r => exact (hseat r rfl).signal_eq_error_iff
  | busy =>
    constructor
    · intro hsignal
      obtain rfl := Except.error.inj hsignal
      exact .reentrant h q
    · rintro ⟨⟩
      rfl

/-- A signal that is refused leaves a notice. -/
theorem signal_of_error {seat : Seat C} {e : Error}
    (hsignal : seat.router.bind (·.signal h q) = .error e) :
    seat.signal W h q w = (q.neutral.code, seat, W.note (.dropped e q.entry h) w) := by
  simp only [signal, hsignal]

theorem signal_of_reply {plan : Plan C (Router C) Reply} (hplan : r.signal h q = .ok plan)
    {reply : Reply} {r' : Router C} {w' : σ} (hrun : plan.run W w = (some reply, r', w')) :
    (taken r).signal W h q w = (reply.code, .taken r', w') := by
  have hsignal : (taken r).router.bind (·.signal h q) = .ok plan := hplan
  simp only [signal, hsignal, hrun]

theorem signal_of_failure {plan : Plan C (Router C) Reply} (hplan : r.signal h q = .ok plan)
    {r' : Router C} {w' : σ} (hrun : plan.run W w = (none, r', w')) :
    (taken r).signal W h q w =
      (q.neutral.code, .taken r', W.note (.clientFailed q.entry h) w') := by
  have hsignal : (taken r).router.bind (·.signal h q) = .ok plan := hplan
  simp only [signal, hsignal, hrun]

/-- A signal that is not refused leaves no notice that says so. -/
theorem not_dropped_of_plan {seat : Seat C} {plan : Plan C (Router C) Reply}
    (hsignal : seat.router.bind (·.signal h q) = .ok plan) (e : Error) (entry : String)
    (given : Handle) :
    .noted (.dropped e entry given) ∉ (seat.signal W.transcribed h q (w, [])).2.2.2 := by
  intro hn
  obtain ⟨r, hrouter, hplan⟩ : ∃ r, seat.router = .ok r ∧ r.signal h q = .ok plan := by
    cases hrouter : seat.router with
    | error e =>
      rw [hrouter] at hsignal
      cases hsignal
    | ok r => exact ⟨r, rfl, by rwa [hrouter] at hsignal⟩
  obtain ⟨id, event, -, -, hdeliver⟩ := Router.signal_eq_ok hplan
  obtain ⟨other, hkeeps⟩ := Router.keeps_of_deliver hdeliver
  have hquiet (hn : .noted (.dropped e entry given) ∈
      (plan.run W.transcribed (w, [])).2.2.2) : False := by
    rcases hkeeps.of_noted W w [] hn with hold | habout
    · exact List.not_mem_nil hold
    · cases habout
  simp only [signal, hsignal] at hn
  split at hn
  case h_1 heq => exact hquiet (by rw [heq]; exact hn)
  case h_2 heq =>
    rcases List.mem_append.mp hn with hn | hn
    · exact hquiet (by rw [heq]; exact hn)
    · cases List.mem_singleton.mp hn

end Seat

/-- A signal with a handle that refers to a window and without null pointers conveys an event, and
it takes the course of the request to send the event to the window: the same notices and calls in
the same order, with the same state afterwards. What goes back is the number that the reply stands
for. When the client fails there is one more notice, an error that names the entry point and the
handle, and what goes back is zero or nothing. -/
theorem signal_refines_send {s : Roster C} (hs : s.Reachable) {r : Router C}
    (hseat : s.seat = .taken r) {h : Handle} {id : WindowId} (hid : r.resolve h = .ok id)
    {q : Signal} (hq : q.null? = none) (W : World C σ) (w : σ) :
    (∃ e, q.Conveys e) ∧ ∀ e, q.Conveys e → ∃ answer r' w' t,
      s.seat.serve W.transcribed (.send id e) (w, []) = (.ok answer, .taken r', w', t) ∧
      ((∃ reply code, answer = some (.reply reply) ∧ e.Expects reply ∧ reply.GoesBack code ∧
        s.seat.signal W.transcribed h q (w, []) = (code, .taken r', w', t)) ∨
      (answer = none ∧ ∃ entry, q.Enters entry ∧
        s.seat.signal W.transcribed h q (w, []) =
          (if q.asks then some 0 else none, .taken r', W.note (.clientFailed entry h) w',
            t ++ [.noted (.clientFailed entry h)]) ∧
        (Notice.clientFailed entry h).level = .error ∧
        (Notice.clientFailed entry h).message = "listener panicked" ∧
        (Notice.clientFailed entry h).fields =
          [("entry", .text entry), ("handle", .text (toString h.toNat))])) := by
  refine ⟨Signal.exists_conveys hq, fun e he ↦ ?_⟩
  obtain ⟨plan, hdeliver, hsignal⟩ :=
    (hs.agrees r (Roster.mem_of_seat hseat)).exists_plan hid he
  obtain ⟨_, hkeeps⟩ := Router.keeps_of_deliver hdeliver
  have hexpects (reply : Reply) (hreply : (plan.run W.transcribed (w, [])).1 = some reply) :
      e.Expects reply := hkeeps.of_answer W.transcribed (w, []) hreply
  rw [hseat, Seat.serve_send W.transcribed (w, []) hdeliver]
  rcases hrun : plan.run W.transcribed (w, []) with ⟨_ | reply, r', w', t⟩
  · refine ⟨none, r', w', t, rfl, Or.inr ⟨rfl, q.entry, q.enters_entry, ?_, rfl, rfl, rfl⟩⟩
    rw [Seat.signal_of_failure W.transcribed _ hsignal hrun, q.code_neutral]
    rfl
  · rw [hrun] at hexpects
    refine ⟨some (.reply reply), r', w', t, rfl,
      Or.inl ⟨reply, reply.code, rfl, hexpects reply rfl, reply.goesBack_code, ?_⟩⟩
    exact Seat.signal_of_reply W.transcribed _ hsignal hrun

/-- A world of the bare client in which every point is the upper right corner. -/
def World.cornered : World .bare Unit where
  note _ w := w
  answer
    | .window _ _ _ (.hitTest _), w => (some HitTest.edgeNE, w)
    | c, w => (some c.bareAnswer, w)

theorem reopened_hitTest : ∃ r t,
    Roster.reopened.seat.serve World.cornered.transcribed (.send ⟨1, 3⟩ (.hitTest .zero))
      ((), []) = (.ok (some (.reply (.hit .edgeNE))), .taken r, (), t) ∧
    Roster.reopened.seat.signal World.cornered.transcribed 2 (.hitTest .zero) ((), []) =
      (some 3, .taken r, (), t) := by
  obtain ⟨r, hcurrent, hnew, -⟩ := Roster.exists_reopened
  have hr := Roster.reachable_reopened.agrees r (Roster.mem_of_current hcurrent)
  have hid : r.resolve 2 = .ok ⟨1, 3⟩ := (hr.twoWay.resolve_eq_ok_iff 2 ⟨1, 3⟩).mpr hnew
  obtain ⟨-, hrefines⟩ := signal_refines_send Roster.reachable_reopened
    (Roster.seat_of_current hcurrent) hid (q := .hitTest .zero) rfl World.cornered ()
  have hthree : (Roster.reopened.seat.signal World.cornered.transcribed 2
      (.hitTest .zero) ((), [])).1 = some 3 := by decide +kernel
  obtain ⟨answer, r', w', t, hserve, hcases⟩ := hrefines (.hitTest .zero) (.hitTest .zero)
  rcases hcases with ⟨reply, code, rfl, ⟨hit, rfl⟩, hback, hsignal⟩ | ⟨-, _, -, hsignal, -⟩
  · rw [hsignal] at hthree
    obtain rfl : code = some 3 := hthree
    cases hback with
    | hit hn =>
      cases hn
      exact ⟨r', t, hserve, hsignal⟩
  · rw [hsignal] at hthree
    exact nomatch hthree

/-- A signal is refused at a seat, be it busy or not, for the first of five reasons that applies,
and then it leaves one notice and nothing else: no call is made, all routers stay as they are, and
what goes back is zero or nothing. The notice names the entry point, the handle and the reason, and
it is a warning unless the handle refers to no open window. No other signal leaves such a notice;
in particular no signal is refused because its window is not open. -/
theorem signal_refused {s : Roster C} (hs : s.Reachable) {seat : Seat C}
    (hseat : seat = s.seat ∨ seat = .busy) (h : Handle) (q : Signal) (W : World C σ) (w : σ) :
    (∀ e, q.Refused seat h e → ∃ entry text, q.Enters entry ∧ e.Reads text ∧
      seat.signal W.transcribed h q (w, []) =
        (if q.asks then some 0 else none, seat, W.note (.dropped e entry h) w,
          [.noted (.dropped e entry h)]) ∧
      s.update seat = s ∧
      (Notice.dropped e entry h).level = (if e = .unknownHandle h then .debug else .warn) ∧
      (Notice.dropped e entry h).message = "dropping event: " ++ text ∧
      (Notice.dropped e entry h).fields =
        [("entry", .text entry), ("handle", .text (toString h.toNat))]) ∧
    (∀ e entry given,
      .noted (.dropped e entry given) ∈ (seat.signal W.transcribed h q (w, [])).2.2.2 →
        q.Refused seat h e ∧ q.Enters entry ∧ given = h) ∧
    ∀ id, ¬q.Refused seat h (.unknownWindow id) := by
  have hagrees (r : Router C) (hr : seat = .taken r) : r.Agrees := by
    rcases hseat with rfl | rfl
    · exact hs.agrees r (Roster.mem_of_seat hr)
    · exact nomatch hr
  refine ⟨fun e he ↦ ?_, fun e entry given hn ↦ ?_, fun id he ↦ nomatch he⟩
  · obtain ⟨text, htext⟩ := he.exists_reads
    refine ⟨q.entry, text, q.enters_entry, htext, ?_, ?_, ?_, ?_, rfl⟩
    · rw [Seat.signal_of_error _ _ ((Seat.signal_eq_error_iff hagrees).mpr he), q.code_neutral]
      rfl
    · rcases hseat with rfl | rfl
      · exact s.update_seat
      · unfold Roster.update
        split
        case h_1 heq => exact nomatch heq
        case h_2 => rfl
    · cases he with
      | unknown hne hnone => rw [if_pos rfl]; rfl
      | _ => rfl
    · rw [Notice.message, htext.eq_message]
  · cases hsignal : seat.router.bind (·.signal h q) with
    | error e' =>
      rw [Seat.signal_of_error _ _ hsignal] at hn
      obtain ⟨rfl, rfl, rfl⟩ :=
        Notice.dropped.inj (Happening.noted.inj (List.mem_singleton.mp hn))
      exact ⟨(Seat.signal_eq_error_iff hagrees).mp hsignal, q.enters_entry, rfl⟩
    | ok plan => exact absurd hn (Seat.not_dropped_of_plan W w hsignal e entry given)

theorem reopened_refused :
    Roster.reopened.seat.signal Roster.quiet.transcribed 1 .leave ((), []) =
      (none, Roster.reopened.seat, (), [.noted (.dropped (.unknownHandle 1) "leave" 1)]) ∧
    (Notice.dropped (.unknownHandle 1) "leave" 1).level = .debug ∧
    (Notice.dropped (.unknownHandle 1) "leave" 1).message =
      "dropping event: the window handle 0x1 does not belong to a live window" ∧
    (Notice.dropped (.unknownHandle 1) "leave" 1).fields =
      [("entry", .text "leave"), ("handle", .text "1")] := by
  obtain ⟨r, hcurrent, -, -, hgiven⟩ := Roster.exists_reopened
  have hr := Roster.reachable_reopened.agrees r (Roster.mem_of_current hcurrent)
  have hunassigned (id : WindowId) : r.handle? id ≠ some 1 := fun hid ↦ by
    have hok : r.resolve 1 = .ok id := (hr.twoWay.resolve_eq_ok_iff 1 id).mpr hid
    rw [hok] at hgiven
    exact nomatch hgiven
  have hrefused : Signal.leave.Refused Roster.reopened.seat 1 (.unknownHandle 1) := by
    rw [Roster.seat_of_current hcurrent]
    exact .unknown (by decide) (fun id _ ↦ hunassigned id) .leave
  obtain ⟨hdropped, -⟩ :=
    signal_refused Roster.reachable_reopened (Or.inl rfl) 1 .leave Roster.quiet ()
  obtain ⟨entry, text, hentry, htext, hsignal, -, hlevel, hmessage, hfields⟩ :=
    hdropped _ hrefused
  cases hentry
  cases htext
  exact ⟨hsignal, hlevel, hmessage.trans (by decide +kernel), hfields⟩

end WindowRouting

import WindowRouting.Proofs.Watch

/-!
Runs without watching. What watching adds can be taken away again: each store of routers whose
sessions carry tickets is the store of plain ones (`plain`), and a plan with tickets is a plain plan
(`Plan.plain`). Every operation of a router gives the plain operation (`plain_serve`,
`plain_signal`), so a watched run is the plain run with its calls written down: it goes through the
same routers and worlds, and makes the same calls with the same outcomes (`plain_watch`).
-/

set_option autoImplicit false
set_option relaxedAutoImplicit false

namespace WindowRouting

variable {C : Client} {S T U α β σ : Type}

/-! ### Stores -/

/-- The pointer without tickets. -/
def Pointer.plain (p : Pointer C.ticketed) : Pointer C := ⟨p.held, p.drag.map (·.value)⟩

/-- The gesture without its ticket. -/
def Swipe.plain (s : Swipe C.ticketed) : Swipe C := ⟨s.gesture.value, s.lastTime, s.velocity⟩

/-- The scrolling without tickets. -/
def Scrolling.plain (s : Scrolling C.ticketed) : Scrolling C := s.map Swipe.plain

/-- The window with its listener, without its number. -/
def Target.plain (t : Target C.ticketed) : Target C := ⟨t.id, t.window, t.listener.value⟩

/-- The receiver without tickets. -/
def Receiver.plain (x : Receiver C.ticketed) : Receiver C :=
  ⟨x.listener.value, x.pointer.plain, Scrolling.plain x.scrolling⟩

/-- The router without tickets. -/
def Router.plain (r : Router C.ticketed) : Router C :=
  ⟨r.windows, r.handles, r.receivers.map Receiver.plain, r.config, r.host⟩

/-- The roster without tickets. -/
def Roster.plain (s : Roster C.ticketed) : Roster C := ⟨s.routers.map Router.plain, s.installed⟩

/-- The call that was made and whether it returned. -/
def Entry.plain (e : Entry C) : Call C × Bool := (e.call.plain, e.returned)

/-! ### Plans -/

namespace Plan

/-- The plan without tickets, when `n` calls were made before it. -/
def plain (n : Nat) (g : S → T) : Plan C.ticketed S α → Plan C T α
  | .done answer state => .done answer (g state)
  | .note notice rest => .note notice (rest.plain n g)
  | .call state c resume =>
    .call (g state) c.plain fun a ↦ (resume (c.stamp n a)).plain (n + 1) g

variable {n : Nat} {g : S → T}

theorem plain_map {R : Type} {k : R → U} {g' : U → T} {f' : R → S} (f : α → β)
    (h : ∀ s, g (f' s) = g' (k s)) (p : Plan C.ticketed R α) :
    (p.map f f').plain n g = (p.plain n k).map f g' := by
  induction p generalizing n with
  | done answer state => simp only [map, plain, h]
  | note notice rest ih => simp only [map, plain, ih]
  | call state c resume ih => simp only [map, plain, h, ih]

theorem plain_mapAnswer (f : α → β) (p : Plan C.ticketed S α) :
    (p.mapAnswer f).plain n g = (p.plain n g).mapAnswer f := by
  refine plain_map f ?_ p
  exact fun _ ↦ rfl

end Plan

/-- The world that writes down the calls and whether they returned. -/
def World.recorded (W : World C σ) : World C (σ × List (Call C × Bool)) where
  note n w := (W.note n w.1, w.2)
  answer c w :=
    match W.answer c w.1 with
    | (some a, s) => (some a, s, w.2 ++ [(c, true)])
    | (none, s) => (none, s, w.2 ++ [(c, false)])

/-- Following a plan with tickets in a watched world is following the plain plan. -/
theorem Plan.run_plain (W : World C σ) (act : Nat) (g : S → T) (p : Plan C.ticketed S α) (w : σ)
    (h : History C) : (p.plain h.length g).run W.recorded (w, h.map Entry.plain) =
      ((p.run (W.watched act) (w, h)).1, g (p.run (W.watched act) (w, h)).2.1,
        (p.run (W.watched act) (w, h)).2.2.1,
        (p.run (W.watched act) (w, h)).2.2.2.map Entry.plain) := by
  induction p generalizing w h with
  | done answer state => rfl
  | note notice rest ih => exact ih _ _
  | call state c resume ih =>
    simp only [plain, run, World.recorded, World.watched]
    cases hanswer : W.answer c.plain w with
    | mk answer s =>
      cases answer with
      | none => simp [Entry.plain]
      | some a =>
        have hrest := ih (c.stamp h.length a) s (h ++ [⟨act, c, true⟩])
        rw [List.length_append, List.map_append] at hrest
        exact hrest

/-! ### Receivers -/

/-- A course with tickets is a plain course. -/
theorem Pointer.Course.plain {n : Nat} {p : Pointer C.ticketed} {t : Target C.ticketed} {e : Event}
    {plan : Plan C.ticketed (Pointer C.ticketed) Unit} (h : p.Course t e plan) :
    p.plain.Course t.plain e (plan.plain n Pointer.plain) := by
  have hdrag {drag : Option (Ticketed C.Drag)} (hp : p.drag = drag) :
      p.plain.drag = drag.map (·.value) := congrArg (Option.map Ticketed.value) hp
  cases h with
  | untracked loc pressed b hmask => exact .untracked loc pressed b hmask
  | held loc b mask hmask hheld => exact .held loc b mask hmask hheld
  | begun loc b mask hmask hfree hnone => exact .begun loc b mask hmask hfree (hdrag hnone)
  | pressed loc b mask session hmask hfree hsome =>
    exact .pressed loc b mask session.value hmask hfree (hdrag hsome)
  | notHeld loc b mask hmask hfree => exact .notHeld loc b mask hmask hfree
  | freed loc b mask hmask hheld hnone => exact .freed loc b mask hmask hheld (hdrag hnone)
  | ended loc b mask session hmask hheld hrest hsome =>
    exact .ended loc b mask session.value hmask hheld hrest (hdrag hsome)
  | released loc b mask session hmask hheld hrest hsome =>
    exact .released loc b mask session.value hmask hheld hrest (hdrag hsome)
  | moved loc session hsome => exact .moved loc session.value (hdrag hsome)
  | passed loc hnone => exact .passed loc (hdrag hnone)
  | kept session hsome => exact .kept session.value (hdrag hsome)
  | left hnone => exact .left (hdrag hnone)

theorem Scrolling.Course.plain {n : Nat} {s : Scrolling C.ticketed} {cfg : Config}
    {t : Target C.ticketed} {e : Event} {plan : Plan C.ticketed (Scrolling C.ticketed) Unit}
    (h : s.Course cfg t e plan) :
    (Scrolling.plain s).Course cfg t.plain e (plan.plain n Scrolling.plain) := by
  have hplain {s' : Scrolling C.ticketed} (hs : s = s') :
      Scrolling.plain s = Scrolling.plain s' := congrArg Scrolling.plain hs
  cases h with
  | begun loc native time hs => exact .begun loc native time (hplain hs)
  | timedOut loc native time swipe hs htime =>
    exact .timedOut loc native time swipe.plain (hplain hs) htime
  | moved loc native time swipe hs htime =>
    exact .moved loc native time swipe.plain (hplain hs) htime
  | scrolled loc native hs => exact .scrolled loc native (hplain hs)
  | interrupted loc native swipe hs => exact .interrupted loc native swipe.plain (hplain hs)
  | idle time hs => exact .idle time (hplain hs)
  | stopped time swipe hs hglides => exact .stopped time swipe.plain (hplain hs) hglides
  | glided time swipe hs hglides => exact .glided time swipe.plain (hplain hs) hglides

/-! ### Routers -/

namespace Router

variable {n : Nat} (r : Router C.ticketed)

theorem plain_modifyReceiver (id : WindowId) {f : Receiver C.ticketed → Receiver C.ticketed}
    {f' : Receiver C → Receiver C} (h : ∀ x, (f x).plain = f' x.plain) :
    (r.modifyReceiver id f).plain = r.plain.modifyReceiver id f' := by
  simp only [plain, modifyReceiver, IdMap.map_modify h]

theorem plain_onPointer (id : WindowId) {p : Plan C.ticketed (Pointer C.ticketed) Unit}
    {p' : Plan C (Pointer C) Unit} (hp : p.plain n Pointer.plain = p') :
    (r.onPointer id p).plain n plain = r.plain.onPointer id p' := by
  subst hp
  refine Plan.plain_map _ (fun pointer ↦ ?_) p
  exact r.plain_modifyReceiver id fun _ ↦ rfl

theorem plain_onScrolling (id : WindowId) {p : Plan C.ticketed (Scrolling C.ticketed) Unit}
    {p' : Plan C (Scrolling C) Unit} (hp : p.plain n Scrolling.plain = p') :
    (r.onScrolling id p).plain n plain = r.plain.onScrolling id p' := by
  subst hp
  refine Plan.plain_map _ (fun scrolling ↦ ?_) p
  exact r.plain_modifyReceiver id fun _ ↦ rfl

theorem plain_rescale (t : Target C.ticketed) :
    (r.rescale t).plain n plain = r.plain.rescale t.plain := by
  obtain ⟨windows, handles, receivers, config, host⟩ := r
  cases host with
  | none => rfl
  | some host =>
    simp only [rescale, plain, Plan.plain]
    congr 1
    funext answer
    cases answer with
    | none => rfl
    | some scale =>
      show Plan.plain _ _ (if validScale scale then _ else _) = if validScale scale then _ else _
      split <;> rfl

theorem plain_handle (t : Target C.ticketed) (x : Receiver C.ticketed) (e : Event) :
    (r.handle t x e).plain n plain = r.plain.handle t.plain x.plain e := by
  cases e with
  | draw context => rfl
  | scale => exact r.plain_rescale t
  | hitTest loc => rfl
  | keyPress key => rfl
  | keyRelease key => rfl
  | button loc pressed b =>
    exact r.plain_onPointer _ (x.pointer.course_button t loc pressed b).plain.eq_button
  | motion loc => exact r.plain_onPointer _ (x.pointer.course_motion t loc).plain.eq_motion
  | leave => exact r.plain_onPointer _ (x.pointer.course_leave t).plain.eq_leave
  | discreteScroll loc native =>
    exact r.plain_onScrolling _
      (x.scrolling.course_discrete r.config t loc native).plain.eq_discrete
  | smoothScroll loc native time =>
    exact r.plain_onScrolling _
      (x.scrolling.course_smooth r.config t loc native time).plain.eq_smooth
  | scrollStop time =>
    exact r.plain_onScrolling _ (x.scrolling.course_stop r.config t time).plain.eq_stop

theorem plain_deliver (id : WindowId) (e : Event) :
    (r.deliver id e).map (·.plain n plain) = r.plain.deliver id e := by
  simp only [deliver, find?, plain, IdMap.get?_map]
  cases r.windows.get? id with
  | none => rfl
  | some window =>
    cases r.receivers.get? id with
    | none => rfl
    | some x => exact congrArg Except.ok (r.plain_handle ⟨id, window, x.listener⟩ x e)

theorem plain_cancelAll (id : WindowId) (x : Receiver C.ticketed) :
    (r.cancelAll id x).plain n plain = r.plain.cancelAll id x.plain := by
  obtain ⟨listener, ⟨held, drag⟩, scrolling⟩ := x
  cases drag <;> cases scrolling <;> rfl

theorem plain_closed (id : WindowId) : (r.closed id).plain = r.plain.closed id := by
  simp only [closed, plain, IdMap.map_erase]

theorem plain_close (id : WindowId) :
    (r.close id).map (·.plain n plain) = r.plain.close id := by
  unfold close
  rw [show r.plain.receivers.get? id = (r.receivers.get? id).map Receiver.plain from
    IdMap.get?_map _ _ _]
  cases r.receivers.get? id with
  | none => rfl
  | some x =>
    rw [← plain_closed]
    exact congrArg Except.ok ((r.closed id).plain_cancelAll id x)

theorem plain_opened (d : Descriptor) (listener : Numbered C.Listener) :
    (r.opened d listener).2.plain = (r.plain.opened d listener.value).2 := by
  simp only [opened, plain, IdMap.map_insert]
  rfl

theorem plain_create (d : Descriptor) (listener : Numbered C.Listener) :
    (r.create d listener).plain n plain = r.plain.create d listener.value := by
  simp only [create, Plan.plain, plain_opened]
  rfl

/-- Serving a request with tickets is serving the plain one. -/
theorem plain_serve (number : Nat) (q : Request C) :
    (r.serve (q.ticketed number)).map (·.plain n plain) = r.plain.serve q := by
  cases q with
  | create d listener =>
    exact congrArg Except.ok ((Plan.plain_mapAnswer _ _).trans (by rw [plain_create]))
  | close id =>
    have hclose := r.plain_close (n := n) id
    simp only [serve, Request.ticketed, ← hclose]
    cases r.close id with
    | error e => rfl
    | ok plan => exact congrArg Except.ok (Plan.plain_mapAnswer _ plan)
  | announce patch => rfl
  | attachHost host => rfl
  | send id e =>
    have hdeliver := r.plain_deliver (n := n) id e
    simp only [serve, Request.ticketed, ← hdeliver]
    cases r.deliver id e with
    | error e => rfl
    | ok plan => exact congrArg Except.ok (Plan.plain_mapAnswer _ plan)
  | config => rfl
  | handle id => rfl
  | resolve h =>
    simp only [serve, Request.ticketed, Router.resolve, plain]
    cases r.handles.resolve h <;> rfl
  | window id => rfl
  | windows => rfl

/-- Serving a signal with tickets is serving the plain one. -/
theorem plain_signal (hd : Handle) (q : Signal) :
    (r.signal hd q).map (·.plain n plain) = r.plain.signal hd q := by
  simp only [signal, Router.resolve, plain]
  cases r.handles.resolve hd with
  | error e => rfl
  | ok id =>
    cases q.event with
    | error e => rfl
    | ok e => exact r.plain_deliver id e

end Router

/-! ### Runs -/

/-- The act in a world that writes down the calls. -/
def Act.recorded : Act C σ → Act C (σ × List (Call C × Bool))
  | .install config => .install config
  | .reinstall i => .reinstall i
  | .uninstall => .uninstall
  | .request q => .request q
  | .signal h q => .signal h q
  | .elapse change => .elapse fun w ↦ (change w.1, w.2)

namespace Seat

/-- The seat without tickets. -/
def plain : Seat C.ticketed → Seat C
  | .vacant => .vacant
  | .taken r => .taken r.plain
  | .busy => .busy

variable (W : World C σ) (act : Nat) (seat : Seat C.ticketed) (w : σ) (h : History C)

theorem plain_eq_map : seat.plain = seat.map Router.plain := by
  cases seat <;> rfl

theorem plain_serve (q : Request C) :
    (seat.plain.serve W.recorded q (w, h.map Entry.plain)).2 =
      ((seat.serve (W.watched act) (q.ticketed act) (w, h)).2.1.plain,
        (seat.serve (W.watched act) (q.ticketed act) (w, h)).2.2.1,
        (seat.serve (W.watched act) (q.ticketed act) (w, h)).2.2.2.map Entry.plain) := by
  cases seat with
  | vacant => rfl
  | busy => rfl
  | taken r =>
    have hserve := r.plain_serve (n := h.length) act q
    simp only [Seat.serve, plain, router, Except.bind, ← hserve]
    cases r.serve (q.ticketed act) with
    | error e => rfl
    | ok plan =>
      simp only [Except.map]
      rw [Plan.run_plain W act]

theorem plain_signal (hd : Handle) (q : Signal) :
    (seat.plain.signal W.recorded hd q (w, h.map Entry.plain)).2 =
      ((seat.signal (W.watched act) hd q (w, h)).2.1.plain,
        (seat.signal (W.watched act) hd q (w, h)).2.2.1,
        (seat.signal (W.watched act) hd q (w, h)).2.2.2.map Entry.plain) := by
  cases seat with
  | vacant => rfl
  | busy => rfl
  | taken r =>
    have hsignal := r.plain_signal (n := h.length) hd q
    simp only [Seat.signal, plain, router, Except.bind, ← hsignal]
    cases r.signal hd q with
    | error e => rfl
    | ok plan =>
      simp only [Except.map]
      rw [Plan.run_plain W act]
      rcases plan.run (W.watched act) (w, h) with ⟨_ | reply, out⟩ <;> rfl

end Seat

namespace Roster

variable (s : Roster C.ticketed)

theorem seat_plain : s.plain.seat = s.seat.plain := by
  rw [Seat.plain_eq_map]
  exact s.seat_map Router.plain

theorem update_plain (seat : Seat C.ticketed) :
    s.plain.update seat.plain = (s.update seat).plain := by
  rw [Seat.plain_eq_map]
  exact s.update_map Router.plain seat

end Roster

namespace Watch

/-- What is left of a watched run without its tickets. -/
def plain (s : Watch C σ) : Roster C × σ × List (Call C × Bool) :=
  (s.roster.plain, s.world, s.history.map Entry.plain)

/-- An act with tickets is the plain act. -/
theorem plain_step (W : World C σ) (s : Watch C σ) (a : Act C σ) :
    (s.step W a).plain = a.recorded.perform W.recorded s.plain.1 s.plain.2 := by
  cases a with
  | install config =>
    simp only [step, Act.ticketed, Act.perform, Act.recorded, plain, Roster.plain, List.map_append,
      List.length_map]
    have hnew : (Router.new config : Router C.ticketed).plain = .new config := by
      rw [Router.plain, Router.new, Router.new, IdMap.map_empty]
    rw [List.map_cons, List.map_nil, hnew]
  | reinstall i =>
    simp only [step, Act.ticketed, Act.perform, Act.recorded, plain, Roster.plain, List.length_map]
    split <;> rfl
  | uninstall => rfl
  | request q =>
    have hserve := Seat.plain_serve W s.acts s.roster.seat s.world s.history q
    rw [← Roster.seat_plain] at hserve
    simp only [step, Act.ticketed, Act.perform, Act.recorded, plain, hserve, Roster.update_plain]
  | signal hd q =>
    have hsignal := Seat.plain_signal W s.acts s.roster.seat s.world s.history hd q
    rw [← Roster.seat_plain] at hsignal
    simp only [step, Act.ticketed, Act.perform, Act.recorded, plain, hsignal, Roster.update_plain]
  | elapse change => rfl

end Watch

/-- A watched run is the plain run with its calls written down. -/
theorem plain_watch (W : World C σ) (w : σ) (acts : List (Act C σ)) : (watch W w acts).plain =
    acts.foldl (fun s a ↦ a.recorded.perform W.recorded s.1 s.2) (.empty, w, []) := by
  induction acts using List.reverseRecOn with
  | nil => rfl
  | append_singleton acts a ih =>
    rw [watch_snoc, List.foldl_append, Watch.plain_step, ih]
    rfl

end WindowRouting

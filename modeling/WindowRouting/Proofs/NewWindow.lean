import WindowRouting.Proofs.Boundary
import WindowRouting.Proofs.Counting

/-!
A new window inherits nothing from the past. Whatever was done with a router before, a window that
is opened in it goes the way of the first window of a new router, up to its id, its handle and the
numbers of its sessions and gestures. For the events of the window the one router is then what the
other one is (`Router.Resembles`); an event keeps this (`Router.Resembles.deliver`), and so does
everything that can be done in the window, failures of the client included.
-/

set_option autoImplicit false
set_option relaxedAutoImplicit false

namespace WindowRouting

variable {C : Client} {L H σ : Type}

/-! ### What is done in one window -/

/-- How a window is named. -/
structure Address where
  id : WindowId
  handle : Handle

/-- What is done in a window. -/
inductive Errand
  /-- The event is sent to the id of the window. -/
  | send (event : Event)
  /-- The signal names the handle of the window. -/
  | signal (signal : Signal)

/-- What comes of an errand. -/
inductive Report
  | answer (answer : Except Error (Option Answer))
  /-- The number that goes back to the native side, if one does. -/
  | code (code : Option Nat)

namespace Seat

/-- The course of an errand at a seat. -/
def attend (W : World C σ) (a : Address) (seat : Seat C) (w : σ) : Errand → Report × Seat C × σ
  | .send e =>
    match seat.serve W (.send a.id e) w with
    | (answer, seat, w) => (.answer answer, seat, w)
  | .signal q =>
    match seat.signal W a.handle q w with
    | (code, seat, w) => (.code code, seat, w)

/-- The course of some errands, one after the other. -/
def attendAll (W : World C σ) (a : Address) (seat : Seat C) (w : σ) :
    List Errand → List Report × Seat C × σ
  | [] => ([], seat, w)
  | errand :: rest =>
    let (report, seat, w) := seat.attend W a w errand
    let (reports, seat, w) := seat.attendAll W a w rest
    (report :: reports, seat, w)

end Seat

/-! ### Two routers alike -/

/-- Names the numbers that come after the first `n`, and has one id for all windows. -/
def Renaming.past (n : Nat) (id : WindowId) : Renaming := ⟨fun j ↦ n + j, fun _ ↦ id⟩

/-- As many calls were made here as there, and `n` more sessions and gestures were opened. -/
structure Tally.Ahead (n : Nat) (id : WindowId) (w₀ w : Tally L H) : Prop where
  calls : w.calls = w₀.calls
  serial : w.serial = n + w₀.serial
  seen : w.seen = w₀.seen.map (Callback.renamed (.past n id))

/-- For the events of the window at `a` the router `r` is what `r₀` is for those of the window at
`a₀`. -/
structure Router.Resembles (n : Nat) (a₀ a : Address) (r₀ r : Router (.counted L H)) : Prop where
  config : r.config = r₀.config
  host : r.host = r₀.host
  resolve₀ : r₀.resolve a₀.handle = .ok a₀.id
  resolve : r.resolve a.handle = .ok a.id
  found : ∃ t x t', r₀.find? a₀.id = some (t, x) ∧
    r.find? a.id = some (t', x.renumbered (n + ·)) ∧ t.Renamed (.past n a.id) true t'

namespace Router.Resembles

variable {n : Nat} {a₀ a : Address} {r₀ r : Router (.counted L H)} {w₀ w : Tally L H}
  {m : Manner L H}

/-- A change of both windows keeps the routers alike. -/
theorem changed (h : Resembles n a₀ a r₀ r) (change : Change (.counted L H)) :
    Resembles n a₀ a (r₀.changed a₀.id change) (r.changed a.id (change.renumbered (n + ·))) where
  config := by rw [config_changed, config_changed, h.config]
  host := by rw [host_changed, host_changed, h.host]
  resolve₀ := by
    rw [Router.resolve, handles_changed]
    exact h.resolve₀
  resolve := by
    rw [Router.resolve, handles_changed]
    exact h.resolve
  found := by
    obtain ⟨t, x, t', ht, ht', htarget⟩ := h.found
    have hfound := find?_changed_self ht' (change.renumbered (n + ·))
    rw [Change.receiver_renumbered] at hfound
    exact ⟨_, _, _, find?_changed_self ht change, hfound, htarget.changed _ change⟩

/-- An event takes the same course in both windows. -/
theorem deliver (h : Resembles n a₀ a r₀ r) (hm : ∀ f, m.BlindTo f) (fails : Nat → Bool)
    (e : Event) :
    ∃ p₀ p, r₀.deliver a₀.id e = .ok p₀ ∧ r.deliver a.id e = .ok p ∧
      ∀ w₀ w, Tally.Ahead n a.id w₀ w → ∃ reply r₀' w₀' r' w',
        p₀.run (m.world (fun _ ↦ true) fails) w₀ = (reply, r₀', w₀') ∧
        p.run (m.world (fun _ ↦ true) fails) w = (reply, r', w') ∧
        Resembles n a₀ a r₀' r' ∧ Tally.Ahead n a.id w₀' w' := by
  obtain ⟨t, x, t', ht, ht', htarget⟩ := h.found
  refine ⟨_, _, deliver_of_find? ht e, deliver_of_find? ht' e, fun w₀ w hw ↦ ?_⟩
  have hfollows : Follows (.past n a.id) (fun _ ↦ true) e.channel t x t'
      (x.renumbered (n + ·)) := ⟨htarget, fun _ ↦ rfl, fun _ ↦ rfl⟩
  have hserial (j : Nat) : (Renaming.past n a.id).serial j + w₀.serial = j + w.serial := by
    simp only [Renaming.past, hw.serial]
    omega
  have hfails (k : Nat) : fails (w.calls + k) = fails (w₀.calls + k) := by rw [hw.calls]
  obtain ⟨hreply, hchange, hmatches⟩ := (e.parallel_plan hfollows r₀.config r₀.host).run (hm _) rfl
    fails fails w₀ w hfails (fun j _ _ ↦ hserial j) hw.seen
  rw [h.config, h.host]
  simp only [Plan.run_map, Option.map_id', hreply, hchange]
  refine ⟨_, _, _, _, _, rfl, rfl, h.changed _, ?_, ?_, hmatches.seen⟩
  · have hcalls := hmatches.calls
    rw [hw.calls] at hcalls
    exact Nat.add_right_cancel hcalls
  · have hserial := hmatches.serial
    rw [hw.serial] at hserial
    omega

end Router.Resembles

/-! ### Errands -/

namespace Seat

variable {n : Nat} {a₀ a : Address} {r₀ r : Router (.counted L H)} {w₀ w : Tally L H}
  {m : Manner L H} (fails : Nat → Bool)

/-- What is done in both windows comes to the same. -/
theorem attend_resembles (h : r₀.Resembles n a₀ a r) (hm : ∀ f, m.BlindTo f)
    (hw : Tally.Ahead n a.id w₀ w) (errand : Errand) : ∃ report r₀' w₀' r' w',
      (taken r₀).attend (m.world (fun _ ↦ true) fails) a₀ w₀ errand = (report, .taken r₀', w₀') ∧
      (taken r).attend (m.world (fun _ ↦ true) fails) a w errand = (report, .taken r', w') ∧
      r₀'.Resembles n a₀ a r' ∧ Tally.Ahead n a.id w₀' w' := by
  cases errand with
  | send e =>
    obtain ⟨p₀, p, hp₀, hp, hruns⟩ := h.deliver hm fails e
    obtain ⟨reply, r₀', w₀', r', w', hrun₀, hrun, hrouters, htallies⟩ := hruns w₀ w hw
    refine ⟨.answer (.ok (reply.map .reply)), r₀', w₀', r', w', ?_, ?_, hrouters, htallies⟩
    · simp only [attend, serve_send _ _ hp₀, hrun₀]
    · simp only [attend, serve_send _ _ hp, hrun]
  | signal q =>
    have hsignal {r : Router (.counted L H)} {hd : Handle} {id : WindowId}
        (hid : r.resolve hd = .ok id) : r.signal hd q = q.event.bind fun e ↦ r.deliver id e :=
      Router.signal_of_resolve hid q
    have hsignal₀ := hsignal h.resolve₀
    replace hsignal := hsignal h.resolve
    cases he : q.event with
    | error e =>
      have hrefused₀ : (taken r₀).router.bind (·.signal a₀.handle q) = .error e := by
        rw [he] at hsignal₀
        exact hsignal₀
      have hrefused : (taken r).router.bind (·.signal a.handle q) = .error e := by
        rw [he] at hsignal
        exact hsignal
      refine ⟨.code q.neutral.code, r₀, w₀, r, w, ?_, ?_, h, hw⟩
      · simp only [attend, signal_of_error _ _ hrefused₀]
        rfl
      · simp only [attend, signal_of_error _ _ hrefused]
        rfl
    | ok e =>
      obtain ⟨p₀, p, hp₀, hp, hruns⟩ := h.deliver hm fails e
      obtain ⟨reply, r₀', w₀', r', w', hrun₀, hrun, hrouters, htallies⟩ := hruns w₀ w hw
      rw [he] at hsignal hsignal₀
      replace hsignal₀ := hsignal₀.trans hp₀
      replace hsignal := hsignal.trans hp
      cases reply with
      | none =>
        refine ⟨.code q.neutral.code, r₀', w₀', r', w', ?_, ?_, hrouters, htallies⟩
        · simp only [attend, signal_of_failure _ _ hsignal₀ hrun₀]
          rfl
        · simp only [attend, signal_of_failure _ _ hsignal hrun]
          rfl
      | some reply =>
        refine ⟨.code reply.code, r₀', w₀', r', w', ?_, ?_, hrouters, htallies⟩
        · simp only [attend, signal_of_reply _ _ hsignal₀ hrun₀]
        · simp only [attend, signal_of_reply _ _ hsignal hrun]

/-- All that is done in both windows comes to the same. -/
theorem attendAll_resembles (h : r₀.Resembles n a₀ a r) (hm : ∀ f, m.BlindTo f)
    (hw : Tally.Ahead n a.id w₀ w) (errands : List Errand) : ∃ reports r₀' w₀' r' w',
      (taken r₀).attendAll (m.world (fun _ ↦ true) fails) a₀ w₀ errands =
        (reports, .taken r₀', w₀') ∧
      (taken r).attendAll (m.world (fun _ ↦ true) fails) a w errands = (reports, .taken r', w') ∧
      r₀'.Resembles n a₀ a r' ∧ Tally.Ahead n a.id w₀' w' := by
  induction errands generalizing r₀ r w₀ w with
  | nil => exact ⟨[], r₀, w₀, r, w, rfl, rfl, h, hw⟩
  | cons errand rest ih =>
    obtain ⟨report, r₀', w₀', r', w', hattend₀, hattend, h', hw'⟩ :=
      attend_resembles fails h hm hw errand
    obtain ⟨reports, r₀'', w₀'', r'', w'', hrest₀, hrest, h'', hw''⟩ := ih h' hw'
    refine ⟨report :: reports, r₀'', w₀'', r'', w'', ?_, ?_, h'', hw''⟩
    · simp only [attendAll, hattend₀, hrest₀]
    · simp only [attendAll, hattend, hrest]

end Seat

/-! ### Opening -/

namespace Router

variable {r : Router C}

/-- What is known of a window that was just opened. -/
theorem Agrees.find?_opened (h : r.Agrees) (hroom : r.windows.size < OpenWindows.capacity)
    (d : Descriptor) (l : C.Listener) : (r.opened d l).2.find? r.windows.nextId =
      some (⟨r.windows.nextId, ⟨d, false⟩, l⟩, .idle l) := by
  rw [find?_eq_some_iff, get?_windows_opened h.toInStep, h.receivers_opened hroom,
    h.isNull_nextId hroom]
  exact ⟨if_pos ⟨rfl, rfl⟩, if_pos rfl, rfl, rfl⟩

/-- A window that was just opened has the handle that is reported. -/
theorem Agrees.resolve_opened (h : r.Agrees) (hroom : r.windows.size < OpenWindows.capacity)
    (d : Descriptor) (l : C.Listener) :
    (r.opened d l).2.resolve (r.handles.insert r.windows.nextId).1 = .ok r.windows.nextId := by
  have hfresh : (r.handles.insert r.windows.nextId).1 = r.handles.fresh := by
    rw [Handles.insert_of_none (Handles.TwoWay.get?_of_vacant h.byWindow_vacant_nextId)]
  have hhandle := h.handle?_opened hroom d l r.windows.nextId
  rw [if_pos rfl, ← hfresh] at hhandle
  exact ((h.opened hroom d l).twoWay.resolve_eq_ok_iff _ _).mpr hhandle

/-- The address of the next window. -/
def nextAddress (r : Router C) : Address :=
  ⟨r.windows.nextId, (r.handles.insert r.windows.nextId).1⟩

theorem resembles_opened {r₀ r : Router (.counted L H)} (h₀ : r₀.Agrees) (h : r.Agrees)
    (hroom₀ : r₀.windows.size < OpenWindows.capacity)
    (hroom : r.windows.size < OpenWindows.capacity) (hconfig : r.config = r₀.config)
    (hhost : r.host = r₀.host) (n : Nat) (d : Descriptor) (l : L) :
    (r₀.opened d l).2.Resembles n r₀.nextAddress r.nextAddress (r.opened d l).2 where
  config := hconfig
  host := hhost
  resolve₀ := h₀.resolve_opened hroom₀ d l
  resolve := h.resolve_opened hroom d l
  found := ⟨_, _, _, h₀.find?_opened hroom₀ d l, h.find?_opened hroom d l, rfl, rfl, fun _ ↦ rfl⟩

theorem agrees_hosted (config : Config) (host : Option C.Host) :
    ({ Router.new config with host := host } : Router C).Agrees := by
  cases host with
  | none => exact agrees_new config
  | some host => exact (agrees_new config).step (.hosted host)

end Router

/-- A new window inherits nothing from the past. After whatever was done with the router before, it
goes the way of the first window of a new router with the same settings and host: all that is done
in it has the same results and leads to the same callbacks, up to the id, the handle and the numbers
of sessions and gestures, in whichever callbacks the client fails. -/
theorem new_window_inherits_nothing {s : Roster (.counted L H)} (hs : s.Reachable)
    {r : Router (.counted L H)} (hr : r ∈ s.routers)
    (hroom : r.windows.size < OpenWindows.capacity) {m : Manner L H} (hm : ∀ f, m.BlindTo f)
    (fails : Nat → Bool) (n : Nat) (d : Descriptor) (l : L) :
    let W := m.world (fun _ ↦ true) fails
    let r₀ : Router (.counted L H) := { Router.new r.config with host := r.host }
    ∃ a a₀ r₁ r₀₁,
      (Seat.taken r).serve W (.create d l) ⟨0, n, []⟩ =
        (.ok (some (.created a.id a.handle)), .taken r₁, ⟨0, n, []⟩) ∧
      (Seat.taken r₀).serve W (.create d l) ⟨0, 0, []⟩ =
        (.ok (some (.created a₀.id a₀.handle)), .taken r₀₁, ⟨0, 0, []⟩) ∧
      ∀ errands,
        let out := (Seat.taken r₁).attendAll W a ⟨0, n, []⟩ errands
        let out₀ := (Seat.taken r₀₁).attendAll W a₀ ⟨0, 0, []⟩ errands
        out.1 = out₀.1 ∧ out.2.2.seen = out₀.2.2.seen.map (Callback.renamed (.past n a.id)) := by
  intro W r₀
  have hroom₀ : r₀.windows.size < OpenWindows.capacity := by
    change OpenWindows.empty.size < OpenWindows.capacity
    decide
  have hresembles := Router.resembles_opened (Router.agrees_hosted r.config r.host)
    (hs.agrees r hr) hroom₀ hroom rfl rfl n d l
  refine ⟨r.nextAddress, r₀.nextAddress, (r.opened d l).2, (r₀.opened d l).2, rfl, rfl,
    fun errands ↦ ?_⟩
  have hahead : Tally.Ahead (L := L) (H := H) n r.nextAddress.id ⟨0, 0, []⟩ ⟨0, n, []⟩ :=
    ⟨rfl, rfl, rfl⟩
  obtain ⟨reports, r₀', w₀', r', w', hall₀, hall, -, htallies⟩ :=
    Seat.attendAll_resembles fails hresembles hm hahead errands
  rw [hall₀, hall]
  exact ⟨rfl, htallies.seen⟩

namespace Roster

/-- A client that fails in every second call. -/
def faltering : World (.counted Unit Unit) (Tally Unit Unit) :=
  Manner.dull.world (fun _ ↦ true) fun k ↦ k = 1

/-- A drag session failed to take its first button, and its window was closed while it was open. -/
def dragged : Roster (.counted Unit Unit) :=
  ([.install default, .request (.create default ()),
    .request (.send ⟨1, 1⟩ (.button .zero true .left)), .request (.close ⟨1, 1⟩)] :
      List (Act (.counted Unit Unit) (Tally Unit Unit))).foldl
        (fun s a ↦ (a.perform faltering s ⟨0, 0, []⟩).1) .empty

theorem reachable_dragged : dragged.Reachable := by
  refine .act (.act (.act (.act .empty faltering ⟨0, 0, []⟩ (.install default) ?_) faltering
    ⟨0, 0, []⟩ (.request (.create default ())) ?_) faltering ⟨0, 0, []⟩
    (.request (.send ⟨1, 1⟩ (.button .zero true .left))) ?_) faltering ⟨0, 0, []⟩
    (.request (.close ⟨1, 1⟩)) ?_
  all_goals decide +kernel

end Roster

/-- The window at the position of a window that was closed while it was dragged inherits nothing,
not even if its own drag session fails. -/
theorem dragged_inherits_nothing : ∃ r ∈ Roster.dragged.routers, r.windows.nextId = ⟨1, 3⟩ ∧
    let W := Manner.dull.world (fun _ ↦ true) fun k ↦ k = 1
    let r₀ : Router (.counted Unit Unit) := { Router.new r.config with host := r.host }
    ∃ a a₀ r₁ r₀₁,
      (Seat.taken r).serve W (.create default ()) ⟨0, 1, []⟩ =
        (.ok (some (.created a.id a.handle)), .taken r₁, ⟨0, 1, []⟩) ∧
      (Seat.taken r₀).serve W (.create default ()) ⟨0, 0, []⟩ =
        (.ok (some (.created a₀.id a₀.handle)), .taken r₀₁, ⟨0, 0, []⟩) ∧
      ∀ errands,
        let out := (Seat.taken r₁).attendAll W a ⟨0, 1, []⟩ errands
        let out₀ := (Seat.taken r₀₁).attendAll W a₀ ⟨0, 0, []⟩ errands
        out.1 = out₀.1 ∧ out.2.2.seen = out₀.2.2.seen.map (Callback.renamed (.past 1 a.id)) := by
  have hany : (Roster.dragged.routers.any fun r ↦ decide (r.windows.nextId = ⟨1, 3⟩) &&
      decide (r.windows.size < OpenWindows.capacity)) = true := by decide +kernel
  obtain ⟨r, hr, hall⟩ := List.any_eq_true.mp hany
  simp only [Bool.and_eq_true, decide_eq_true_eq] at hall
  exact ⟨r, hr, hall.1, new_window_inherits_nothing Roster.reachable_dragged hr hall.2
    Manner.blindTo_dull _ 1 default ()⟩

end WindowRouting

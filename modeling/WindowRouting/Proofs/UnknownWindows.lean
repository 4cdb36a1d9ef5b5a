import WindowRouting.Proofs.Agreement
import WindowRouting.Proofs.Locality

/-!
Requests for windows that are not open. A request to close a window, or to deliver an event to it,
looks the id up in one store or in two, and not in the same ones (`Router.close`, `Router.find?`);
as the stores agree, it is refused exactly if the id is the id of no open window, and nothing is
done then (`unknown_windows_refused`). A change of scale looks the id up twice, among the windows
before the host is asked and in both stores before the listener is told
(`Router.rescaleInStages`). The second time it finds what it found the first time, so the course is
that of an event that is looked up once (`Router.InStep.rescaleInStages_eq`).
-/

set_option autoImplicit false
set_option relaxedAutoImplicit false

namespace WindowRouting

variable {C : Client} {σ : Type}

/-- The request is to close the window with an id, or to deliver an event to it. -/
inductive Request.Concerns (id : WindowId) : Request C → Prop
  | close : Concerns id (.close id)
  | send (e : Event) : Concerns id (.send id e)

namespace Router

variable {r : Router C} {id : WindowId} {q : Request C}

/-! ### What is looked up -/

theorem InStep.find?_eq_none_iff (h : r.InStep) : r.find? id = none ↔ r.window? id = none := by
  rw [← Option.not_isSome_iff_eq_none, isSome_find?, ← h.open_eq, Bool.and_self,
    Option.not_isSome_iff_eq_none]
  rfl

theorem InStep.receivers_eq_none_iff (h : r.InStep) :
    r.receivers.get? id = none ↔ r.window? id = none := by
  rw [← Option.not_isSome_iff_eq_none, ← h.open_eq, Option.not_isSome_iff_eq_none]
  rfl

theorem InStep.serve_of_unopened (h : r.InStep) (hq : q.Concerns id) (hid : r.window? id = none) :
    r.serve q = .error (.unknownWindow id) := by
  cases hq with
  | close => simp only [serve, close, h.receivers_eq_none_iff.mpr hid, Except.map]
  | send e => simp only [serve, deliver_of_none (h.find?_eq_none_iff.mpr hid), Except.map]

/-- A request for an open window is not refused. -/
theorem InStep.exists_serve (h : r.InStep) (hq : q.Concerns id) (hid : r.window? id ≠ none) :
    ∃ plan, r.serve q = .ok plan := by
  cases hq with
  | close =>
    obtain ⟨receiver, hreceiver⟩ := Option.ne_none_iff_exists'.mp
      (mt h.receivers_eq_none_iff.mp hid)
    exact ⟨_, by simp only [serve, close, hreceiver, Except.map]; rfl⟩
  | send e =>
    obtain ⟨⟨t, x⟩, hfind⟩ := Option.ne_none_iff_exists'.mp (mt h.find?_eq_none_iff.mp hid)
    exact ⟨_, by simp only [serve, deliver_of_find? hfind, Except.map]; rfl⟩

/-! ### A change of scale, looked up in stages -/

/-- The listener of a window is told of its scale, if the window is found in both stores. -/
def tellScale (r : Router C) (id : WindowId) : Plan C (Router C) (Except Error Reply) :=
  match r.find? id with
  | none => .done (.error (.unknownWindow id)) r
  | some (t, _) => .lastly (.ok .nothing) r (t.call .scaleChanged)

/-- The scale of a window may have changed. The id is looked up among the windows, the host is asked
and the scale is stored, and then the id is looked up again. -/
def rescaleInStages (r : Router C) (id : WindowId) :
    Except Error (Plan C (Router C) (Except Error Reply)) :=
  match r.windows.get? id with
  | none => .error (.unknownWindow id)
  | some _ => .ok <|
    match r.host with
    | none => r.tellScale id
    | some host =>
      .call r (.scaleFactor host id) fun
        | none => .note (.scaleUnknown id) (r.tellScale id)
        | some scale =>
          if validScale scale then
            .note (.scaleChanged id scale) ((r.modifyWindow id (·.withScale scale)).tellScale id)
          else .note (.scaleRefused id scale) (r.tellScale id)

theorem tellScale_of_find? {t : Target C} {x : Receiver C} (h : r.find? id = some (t, x)) :
    r.tellScale id = .lastly (.ok .nothing) r (t.call .scaleChanged) := by
  rw [tellScale, h]

/-- The second look finds the window that the first one found, with the scale that was stored. -/
theorem InStep.rescaleInStages_eq (h : r.InStep) (id : WindowId) :
    r.rescaleInStages id = (r.deliver id .scale).map (·.mapAnswer .ok) := by
  cases hfind : r.find? id with
  | none =>
    have hwindow : r.windows.get? id = none := h.find?_eq_none_iff.mp hfind
    rw [rescaleInStages, hwindow, deliver_of_none hfind]
    rfl
  | some found =>
    obtain ⟨t, x⟩ := found
    obtain ⟨hwindow, -, rfl, -⟩ := find?_eq_some_iff.mp hfind
    have hscaled (scale : Float32) : (r.modifyWindow t.id (·.withScale scale)).tellScale t.id =
        .lastly (.ok .nothing) (r.modifyWindow t.id (·.withScale scale))
          (((Change.scale scale).target t).call .scaleChanged) :=
      tellScale_of_find? (find?_changed_self hfind (.scale scale))
    simp only [rescaleInStages, hwindow, deliver, hfind, handle, rescale, Except.map,
      tellScale_of_find? hfind, hscaled]
    cases r.host with
    | none => rfl
    | some host =>
      simp only [Plan.mapAnswer, Plan.map]
      congr 2
      funext answer
      cases answer with
      | none => rfl
      | some scale =>
        simp only
        split <;> rfl

end Router

/-- Whatever was done with a router before, and whatever its client did: a request to close a window
or to deliver an event to it is refused exactly if no window with its id is open, and no other error
comes of it. When it is refused, the router is as before and so is the world, which was neither left
a notice nor called; when it is not, it has an answer, or the client failed. A change of scale that
is looked up again after the host was asked finds the window again. -/
theorem unknown_windows_refused {s : Roster C} (hs : s.Reachable) {r : Router C}
    (hr : r ∈ s.routers) {id : WindowId} {q : Request C} (hq : q.Concerns id) :
    (∀ {σ : Type} (W : World C σ) (w : σ),
      (((Seat.taken r).serve W q w).1 = .error (.unknownWindow id) ↔ r.window? id = none) ∧
      (((Seat.taken r).serve W q w).1 = .error (.unknownWindow id) →
        (Seat.taken r).serve W q w = (.error (.unknownWindow id), .taken r, w)) ∧
      (r.window? id ≠ none → ∃ answer, ((Seat.taken r).serve W q w).1 = .ok answer)) ∧
    r.rescaleInStages id = (r.deliver id .scale).map (·.mapAnswer .ok) := by
  have hstep := (hs.agrees r hr).toInStep
  refine ⟨fun {σ} W w ↦ ?_, hstep.rescaleInStages_eq id⟩
  have hrefused (hid : r.window? id = none) :
      (Seat.taken r).serve W q w = (.error (.unknownWindow id), .taken r, w) := by
    rw [Seat.serve]
    simp only [Seat.router, Except.bind, hstep.serve_of_unopened hq hid]
  have hserved (hid : r.window? id ≠ none) :
      ∃ answer, ((Seat.taken r).serve W q w).1 = .ok answer := by
    obtain ⟨plan, hplan⟩ := hstep.exists_serve hq hid
    rw [Seat.serve]
    simp only [Seat.router, Except.bind, hplan]
    exact ⟨_, rfl⟩
  have hunopened (herror : ((Seat.taken r).serve W q w).1 = .error (.unknownWindow id)) :
      r.window? id = none := by
    by_contra hid
    obtain ⟨answer, hanswer⟩ := hserved hid
    rw [hanswer] at herror
    cases herror
  exact ⟨⟨hunopened, fun hid ↦ congrArg Prod.fst (hrefused hid)⟩,
    fun herror ↦ hrefused (hunopened herror), hserved⟩

/-- A closed window is not closed again and gets no event. The window that was opened at its
position gets the event, although everything fails there. -/
theorem reopened_unknown : ∃ r ∈ Roster.reopened.routers,
    (Seat.taken r).serve Roster.quiet (.close ⟨1, 1⟩) () =
      (.error (.unknownWindow ⟨1, 1⟩), .taken r, ()) ∧
    (Seat.taken r).serve Roster.quiet (.send ⟨1, 1⟩ .scale) () =
      (.error (.unknownWindow ⟨1, 1⟩), .taken r, ()) ∧
    ∃ answer, ((Seat.taken r).serve (.bare fun _ ↦ true) (.send ⟨1, 3⟩ .scale) ()).1 =
      .ok answer := by
  obtain ⟨r, hcurrent, hnew, hold, -⟩ := Roster.exists_reopened
  have hr := Roster.mem_of_current hcurrent
  have hagrees := Roster.reachable_reopened.agrees r hr
  have hopen (id : WindowId) : (r.window? id).isSome = (r.handle? id).isSome :=
    (hagrees.open_eq id).trans (hagrees.handle_eq id).symm
  have hclosed : r.window? ⟨1, 1⟩ = none := by
    rw [← Option.not_isSome_iff_eq_none, hopen, hold]
    exact Bool.false_ne_true
  have hopened : r.window? ⟨1, 3⟩ ≠ none := by
    rw [← Option.isSome_iff_ne_none, hopen, hnew, Option.isSome_some]
  obtain ⟨hclose, -⟩ := unknown_windows_refused Roster.reachable_reopened hr
    (.close : Request.Concerns ⟨1, 1⟩ (.close ⟨1, 1⟩))
  obtain ⟨hsend, -⟩ := unknown_windows_refused Roster.reachable_reopened hr
    (.send .scale : Request.Concerns ⟨1, 1⟩ (.send ⟨1, 1⟩ .scale))
  obtain ⟨hlive, -⟩ := unknown_windows_refused Roster.reachable_reopened hr
    (.send .scale : Request.Concerns ⟨1, 3⟩ (.send ⟨1, 3⟩ .scale))
  refine ⟨r, hr, ?_, ?_, (hlive (.bare fun _ ↦ true) ()).2.2 hopened⟩
  · exact (hclose Roster.quiet ()).2.1 ((hclose Roster.quiet ()).1.mpr hclosed)
  · exact (hsend Roster.quiet ()).2.1 ((hsend Roster.quiet ()).1.mpr hclosed)

end WindowRouting

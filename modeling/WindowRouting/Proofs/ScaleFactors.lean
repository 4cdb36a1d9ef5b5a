import WindowRouting.Proofs.ScaleLog

/-!
Where the scale factors of the windows come from. In a run of routers every window has the latest
scale factor that the log of the run gives for it, and listeners are shown no other
(`Roster.Scaled.run`); the host is asked for the scale factor of a window only when this may have
changed (`Router.rescales_of_reported`). So whatever the host reports, a window has a positive
finite scale factor as long as it is given no others (`scale_factors_latest`).
-/

set_option autoImplicit false
set_option relaxedAutoImplicit false

namespace WindowRouting

variable {C : Client} {σ : Type} {log new : List ScaleEntry} {e : ScaleEntry}

/-! ### What the host is asked -/

theorem Request.news_ne_reported {i : Nat} (q : Request C) {answer : Option Answer}
    {e : ScaleEntry} (he : e ∈ q.scaleEntries i answer) : e.news ≠ .reported := by
  unfold scaleEntries at he
  split at he
  case h_1 =>
    obtain rfl := List.mem_singleton.mp he
    exact nofun
  case h_2 =>
    obtain ⟨scale, -, rfl⟩ := Option.map_eq_some_iff.mp (Option.mem_toList.mp he)
    exact nofun
  case h_3 => exact nomatch he

theorem Signal.eq_scale_of_event (q : Signal) (hq : q.event = .ok .scale) : q = .scale := by
  cases q with
  | scale => rfl
  | draw context =>
    simp only [event] at hq
    split at hq <;> simp at hq
  | keyPress key => cases key <;> exact nomatch hq
  | keyRelease key => cases key <;> exact nomatch hq
  | _ => exact nomatch hq

/-- The act tells router `r` that the scale of a window may have changed. -/
inductive Act.Rescales (r : Router C) (id : WindowId) : Act C σ → Prop
  | send : Rescales r id (.request (.send id .scale))
  | signal {h : Handle} (hid : r.resolve h = .ok id) : Rescales r id (.signal h .scale)

namespace Router

variable {r r' : Router C} {i : Nat} {id : WindowId} {es : List (Exchange C)}

/-- The host is asked for a scale factor in a change of scale only, and for that of its window. -/
theorem scale_of_deliver {e : Event} {plan : Plan C (Router C) Reply}
    (hplan : r.deliver id e = .ok plan) (htakes : plan.Takes r' es) {x : Exchange C} (hx : x ∈ es)
    {host : C.Host} {asked : WindowId} (hcall : x.call = .scaleFactor host asked) :
    e = .scale ∧ asked = id := by
  unfold deliver at hplan
  split at hplan
  case h_1 => exact nomatch hplan
  case h_2 t receiver hfind =>
    obtain rfl := Except.ok.inj hplan
    obtain ⟨-, -, rfl, -⟩ := find?_eq_some_iff.mp hfind
    by_cases he : e = .scale
    · subst he
      refine ⟨rfl, ?_⟩
      have hasked := (r.course_rescale t).calls.of_takes htakes x hx
      rw [hcall] at hasked
      exact hasked
    · have haddresses := (undisturbed_of_handle he htakes).addresses x hx
      rw [hcall] at haddresses
      exact haddresses.elim

theorem scale_of_serve {q : Request C} {plan : Plan C (Router C) Answer}
    (hplan : r.serve q = .ok plan) (htakes : plan.Takes r' es) {x : Exchange C} (hx : x ∈ es)
    {host : C.Host} {asked : WindowId} (hcall : x.call = .scaleFactor host asked) :
    q = .send asked .scale := by
  -- Most requests call nobody.
  have hsilent {state : Router C} (hdone : r' = state ∧ es = []) : q = .send asked .scale := by
    rw [hdone.2] at hx
    exact nomatch hx
  cases q with
  | send id e =>
    obtain ⟨inner, hinner, rfl⟩ := map_eq_ok hplan
    obtain ⟨_, -, hinnerTakes⟩ := Plan.takes_map htakes
    obtain ⟨rfl, rfl⟩ := scale_of_deliver hinner hinnerTakes hx hcall
    rfl
  | close id =>
    obtain ⟨inner, hinner, rfl⟩ := map_eq_ok hplan
    obtain ⟨_, -, hinnerTakes⟩ := Plan.takes_map htakes
    unfold close at hinner
    split at hinner
    case h_1 => exact nomatch hinner
    case h_2 receiver _ =>
      obtain rfl := Except.ok.inj hinner
      have hcancels := ((r.closed id).course_cancelAll id receiver).calls.of_takes hinnerTakes x hx
      rw [hcall] at hcancels
      exact hcancels.elim
  | resolve h =>
    obtain ⟨_, -, rfl⟩ := map_eq_ok hplan
    exact hsilent htakes
  | create | announce | attachHost | config | handle | window | windows =>
    obtain rfl := Except.ok.inj hplan
    exact hsilent htakes

/-- A report of the host comes from a change of scale of the window that it is about. -/
theorem rescales_of_reported {W : World C σ} {w : σ} {a : Act C σ}
    (he : e ∈ r.scaleEntries W i w a) (hnews : e.news = .reported) :
    e.place.router = i ∧ a.Rescales r e.place.id := by
  have hasked {exchanges : List (Exchange C)}
      (he : e ∈ exchanges.filterMap (·.news? i)) :
      e.place.router = i ∧
        ∃ x ∈ exchanges, ∃ host, x.call = .scaleFactor host e.place.id := by
    obtain ⟨⟨c, answer⟩, hx, hentry⟩ := List.mem_filterMap.mp he
    unfold Exchange.news? at hentry
    split at hentry
    case h_1 =>
      obtain rfl := Option.some.inj hentry
      exact nomatch hnews
    case h_2 host id _ hcall _ =>
      obtain rfl := Option.some.inj hentry
      exact ⟨rfl, _, hx, host, hcall⟩
    case h_3 => exact nomatch hentry
  cases a with
  | request q =>
    simp only [scaleEntries] at he
    split at he
    case h_1 plan hplan =>
      rcases List.mem_append.mp he with hanswer | hcalled
      · exact absurd hnews (q.news_ne_reported hanswer)
      · obtain ⟨hrouter, x, hx, host, hcall⟩ := hasked hcalled
        obtain rfl := scale_of_serve hplan (Plan.takes_run W plan w) hx hcall
        exact ⟨hrouter, .send⟩
    case h_2 => exact nomatch he
  | signal h q =>
    simp only [scaleEntries] at he
    split at he
    case h_1 plan hplan =>
      obtain ⟨hrouter, x, hx, host, hcall⟩ := hasked he
      obtain ⟨id, event, hid, hevent, hdeliver⟩ := signal_eq_ok hplan
      obtain ⟨rfl, rfl⟩ := scale_of_deliver hdeliver (Plan.takes_run W plan w) hx hcall
      obtain rfl := q.eq_scale_of_event hevent
      exact ⟨hrouter, .signal hid⟩
    case h_2 => exact nomatch he
  | install config => exact nomatch he
  | reinstall n => exact nomatch he
  | uninstall => exact nomatch he
  | elapse change => exact nomatch he

theorem InStep.of_step (h : r.InStep) (hstep : r.Step r') : r'.InStep := by
  cases hstep with
  | stay => exact h
  | pointer id p => exact inStep_modifyReceiver h id _
  | scrolling id s => exact inStep_modifyReceiver h id _
  | rescaled id scale _ => exact inStep_modifyWindow h id _
  | closed hreceiver => exact inStep_closed h hreceiver
  | announced patch => exact inStep_announceWith h _
  | hosted host => exact inStep_attachHost h host

theorem InStep.of_serve (h : r.InStep) {q : Request C} {plan : Plan C (Router C) Answer}
    (hplan : r.serve q = .ok plan) (W : World C σ) (w : σ) : (plan.run W w).2.1.InStep := by
  rcases step_of_serve hplan (Plan.leaves_run W plan w) with ⟨d, listener, -, heq⟩ | hstep
  · exact heq ▸ inStep_opened h d listener
  · exact h.of_step hstep

end Router

/-! ### Runs -/

namespace Roster

/-- The windows of all routers have the latest scale factors that a log gives to them, and it shows
listeners no others. -/
structure Scaled (s : Roster C) (log : List ScaleEntry) : Prop where
  inStep : ∀ r ∈ s.routers, r.InStep
  scaledBy : ∀ (i : Nat) (r : Router C), s.routers[i]? = some r → r.ScaledBy i log
  shown : ShownLatest log

variable {s s' : Roster C}

/-- New routers have no windows. -/
theorem Scaled.of_routers (hs : s.Scaled log) (h : ∀ (j : Nat) (r' : Router C),
    s'.routers[j]? = some r' → s.routers[j]? = some r' ∨ ∃ config, r' = .new config) :
    s'.Scaled log where
  inStep r' hr' := by
    obtain ⟨j, hj⟩ := List.mem_iff_getElem?.mp hr'
    rcases h j r' hj with hold | ⟨config, rfl⟩
    · exact hs.inStep r' (List.mem_of_getElem? hold)
    · exact Router.inStep_new config
  scaledBy j r' hr' := by
    rcases h j r' hr' with hold | ⟨config, rfl⟩
    · exact hs.scaledBy j r' hold
    · exact fun id window hid ↦ nomatch (IdMap.get?_empty id).symm.trans hid
  shown := hs.shown

/-- The router in the seat accounts for what it has become, and the others stay as they are. -/
theorem Scaled.update {i : Nat} {r r' : Router C} (hs : s.Scaled log)
    (hcurrent : s.current = some (i, r)) (hnew : Router.Accounts i r new r')
    (hr' : r'.InStep) : (s.update (.taken r')).Scaled (log ++ new) := by
  have hr := hs.scaledBy i r (current_eq_some_iff.mp hcurrent).2
  rw [update_of_current hcurrent]
  refine ⟨fun q hq ↦ ?_, fun j q hq ↦ ?_, hnew.shown log hr hs.shown⟩
  · rcases List.mem_or_eq_of_mem_set hq with hold | rfl
    · exact hs.inStep q hold
    · exact hr'
  · rw [getElem?_set_of_current hcurrent] at hq
    split at hq
    case isTrue hij =>
      obtain rfl := Option.some.inj hq
      exact hij ▸ hnew.scales log hr
    case isFalse hij =>
      intro id window hid
      rw [latestScale_append_of_router_ne fun e he ↦ hnew.router_eq e he ▸ hij]
      exact hs.scaledBy j q hq id window hid

theorem Scaled.request (hs : s.Scaled log) (W : World C σ) (w : σ) (q : Request C) :
    ((Act.request q).perform W s w).1.Scaled (log ++ s.scaleEntries W w (.request q)) := by
  cases hcurrent : s.current with
  | none =>
    simp only [scaleEntries, hcurrent, List.append_nil, Act.perform, update_of_none hcurrent]
    exact hs
  | some found =>
    obtain ⟨i, r⟩ := found
    have hr : r.InStep := hs.inStep r (List.mem_of_getElem? (current_eq_some_iff.mp hcurrent).2)
    have hrouter : (Seat.taken r).router.bind (·.serve q) = r.serve q := rfl
    simp only [scaleEntries, hcurrent, Router.scaleEntries, Act.perform, seat_of_current hcurrent,
      Seat.serve, hrouter]
    cases hserve : r.serve q with
    | error e => exact hs.update hcurrent (Router.accounts_same rfl) hr
    | ok plan =>
      exact hs.update hcurrent (Router.accounts_serve hr hserve W w) (hr.of_serve hserve W w)

theorem Scaled.signal (hs : s.Scaled log) (W : World C σ) (w : σ) (h : Handle) (q : Signal) :
    ((Act.signal h q).perform W s w).1.Scaled (log ++ s.scaleEntries W w (.signal h q)) := by
  cases hcurrent : s.current with
  | none =>
    simp only [scaleEntries, hcurrent, List.append_nil, Act.perform, update_of_none hcurrent]
    exact hs
  | some found =>
    obtain ⟨i, r⟩ := found
    have hr : r.InStep := hs.inStep r (List.mem_of_getElem? (current_eq_some_iff.mp hcurrent).2)
    have hrouter : (Seat.taken r).router.bind (·.signal h q) = r.signal h q := rfl
    simp only [scaleEntries, hcurrent, Router.scaleEntries, Act.perform, seat_of_current hcurrent,
      Seat.signal, hrouter]
    cases hsignal : r.signal h q with
    | error e => exact hs.update hcurrent (Router.accounts_same rfl) hr
    | ok plan =>
      obtain ⟨id, e, -, -, hdeliver⟩ := Router.signal_eq_ok hsignal
      have hnew : Router.Accounts i r _ _ :=
        Router.accounts_deliver hdeliver (Plan.takes_run W plan w)
      have hr' := hr.of_step (Router.step_of_signal hsignal (Plan.leaves_run W plan w))
      have hscaled := hs.update hcurrent hnew hr'
      rcases hrun : plan.run W w with ⟨_ | reply, r', w'⟩
      all_goals
        rw [hrun] at hscaled
        simp only [hrun]
        exact hscaled

theorem Scaled.perform (hs : s.Scaled log) (W : World C σ) (w : σ) (a : Act C σ) :
    (a.perform W s w).1.Scaled (log ++ s.scaleEntries W w a) := by
  -- An act that comes to no router says nothing about scale factors.
  have hsilent (hacts : ∀ i r, Router.scaleEntries W i r w a = []) :
      s.scaleEntries W w a = [] := by
    unfold scaleEntries
    split
    · exact hacts _ _
    · rfl
  cases a with
  | request q => exact hs.request W w q
  | signal h q => exact hs.signal W w h q
  | install config =>
    rw [hsilent fun _ _ ↦ rfl, List.append_nil]
    refine hs.of_routers fun j r' hr' ↦ ?_
    change (s.routers ++ [.new config])[j]? = some r' at hr'
    rcases Nat.lt_or_ge j s.routers.length with hlt | hge
    · rw [List.getElem?_append_left hlt] at hr'
      exact Or.inl hr'
    · rw [List.getElem?_append_right hge] at hr'
      exact Or.inr ⟨config, List.mem_singleton.mp (List.mem_of_getElem? hr')⟩
  | reinstall n =>
    rw [hsilent fun _ _ ↦ rfl, List.append_nil]
    refine hs.of_routers fun j r' hr' ↦ Or.inl ?_
    simp only [Act.perform] at hr'
    split at hr' <;> exact hr'
  | uninstall =>
    rw [hsilent fun _ _ ↦ rfl, List.append_nil]
    exact hs.of_routers fun j r' hr' ↦ Or.inl hr'
  | elapse change =>
    rw [hsilent fun _ _ ↦ rfl, List.append_nil]
    exact hs.of_routers fun j r' hr' ↦ Or.inl hr'

theorem Scaled.run {W : World C σ} {s : Roster C × σ} (hs : s.1.Scaled log)
    (acts : List (Act C σ)) : (Roster.run W s acts).1.Scaled (log ++ scaleLog W s acts) := by
  induction acts generalizing s log with
  | nil => exact (List.append_nil log).symm ▸ hs
  | cons a acts ih =>
    rw [scaleLog, ← List.append_assoc]
    exact ih (hs.perform W s.2 a)

theorem scaled_empty : (Roster.empty : Roster C).Scaled [] where
  inStep := nofun
  scaledBy := nofun
  shown before e after heq := by simp at heq

end Roster

/-- In every run of routers, with whatever hosts, whatever these answer and whatever fails: every
open window has the scale factor that the log gave to it last, that is the one it was created with,
or one that was written to it as it was announced, or one that the host reported when it was asked
for that of this window, if the report was a positive finite number. Listeners are shown the scale
factors that were the latest when they were called. The host is asked for the scale factor of a
window only when this may have changed. So if windows are created with positive finite scale factors
and no others are written to them, they have no others and none are shown. -/
theorem scale_factors_latest (W : World C σ) (w : σ) (acts : List (Act C σ)) :
    (∀ (i : Nat) (r : Router C) (id : WindowId) (window : Window),
      (Roster.run W (.empty, w) acts).1.routers[i]? = some r → r.window? id = some window →
      latestScale (scaleLog W (.empty, w) acts) ⟨i, id⟩ = some window.scaleFactor) ∧
    (∀ before e after, scaleLog W (.empty, w) acts = before ++ e :: after → e.news = .shown →
      latestScale before e.place = some e.scale) ∧
    (∀ before a after, acts = before ++ a :: after →
      let s := Roster.run W (.empty, w) before
      ∀ e ∈ s.1.scaleEntries W s.2 a, e.news = .reported →
        ∃ r, s.1.current = some (e.place.router, r) ∧ a.Rescales r e.place.id) ∧
    ((∀ e ∈ scaleLog W (.empty, w) acts, e.news = .created ∨ e.news = .written →
        PositiveFinite e.scale) →
      (∀ (i : Nat) (r : Router C) (id : WindowId) (window : Window),
        (Roster.run W (.empty, w) acts).1.routers[i]? = some r → r.window? id = some window →
        PositiveFinite window.scaleFactor) ∧
      ∀ e ∈ scaleLog W (.empty, w) acts, e.news = .shown → PositiveFinite e.scale) := by
  have hscaled := (Roster.scaled_empty.run (W := W) (s := (.empty, w)) acts)
  rw [List.nil_append] at hscaled
  refine ⟨fun i r id window hr hid ↦ hscaled.scaledBy i r hr id window hid, hscaled.shown,
    fun before a _ _ e he hnews ↦ ?_, fun hgiven ↦ ?_⟩
  · unfold Roster.scaleEntries at he
    split at he
    case h_1 i r hcurrent =>
      obtain ⟨rfl, hrescales⟩ := Router.rescales_of_reported he hnews
      exact ⟨r, hcurrent, hrescales⟩
    case h_2 => exact nomatch he
  have hlatest {log : List ScaleEntry} {place : Place} {scale : Float32}
      (hlog : log ⊆ scaleLog W (.empty, w) acts) (h : latestScale log place = some scale) :
      PositiveFinite scale := by
    obtain ⟨⟨news, place, scale⟩, he, hgives, rfl⟩ := exists_of_latestScale h
    cases news with
    | created => exact hgiven _ (hlog he) (Or.inl rfl)
    | written => exact hgiven _ (hlog he) (Or.inr rfl)
    | reported => exact of_decide_eq_true hgives
    | shown => exact nomatch hgives
  refine ⟨fun i r id window hr hid ↦ ?_, fun e he hshown ↦ ?_⟩
  · exact hlatest (List.Subset.refl _) (hscaled.scaledBy i r hr id window hid)
  · obtain ⟨before, after, heq⟩ := List.append_of_mem he
    refine hlatest (fun x hx ↦ ?_) (hscaled.shown before e after heq hshown)
    rw [heq]
    exact List.mem_append_left _ hx

/-- The host reports what the world has in store for it, and fails where that is missing. -/
def World.reporting : World .bare (List (Option (Option Float32))) where
  note _ w := w
  answer
    | .scaleFactor _ _, report :: rest => (report, rest)
    | c, w => (some c.bareAnswer, w)

/-- The host of a window that may have changed its scale reports what is no number, the negative
zero and nothing; then two, it fails, and it reports the infinity. -/
def wildReports : List (Option (Option Float32)) :=
  [some (some (.ofBits 0x7FC00000)), some (some (.ofBits 0x80000000)), some none,
    some (some (.ofBits 0x40000000)), none, some (some (.ofBits 0x7F800000))]

def rescaledWildly : List (Act .bare (List (Option (Option Float32)))) :=
  [.install default, .request (.attachHost ()), .request (.create default ())] ++
    List.replicate 6 (.request (.send ⟨1, 1⟩ .scale))

/-- The window has the scale factor two then, and it is positive and finite. -/
theorem rescaled_wildly : ∃ r window,
    (Roster.run World.reporting (.empty, wildReports) rescaledWildly).1.routers[0]? = some r ∧
      r.window? ⟨1, 1⟩ = some window ∧ some window.scaleFactor = some (.ofBits 0x40000000) ∧
        PositiveFinite window.scaleFactor := by
  have hany : ((Roster.run World.reporting (.empty, wildReports) rescaledWildly).1.routers[0]?.any
      fun r ↦ (r.window? ⟨1, 1⟩).isSome) = true := by decide +kernel
  obtain ⟨r, hr, hopen⟩ := (Option.any_eq_true _ _).mp hany
  obtain ⟨window, hid⟩ := Option.isSome_iff_exists.mp hopen
  obtain ⟨hlatest, -, -, hpositive⟩ :=
    scale_factors_latest World.reporting wildReports rescaledWildly
  refine ⟨r, window, hr, hid, ?_, (hpositive (by decide +kernel)).1 0 r ⟨1, 1⟩ window hr hid⟩
  exact (hlatest 0 r ⟨1, 1⟩ window hr hid).symm.trans (by decide +kernel)

end WindowRouting

import Mathlib.Data.List.Induction
import WindowRouting.Proofs.Steps.Router

/-!
Watched runs. A run is watched with tickets: the sessions and gestures of all routers carry them,
the windows are numbered by the act that opened them, and the history of all calls is kept
(`watch`). Each act comes to a chain of steps of one window or to nothing (`moves_or_rests`), and
the stores of all routers stay in step (`inStep_watch`).
-/

set_option autoImplicit false
set_option relaxedAutoImplicit false

namespace WindowRouting

open Relation

variable {C : Client} {σ : Type}

/-- The request with the listener of a new window numbered `n`. -/
def Request.ticketed (n : Nat) : Request C → Request C.ticketed
  | .create d listener => .create d ⟨n, listener⟩
  | .close id => .close id
  | .announce patch => .announce patch
  | .attachHost host => .attachHost host
  | .send id e => .send id e
  | .config => .config
  | .handle id => .handle id
  | .resolve h => .resolve h
  | .window id => .window id
  | .windows => .windows

/-- The act with the listener of a new window numbered `n`. It leaves the history as it is. -/
def Act.ticketed (n : Nat) : Act C σ → Act C.ticketed (σ × History C)
  | .install config => .install config
  | .reinstall i => .reinstall i
  | .uninstall => .uninstall
  | .request q => .request (q.ticketed n)
  | .signal h q => .signal h q
  | .elapse change => .elapse fun w ↦ (change w.1, w.2)

/-- A run that is watched, as far as it has gone. -/
structure Watch (C : Client) (σ : Type) where
  roster : Roster C.ticketed
  world : σ
  history : History C
  /-- The number of acts so far. -/
  acts : Nat

/-- A window: the number of its router and its id there. -/
structure Place where
  router : Nat
  id : WindowId
deriving DecidableEq

namespace Watch

/-- One more act. -/
def step (W : World C σ) (s : Watch C σ) (a : Act C σ) : Watch C σ :=
  match (a.ticketed s.acts).perform (W.watched s.acts) s.roster (s.world, s.history) with
  | (roster, world, history) => ⟨roster, world, history, s.acts + 1⟩

/-- The receiver of an open window. -/
def receiver? (s : Watch C σ) (place : Place) : Option (Receiver C.ticketed) :=
  s.roster.routers[place.router]?.bind fun r ↦ r.receivers.get? place.id

/-- What an act means for a window. -/
inductive Means (s : Watch C σ) : Act C σ → Place → Cause C → Prop
  | create {i : Nat} {r : Router C.ticketed} (hcurrent : s.roster.current = some (i, r))
      (d : Descriptor) (listener : C.Listener) :
      Means s (.request (.create d listener)) ⟨i, r.windows.nextId⟩ (.opening ⟨s.acts, listener⟩)
  | close {i : Nat} {r : Router C.ticketed} (hcurrent : s.roster.current = some (i, r))
      (id : WindowId) : Means s (.request (.close id)) ⟨i, id⟩ .closing
  | send {i : Nat} {r : Router C.ticketed} (hcurrent : s.roster.current = some (i, r))
      (id : WindowId) (e : Event) : Means s (.request (.send id e)) ⟨i, id⟩ (.event e)
  | signal {i : Nat} {r : Router C.ticketed} (hcurrent : s.roster.current = some (i, r))
      {h : Handle} {q : Signal} {id : WindowId} {e : Event} (hid : r.resolve h = .ok id)
      (he : q.event = .ok e) : Means s (.signal h q) ⟨i, id⟩ (.event e)

/-- From `s` to `s'`, the window at a place went through a chain of steps, and no other did. -/
structure Moves (s : Watch C σ) (place : Place) (cause : Cause C) (s' : Watch C σ) : Prop where
  steps : ∃ cfg, ReflTransGen (Receiver.Step s.acts place.id cfg cause)
    (s.receiver? place, s.history) (s'.receiver? place, s'.history)
  others : ∀ other, place ≠ other → s'.receiver? other = s.receiver? other

/-- From `s` to `s'`, nothing happened to any window. -/
structure Rests (s s' : Watch C σ) : Prop where
  receivers : ∀ place, s'.receiver? place = s.receiver? place
  history : s'.history = s.history

/-- The stores of all routers are in step. -/
def InStep (s : Watch C σ) : Prop := ∀ r ∈ s.roster.routers, r.InStep

variable {W : World C σ} {s : Watch C σ}

@[simp] theorem acts_step (a : Act C σ) : (s.step W a).acts = s.acts + 1 := rfl

/-- What an act makes of the routers. -/
theorem turn_step (W : World C σ) (s : Watch C σ) (a : Act C σ) :
    (a.ticketed s.acts).Turn s.roster (s.step W a).roster.routers :=
  Act.turn_perform (W.watched s.acts) s.roster (s.world, s.history) (a.ticketed s.acts)

theorem inStep_of_current (hs : s.InStep) {i : Nat} {r : Router C.ticketed}
    (hcurrent : s.roster.current = some (i, r)) : r.InStep :=
  hs r (List.mem_of_getElem? (Roster.current_eq_some_iff.mp hcurrent).2)

theorem receiver?_of_current {i : Nat} {r : Router C.ticketed}
    (hcurrent : s.roster.current = some (i, r)) (id : WindowId) :
    s.receiver? ⟨i, id⟩ = r.receivers.get? id := by
  simp [receiver?, (Roster.current_eq_some_iff.mp hcurrent).2]

/-- The receivers after the router in the seat has become `r'`. -/
theorem receiver?_update {i : Nat} {r r' : Router C.ticketed} {world : σ} {history : History C}
    {acts : Nat} (hcurrent : s.roster.current = some (i, r)) (place : Place) :
    (Watch.mk (s.roster.update (.taken r')) world history acts).receiver? place =
      if place.router = i then r'.receivers.get? place.id else s.receiver? place := by
  rw [Roster.update_of_current hcurrent, receiver?, receiver?]
  simp only [Roster.getElem?_set_of_current hcurrent]
  split
  case isTrue hi => rw [if_pos hi.symm, Option.bind_some]
  case isFalse hi => rw [if_neg (Ne.symm hi)]

theorem inStep_update (hs : s.InStep) {i : Nat} {r r' : Router C.ticketed} {world : σ}
    {history : History C} {acts : Nat} (hcurrent : s.roster.current = some (i, r))
    (hr' : r'.InStep) :
    (Watch.mk (s.roster.update (.taken r')) world history acts).InStep := by
  intro q hq
  rw [Roster.update_of_current hcurrent] at hq
  rcases List.mem_or_eq_of_mem_set hq with hold | rfl
  · exact hs q hold
  · exact hr'

/-! ### One act -/

theorem moves_of_changes {i : Nat} {r r' : Router C.ticketed} {id : WindowId} {cause : Cause C}
    {world : σ} {history : History C} {acts : Nat} (hcurrent : s.roster.current = some (i, r))
    (hchanges : r.Changes s.acts id cause s.history r' history) :
    s.Moves ⟨i, id⟩ cause ⟨s.roster.update (.taken r'), world, history, acts⟩ where
  steps := by
    refine ⟨r.config, ?_⟩
    rw [receiver?_of_current hcurrent, receiver?_update hcurrent, if_pos rfl]
    exact hchanges.steps
  others other hother := by
    rw [receiver?_update hcurrent]
    split
    case isTrue hi =>
      have hid : id ≠ other.id := fun hid ↦ hother (by cases other; simp_all)
      obtain ⟨j, otherId⟩ := other
      obtain rfl : j = i := hi
      rw [hchanges.others otherId hid, receiver?_of_current hcurrent]
    case isFalse => rfl

theorem rests_of_same {i : Nat} {r r' : Router C.ticketed} {world : σ} {acts : Nat}
    (hcurrent : s.roster.current = some (i, r)) (hsame : r'.receivers = r.receivers) :
    s.Rests ⟨s.roster.update (.taken r'), world, s.history, acts⟩ where
  receivers place := by
    rw [receiver?_update hcurrent]
    split
    case isTrue hi =>
      obtain ⟨j, id⟩ := place
      obtain rfl : j = i := hi
      rw [hsame, receiver?_of_current hcurrent]
    case isFalse => rfl
  history := rfl

theorem means_of_meant {i : Nat} {r : Router C.ticketed} (hcurrent : s.roster.current = some (i, r))
    {q : Request C} {id : WindowId} {cause : Cause C}
    (hmeant : r.Meant (q.ticketed s.acts) id cause) : s.Means (.request q) ⟨i, id⟩ cause := by
  cases q with
  | create d listener =>
    cases hmeant with
    | create => exact .create hcurrent d listener
  | close id =>
    cases hmeant with
    | close => exact .close hcurrent id
  | send id e =>
    cases hmeant with
    | send => exact .send hcurrent id e
  | announce patch => exact nomatch hmeant
  | attachHost host => exact nomatch hmeant
  | config => exact nomatch hmeant
  | handle id => exact nomatch hmeant
  | resolve h => exact nomatch hmeant
  | window id => exact nomatch hmeant
  | windows => exact nomatch hmeant

/-- A request at a seat that is taken either follows a plan or leaves everything as it was. -/
theorem reaches_serve (W : World C σ) (act : Nat) (r : Router C.ticketed) (q : Request C.ticketed)
    (w : σ) (h : History C) :
    ∃ r' w' h', ((Seat.taken r).serve (W.watched act) q (w, h)).2 = (.taken r', w', h') ∧
      ((∃ plan, r.serve q = .ok plan ∧ plan.Reaches act h r' h') ∨
        (∃ e, r.serve q = .error e) ∧ r' = r ∧ h' = h) := by
  have hrouter : (Seat.taken r).router.bind (·.serve q) = r.serve q := rfl
  simp only [Seat.serve, hrouter]
  cases hserve : r.serve q with
  | error e => exact ⟨r, w, h, rfl, Or.inr ⟨⟨e, rfl⟩, rfl, rfl⟩⟩
  | ok plan => exact ⟨_, _, _, rfl, Or.inl ⟨plan, rfl, Plan.reaches_run W act plan w h⟩⟩

/-- A signal at a seat that is taken either follows a plan or leaves everything as it was. -/
theorem reaches_signal (W : World C σ) (act : Nat) (r : Router C.ticketed) (hd : Handle)
    (q : Signal) (w : σ) (h : History C) :
    ∃ r' w' h', ((Seat.taken r).signal (W.watched act) hd q (w, h)).2 = (.taken r', w', h') ∧
      ((∃ plan, r.signal hd q = .ok plan ∧ plan.Reaches act h r' h') ∨
        (∃ e, r.signal hd q = .error e) ∧ r' = r ∧ h' = h) := by
  have hrouter : (Seat.taken r).router.bind (·.signal hd q) = r.signal hd q := rfl
  simp only [Seat.signal, hrouter]
  cases hsignal : r.signal hd q with
  | error e => exact ⟨r, _, h, rfl, Or.inr ⟨⟨e, rfl⟩, rfl, rfl⟩⟩
  | ok plan =>
    have hreaches := Plan.reaches_run W act plan w h
    cases hrun : plan.run (W.watched act) (w, h) with
    | mk reply out =>
      rw [hrun] at hreaches
      obtain ⟨r', w', h'⟩ := out
      cases reply with
      | none => exact ⟨r', _, h', by simp only [hrun]; rfl, Or.inl ⟨plan, rfl, hreaches⟩⟩
      | some reply => exact ⟨r', w', h', by simp only [hrun], Or.inl ⟨plan, rfl, hreaches⟩⟩

/-- A new router has no windows. -/
theorem receiver?_install (config : Config) (place : Place) :
    (s.step W (.install config)).receiver? place = s.receiver? place := by
  simp only [step, Act.ticketed, Act.perform, receiver?]
  rcases Nat.lt_trichotomy place.router s.roster.routers.length with hlt | heq | hgt
  · rw [List.getElem?_append_left hlt]
  · rw [heq, List.getElem?_concat_length, List.getElem?_eq_none (Nat.le_refl _)]
    exact IdMap.get?_empty place.id
  · rw [List.getElem?_eq_none (by rw [List.length_append]; exact hgt),
      List.getElem?_eq_none (Nat.le_of_lt hgt)]

theorem moves_or_rests_request (hs : s.InStep) (q : Request C) :
    (s.step W (.request q)).InStep ∧
      ((∃ place cause, s.Means (.request q) place cause ∧
        s.Moves place cause (s.step W (.request q))) ∨ s.Rests (s.step W (.request q))) := by
  cases hcurrent : s.roster.current with
  | none =>
    have hstep : s.step W (.request q) = { s with acts := s.acts + 1 } := by
      simp only [step, Act.ticketed, Act.perform, Roster.seat_of_none hcurrent,
        Roster.update_of_none hcurrent]
      rfl
    rw [hstep]
    exact ⟨hs, Or.inr ⟨fun _ ↦ rfl, rfl⟩⟩
  | some found =>
    obtain ⟨i, r⟩ := found
    obtain ⟨r', w', h', hserve, hcases⟩ :=
      reaches_serve W s.acts r (q.ticketed s.acts) s.world s.history
    have hstep : s.step W (.request q) = ⟨s.roster.update (.taken r'), w', h', s.acts + 1⟩ := by
      simp only [step, Act.ticketed, Act.perform, Roster.seat_of_current hcurrent, hserve]
    rw [hstep]
    have hr : r.InStep := inStep_of_current hs hcurrent
    rcases hcases with ⟨plan, hplan, hp⟩ | ⟨-, rfl, rfl⟩
    · rcases Router.changes_of_serve hr hplan hp with ⟨id, cause, hmeant, hchanges⟩ | hsame
      · refine ⟨inStep_update hs hcurrent hchanges.inStep, Or.inl ⟨⟨i, id⟩, cause, ?_, ?_⟩⟩
        · exact means_of_meant hcurrent hmeant
        · exact moves_of_changes hcurrent hchanges
      · obtain ⟨hreceivers, rfl, hr'⟩ := hsame
        exact ⟨inStep_update hs hcurrent hr', Or.inr (rests_of_same hcurrent hreceivers)⟩
    · exact ⟨inStep_update hs hcurrent hr, Or.inr (rests_of_same hcurrent rfl)⟩

theorem moves_or_rests_signal (hs : s.InStep) (hd : Handle) (q : Signal) :
    (s.step W (.signal hd q)).InStep ∧
      ((∃ place cause, s.Means (.signal hd q) place cause ∧
        s.Moves place cause (s.step W (.signal hd q))) ∨ s.Rests (s.step W (.signal hd q))) := by
  cases hcurrent : s.roster.current with
  | none =>
    have hstep : ∃ w', s.step W (.signal hd q) = ⟨s.roster, w', s.history, s.acts + 1⟩ := by
      simp only [step, Act.ticketed, Act.perform, Roster.seat_of_none hcurrent,
        Roster.update_of_none hcurrent]
      exact ⟨_, rfl⟩
    obtain ⟨w', hstep⟩ := hstep
    rw [hstep]
    exact ⟨hs, Or.inr ⟨fun _ ↦ rfl, rfl⟩⟩
  | some found =>
    obtain ⟨i, r⟩ := found
    obtain ⟨r', w', h', hsignal, hcases⟩ := reaches_signal W s.acts r hd q s.world s.history
    have hstep : s.step W (.signal hd q) = ⟨s.roster.update (.taken r'), w', h', s.acts + 1⟩ := by
      simp only [step, Act.ticketed, Act.perform, Roster.seat_of_current hcurrent, hsignal]
    rw [hstep]
    have hr : r.InStep := inStep_of_current hs hcurrent
    rcases hcases with ⟨plan, hplan, hp⟩ | ⟨-, rfl, rfl⟩
    · obtain ⟨id, e, hid, he, hdeliver⟩ := Router.signal_eq_ok hplan
      have hchanges := Router.changes_of_deliver hr hdeliver hp
      refine ⟨inStep_update hs hcurrent hchanges.inStep, Or.inl ⟨⟨i, id⟩, .event e, ?_, ?_⟩⟩
      · exact .signal hcurrent hid he
      · exact moves_of_changes hcurrent hchanges
    · exact ⟨inStep_update hs hcurrent hr, Or.inr (rests_of_same hcurrent rfl)⟩

/-- What one act comes to: a chain of steps of one window, or nothing. -/
theorem moves_or_rests (hs : s.InStep) (a : Act C σ) : (s.step W a).InStep ∧
    ((∃ place cause, s.Means a place cause ∧ s.Moves place cause (s.step W a)) ∨
      s.Rests (s.step W a)) := by
  cases a with
  | install config =>
    refine ⟨fun r hr ↦ ?_, Or.inr ⟨fun place ↦ ?_, rfl⟩⟩
    · rcases List.mem_append.mp hr with hold | hnew
      · exact hs r hold
      · rw [List.mem_singleton.mp hnew]
        exact Router.inStep_new config
    · exact receiver?_install config place
  | reinstall n =>
    have hrouters : (s.step W (.reinstall n)).roster.routers = s.roster.routers := by
      simp only [step, Act.ticketed, Act.perform]
      split <;> rfl
    refine ⟨fun r hr ↦ hs r (hrouters ▸ hr), Or.inr ⟨fun place ↦ ?_, rfl⟩⟩
    rw [receiver?, hrouters, receiver?]
  | uninstall => exact ⟨hs, Or.inr ⟨fun _ ↦ rfl, rfl⟩⟩
  | elapse change => exact ⟨hs, Or.inr ⟨fun _ ↦ rfl, rfl⟩⟩
  | request q => exact moves_or_rests_request hs q
  | signal hd q => exact moves_or_rests_signal hs hd q

end Watch

/-! ### Runs -/

/-- The run of some acts. There are no routers when it starts. -/
def watch (W : World C σ) (w : σ) (acts : List (Act C σ)) : Watch C σ :=
  acts.foldl (Watch.step W) ⟨.empty, w, [], 0⟩

variable {W : World C σ} {w : σ}

theorem watch_snoc (acts : List (Act C σ)) (a : Act C σ) :
    watch W w (acts ++ [a]) = (watch W w acts).step W a := by
  rw [watch, List.foldl_append]
  rfl

@[simp] theorem acts_watch (acts : List (Act C σ)) : (watch W w acts).acts = acts.length := by
  induction acts using List.reverseRecOn with
  | nil => rfl
  | append_singleton acts a ih => rw [watch_snoc, Watch.acts_step, ih, List.length_append]; rfl

theorem inStep_watch (acts : List (Act C σ)) : (watch W w acts).InStep := by
  induction acts using List.reverseRecOn with
  | nil => exact fun r hr ↦ absurd hr nofun
  | append_singleton acts a ih =>
    rw [watch_snoc]
    exact (Watch.moves_or_rests ih a).1

/-! ### Runs that can be computed -/

/-- The client of which there is only one of each kind. -/
def Client.bare : Client := ⟨Unit, Unit, Unit, Unit⟩

/-- What the listener of the bare client answers. -/
def WindowCall.bareAnswer : (call : WindowCall) → call.Answer .bare
  | .hitTest _ => HitTest.client
  | .keyDown _ | .keyUp _ => false
  | .draw _ | .scaleChanged | .motion _ | .leave | .beginDrag _ _ | .scroll _ _
  | .beginGesture _ => ()

/-- What the bare client answers. -/
def Call.bareAnswer : (c : Call .bare) → c.Answer
  | .window _ _ _ call => call.bareAnswer
  | .drag _ _ | .gesture _ _ => ()
  | .scaleFactor _ _ => none

/-- The world of the bare client, in which the calls that `fails` picks fail. -/
def World.bare (fails : Call .bare → Bool) : World .bare Unit where
  note _ w := w
  answer c w := (if fails c then none else some c.bareAnswer, w)

end WindowRouting

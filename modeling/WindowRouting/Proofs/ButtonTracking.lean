import WindowRouting.Proofs.Boundary
import WindowRouting.Proofs.Segmentation

/-!
Held buttons in runs. The presses and releases that a window is told of, by id or by handle, are
changes of a set of native numbers (`ButtonChange.apply`): only the numbers from `1` to `31` count,
and a press does not count when the listener fails in it as it is asked for a session. After every
run the word of held buttons of a window has the bits of this set, whatever else happened and
whatever failed, and the window has a drag session exactly while the set is not empty
(`Pointer.Tracks`, `tracks_watch`). So the set decides who receives a motion and whether the window
is told that the pointer left it, and a change that adds nothing to it and takes nothing away has no
effect at all (`held_buttons_decide`).
-/

set_option autoImplicit false
set_option relaxedAutoImplicit false

namespace WindowRouting

open Relation

variable {C : Client} {σ : Type}

/-! ### Changes of the set -/

/-- The press or the release of a button with a native number. -/
structure ButtonChange where
  pressed : Bool
  number : Int
deriving DecidableEq, Repr

namespace ButtonChange

/-- The number is one of those that count. -/
def Tracked (c : ButtonChange) : Prop := 1 ≤ c.number ∧ c.number ≤ 31

instance (c : ButtonChange) : Decidable c.Tracked := inferInstanceAs (Decidable (_ ∧ _))

/-- The held numbers after a change. -/
def apply (held : Finset Nat) (c : ButtonChange) : Finset Nat :=
  if c.Tracked then
    if c.pressed then insert c.number.toNat held else held.erase c.number.toNat
  else held

/-- The number does not count, is pressed while it is held, or is released while it is not. -/
def Idle (held : Finset Nat) (c : ButtonChange) : Prop :=
  c.Tracked → if c.pressed then c.number.toNat ∈ held else c.number.toNat ∉ held

/-- The number means a button. One that is no byte means button zero. -/
def Names (c : ButtonChange) (b : Button) : Prop :=
  c.number = b.native.toNat ∨ b.native = 0 ∧ (c.number < 0 ∨ 255 < c.number)

variable {c : ButtonChange} {b : Button} {mask : UInt32}

/-- The numbers that count are those whose buttons have a bit. -/
theorem Names.tracked_iff (hb : c.Names b) : c.Tracked ↔ b.mask?.isSome = true := by
  have hmask : b.mask?.isSome = true ↔ 1 ≤ b.native.toNat ∧ b.native.toNat ≤ 31 := by
    unfold Button.mask?
    simp only [UInt8.le_iff_toNat_le]
    split
    case isTrue hbounds => exact iff_of_true rfl hbounds
    case isFalse hbounds => exact iff_of_false nofun hbounds
  rw [hmask, Tracked]
  rcases hb with hnumber | ⟨hzero, hnumber⟩
  · omega
  · rw [hzero, UInt8.toNat_zero]
    omega

theorem Names.toNat_eq (hb : c.Names b) (hc : c.Tracked) : c.number.toNat = b.native.toNat := by
  rcases hb with hnumber | ⟨-, hnumber⟩
  · rw [hnumber, Int.toNat_natCast]
  · obtain ⟨hpos, hle⟩ := hc
    omega

/-- A change with a number that counts, on the button that the number means. -/
theorem Names.apply_eq (hb : c.Names b) (hmask : b.mask? = some mask) (held : Finset Nat) :
    c.apply held =
      if c.pressed then insert b.native.toNat held else held.erase b.native.toNat := by
  have hc : c.Tracked := hb.tracked_iff.mpr (hmask ▸ rfl)
  rw [apply, if_pos hc, hb.toNat_eq hc]

end ButtonChange

/-! ### The pointer -/

/-- The pointer holds the buttons with the native numbers `held`. -/
structure Pointer.Tracks (p : Pointer C) (held : Finset Nat) : Prop where
  word : ∀ n, p.held.toNat.testBit n = true ↔ n ∈ held
  numbers : ∀ n ∈ held, 1 ≤ n ∧ n ≤ 31
  session : p.drag.isSome = true ↔ held.Nonempty

/-- The client failed as it was asked for a drag session. -/
def Entry.refusesDrag (e : Entry C) : Bool :=
  match e.call with
  | .window _ _ _ (.beginDrag _ _) => !e.returned
  | _ => false

namespace Pointer

variable {held : Finset Nat} {b : Button} {mask : UInt32}

theorem tracks_idle : (Pointer.idle : Pointer C).Tracks ∅ where
  word n := by simp [idle]
  numbers := nofun
  session := by simp [idle]

namespace Tracks

section

variable {p : Pointer C}

theorem heldButtons_eq (hp : p.Tracks held) : heldButtons p.held = held := by
  ext n
  rw [mem_heldButtons, hp.word]

theorem and_mask_eq_zero_iff (hp : p.Tracks held) (hmask : b.mask? = some mask) :
    p.held &&& mask = 0 ↔ b.native.toNat ∉ held := by
  rw [WindowRouting.and_mask_eq_zero_iff hmask, hp.heldButtons_eq]

theorem drag_eq_none_iff (hp : p.Tracks held) : p.drag = none ↔ held = ∅ := by
  rw [← Finset.not_nonempty_iff_eq_empty, ← hp.session, Option.not_isSome_iff_eq_none]

/-- A button goes down in a session. -/
theorem down (hp : p.Tracks held) (hmask : b.mask? = some mask) (session : C.Drag) :
    (Pointer.mk (p.held ||| mask) (some session)).Tracks (insert b.native.toNat held) where
  word n := by rw [← mem_heldButtons, heldButtons_or hmask, hp.heldButtons_eq]
  numbers n hn := by
    rcases Finset.mem_insert.mp hn with rfl | hn
    · have hnames : ButtonChange.Names ⟨true, b.native.toNat⟩ b := Or.inl rfl
      obtain ⟨hpos, hle⟩ := hnames.tracked_iff.mpr (hmask ▸ rfl)
      exact ⟨Int.ofNat_le.mp hpos, Int.ofNat_le.mp hle⟩
    · exact hp.numbers n hn
  session := iff_of_true rfl (Finset.insert_nonempty _ _)

/-- A button goes up, and there is a session as long as others are held. -/
theorem up (hp : p.Tracks held) (hmask : b.mask? = some mask) {drag : Option C.Drag}
    (hdrag : drag = none ↔ p.held &&& ~~~mask = 0) :
    (Pointer.mk (p.held &&& ~~~mask) drag).Tracks (held.erase b.native.toNat) where
  word n := by rw [← mem_heldButtons, heldButtons_and_not hmask, hp.heldButtons_eq]
  numbers n hn := hp.numbers n (Finset.mem_of_mem_erase hn)
  session := by
    rw [← not_iff_not, Option.not_isSome_iff_eq_none, Finset.not_nonempty_iff_eq_empty, hdrag,
      ← heldButtons_eq_empty_iff, heldButtons_and_not hmask, hp.heldButtons_eq]

end

variable {act : Nat} {t : Target C.ticketed} {p p' : Pointer C.ticketed} {h h' : History C}
  {loc : Vec} {c : ButtonChange}

/-- The word follows the set. A press adds its number, unless the listener fails as it is asked for
a session, and a release takes its number away. -/
theorem button (hp : p.Tracks held) (hb : c.Names b)
    (hreaches : (p.button t loc c.pressed b).Reaches act h p' h') : ∃ es, h' = h ++ es ∧
      p'.Tracks (if es.any Entry.refusesDrag then held else c.apply held) := by
  have hcourse := p.course_button t loc c.pressed b
  generalize p.button t loc c.pressed b = plan at hcourse hreaches
  have hdown {mask : UInt32} (hmask : b.mask? = some mask) (hpressed : c.pressed = true) :
      c.apply held = insert b.native.toNat held := by
    rw [hb.apply_eq hmask, if_pos hpressed]
  have hup {mask : UInt32} (hmask : b.mask? = some mask) (hpressed : c.pressed = false) :
      c.apply held = held.erase b.native.toNat := by
    rw [hb.apply_eq hmask, if_neg (Bool.eq_false_iff.mp hpressed)]
  generalize hpressed : c.pressed = pressed at hcourse
  cases hcourse with
  | untracked _ _ _ hmask =>
    obtain ⟨rfl, rfl⟩ := hreaches
    have hc : ¬c.Tracked := by simp [hb.tracked_iff, hmask]
    rw [ButtonChange.apply, if_neg hc]
    exact ⟨[], (List.append_nil _).symm, hp⟩
  | held _ _ mask hmask hheld =>
    obtain ⟨rfl, rfl⟩ := hreaches
    rw [ne_eq, hp.and_mask_eq_zero_iff hmask, not_not] at hheld
    refine ⟨[], (List.append_nil _).symm, ?_⟩
    rwa [hdown hmask hpressed, List.any_nil, if_neg Bool.false_ne_true,
      Finset.insert_eq_of_mem hheld]
  | begun _ _ mask hmask hfree hdrag =>
    rw [hdown hmask hpressed]
    rcases hreaches with ⟨rfl, rfl⟩ | ⟨session, hreaches⟩
    · exact ⟨_, rfl, hp⟩
    · obtain ⟨rfl, ok, rfl⟩ := Plan.reaches_lastly hreaches
      exact ⟨_, List.append_assoc _ _ _, hp.down hmask _⟩
  | pressed _ _ mask session hmask hfree hdrag =>
    rw [hdown hmask hpressed]
    obtain ⟨rfl, ok, rfl⟩ := Plan.reaches_lastly hreaches
    exact ⟨_, rfl, hp.down hmask session⟩
  | notHeld _ _ mask hmask hfree =>
    obtain ⟨rfl, rfl⟩ := hreaches
    rw [hp.and_mask_eq_zero_iff hmask] at hfree
    refine ⟨[], (List.append_nil _).symm, ?_⟩
    rwa [hup hmask hpressed, List.any_nil, if_neg Bool.false_ne_true,
      Finset.erase_eq_of_notMem hfree]
  | freed _ _ mask hmask hheld hdrag =>
    -- Buttons are held in a session only, so the missing session is no case.
    rw [ne_eq, hp.and_mask_eq_zero_iff hmask, not_not, hp.drag_eq_none_iff.mp hdrag] at hheld
    exact absurd hheld (Finset.notMem_empty _)
  | ended _ _ mask session hmask hheld hrest hdrag =>
    rw [hup hmask hpressed]
    obtain ⟨rfl, ok, rfl⟩ := Plan.reaches_lastly hreaches
    exact ⟨_, rfl, hp.up hmask (iff_of_true rfl hrest)⟩
  | released _ _ mask session hmask hheld hrest hdrag =>
    rw [hup hmask hpressed]
    obtain ⟨rfl, ok, rfl⟩ := Plan.reaches_lastly hreaches
    exact ⟨_, rfl, hp.up hmask (iff_of_false nofun hrest)⟩

/-- A change that leaves the set as it is leaves a notice only. -/
theorem button_of_idle (hp : p.Tracks held) (hb : c.Names b) (hidle : c.Idle held)
    (t : Target C.ticketed) (loc : Vec) :
    ∃ notice, p.button t loc c.pressed b = .note notice (.done () p) := by
  have hcourse := p.course_button t loc c.pressed b
  generalize p.button t loc c.pressed b = plan at hcourse
  have hheld {mask : UInt32} (hmask : b.mask? = some mask) :
      if c.pressed then p.held &&& mask ≠ 0 else p.held &&& mask = 0 := by
    have hc : c.Tracked := hb.tracked_iff.mpr (hmask ▸ rfl)
    have hnumber := hidle hc
    rw [hb.toNat_eq hc] at hnumber
    rwa [ne_eq, hp.and_mask_eq_zero_iff hmask, not_not]
  generalize c.pressed = pressed at hcourse hheld
  cases hcourse with
  | untracked _ _ _ hmask => exact ⟨_, rfl⟩
  | held _ _ mask hmask _ => exact ⟨_, rfl⟩
  | notHeld _ _ mask hmask _ => exact ⟨_, rfl⟩
  | begun _ _ mask hmask hfree hdrag => exact absurd hfree (hheld hmask)
  | pressed _ _ mask session hmask hfree hdrag => exact absurd hfree (hheld hmask)
  | freed _ _ mask hmask hother hdrag => exact absurd (hheld hmask) hother
  | ended _ _ mask session hmask hother hrest hdrag => exact absurd (hheld hmask) hother
  | released _ _ mask session hmask hother hrest hdrag => exact absurd (hheld hmask) hother

end Tracks

end Pointer

/-! ### Acts -/

/-- The window that an act tells of a press or a release, in the router in the seat. -/
def Act.buttonChange? (r : Router C.ticketed) : Act C σ → Option (WindowId × ButtonChange)
  | .request (.send id (.button _ pressed b)) => some (id, ⟨pressed, b.native.toNat⟩)
  | .signal h (.button _ pressed number) =>
    match r.resolve h with
    | .ok id => some (id, ⟨decide (pressed ≠ 0), number.toInt⟩)
    | .error _ => none
  | _ => none

/-- A press or a release is delivered as an event with the button that its number means. -/
theorem Act.exists_of_buttonChange? {r : Router C.ticketed} {a : Act C σ} {id : WindowId}
    {c : ButtonChange} (ha : a.buttonChange? r = some (id, c)) :
    ∃ loc b, a.Delivers r id (.button loc c.pressed b) ∧ c.Names b := by
  unfold buttonChange? at ha
  split at ha
  case h_1 sent loc pressed b =>
    obtain ⟨rfl, rfl⟩ := Prod.mk.inj (Option.some.inj ha)
    exact ⟨loc, b, Or.inl rfl, Or.inl rfl⟩
  case h_2 h loc pressed number =>
    split at ha
    case h_1 found hid =>
      obtain ⟨rfl, rfl⟩ := Prod.mk.inj (Option.some.inj ha)
      obtain ⟨e, he⟩ := Signal.exists_conveys (q := .button loc pressed number) rfl
      refine ⟨loc, .ofWord number, Or.inr ⟨h, _, rfl, hid, rfl⟩, ?_⟩
      cases he with
      | button _ _ hn =>
        rw [Button.ofWord_of_byte hn]
        exact Or.inl (by rwa [Button.native_ofNative])
      | noButton _ _ hnumber =>
        rw [Button.ofWord_of_not_byte hnumber]
        exact Or.inr ⟨rfl, hnumber⟩
    case h_2 => exact nomatch ha
  case h_3 => exact nomatch ha

namespace Watch

variable {W : World C σ} {s : Watch C σ} {k : Nat} {a : Act C σ}

/-- The press or the release that an act tells window number `k` of. -/
def buttonChange? (s : Watch C σ) (k : Nat) (a : Act C σ) : Option ButtonChange :=
  s.addressed? k a.buttonChange?

/-- What an act does to the buttons held in window number `k`. A press does nothing when the
listener fails as it is asked for a session. -/
def heldChange? (W : World C σ) (s : Watch C σ) (k : Nat) (a : Act C σ) : Option ButtonChange :=
  if (s.made W a).any Entry.refusesDrag then none else s.buttonChange? k a

/-- An act for window number `k` that presses nothing and releases nothing. -/
theorem unpressed_of_means {place : Place} {cause : Cause C} (hmeans : s.Means a place cause)
    {x : Receiver C.ticketed} (hx : s.receiver? place = some x) (hk : x.listener.number = k)
    (ha : s.buttonChange? k a = none) (loc : Vec) (pressed : Bool) (b : Button) :
    cause ≠ .event (.button loc pressed b) := by
  rintro rfl
  have hnone {i : Nat} {r : Router C.ticketed} {id : WindowId} {c : ButtonChange}
      (hcurrent : s.roster.current = some (i, r)) (hx : s.receiver? ⟨i, id⟩ = some x) :
      a.buttonChange? r ≠ some (id, c) := fun hact ↦
    Option.some_ne_none c ((addressed?_of_receiver? hcurrent hx hk hact).symm.trans ha)
  cases hmeans with
  | send hcurrent id e => exact hnone hcurrent hx rfl
  | @signal i r hcurrent h q id _ hid he =>
    cases q with
    | button loc' pressed' number =>
      refine hnone hcurrent hx (c := ⟨decide (pressed' ≠ 0), number.toInt⟩) ?_
      simp only [Act.buttonChange?, hid]
    | draw context => simp only [Signal.event] at he; split at he <;> cases he
    | keyPress key => cases key <;> cases he
    | keyRelease key => cases key <;> cases he
    | _ => cases he

end Watch

/-! ### Steps that are no presses and no releases -/

section Unpressed

variable {act : Nat} {id : WindowId} {l : Numbered C.Listener} {cfg : Config} {h h' : History C}

theorem Pointer.Step.eq_of_unpressed {p p' : Pointer C.ticketed} {e : Event}
    (he : ∀ loc pressed b, e ≠ .button loc pressed b) (hstep : Step act id l p h e p' h') :
    p' = p := by
  cases hstep with
  | moved | passed | kept | left => rfl
  | _ => exact absurd rfl (he _ _ _)

/-- A window that is open after other steps has the pointer that it had before. -/
theorem Receiver.pointer_of_chain {cause : Cause C} {x x' : Receiver C.ticketed}
    (hcause : ∀ loc pressed b, cause ≠ .event (.button loc pressed b))
    (hopening : ∀ l, cause ≠ .opening l)
    (hchain : ReflTransGen (Step act id cfg cause) (some x, h) (some x', h')) :
    x'.pointer = x.pointer := by
  generalize hend : (some x', h') = last at hchain
  induction hchain generalizing x' h' with
  | refl =>
    obtain ⟨hx, -⟩ := Prod.mk.inj hend
    rw [Option.some.inj hx]
  | @tail mid _ hsteps hstep ih =>
    subst hend
    cases hstep with
    | opened l h => exact absurd rfl (hopening l)
    | pointer hstep =>
      have he (loc : Vec) (pressed : Bool) (b : Button) := fun heq ↦
        hcause loc pressed b (congrArg Cause.event heq)
      exact (hstep.eq_of_unpressed he).trans (ih rfl)
    | scrolling hstep =>
      -- The receiver before this step has the same pointer by definition, not by syntax.
      have hsame := ih rfl
      exact hsame
    | told receiver h e w call hcall ok => exact ih rfl
    | asked receiver h host ok => exact ih rfl

end Unpressed

/-! ### Runs -/

namespace Watch

variable {W : World C σ} {s : Watch C σ} {k : Nat} {a : Act C σ} {held : Finset Nat}

/-- Window number `k` holds the buttons with the native numbers `held`. Before it is opened there
are none. -/
structure Tracks (s : Watch C σ) (k : Nat) (held : Finset Nat) : Prop where
  unopened : s.acts ≤ k → held = ∅
  pointer : ∀ x, s.Shows k (some x) → x.pointer.Tracks held

/-- An act that presses nothing and releases nothing in the window. -/
theorem Tracks.step_of_none (h : s.Tracks k held) (hs : s.Orderly)
    (ha : s.buttonChange? k a = none) : (s.step W a).Tracks k held where
  unopened hk := h.unopened (Nat.le_of_succ_le hk)
  pointer x' hx' := by
    rcases hs.chain_of_shows hx' with ⟨hx, -⟩ | ⟨place, cause, cfg, hmeans, hk, hnone, hchain⟩
    · exact h.pointer x' hx
    · cases hplace : s.receiver? place with
      | none =>
        -- The act opened the window. Its number is new, so nothing was held under it.
        rw [hplace] at hchain
        obtain ⟨-, hgone | ⟨l, -, hopened⟩⟩ := Lasting.chain_of_vacant hchain
        · exact nomatch hgone
        · rw [h.unopened (hnone hplace).ge, Option.some.inj hopened]
          exact Pointer.tracks_idle
      | some x =>
        rw [hplace] at hchain
        have hopening (l : Numbered C.Listener) : cause ≠ .opening l := by
          rintro rfl
          exact nomatch hplace.symm.trans (hs.vacant_of_opening hmeans).1
        rw [Receiver.pointer_of_chain (unpressed_of_means hmeans hplace (hk x hplace) ha) hopening
          hchain]
        exact h.pointer x ⟨hk x hplace, place, hplace⟩

/-- An act that tells the window of a press or a release. -/
theorem Tracks.step_of_some (h : s.Tracks k held) (hs : s.Orderly) {c : ButtonChange}
    (ha : s.buttonChange? k a = some c) : (s.step W a).Tracks k
      (if (s.made W a).any Entry.refusesDrag then held else c.apply held) := by
  obtain ⟨i, r, id, x, hcurrent, hact, hx, rfl⟩ := exists_of_addressed? ha
  have hplace : s.receiver? ⟨i, id⟩ = some x := (receiver?_of_current hcurrent id).trans hx
  obtain ⟨loc, b, hdelivers, hb⟩ := Act.exists_of_buttonChange? hact
  obtain ⟨w, change, world, h', hstep, hafter, hp⟩ := hs.step_event (W := W) hcurrent hx hdelivers
  obtain ⟨p', rfl, hbutton⟩ := Plan.reaches_map hp
  obtain ⟨es, rfl, htracks⟩ := (h.pointer x ⟨rfl, _, hplace⟩).button hb hbutton
  rw [made_of_append (congrArg Watch.history hstep)]
  refine ⟨fun hk ↦ ?_, fun x' hx' ↦ ?_⟩
  · have hlt := hs.number_lt _ x hplace
    rw [acts_step] at hk
    omega
  · have hshows : (s.step W a).Shows x.listener.number (some { x with pointer := p' }) :=
      ⟨rfl, _, hafter⟩
    obtain rfl := Option.some.inj ((hs.step a).shows_unique hx' hshows)
    exact htracks

theorem Tracks.step (h : s.Tracks k held) (hs : s.Orderly) (a : Act C σ) :
    (s.step W a).Tracks k ((s.heldChange? W k a).toList.foldl ButtonChange.apply held) := by
  unfold heldChange?
  cases ha : s.buttonChange? k a with
  | none =>
    rw [ite_self]
    exact h.step_of_none hs ha
  | some c =>
    have hstep := h.step_of_some (W := W) hs ha
    split at hstep
    case isTrue hrefused => rwa [if_pos hrefused]
    case isFalse hrefused => rwa [if_neg hrefused]

end Watch

/-- The native numbers of the buttons that are held in window number `k` after a run, as far as the
window was told. -/
def heldNumbers (W : World C σ) (w : σ) (k : Nat) (acts : List (Act C σ)) : Finset Nat :=
  (gather (fun before a ↦ (watch W w before).heldChange? W k a) acts).foldl ButtonChange.apply ∅

theorem tracks_watch (W : World C σ) (w : σ) (k : Nat) (acts : List (Act C σ)) :
    (watch W w acts).Tracks k (heldNumbers W w k acts) := by
  induction acts using List.reverseRecOn with
  | nil => exact ⟨fun _ ↦ rfl, fun x hx ↦ nomatch hx.2⟩
  | append_singleton acts a ih =>
    rw [heldNumbers, gather_snoc, List.foldl_append, watch_snoc]
    exact ih.step (orderly_watch W w acts) a

/-! ### What the held buttons decide -/

namespace Watch

variable {W : World C σ} {s : Watch C σ} {a : Act C σ} {i : Nat} {r : Router C.ticketed}
  {id : WindowId} {x : Receiver C.ticketed} {held : Finset Nat}

/-- A motion goes to the session if there is one, and to the listener otherwise. -/
theorem Orderly.made_motion (hs : s.Orderly) (hcurrent : s.roster.current = some (i, r))
    (hx : r.receivers.get? id = some x) {loc : Vec} (ha : a.Delivers r id (.motion loc)) :
    ∃ call ok, s.made W a = [⟨s.acts, call, ok⟩] ∧
      (∀ session, x.pointer.drag = some session → call = .drag session (.motion loc)) ∧
      (x.pointer.drag = none → ∃ w, call = .window x.listener id w (.motion loc)) := by
  obtain ⟨w, change, world, h', hstep, -, hp⟩ := hs.step_event (W := W) hcurrent hx ha
  obtain ⟨p', rfl, hmotion⟩ := Plan.reaches_map hp
  have hcourse := x.pointer.course_motion ⟨id, w, x.listener⟩ loc
  generalize x.pointer.motion _ loc = plan at hcourse hmotion
  cases hcourse with
  | moved _ session hdrag =>
    obtain ⟨-, ok, rfl⟩ := Plan.reaches_lastly hmotion
    refine ⟨_, ok, made_of_append (congrArg Watch.history hstep), fun other hother ↦ ?_,
      fun hnone ↦ absurd (hdrag.symm.trans hnone) (Option.some_ne_none _)⟩
    exact Option.some.inj (hdrag.symm.trans hother) ▸ rfl
  | passed _ hdrag =>
    obtain ⟨-, ok, rfl⟩ := Plan.reaches_lastly hmotion
    exact ⟨_, ok, made_of_append (congrArg Watch.history hstep),
      fun _ hother ↦ absurd (hother.symm.trans hdrag) (Option.some_ne_none _), fun _ ↦ ⟨w, rfl⟩⟩

/-- The listener is told that the pointer left, unless there is a session. -/
theorem Orderly.made_leave (hs : s.Orderly) (hcurrent : s.roster.current = some (i, r))
    (hx : r.receivers.get? id = some x) (ha : a.Delivers r id .leave) :
    (x.pointer.drag.isSome = true → s.made W a = []) ∧
      (x.pointer.drag = none → ∃ w ok,
        s.made W a = [⟨s.acts, .window x.listener id w .leave, ok⟩]) := by
  obtain ⟨w, change, world, h', hstep, -, hp⟩ := hs.step_event (W := W) hcurrent hx ha
  obtain ⟨p', rfl, hleave⟩ := Plan.reaches_map hp
  have hcourse := x.pointer.course_leave ⟨id, w, x.listener⟩
  generalize x.pointer.leave _ = plan at hcourse hleave
  cases hcourse with
  | kept session hdrag =>
    obtain ⟨-, rfl⟩ := hleave
    refine ⟨fun _ ↦ made_of_append ?_,
      fun hnone ↦ absurd (hdrag.symm.trans hnone) (Option.some_ne_none _)⟩
    rw [hstep, List.append_nil]
  | left hdrag =>
    obtain ⟨-, ok, rfl⟩ := Plan.reaches_lastly hleave
    refine ⟨fun hsome ↦ ?_, fun _ ↦ ⟨w, ok, made_of_append (congrArg Watch.history hstep)⟩⟩
    rw [hdrag] at hsome
    exact absurd hsome Bool.false_ne_true

/-- A change that leaves the set as it is makes no call and changes nothing. -/
theorem Orderly.step_of_idle (hs : s.Orderly) (hcurrent : s.roster.current = some (i, r))
    (hx : r.receivers.get? id = some x) (htracks : x.pointer.Tracks held) {c : ButtonChange}
    (ha : a.buttonChange? r = some (id, c)) (hidle : c.Idle held) :
    s.made W a = [] ∧ (s.step W a).roster = s.roster := by
  obtain ⟨loc, b, hdelivers, hb⟩ := Act.exists_of_buttonChange? ha
  obtain ⟨w, change, world, h', hstep, -, hp⟩ := hs.step_event (W := W) hcurrent hx hdelivers
  obtain ⟨p', rfl, hbutton⟩ := Plan.reaches_map hp
  obtain ⟨notice, hnotice⟩ := htracks.button_of_idle hb hidle ⟨id, w, x.listener⟩ loc
  rw [hnotice] at hbutton
  obtain ⟨rfl, rfl⟩ := hbutton
  have hsame : r.changed id (.pointer x.pointer) = r :=
    Router.modifyReceiver_eq_self fun receiver hreceiver ↦ by
      rw [Option.some.inj (hx.symm.trans hreceiver)]
  refine ⟨made_of_append ?_, ?_⟩
  · rw [hstep, List.append_nil]
  · rw [hstep, hsame, ← Roster.seat_of_current hcurrent, Roster.update_seat]

end Watch

/-- The set of held buttons decides. In every run, the word of held buttons of an open window has
the bits of the set of the numbers that are held, which are numbers from `1` to `31`, and the window
has a drag session exactly while the set is not empty. A motion makes one call: to the session if
the set is not empty, and to the listener otherwise. The listener is told that the pointer left
exactly if the set is empty. A press or a release that leaves the set as it is calls nobody and
changes nothing. -/
theorem held_buttons_decide (W : World C σ) (w : σ) (acts : List (Act C σ)) {place : Place}
    {x : Receiver C.ticketed} (hx : (watch W w acts).receiver? place = some x) :
    x.pointer.Tracks (heldNumbers W w x.listener.number acts) ∧
    ∀ r a, (watch W w acts).roster.current = some (place.router, r) →
      (∀ loc, a.Delivers r place.id (.motion loc) →
        ∃ call ok, (watch W w acts).made W a = [⟨acts.length, call, ok⟩] ∧
          ((heldNumbers W w x.listener.number acts).Nonempty →
            ∃ session, x.pointer.drag = some session ∧ call = .drag session (.motion loc)) ∧
          (heldNumbers W w x.listener.number acts = ∅ →
            ∃ window, call = .window x.listener place.id window (.motion loc))) ∧
      (a.Delivers r place.id .leave →
        ((heldNumbers W w x.listener.number acts).Nonempty → (watch W w acts).made W a = []) ∧
        (heldNumbers W w x.listener.number acts = ∅ → ∃ window ok, (watch W w acts).made W a =
          [⟨acts.length, .window x.listener place.id window .leave, ok⟩])) ∧
      ∀ c, a.buttonChange? r = some (place.id, c) →
        c.Idle (heldNumbers W w x.listener.number acts) →
        (watch W w acts).made W a = [] ∧
          ((watch W w acts).step W a).roster = (watch W w acts).roster := by
  have hs := orderly_watch W w acts
  have htracks := (tracks_watch W w x.listener.number acts).pointer x ⟨rfl, place, hx⟩
  refine ⟨htracks, fun r a hcurrent ↦ ?_⟩
  rw [Watch.receiver?_of_current hcurrent] at hx
  refine ⟨fun loc ha ↦ ?_, fun ha ↦ ?_, fun c ha hidle ↦ ?_⟩
  · obtain ⟨call, ok, hmade, hsession, hlistener⟩ := hs.made_motion (W := W) hcurrent hx ha
    rw [acts_watch] at hmade
    refine ⟨call, ok, hmade, fun hheld ↦ ?_, fun hnone ↦ ?_⟩
    · obtain ⟨session, hdrag⟩ := Option.isSome_iff_exists.mp (htracks.session.mpr hheld)
      exact ⟨session, hdrag, hsession session hdrag⟩
    · exact hlistener (htracks.drag_eq_none_iff.mpr hnone)
  · obtain ⟨hkept, hleft⟩ := hs.made_leave (W := W) hcurrent hx ha
    rw [acts_watch] at hleft
    exact ⟨fun hheld ↦ hkept (htracks.session.mpr hheld),
      fun hnone ↦ hleft (htracks.drag_eq_none_iff.mpr hnone)⟩
  · exact hs.step_of_idle hcurrent hx htracks ha hidle

/-- The listener fails when it is asked for a session with the right button. -/
def leftHanded : World .bare Unit :=
  .bare fun | .window _ _ _ (.beginDrag _ b) => b == .right | _ => false

/-- The right button is pressed in vain. Then the left one is pressed, a number that is no byte is,
and the right one is again; the left one is released. -/
def changedHands : List (Act .bare Unit) :=
  [.install default, .request (.create default ()),
    .request (.send ⟨1, 1⟩ (.button .zero true .right)), .signal 1 (.button .zero 1 1),
    .signal 1 (.button .zero 1 259), .signal 1 (.button .zero 1 3),
    .request (.send ⟨1, 1⟩ (.button .zero false .left))]

theorem right_button_held : ∃ x,
    (watch leftHanded () changedHands).receiver? ⟨0, ⟨1, 1⟩⟩ = some x ∧
      heldNumbers leftHanded () x.listener.number changedHands = {3} ∧
      x.pointer.Tracks (heldNumbers leftHanded () x.listener.number changedHands) := by
  have hany : ((watch leftHanded () changedHands).receiver? ⟨0, ⟨1, 1⟩⟩).any
      (fun x ↦ heldNumbers leftHanded () x.listener.number changedHands == {3}) = true := by
    decide +kernel
  obtain ⟨x, hx, hheld⟩ := (Option.any_eq_true _ _).mp hany
  obtain ⟨htracks, -⟩ := held_buttons_decide leftHanded () changedHands hx
  exact ⟨x, hx, beq_iff_eq.mp hheld, htracks⟩

end WindowRouting

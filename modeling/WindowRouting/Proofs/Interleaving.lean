import Mathlib.Algebra.Group.End
import WindowRouting.Proofs.Counting

/-!
Streams of events do not interfere. The events of one channel of one window form a stream. What an
event comes to depends on what its stream has done before and on nothing else, up to the number that
a new session or gesture gets (`Router.exists_process`), so two neighbouring events of different
streams can be exchanged (`Router.Same.swap`). Lists of events that have the same streams differ by
such exchanges (`reordered_of_filter`), hence they come to the same.
-/

set_option autoImplicit false
set_option relaxedAutoImplicit false

namespace WindowRouting

variable {L H : Type}

/-! ### Lists with the same streams -/

/-- The second list comes from the first one by exchanging neighbours with different keys. -/
inductive Reordered {α κ : Type} (key : α → κ) : List α → List α → Prop
  | refl (xs : List α) : Reordered key xs xs
  | cons (x : α) {xs ys : List α} (h : Reordered key xs ys) : Reordered key (x :: xs) (x :: ys)
  | swap {x y : α} (h : key x ≠ key y) (zs : List α) :
      Reordered key (x :: y :: zs) (y :: x :: zs)
  | trans {xs ys zs : List α} (hxy : Reordered key xs ys) (hyz : Reordered key ys zs) :
      Reordered key xs zs

section

variable {α κ : Type} {key : α → κ}

/-- An element can be taken past those with other keys. -/
theorem Reordered.insert {x : α} {ys : List α} (h : ∀ y ∈ ys, key y ≠ key x) (zs : List α) :
    Reordered key (x :: (ys ++ zs)) (ys ++ x :: zs) := by
  induction ys with
  | nil => exact .refl _
  | cons y ys ih =>
    have hrest := ih fun y' hy' ↦ h y' (List.mem_cons_of_mem _ hy')
    exact .trans (.swap (Ne.symm (h y (List.mem_cons_self ..))) _) (.cons y hrest)

/-- Lists that have the same elements of each key in the same order differ by exchanges of
neighbours with different keys. -/
theorem reordered_of_filter [DecidableEq κ] {xs ys : List α}
    (h : ∀ k, xs.filter (key · = k) = ys.filter (key · = k)) : Reordered key xs ys := by
  induction xs generalizing ys with
  | nil =>
    cases ys with
    | nil => exact .refl []
    | cons y ys =>
      have hy := h (key y)
      simp at hy
  | cons x xs ih =>
    have hx := h (key x)
    rw [List.filter_cons_of_pos (by simp)] at hx
    obtain ⟨before, after, rfl, hbefore, -, hafter⟩ := List.filter_eq_cons_iff.mp hx.symm
    have hkeys : ∀ y ∈ before, key y ≠ key x := fun y hy ↦ by simpa using hbefore y hy
    have hrest : Reordered key xs (before ++ after) := by
      refine ih fun k ↦ ?_
      have hk := h k
      by_cases hkey : key x = k
      · subst hkey
        rw [List.filter_append, List.filter_eq_nil_iff.mpr hbefore, List.nil_append, hafter]
      · simpa [hkey] using hk
    exact .trans (.cons x hrest) (.insert hkeys after)

end

/-! ### Events -/

/-- An event for a window. -/
structure Message where
  id : WindowId
  event : Event

/-- The stream of a message: a window and a channel. -/
def Message.stream (x : Message) : WindowId × Channel := (x.id, x.event.channel)

/-- What comes of a message. -/
structure Delivery (L H : Type) where
  message : Message
  answer : Except Error (Option Reply)
  callbacks : List (Callback L H)

/-- The window is shown in the calls that come of draws, scale changes, hit tests and keys. -/
def Channel.shows (channel : Channel) : Bool := channel = .other

/-- The world of a client that answers in a manner and does not fail. -/
abbrev Manner.reliable (m : Manner L H) : World (.counted L H) (Tally L H) :=
  m.world Channel.shows fun _ ↦ false

/-- Delivers a message when `n` sessions and gestures have been opened. -/
def Router.process (m : Manner L H) (r : Router (.counted L H)) (n : Nat) (x : Message) :
    Delivery L H × Router (.counted L H) × Nat :=
  match r.deliver x.id x.event with
  | .error e => (⟨x, .error e, []⟩, r, n)
  | .ok plan =>
    match plan.run m.reliable ⟨0, n, []⟩ with
    | (reply, r, w) => (⟨x, .ok reply, w.seen⟩, r, w.serial)

/-- Delivers messages, one after the other. -/
def Router.processAll (m : Manner L H) (r : Router (.counted L H)) (n : Nat) :
    List Message → List (Delivery L H) × Router (.counted L H) × Nat
  | [] => ([], r, n)
  | x :: rest =>
    let (d, r, n) := r.process m n x
    let (ds, r, n) := r.processAll m n rest
    (d :: ds, r, n)

/-! ### Renumbering -/

/-- Renames numbers only. -/
def Renaming.numbers (f : Nat → Nat) : Renaming := ⟨f, fun id ↦ id⟩

section

variable (f g : Nat → Nat)

/-- The delivery with the numbers of its callbacks renamed. -/
def Delivery.renumbered (d : Delivery L H) : Delivery L H :=
  { d with callbacks := d.callbacks.map (Callback.renamed (.numbers f)) }

/-- The router with its sessions and gestures renumbered. -/
def Router.renumbered (r : Router (.counted L H)) : Router (.counted L H) :=
  { r with receivers := r.receivers.map (Receiver.renumbered f) }

theorem Callback.renamed_numbers_id (c : Callback L H) : c.renamed (.numbers fun j ↦ j) = c := by
  cases c with
  | window l id w call serial => cases serial <;> rfl
  | _ => rfl

theorem Callback.renamed_numbers (c : Callback L H) :
    (c.renamed (.numbers f)).renamed (.numbers g) = c.renamed (.numbers fun j ↦ g (f j)) := by
  cases c with
  | window l id w call serial => cases serial <;> rfl
  | _ => rfl

theorem Delivery.renumbered_id (d : Delivery L H) : d.renumbered (fun j ↦ j) = d := by
  have hcallbacks := List.map_id'' Callback.renamed_numbers_id d.callbacks
  rw [renumbered, hcallbacks]

theorem Delivery.renumbered_renumbered (d : Delivery L H) :
    (d.renumbered f).renumbered g = d.renumbered fun j ↦ g (f j) := by
  simp only [renumbered, List.map_map]
  congr 2
  funext c
  exact c.renamed_numbers f g

/-- The number is that of an open session or gesture. -/
def Receiver.Uses (x : Receiver (.counted L H)) (j : Nat) : Prop :=
  x.pointer.drag = some j ∨ ∃ swipe, x.scrolling = some swipe ∧ swipe.gesture = j

theorem Receiver.renumbered_eq_self_iff {x : Receiver (.counted L H)} :
    x.renumbered f = x ↔ ∀ j, x.Uses j → f j = j := by
  obtain ⟨l, ⟨held, drag⟩, scrolling⟩ := x
  constructor
  · intro h j huses
    simp only [renumbered, Pointer.renumbered, mk.injEq, Pointer.mk.injEq, true_and] at h
    obtain ⟨hdrag, hscrolling⟩ := h
    rcases huses with huses | ⟨swipe, huses, rfl⟩
    · simp only at huses
      rw [huses] at hdrag
      exact Option.some.inj hdrag
    · simp only at huses
      rw [huses] at hscrolling
      exact congrArg Swipe.gesture (Option.some.inj hscrolling)
  · intro h
    have hdrag : drag.map f = drag := by
      cases drag with
      | none => rfl
      | some session => exact congrArg some (h session (Or.inl rfl))
    have hscrolling : Scrolling.renumbered f scrolling = scrolling := by
      cases scrolling with
      | none => rfl
      | some swipe =>
        have hgesture := h swipe.gesture (Or.inr ⟨swipe, rfl, rfl⟩)
        simp only [Scrolling.renumbered, Option.map_some, Swipe.renumbered, hgesture]
    simp only [renumbered, Pointer.renumbered, hdrag, hscrolling]

theorem Receiver.renumbered_renumbered (x : Receiver (.counted L H)) :
    (x.renumbered f).renumbered g = x.renumbered fun j ↦ g (f j) := by
  obtain ⟨l, ⟨held, drag⟩, scrolling⟩ := x
  cases drag <;> cases scrolling <;> rfl

theorem Change.renumbered_renumbered (a : Change (.counted L H)) :
    (a.renumbered f).renumbered g = a.renumbered fun j ↦ g (f j) := by
  cases a with
  | pointer p =>
    obtain ⟨held, drag⟩ := p
    cases drag <;> rfl
  | scrolling s => cases s <;> rfl
  | _ => rfl

theorem Change.renumbered_id (a : Change (.counted L H)) : a.renumbered (fun j ↦ j) = a := by
  cases a with
  | pointer p =>
    obtain ⟨held, drag⟩ := p
    cases drag <;> rfl
  | scrolling s => cases s <;> rfl
  | _ => rfl

theorem Change.Within.renumbered {channel : Channel} {a : Change (.counted L H)}
    (h : a.Within channel) : (a.renumbered f).Within channel := by
  cases a <;> exact h

namespace Router

variable (r : Router (.counted L H))

theorem renumbered_id : r.renumbered (fun j ↦ j) = r := by
  have hreceivers : r.receivers.map (Receiver.renumbered fun j ↦ j) = r.receivers :=
    IdMap.map_eq_self fun _ _ _ ↦ (Receiver.renumbered_eq_self_iff _).mpr fun _ _ ↦ rfl
  rw [renumbered, hreceivers]

theorem renumbered_renumbered :
    (r.renumbered f).renumbered g = r.renumbered fun j ↦ g (f j) := by
  simp only [renumbered, IdMap.map_map, Receiver.renumbered_renumbered]

theorem find?_renumbered (id : WindowId) : (r.renumbered f).find? id =
    (r.find? id).map fun found ↦ (found.1, found.2.renumbered f) := by
  simp only [find?, renumbered, IdMap.get?_map]
  cases r.windows.get? id with
  | none => rfl
  | some w => cases r.receivers.get? id <;> rfl

theorem changed_renumbered (id : WindowId) (a : Change (.counted L H)) :
    (r.changed id a).renumbered f = (r.renumbered f).changed id (a.renumbered f) := by
  have hmodify {g k : Receiver (.counted L H) → Receiver (.counted L H)}
      (h : ∀ x, (g x).renumbered f = k (x.renumbered f)) :
      (r.modifyReceiver id g).renumbered f = (r.renumbered f).modifyReceiver id k := by
    simp only [modifyReceiver, renumbered, IdMap.map_modify h]
  cases a with
  | none => rfl
  | scale x => rfl
  | pointer p => exact hmodify fun _ ↦ rfl
  | scrolling s => exact hmodify fun _ ↦ rfl

end Router

end

/-! ### What an event depends on -/

/-- A stream finds the same in two routers, up to a renumbering: the window is open in neither, or
open in both with the same part for the channel. -/
inductive Counterpart (f : Nat → Nat) (channel : Channel) :
    Option (Target (.counted L H) × Receiver (.counted L H)) →
      Option (Target (.counted L H) × Receiver (.counted L H)) → Prop
  | closed : Counterpart f channel none none
  | opened {t t' : Target (.counted L H)} {x x' : Receiver (.counted L H)}
      (h : Follows (.numbers f) Channel.shows channel t x t' x') :
      Counterpart f channel (some (t, x)) (some (t', x'))

/-- A change in another part makes no difference to a channel. -/
theorem Follows.changed {f : Nat → Nat} {channel channel' : Channel}
    {t t' : Target (.counted L H)} {x x' : Receiver (.counted L H)}
    (h : Follows (.numbers f) Channel.shows channel t x t' x') (hne : channel ≠ channel')
    {b : Change (.counted L H)} (hb : b.Within channel') :
    Follows (.numbers f) Channel.shows channel t x (b.target t') (b.receiver x') := by
  obtain ⟨htarget, hpointer, hscrolling⟩ := h
  cases b with
  | none => exact ⟨htarget, hpointer, hscrolling⟩
  | pointer p => exact ⟨htarget, fun heq ↦ absurd (heq.trans hb.symm) hne, hscrolling⟩
  | scrolling s => exact ⟨htarget, hpointer, fun heq ↦ absurd (heq.trans hb.symm) hne⟩
  | scale x =>
    refine ⟨⟨htarget.id, htarget.listener, fun hshown ↦ ?_⟩, hpointer, hscrolling⟩
    exact absurd ((of_decide_eq_true hshown).trans hb.symm) hne

namespace Router

variable {r r' : Router (.counted L H)} {f : Nat → Nat}

theorem counterpart_renumbered (r : Router (.counted L H)) (f : Nat → Nat) (channel : Channel)
    (id : WindowId) : Counterpart f channel (r.find? id) ((r.renumbered f).find? id) := by
  rw [find?_renumbered]
  cases r.find? id with
  | none => exact .closed
  | some found => exact .opened ⟨⟨rfl, rfl, fun _ ↦ rfl⟩, fun _ ↦ rfl, fun _ ↦ rfl⟩

/-- A change made by another stream makes no difference to a stream. -/
theorem counterpart_changed {x y : Message} (hne : x.stream ≠ y.stream)
    (h : Counterpart f x.event.channel (r.find? x.id) (r'.find? x.id))
    {b : Change (.counted L H)} (hb : b.Within y.event.channel) :
    Counterpart f x.event.channel (r.find? x.id) ((r'.changed y.id b).find? x.id) := by
  by_cases hid : y.id = x.id
  · have hchannel : x.event.channel ≠ y.event.channel := fun heq ↦
      hne (Prod.ext hid.symm heq)
    rw [hid]
    cases hfound : r'.find? x.id with
    | none =>
      have hclosed : ((r'.changed x.id b).find? x.id).isSome = (r'.find? x.id).isSome :=
        isSome_find?_changed x.id b
      rw [hfound, Option.isSome_none, Option.isSome_eq_false_iff, Option.isNone_iff_eq_none]
        at hclosed
      rwa [hclosed, ← hfound]
    | some found =>
      rw [hfound] at h
      rw [find?_changed_self hfound b]
      generalize r.find? x.id = o at h
      cases h with
      | opened hfollows => exact .opened (hfollows.changed hchannel hb)
  · rw [find?_changed_of_ne hid]
    exact h

/-- What a message comes to: some reply and callbacks, a change in the part of the stream, and `k`
new sessions and gestures. In another router, and with other numbers given out before, it comes to
the same up to a renumbering if the stream finds the same there. -/
theorem exists_process (m : Manner L H) (r : Router (.counted L H)) (n : Nat) (x : Message) :
    ∃ (d : Delivery L H) (a : Change (.counted L H)) (k : Nat), d.message = x ∧
      a.Within x.event.channel ∧ r.process m n x = (d, r.changed x.id a, n + k) ∧
      ∀ (f : Nat → Nat) (r' : Router (.counted L H)) (n' : Nat), r'.config = r.config →
        r'.host = r.host → Counterpart f x.event.channel (r.find? x.id) (r'.find? x.id) →
        (∀ j, n < j → j ≤ n + k → f j + n = j + n') →
        r'.process m n' x = (d.renumbered f, r'.changed x.id (a.renumbered f), n' + k) := by
  cases hfound : r.find? x.id with
  | none =>
    refine ⟨⟨x, .error (.unknownWindow x.id), []⟩, .none, 0, rfl, trivial, ?_, ?_⟩
    · simp only [process, deliver_of_none hfound]
      rfl
    · intro f r' n' _ _ hcounterpart _
      generalize hfound' : r'.find? x.id = o at hcounterpart
      cases hcounterpart
      simp only [process, deliver_of_none hfound']
      rfl
  | some found =>
    obtain ⟨t, y⟩ := found
    let out := (x.event.plan r.config r.host t y).run m.reliable ⟨0, n, []⟩
    have hle : n ≤ out.2.2.serial :=
      (x.event.plan r.config r.host t y).serial_le_run ⟨0, n, []⟩
    have hcount : n + (out.2.2.serial - n) = out.2.2.serial := Nat.add_sub_cancel' hle
    refine ⟨⟨x, .ok out.1, out.2.2.seen⟩, out.2.1, out.2.2.serial - n, rfl,
      Event.within_plan (Plan.leaves_run _ _ _), ?_, ?_⟩
    · simp only [process, deliver_of_find? hfound, Plan.run_map, hcount, Option.map_id', out]
    · intro f r' n' hconfig hhost hcounterpart hf
      generalize hfound' : r'.find? x.id = o at hcounterpart
      cases hcounterpart with
      | @opened _ t' _ y' hfollows =>
        rw [hcount] at hf
        obtain ⟨hreply, hchange, hmatches⟩ :=
          (x.event.parallel_plan hfollows r.config r.host).run m.blindTo_id rfl (fun _ ↦ false)
            (fun _ ↦ false) ⟨0, n, []⟩ ⟨0, n', []⟩ (fun _ ↦ rfl) hf rfl
        have hserial : _ + n = out.2.2.serial + n' := hmatches.serial
        simp only [process, Manner.reliable, deliver_of_find? hfound', Plan.run_map, hconfig, hhost,
          Option.map_id', hreply, hchange, hmatches.seen, Prod.mk.injEq]
        exact ⟨rfl, rfl, by omega⟩

/-! ### Numbers that were given out -/

/-- The open sessions and gestures have numbers up to `n`. -/
def NumbersLe (r : Router (.counted L H)) (n : Nat) : Prop :=
  ∀ id x, r.receivers.get? id = some x → ∀ j, x.Uses j → j ≤ n

/-- A renumbering of the numbers after `n` changes nothing. -/
def Settled (r : Router (.counted L H)) (n : Nat) : Prop :=
  ∀ f : Nat → Nat, (∀ j ≤ n, f j = j) → r.renumbered f = r

theorem NumbersLe.settled {n : Nat} (h : r.NumbersLe n) : r.Settled n := by
  intro f hf
  have hreceivers : r.receivers.map (Receiver.renumbered f) = r.receivers :=
    IdMap.map_eq_self fun id x hx ↦
      (Receiver.renumbered_eq_self_iff f).mpr fun j hj ↦ hf j (h id x hx j hj)
  rw [renumbered, hreceivers]

theorem Settled.numbersLe {n : Nat} (h : r.Settled n) : r.NumbersLe n := by
  intro id x hx j hj
  let f (j : Nat) : Nat := if j ≤ n then j else j + 1
  have hreceivers := congrArg Router.receivers (h f fun j hj ↦ if_pos hj)
  have hself : x.renumbered f = x := by
    have hget := congrArg (IdMap.get? · id) hreceivers
    simp only [renumbered, IdMap.get?_map, hx, Option.map_some] at hget
    exact Option.some.inj hget
  have hfixed := (Receiver.renumbered_eq_self_iff f).mp hself j hj
  simp only [f] at hfixed
  split at hfixed
  · assumption
  · omega

theorem numbersLe_new (config : Config) (n : Nat) :
    (Router.new config : Router (.counted L H)).NumbersLe n := by
  intro id x hx
  rw [Router.new, IdMap.get?_empty] at hx
  cases hx

/-- Nothing is open in a new window. -/
theorem NumbersLe.opened {n : Nat} (h : r.NumbersLe n) (d : Descriptor) (l : L) :
    (r.opened d l).2.NumbersLe n := by
  intro id x hx j hj
  rcases IdMap.eq_or_get?_of_get?_insert hx with ⟨-, rfl⟩ | hold
  · rcases hj with hdrag | ⟨swipe, hswipe, -⟩
    · exact nomatch hdrag
    · exact nomatch hswipe
  · exact h id x hold j hj

theorem NumbersLe.closed {n : Nat} (h : r.NumbersLe n) (id : WindowId) :
    (r.closed id).NumbersLe n := by
  intro other x hx
  by_cases hid : id = other
  · rw [hid, get?_receivers_closed_self] at hx
    exact nomatch hx
  · rw [get?_receivers_closed_of_ne r hid] at hx
    exact h other x hx

theorem Settled.counterpart {n : Nat} (h : r.Settled n) (hf : ∀ j ≤ n, f j = j) (channel : Channel)
    (id : WindowId) : Counterpart f channel (r.find? id) (r.find? id) := by
  have hcounterpart := r.counterpart_renumbered f channel id
  rwa [h f hf] at hcounterpart

variable {m : Manner L H} {n : Nat}

/-- What comes of a message has numbers that were given out by then. -/
theorem Settled.process (h : r.Settled n) (x : Message) :
    (r.process m n x).2.1.Settled (r.process m n x).2.2 ∧ n ≤ (r.process m n x).2.2 ∧
      ∀ f : Nat → Nat, (∀ j ≤ (r.process m n x).2.2, f j = j) →
        (r.process m n x).1.renumbered f = (r.process m n x).1 := by
  obtain ⟨d, a, k, -, -, hprocess, hothers⟩ := exists_process m r n x
  have hfixed (f : Nat → Nat) (hf : ∀ j ≤ n + k, f j = j) :
      d.renumbered f = d ∧ r.changed x.id (a.renumbered f) = r.changed x.id a := by
    have hold (j : Nat) (hj : j ≤ n) : f j = j := hf j (Nat.le_add_right_of_le hj)
    have hagain := hothers f r n rfl rfl (h.counterpart hold _ _) fun j _ hj ↦ by rw [hf j hj]
    rw [hprocess, Prod.mk.injEq, Prod.mk.injEq] at hagain
    exact ⟨hagain.1.symm, hagain.2.1.symm⟩
  rw [hprocess]
  refine ⟨fun f hf ↦ ?_, Nat.le_add_right n k, fun f hf ↦ (hfixed f hf).1⟩
  have hold (j : Nat) (hj : j ≤ n) : f j = j := hf j (Nat.le_add_right_of_le hj)
  rw [changed_renumbered, h f hold]
  exact (hfixed f hf).2

/-- What is open after some messages has a number that was given out by then. -/
theorem NumbersLe.processAll (h : r.NumbersLe n) (xs : List Message) :
    (r.processAll m n xs).2.1.NumbersLe (r.processAll m n xs).2.2 := by
  induction xs generalizing r n with
  | nil => exact h
  | cons x rest ih => exact ih (h.settled.process x).1.numbersLe

/-- Renumbering what was given out renumbers what comes of a message. -/
theorem process_renumbered (r : Router (.counted L H)) (hf : ∀ j, n < j → f j = j) (x : Message) :
    (r.renumbered f).process m n x = ((r.process m n x).1.renumbered f,
      (r.process m n x).2.1.renumbered f, (r.process m n x).2.2) := by
  obtain ⟨d, a, k, -, -, hprocess, hothers⟩ := exists_process m r n x
  have hrenumbered := hothers f (r.renumbered f) n rfl rfl (r.counterpart_renumbered f _ _)
    fun j hj _ ↦ by rw [hf j hj]
  rw [hrenumbered, hprocess, changed_renumbered]

theorem le_process (r : Router (.counted L H)) (n : Nat) (x : Message) :
    n ≤ (r.process m n x).2.2 := by
  obtain ⟨d, a, k, -, -, hprocess, -⟩ := exists_process m r n x
  rw [hprocess]
  exact Nat.le_add_right n k

/-- Renumbering what was given out renumbers all that comes of some messages. -/
theorem processAll_renumbered (r : Router (.counted L H)) (hf : ∀ j, n < j → f j = j)
    (xs : List Message) : (r.renumbered f).processAll m n xs =
      ((r.processAll m n xs).1.map (Delivery.renumbered f),
        (r.processAll m n xs).2.1.renumbered f, (r.processAll m n xs).2.2) := by
  induction xs generalizing r n with
  | nil => rfl
  | cons x rest ih =>
    have hlater (j : Nat) (hj : (r.process m n x).2.2 < j) : f j = j :=
      hf j (Nat.lt_of_le_of_lt (r.le_process n x) hj)
    have hrest := ih (r.process m n x).2.1 hlater
    simp only [processAll, process_renumbered r hf x, hrest, List.map_cons]

/-! ### Exchanging messages -/

/-- Two lists of messages come to the same: there is a renumbering of what is opened from now on
that gives the replies and callbacks of every stream and the router in the end. -/
def Same (m : Manner L H) (r : Router (.counted L H)) (n : Nat) (xs ys : List Message) : Prop :=
  ∃ ρ : Equiv.Perm Nat, (∀ j ≤ n, ρ j = j) ∧
    (∀ stream, ((r.processAll m n xs).1.filter (·.message.stream = stream)).map
        (Delivery.renumbered ρ) =
      (r.processAll m n ys).1.filter (·.message.stream = stream)) ∧
    (r.processAll m n ys).2 =
      ((r.processAll m n xs).2.1.renumbered ρ, (r.processAll m n xs).2.2)

/-- The numbers from `n + 1` to `n + p` exchanged with the `q` numbers after them. -/
def exchange (n p q : Nat) : Equiv.Perm Nat where
  toFun j := if n < j ∧ j ≤ n + p then j + q else if n + p < j ∧ j ≤ n + p + q then j - p else j
  invFun j := if n < j ∧ j ≤ n + q then j + p else if n + q < j ∧ j ≤ n + q + p then j - q else j
  left_inv j := by
    simp only
    split_ifs <;> omega
  right_inv j := by
    simp only
    split_ifs <;> omega

section

variable {p q j : Nat}

theorem exchange_of_le (h : j ≤ n) : exchange n p q j = j := by
  simp only [exchange, Equiv.coe_fn_mk]
  split_ifs <;> omega

theorem exchange_of_lt (h : n + p + q < j) : exchange n p q j = j := by
  simp only [exchange, Equiv.coe_fn_mk]
  split_ifs <;> omega

/-- The first `p` numbers are moved past `q` others. -/
theorem exchange_add (h : n < j) (hle : j ≤ n + p) : exchange n p q j + n = j + (n + q) := by
  simp only [exchange, Equiv.coe_fn_mk]
  split_ifs <;> omega

theorem exchange_exchange (j : Nat) : exchange n p q (exchange n q p j) = j :=
  (exchange n p q).apply_symm_apply j

end

/-- The deliveries of the messages of a stream. -/
theorem filter_renumbered (ds : List (Delivery L H)) (f : Nat → Nat)
    (stream : WindowId × Channel) :
    (ds.map (Delivery.renumbered f)).filter (·.message.stream = stream) =
      (ds.filter (·.message.stream = stream)).map (Delivery.renumbered f) := by
  rw [List.filter_map]
  rfl

variable {xs ys zs : List Message}

theorem Same.refl (m : Manner L H) (r : Router (.counted L H)) (n : Nat) (xs : List Message) :
    Same m r n xs xs := by
  refine ⟨1, fun _ _ ↦ rfl, fun stream ↦ ?_, ?_⟩
  · exact List.map_id'' Delivery.renumbered_id _
  · exact Prod.ext (r.processAll m n xs).2.1.renumbered_id.symm rfl

theorem Same.trans (hxy : Same m r n xs ys) (hyz : Same m r n ys zs) : Same m r n xs zs := by
  obtain ⟨ρ, hρ, hstreams, hlast⟩ := hxy
  obtain ⟨σ, hσ, hstreams', hlast'⟩ := hyz
  refine ⟨σ * ρ, fun j hj ↦ ?_, fun stream ↦ ?_, ?_⟩
  · rw [Equiv.Perm.mul_apply, hρ j hj, hσ j hj]
  · rw [← hstreams', ← hstreams, List.map_map]
    congr 1
    funext d
    exact (d.renumbered_renumbered ρ σ).symm
  · rw [hlast', hlast, renumbered_renumbered]
    rfl

theorem Same.cons (hr : r.Settled n) (x : Message)
    (h : Same m (r.process m n x).2.1 (r.process m n x).2.2 xs ys) :
    Same m r n (x :: xs) (x :: ys) := by
  obtain ⟨ρ, hρ, hstreams, hlast⟩ := h
  obtain ⟨-, hle, hfixed⟩ := hr.process (m := m) x
  refine ⟨ρ, fun j hj ↦ hρ j (Nat.le_trans hj hle), fun stream ↦ ?_, hlast⟩
  simp only [processAll, List.filter_cons]
  split
  · rw [List.map_cons, hfixed ρ hρ, hstreams]
  · exact hstreams stream

/-- Neighbouring messages of different streams can be exchanged. -/
theorem Same.swap (hr : r.Settled n) {x y : Message} (hne : x.stream ≠ y.stream)
    (zs : List Message) : Same m r n (x :: y :: zs) (y :: x :: zs) := by
  obtain ⟨d, a, p, hd, ha, hx, hx'⟩ := exists_process m r n x
  obtain ⟨e, b, q, he, hb, hy, hy'⟩ := exists_process m r n y
  -- Each of the two comes to the same after the other one, up to the exchange of the new numbers.
  have hyx := hy' (exchange n q p) (r.changed x.id a) (n + p) (config_changed a) (host_changed a)
    (counterpart_changed (Ne.symm hne) (hr.counterpart (fun _ ↦ exchange_of_le) _ _) ha)
    fun _ ↦ exchange_add
  have hxy := hx' (exchange n p q) (r.changed y.id b) (n + q) (config_changed b) (host_changed b)
    (counterpart_changed hne (hr.counterpart (fun _ ↦ exchange_of_le) _ _) hb)
    fun _ ↦ exchange_add
  have hback : (fun j ↦ exchange n p q (exchange n q p j)) = fun j ↦ j :=
    funext exchange_exchange
  have hplaces : x.id ≠ y.id ∨ x.event.channel ≠ y.event.channel := by
    by_contra hboth
    obtain ⟨hid, hchannel⟩ := not_or.mp hboth
    exact hne (Prod.ext (not_not.mp hid) (not_not.mp hchannel))
  have hrouter : (r.changed y.id b).changed x.id (a.renumbered (exchange n p q)) =
      ((r.changed x.id a).changed y.id (b.renumbered (exchange n q p))).renumbered
        (exchange n p q) := by
    rw [changed_renumbered, changed_renumbered, hr _ fun _ ↦ exchange_of_le,
      Change.renumbered_renumbered, hback, Change.renumbered_id,
      changed_comm hplaces (ha.renumbered _) hb]
  have hrest := processAll_renumbered (m := m)
    ((r.changed x.id a).changed y.id (b.renumbered (exchange n q p)))
    (fun _ ↦ exchange_of_lt (n := n) (p := p) (q := q)) zs
  refine ⟨exchange n p q, fun _ ↦ exchange_of_le, fun stream ↦ ?_, ?_⟩
  · have hmessage (f : Nat → Nat) (d : Delivery L H) : (d.renumbered f).message = d.message := rfl
    simp only [processAll, hx, hy, hxy, hyx, hrouter, hrest, Nat.add_right_comm n q p,
      List.filter_cons, hmessage, hd, he, filter_renumbered]
    -- At most one of the two messages is in the stream.
    by_cases hxs : x.stream = stream
    · have hys : y.stream ≠ stream := fun heq ↦ hne (hxs.trans heq.symm)
      simp only [hxs, hys, decide_true, decide_false, if_true, Bool.false_eq_true, if_false,
        List.map_cons]
    · by_cases hys : y.stream = stream
      · simp only [hxs, hys, decide_true, decide_false, if_true, Bool.false_eq_true, if_false,
          List.map_cons, Delivery.renumbered_renumbered, hback, Delivery.renumbered_id]
      · simp only [hxs, hys, decide_false, Bool.false_eq_true, if_false]
  · simp only [processAll, hx, hy, hxy, hyx, hrouter, hrest, Nat.add_right_comm n q p]

theorem same_of_reordered (hr : r.Settled n) (h : Reordered Message.stream xs ys) :
    Same m r n xs ys := by
  induction h generalizing r n with
  | refl xs => exact .refl m r n xs
  | cons x hxy ih => exact .cons hr x (ih (hr.process x).1)
  | swap hne zs => exact .swap hr hne zs
  | trans hxy hyz ihxy ihyz => exact .trans (ihxy hr) (ihyz hr)

end Router

/-- Streams of events do not interfere. Two lists of messages that have the same messages of every
window and channel, in the same order, come to the same in a router whose open sessions and gestures
have numbers up to `n`: the messages of a stream have the same answers and lead to the same calls,
and the router is the same in the end, all up to a renumbering of what is opened on the way. -/
theorem streams_independent (m : Manner L H) {r : Router (.counted L H)} {n : Nat}
    (hr : r.NumbersLe n) {xs ys : List Message}
    (h : ∀ stream, xs.filter (·.stream = stream) = ys.filter (·.stream = stream)) :
    ∃ ρ : Equiv.Perm Nat, (∀ j ≤ n, ρ j = j) ∧
      (∀ stream, ((r.processAll m n xs).1.filter (·.message.stream = stream)).map
          (Delivery.renumbered ρ) =
        (r.processAll m n ys).1.filter (·.message.stream = stream)) ∧
      (r.processAll m n ys).2 =
        ((r.processAll m n xs).2.1.renumbered ρ, (r.processAll m n xs).2.2) := by
  have hreordered : Reordered Message.stream xs ys := reordered_of_filter h
  exact Router.same_of_reordered hr.settled hreordered

namespace Router

/-- Two windows, the first one in the place of one that was closed. -/
def paired : Router (.counted Unit Unit) :=
  (((((Router.new default).opened default ()).2.closed ⟨1, 1⟩).opened default ()).2.opened
    default ()).2

/-- The left button goes down in the first of the two windows. -/
def grab : Message := ⟨⟨1, 3⟩, .button .zero true .left⟩

theorem numbersLe_paired (n : Nat) : paired.NumbersLe n :=
  ((((numbersLe_new default n).opened default ()).closed ⟨1, 1⟩).opened default ()).opened
    default ()

/-- The two windows while the first one is dragged. -/
def dragging : Router (.counted Unit Unit) := (paired.processAll .dull 0 [grab]).2.1

theorem numbersLe_dragging : dragging.NumbersLe 1 := by
  have hopened : (paired.processAll .dull 0 [grab]).2.2 = 1 := by decide +kernel
  have hle := (numbersLe_paired 0).processAll (m := .dull) [grab]
  rwa [hopened] at hle

end Router

/-- While one window is dragged, a drag of the other one and a gesture of the first one can begin in
either order, which decides about the numbers that they get. -/
theorem dragging_streams_independent :
    let xs : List Message := [⟨⟨2, 1⟩, .button .zero true .left⟩,
      ⟨⟨1, 3⟩, .smoothScroll .zero .zero ⟨0⟩⟩, ⟨⟨1, 3⟩, .button .zero false .left⟩]
    let ys : List Message := [⟨⟨1, 3⟩, .smoothScroll .zero .zero ⟨0⟩⟩,
      ⟨⟨1, 3⟩, .button .zero false .left⟩, ⟨⟨2, 1⟩, .button .zero true .left⟩]
    let drag (zs : List Message) : Option Nat :=
      ((Router.dragging.processAll .dull 1 zs).2.1.receivers.get? ⟨2, 1⟩).bind (·.pointer.drag)
    Router.dragging.NumbersLe 1 ∧
      (∀ stream, xs.filter (·.stream = stream) = ys.filter (·.stream = stream)) ∧
      drag xs = some 2 ∧ drag ys = some 3 ∧
      ∃ ρ : Equiv.Perm Nat, (∀ j ≤ 1, ρ j = j) ∧
        (∀ stream, ((Router.dragging.processAll .dull 1 xs).1.filter
            (·.message.stream = stream)).map (Delivery.renumbered ρ) =
          (Router.dragging.processAll .dull 1 ys).1.filter (·.message.stream = stream)) ∧
        (Router.dragging.processAll .dull 1 ys).2 =
          ((Router.dragging.processAll .dull 1 xs).2.1.renumbered ρ,
            (Router.dragging.processAll .dull 1 xs).2.2) := by
  intro xs ys drag
  have h (stream : WindowId × Channel) :
      xs.filter (·.stream = stream) = ys.filter (·.stream = stream) := by
    by_cases hother : stream = (⟨2, 1⟩, .pointer)
    · subst hother
      rfl
    · have hpress : ¬(Message.stream ⟨⟨2, 1⟩, .button .zero true .left⟩ = stream) :=
        fun heq ↦ hother heq.symm
      simp [xs, ys, List.filter_cons, hpress]
  exact ⟨Router.numbersLe_dragging, h, by decide +kernel, by decide +kernel,
    streams_independent .dull Router.numbersLe_dragging h⟩

end WindowRouting

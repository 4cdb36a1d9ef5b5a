import WindowRouting.Proofs.Steps.Tickets
import WindowRouting.Proofs.Watch

/-!
Windows one at a time. In every run the windows have numbers of their own and so have their
sessions (`orderly_watch`). A fact about one window and the history holds in every run once it is
kept by each step of the window and by calls that belong to others (`Lasting`, `fits_watch`).
-/

set_option autoImplicit false
set_option relaxedAutoImplicit false

namespace WindowRouting

open Relation

variable {C : Client} {σ : Type}

namespace Watch

/-- The windows and their sessions have numbers of their own. -/
structure Orderly (s : Watch C σ) : Prop where
  inStep : s.InStep
  number_lt : ∀ place r, s.receiver? place = some r → r.listener.number < s.acts
  distinct : ∀ place place' r r', s.receiver? place = some r → s.receiver? place' = some r' →
    r.listener.number = r'.listener.number → place = place'
  held : ∀ place r, s.receiver? place = some r → ∀ x, Receiver.Holds (some r) x →
    x.window = r.listener.number ∧ x.call < s.history.length
  past : ∀ e ∈ s.history, e.act < s.acts ∧ (∀ k, e.call.owner = some k → k < s.acts) ∧
    ∀ x, e.call.ticket? = some x → x.call < s.history.length

variable {W : World C σ} {s s' : Watch C σ}

theorem Orderly.tidy (hs : s.Orderly) {k : Nat} (place : Place)
    (hk : ∀ r, s.receiver? place = some r → r.listener.number = k) :
    Receiver.Tidy k (s.receiver? place) s.history where
  number := hk
  held x := by
    rintro ⟨r, hr, hx⟩
    rw [← hk r hr]
    exact hs.held place r hr x ⟨r, rfl, hx⟩
  past e he := (hs.past e he).2.2

/-- A window is opened where there is none. -/
theorem Orderly.vacant_of_opening (hs : s.Orderly) {a : Act C σ} {place : Place}
    {l : Numbered C.Listener} (hmeans : s.Means a place (.opening l)) :
    s.receiver? place = none ∧ l.number = s.acts := by
  cases hmeans with
  | create hcurrent d listener =>
    rw [receiver?_of_current hcurrent]
    exact ⟨Router.vacant_nextId (inStep_of_current hs.inStep hcurrent) _ rfl, rfl⟩

/-- The number of the window that an act is meant for. A window that is not open now gets its number
from the act. -/
theorem Orderly.number_of_means (hs : s.Orderly) {a : Act C σ} {place : Place} {cause : Cause C}
    (hmeans : s.Means a place cause) :
    ∃ k, (∀ r, s.receiver? place = some r → r.listener.number = k) ∧
      (∀ l, cause = .opening l → l.number = k) ∧ (s.receiver? place = none → k = s.acts) := by
  cases hplace : s.receiver? place with
  | none =>
    refine ⟨s.acts, nofun, fun l hl ↦ ?_, fun _ ↦ rfl⟩
    subst hl
    exact (hs.vacant_of_opening hmeans).2
  | some r =>
    refine ⟨r.listener.number, fun r' hr' ↦ by rw [Option.some.inj hr'], fun l hl ↦ ?_, nofun⟩
    subst hl
    exact nomatch hplace.symm.trans (hs.vacant_of_opening hmeans).1

/-- The other windows have other numbers. -/
theorem Orderly.number_ne (hs : s.Orderly) {place other : Place} {k : Nat}
    (hk : ∀ r, s.receiver? place = some r → r.listener.number = k)
    (hnone : s.receiver? place = none → k = s.acts) (hne : place ≠ other)
    {r : Receiver C.ticketed} (hr : s.receiver? other = some r) : r.listener.number ≠ k := by
  intro hnumber
  cases hplace : s.receiver? place with
  | none =>
    have hlt := hs.number_lt other r hr
    rw [hnumber, hnone hplace] at hlt
    exact absurd hlt (Nat.lt_irrefl _)
  | some r' => exact hne (hs.distinct _ _ r' r hplace hr (by rw [hk r' hplace, hnumber]))

/-- The windows that there are after a chain of steps of one window. -/
theorem Moves.before {place : Place} {cause : Cause C} (hmoves : s.Moves place cause s')
    {other : Place} {r : Receiver C.ticketed} (hr : s'.receiver? other = some r) :
    other = place ∨ place ≠ other ∧ s.receiver? other = some r := by
  by_cases hne : place = other
  · exact Or.inl hne.symm
  · exact Or.inr ⟨hne, (hmoves.others other hne).symm.trans hr⟩

/-- A chain of steps of one window keeps the numbers of the windows apart. -/
theorem Orderly.distinct_of_moves (hs : s.Orderly) {place : Place} {cause : Cause C}
    (hmoves : s.Moves place cause s') {k : Nat}
    (hk : ∀ r, s.receiver? place = some r → r.listener.number = k)
    (hk' : ∀ r, s'.receiver? place = some r → r.listener.number = k)
    (hnone : s.receiver? place = none → k = s.acts) {p p' : Place} {r r' : Receiver C.ticketed}
    (hr : s'.receiver? p = some r) (hr' : s'.receiver? p' = some r')
    (hnumber : r.listener.number = r'.listener.number) : p = p' := by
  rcases hmoves.before hr with rfl | ⟨hne, hold⟩
  · rcases hmoves.before hr' with rfl | ⟨hne', hold'⟩
    · rfl
    · exact absurd (hnumber.symm.trans (hk' r hr)) (hs.number_ne hk hnone hne' hold')
  · rcases hmoves.before hr' with rfl | ⟨hne', hold'⟩
    · exact absurd (hnumber.trans (hk' r' hr')) (hs.number_ne hk hnone hne hold)
    · exact hs.distinct p p' r r' hold hold' hnumber

/-- The calls of an act belong to windows that were opened by then. -/
theorem Orderly.past_of_extends (hs : s.Orderly) {k : Nat} (hk : k < s.acts + 1)
    {held held' : Ticket → Prop} {h' : History C}
    (hextends : Extends s.acts k held s.history held' h') {e : Entry C} (he : e ∈ h') :
    e.act < s.acts + 1 ∧ ∀ j, e.call.owner = some j → j < s.acts + 1 := by
  obtain ⟨es, rfl, hes⟩ := hextends.entries
  rcases List.mem_append.mp he with hold | hnew
  · obtain ⟨hact, howner, -⟩ := hs.past e hold
    exact ⟨Nat.lt_succ_of_lt hact, fun j hj ↦ Nat.lt_succ_of_lt (howner j hj)⟩
  · obtain ⟨hact, howner, -⟩ := hes e hnew
    exact ⟨hact ▸ Nat.lt_succ_self _, fun j hj ↦ howner j hj ▸ hk⟩

/-- A chain of steps of one window keeps the windows in order. -/
theorem Orderly.of_moves (hs : s.Orderly) (hinStep : s'.InStep) (hacts : s'.acts = s.acts + 1)
    {place : Place} {cause : Cause C} (hmoves : s.Moves place cause s') {k : Nat}
    (hk : ∀ r, s.receiver? place = some r → r.listener.number = k)
    (hopening : ∀ l, cause = .opening l → l.number = k)
    (hnone : s.receiver? place = none → k = s.acts) : s'.Orderly := by
  obtain ⟨cfg, hchain⟩ := hmoves.steps
  obtain ⟨htidy, hextends⟩ := (hs.tidy place hk).chain hopening hchain
  have hlt : k < s.acts + 1 := by
    cases hplace : s.receiver? place with
    | none => exact hnone hplace ▸ Nat.lt_succ_self _
    | some r => exact hk r hplace ▸ Nat.lt_succ_of_lt (hs.number_lt place r hplace)
  refine ⟨hinStep, ?_, ?_, ?_, ?_⟩
  · intro other r hr
    rw [hacts]
    rcases hmoves.before hr with rfl | ⟨-, hold⟩
    · exact htidy.number r hr ▸ hlt
    · exact Nat.lt_succ_of_lt (hs.number_lt other r hold)
  · intro p p' r r' hr hr'
    exact hs.distinct_of_moves hmoves hk htidy.number hnone hr hr'
  · intro other r hr x hx
    rcases hmoves.before hr with rfl | ⟨-, hold⟩
    · rw [htidy.number r hr]
      exact htidy.held x (hr ▸ hx)
    · obtain ⟨hwindow, hcall⟩ := hs.held other r hold x hx
      exact ⟨hwindow, Nat.lt_of_lt_of_le hcall hextends.length_le⟩
  · intro e he
    obtain ⟨hact, howner⟩ := hs.past_of_extends hlt hextends he
    rw [hacts]
    exact ⟨hact, howner, htidy.past e he⟩

theorem Orderly.step (hs : s.Orderly) (a : Act C σ) : (s.step W a).Orderly := by
  obtain ⟨hinStep, ⟨place, cause, hmeans, hmoves⟩ | hrests⟩ := moves_or_rests (W := W) hs.inStep a
  · obtain ⟨k, hk, hopening, hnone⟩ := hs.number_of_means hmeans
    exact hs.of_moves hinStep rfl hmoves hk hopening hnone
  · refine ⟨hinStep, ?_, ?_, ?_, ?_⟩
    · intro place r hr
      rw [hrests.receivers] at hr
      exact Nat.lt_succ_of_lt (hs.number_lt place r hr)
    · intro p p' r r' hr hr'
      rw [hrests.receivers] at hr hr'
      exact hs.distinct p p' r r' hr hr'
    · intro place r hr
      rw [hrests.receivers] at hr
      rw [hrests.history]
      exact hs.held place r hr
    · intro e he
      rw [hrests.history] at he ⊢
      obtain ⟨hact, howner, hticket⟩ := hs.past e he
      exact ⟨Nat.lt_succ_of_lt hact, fun k hk ↦ Nat.lt_succ_of_lt (howner k hk), hticket⟩

end Watch

theorem orderly_watch (W : World C σ) (w : σ) (acts : List (Act C σ)) :
    (watch W w acts).Orderly := by
  induction acts using List.reverseRecOn with
  | nil => exact ⟨fun r hr ↦ absurd hr nofun, nofun, nofun, nofun, nofun⟩
  | append_singleton acts a ih =>
    rw [watch_snoc]
    exact ih.step a

/-- An act adds its calls to the history. -/
theorem Watch.Orderly.history_step {W : World C σ} {s : Watch C σ} (hs : s.Orderly) (a : Act C σ) :
    ∃ es, (s.step W a).history = s.history ++ es := by
  obtain ⟨-, ⟨place, cause, hmeans, hmoves⟩ | hrests⟩ := moves_or_rests (W := W) hs.inStep a
  · obtain ⟨k, hk, hopening, -⟩ := hs.number_of_means hmeans
    obtain ⟨cfg, hchain⟩ := hmoves.steps
    obtain ⟨es, hh, -⟩ := ((hs.tidy place hk).chain hopening hchain).2.entries
    exact ⟨es, hh⟩
  · exact ⟨[], by rw [hrests.history, List.append_nil]⟩

/-- The calls that an act makes. -/
def Watch.made (W : World C σ) (s : Watch C σ) (a : Act C σ) : History C :=
  (s.step W a).history.drop s.history.length

theorem Watch.made_of_append {W : World C σ} {s : Watch C σ} {a : Act C σ} {es : History C}
    (h : (s.step W a).history = s.history ++ es) : s.made W a = es := by
  rw [made, h, List.drop_left]

/-- What was called stays called. -/
theorem history_append (W : World C σ) (w : σ) (before later : List (Act C σ)) : ∃ es,
    (watch W w (before ++ later)).history = (watch W w before).history ++ es := by
  induction later using List.reverseRecOn with
  | nil => exact ⟨[], by rw [List.append_nil, List.append_nil]⟩
  | append_singleton later a ih =>
    obtain ⟨es, hes⟩ := ih
    obtain ⟨es', hes'⟩ := (orderly_watch W w (before ++ later)).history_step (W := W) a
    rw [← List.append_assoc, watch_snoc, hes', hes, List.append_assoc]
    exact ⟨_, rfl⟩

/-! ### Facts that last -/

/-- Act number `n` of a run was meant for window number `k`, which was open then. -/
def Caused (W : World C σ) (w : σ) (acts : List (Act C σ)) (n k : Nat) (cause : Cause C) : Prop :=
  ∃ a place r, acts[n]? = some a ∧ (watch W w (acts.take n)).Means a place cause ∧
    (watch W w (acts.take n)).receiver? place = some r ∧ r.listener.number = k

/-- A fact about window number `k` and the history that lasts: it holds of windows that have done
nothing, calls that belong to others keep it, and so do the steps of the window. -/
structure Lasting (caused : Nat → Nat → Cause C → Prop)
    (Fits : Nat → Option (Receiver C.ticketed) → History C → Prop) : Prop where
  fresh : ∀ k h, (∀ e ∈ h, e.call.owner ≠ some k) → Fits k none h
  opened : ∀ l h, (∀ e ∈ h, e.call.owner ≠ some l.number) → Fits l.number (some (.idle l)) h
  other : ∀ k o h e, e.call.owner ≠ some k → Fits k o h → Fits k o (h ++ [e])
  step : ∀ act id cfg cause k r h o h', caused act k cause → Receiver.Tidy k (some r) h →
    Receiver.Step act id cfg cause (some r, h) (o, h') → Fits k (some r) h → Fits k o h'

namespace Lasting

variable {caused : Nat → Nat → Cause C → Prop}
  {Fits : Nat → Option (Receiver C.ticketed) → History C → Prop}

theorem others (hlasting : Lasting caused Fits) {k : Nat} {o : Option (Receiver C.ticketed)}
    {h es : History C} (hes : ∀ e ∈ es, e.call.owner ≠ some k) (hfits : Fits k o h) :
    Fits k o (h ++ es) := by
  induction es using List.reverseRecOn with
  | nil => simpa using hfits
  | append_singleton es e ih =>
    rw [← List.append_assoc]
    refine hlasting.other k o _ e (hes e (by simp)) (ih fun d hd ↦ hes d ?_)
    exact List.mem_append_left _ hd

variable {act k : Nat} {id : WindowId} {cfg : Config} {cause : Cause C} {h h' : History C}

theorem chain_of_open (hlasting : Lasting caused Fits) {r : Receiver C.ticketed}
    {o : Option (Receiver C.ticketed)} (hcaused : caused act k cause)
    (hopening : ∀ l, cause ≠ .opening l) (htidy : Receiver.Tidy k (some r) h)
    (hchain : ReflTransGen (Receiver.Step act id cfg cause) (some r, h) (o, h'))
    (hfits : Fits k (some r) h) : Fits k o h' := by
  generalize hend : (o, h') = last at hchain
  induction hchain generalizing o h' with
  | refl =>
    obtain ⟨rfl, rfl⟩ := Prod.mk.inj hend
    exact hfits
  | @tail mid _ hsteps hstep ih =>
    subst hend
    obtain ⟨mid, hmid⟩ := mid
    have hfits' := ih rfl
    have htidy' := (htidy.chain (fun l hl ↦ absurd hl (hopening l)) hsteps).1
    cases mid with
    | none =>
      cases hstep with
      | opened l h => exact absurd rfl (hopening l)
    | some r' => exact hlasting.step act id cfg cause k r' hmid o h' hcaused htidy' hstep hfits'

/-- A window that is not open is opened, or nothing happens to it. -/
theorem chain_of_vacant {o : Option (Receiver C.ticketed)}
    (hchain : ReflTransGen (Receiver.Step act id cfg cause) (none, h) (o, h')) :
    h' = h ∧ (o = none ∨ ∃ l, cause = .opening l ∧ o = some (.idle l)) := by
  generalize hend : (o, h') = last at hchain
  induction hchain generalizing o h' with
  | refl =>
    obtain ⟨rfl, rfl⟩ := Prod.mk.inj hend
    exact ⟨rfl, Or.inl rfl⟩
  | @tail mid _ hsteps hstep ih =>
    subst hend
    obtain ⟨mid, hmid⟩ := mid
    obtain ⟨rfl, rfl | ⟨l, rfl, rfl⟩⟩ := ih rfl
    · cases hstep with
      | opened l h => exact ⟨rfl, Or.inr ⟨l, rfl, rfl⟩⟩
    · exact nomatch hstep

theorem chain_of_none (hlasting : Lasting caused Fits) {o : Option (Receiver C.ticketed)}
    (hunused : ∀ e ∈ h, e.call.owner ≠ some k) (hopening : ∀ l, cause = .opening l → l.number = k)
    (hchain : ReflTransGen (Receiver.Step act id cfg cause) (none, h) (o, h')) : Fits k o h' := by
  obtain ⟨rfl, rfl | ⟨l, rfl, rfl⟩⟩ := chain_of_vacant hchain
  · exact hlasting.fresh k h' hunused
  · obtain rfl := hopening l rfl
    exact hlasting.opened l h' hunused

end Lasting

namespace Watch

/-- Window number `k` is in the state `o`, where a window that is not open has no state. -/
def Shows (s : Watch C σ) (k : Nat) : Option (Receiver C.ticketed) → Prop
  | some r => r.listener.number = k ∧ ∃ place, s.receiver? place = some r
  | none => ∀ place r, s.receiver? place = some r → r.listener.number ≠ k

variable {s s' : Watch C σ} {k : Nat}

theorem exists_shows (s : Watch C σ) (k : Nat) : ∃ o, s.Shows k o := by
  by_cases hopen : ∃ place r, s.receiver? place = some r ∧ r.listener.number = k
  · obtain ⟨place, r, hr, hk⟩ := hopen
    exact ⟨some r, hk, place, hr⟩
  · exact ⟨none, fun place r hr hk ↦ hopen ⟨place, r, hr, hk⟩⟩

theorem Orderly.shows_unique (hs : s.Orderly) {o o' : Option (Receiver C.ticketed)}
    (ho : s.Shows k o) (ho' : s.Shows k o') : o = o' := by
  cases o with
  | none =>
    cases o' with
    | none => rfl
    | some r' =>
      obtain ⟨hk, place, hr⟩ := ho'
      exact absurd hk (ho place r' hr)
  | some r =>
    obtain ⟨hk, place, hr⟩ := ho
    cases o' with
    | none => exact absurd hk (ho' place r hr)
    | some r' =>
      obtain ⟨hk', place', hr'⟩ := ho'
      obtain rfl := hs.distinct place place' r r' hr hr' (hk.trans hk'.symm)
      exact hr.symm.trans hr'

/-- An open window has `x` in some way exactly if the window with the number on the ticket has. -/
theorem Orderly.exists_place_iff (hs : s.Orderly) {x : Ticket} {o : Option (Receiver C.ticketed)}
    (ho : s.Shows x.window o) {Q : Receiver C.ticketed → Prop}
    (hQ : ∀ r, Q r → Receiver.Holds (some r) x) :
    (∃ place r, s.receiver? place = some r ∧ Q r) ↔ ∃ r, o = some r ∧ Q r := by
  constructor
  · rintro ⟨place, r, hr, hx⟩
    have hwindow := (hs.held place r hr x (hQ r hx)).1
    have hshows : s.Shows x.window (some r) := ⟨hwindow.symm, place, hr⟩
    exact ⟨r, hs.shows_unique ho hshows, hx⟩
  · rintro ⟨r, rfl, hx⟩
    obtain ⟨-, place, hr⟩ := ho
    exact ⟨place, r, hr, hx⟩

theorem shows_of_place {place : Place}
    (hk : ∀ r, s.receiver? place = some r → r.listener.number = k)
    (hnone : s.receiver? place = none → ∀ p r, s.receiver? p = some r → r.listener.number ≠ k) :
    s.Shows k (s.receiver? place) := by
  cases hplace : s.receiver? place with
  | none => exact hnone hplace
  | some r => exact ⟨hk r hplace, place, hplace⟩

/-- The window that went through a chain of steps is the one with its number. -/
theorem Orderly.shows_of_moves (hs : s.Orderly) {place : Place} {cause : Cause C}
    (hmoves : s.Moves place cause s')
    (hk : ∀ r, s.receiver? place = some r → r.listener.number = k)
    (hk' : ∀ r, s'.receiver? place = some r → r.listener.number = k)
    (hnone : s.receiver? place = none → k = s.acts) : s'.Shows k (s'.receiver? place) := by
  refine shows_of_place hk' fun hgone p r hr ↦ ?_
  rcases hmoves.before hr with rfl | ⟨hne, hold⟩
  · exact nomatch hgone.symm.trans hr
  · exact hs.number_ne hk hnone hne hold

/-- The windows with other numbers are as they were. -/
theorem shows_before_moves {place : Place} {cause : Cause C} (hmoves : s.Moves place cause s')
    {j : Nat} (hj : ∀ r, s.receiver? place = some r → r.listener.number = j)
    (hj' : ∀ r, s'.receiver? place = some r → r.listener.number = j) (hne : k ≠ j)
    {o : Option (Receiver C.ticketed)} (hshows : s'.Shows k o) : s.Shows k o := by
  cases o with
  | none =>
    intro p r hr hk
    by_cases hp : place = p
    · exact hne (hk.symm.trans (hj r (hp ▸ hr)))
    · exact hshows p r ((hmoves.others p hp).trans hr) hk
  | some r =>
    obtain ⟨hk, p, hr⟩ := hshows
    rcases hmoves.before hr with rfl | ⟨-, hold⟩
    · exact absurd (hk.symm.trans (hj' r hr)) hne
    · exact ⟨hk, p, hold⟩

theorem Rests.shows (hrests : s.Rests s') {o : Option (Receiver C.ticketed)}
    (hshows : s'.Shows k o) : s.Shows k o := by
  cases o with
  | none => exact fun p r hr ↦ hshows p r ((hrests.receivers p).trans hr)
  | some r =>
    obtain ⟨hk, p, hr⟩ := hshows
    exact ⟨hk, p, (hrests.receivers p).symm.trans hr⟩

/-- Where a window comes from that is shown after an act: it was shown before as it is, and it was
not called, or a chain of steps led to it. -/
theorem Orderly.chain_of_shows {W : World C σ} (hs : s.Orderly) {a : Act C σ}
    {o' : Option (Receiver C.ticketed)} (ho' : (s.step W a).Shows k o') :
    (s.Shows k o' ∧ ∃ es, (s.step W a).history = s.history ++ es ∧
      ∀ e ∈ es, e.call.owner ≠ some k) ∨
    ∃ place cause cfg, s.Means a place cause ∧
      (∀ r, s.receiver? place = some r → r.listener.number = k) ∧
      (s.receiver? place = none → k = s.acts) ∧
      ReflTransGen (Receiver.Step s.acts place.id cfg cause) (s.receiver? place, s.history)
        (o', (s.step W a).history) := by
  obtain ⟨-, ⟨place, cause, hmeans, hmoves⟩ | hrests⟩ := moves_or_rests (W := W) hs.inStep a
  · obtain ⟨j, hj, hopening, hnone⟩ := hs.number_of_means hmeans
    obtain ⟨cfg, hchain⟩ := hmoves.steps
    obtain ⟨htidy, hextends⟩ := (hs.tidy place hj).chain hopening hchain
    by_cases hkj : k = j
    · subst hkj
      obtain rfl := (hs.step a).shows_unique ho' (hs.shows_of_moves hmoves hj htidy.number hnone)
      exact Or.inr ⟨place, cause, cfg, hmeans, hj, hnone, hchain⟩
    · obtain ⟨es, hh, hes⟩ := hextends.entries
      exact Or.inl ⟨shows_before_moves hmoves hj htidy.number hkj ho', es, hh,
        fun e he howner ↦ hkj ((hes e he).2.1 k howner)⟩
  · exact Or.inl ⟨hrests.shows ho', [], by rw [hrests.history, List.append_nil], nofun⟩

/-- What lasts holds after a chain of steps of one window. -/
theorem Orderly.fits_of_moves (hs : s.Orderly) (hs' : s'.Orderly)
    {caused : Nat → Nat → Cause C → Prop}
    {Fits : Nat → Option (Receiver C.ticketed) → History C → Prop}
    (hlasting : Lasting caused Fits) (hfits : ∀ k o, s.Shows k o → Fits k o s.history)
    {place : Place} {cause : Cause C} (hmoves : s.Moves place cause s') {j : Nat}
    (hj : ∀ r, s.receiver? place = some r → r.listener.number = j)
    (hopening : ∀ l, cause = .opening l → s.receiver? place = none ∧ l.number = j)
    (hnone : s.receiver? place = none → j = s.acts)
    (hcaused : ∀ r, s.receiver? place = some r → caused s.acts j cause)
    {o : Option (Receiver C.ticketed)} (hshows : s'.Shows k o) : Fits k o s'.history := by
  obtain ⟨cfg, hchain⟩ := hmoves.steps
  have htidy := hs.tidy place hj
  obtain ⟨htidy', hextends⟩ := htidy.chain (fun l hl ↦ (hopening l hl).2) hchain
  by_cases hkj : k = j
  · subst hkj
    rw [hs'.shows_unique hshows (hs.shows_of_moves hmoves hj htidy'.number hnone)]
    cases hplace : s.receiver? place with
    | none =>
      rw [hplace] at hchain
      refine hlasting.chain_of_none (fun d hd howner ↦ ?_) (fun l hl ↦ (hopening l hl).2) hchain
      have hlt := (hs.past d hd).2.1 k howner
      rw [hnone hplace] at hlt
      exact Nat.lt_irrefl _ hlt
    | some r =>
      rw [hplace] at hchain htidy
      refine hlasting.chain_of_open (hcaused r hplace) (fun l hl ↦ ?_) htidy hchain ?_
      · exact nomatch hplace.symm.trans (hopening l hl).1
      · exact hfits k (some r) ⟨hj r hplace, place, hplace⟩
  · have hbefore := shows_before_moves hmoves hj htidy'.number hkj hshows
    obtain ⟨es, hh, hes⟩ := hextends.entries
    rw [hh]
    exact hlasting.others (fun d hd howner ↦ hkj ((hes d hd).2.1 k howner)) (hfits k o hbefore)

end Watch

/-- What lasts holds in every run. -/
theorem fits_watch {W : World C σ} {w : σ} {acts : List (Act C σ)}
    {Fits : Nat → Option (Receiver C.ticketed) → History C → Prop}
    (hlasting : Lasting (Caused W w acts) Fits) {k : Nat} {o : Option (Receiver C.ticketed)}
    (hshows : (watch W w acts).Shows k o) : Fits k o (watch W w acts).history := by
  suffices hall : ∀ before after, acts = before ++ after → ∀ k o,
      (watch W w before).Shows k o → Fits k o (watch W w before).history from
    hall acts [] (List.append_nil acts).symm k o hshows
  intro before
  induction before using List.reverseRecOn with
  | nil =>
    intro after hacts k o hshows
    cases o with
    | none => exact hlasting.fresh k [] nofun
    | some r => exact nomatch hshows.2
  | append_singleton before a ih =>
    intro after hacts k o hshows
    have hs := orderly_watch W w before
    have hs' := orderly_watch W w (before ++ [a])
    have hfits := ih (a :: after) (by rw [hacts, List.append_assoc, List.singleton_append])
    rw [watch_snoc] at hs' hshows ⊢
    obtain ⟨-, ⟨place, cause, hmeans, hmoves⟩ | hrests⟩ :=
      Watch.moves_or_rests (W := W) hs.inStep a
    · obtain ⟨j, hj, hopening, hnone⟩ := hs.number_of_means hmeans
      refine hs.fits_of_moves hs' hlasting hfits hmoves hj ?_ hnone ?_ hshows
      · rintro l rfl
        exact ⟨(hs.vacant_of_opening hmeans).1, hopening l rfl⟩
      · intro r hr
        rw [acts_watch]
        refine ⟨a, place, r, ?_, ?_, ?_, hj r hr⟩
        · simp [hacts]
        · simpa [hacts] using hmeans
        · simpa [hacts] using hr
    · rw [hrests.history]
      exact hfits k o (hrests.shows hshows)

end WindowRouting

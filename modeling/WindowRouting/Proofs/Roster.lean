import WindowRouting.Seat.Request
import WindowRouting.Seat.Signal

/-!
Runs of everything that can be done with routers. All the routers there are stand in a roster, and
at most one of them is in the seat. An act installs a new router or one of the roster, takes the
router away, makes a request or delivers a signal at the seat, or changes the world behind the back
of the routers (`Act.perform`). The client is any client and the world any world, so a run covers
whatever listeners, sessions, gestures and hosts do, failures included.
-/

set_option autoImplicit false
set_option relaxedAutoImplicit false

namespace WindowRouting

/-- The routers there are, and which of them is in the seat. -/
structure Roster (C : Client) where
  routers : List (Router C)
  installed : Option Nat

variable {C : Client}

namespace Roster

/-- There are no routers. -/
def empty : Roster C := ⟨[], none⟩

/-- The number of the router in the seat, and the router. -/
def current (s : Roster C) : Option (Nat × Router C) :=
  s.installed.bind fun i ↦ s.routers[i]?.map fun r ↦ (i, r)

/-- The seat. -/
def seat (s : Roster C) : Seat C :=
  match s.current with
  | some (_, r) => .taken r
  | none => .vacant

/-- The roster after the router in the seat has become the one in `seat`. -/
def update (s : Roster C) (seat : Seat C) : Roster C :=
  match s.current, seat with
  | some (i, _), .taken r => { s with routers := s.routers.set i r }
  | _, _ => s

theorem current_eq_some_iff {s : Roster C} {i : Nat} {r : Router C} :
    s.current = some (i, r) ↔ s.installed = some i ∧ s.routers[i]? = some r := by
  unfold current
  cases hinstalled : s.installed with
  | none => simp
  | some j =>
    cases hrouter : s.routers[j]? with
    | none =>
      simp only [Option.bind_some, hrouter, Option.map_none, Option.some.injEq]
      exact ⟨nofun, fun ⟨hij, hr⟩ ↦ by rw [← hij, hrouter] at hr; exact nomatch hr⟩
    | some r' =>
      simp only [Option.bind_some, hrouter, Option.map_some, Option.some.injEq, Prod.mk.injEq]
      exact ⟨fun ⟨hij, hr⟩ ↦ ⟨hij, hij ▸ hr ▸ hrouter⟩,
        fun ⟨hij, hr⟩ ↦ ⟨hij, by rw [← hij, hrouter] at hr; exact Option.some.inj hr⟩⟩

theorem seat_of_current {s : Roster C} {i : Nat} {r : Router C} (h : s.current = some (i, r)) :
    s.seat = .taken r := by
  rw [seat, h]

theorem seat_of_none {s : Roster C} (h : s.current = none) : s.seat = .vacant := by
  rw [seat, h]

theorem update_of_current {s : Roster C} {i : Nat} {r : Router C} (h : s.current = some (i, r))
    (r' : Router C) : s.update (.taken r') = { s with routers := s.routers.set i r' } := by
  simp only [update, h]

theorem update_of_none {s : Roster C} (h : s.current = none) (seat : Seat C) :
    s.update seat = s := by
  simp only [update, h]

theorem getElem?_set_of_current {s : Roster C} {i : Nat} {r : Router C}
    (h : s.current = some (i, r)) (r' : Router C) (j : Nat) :
    (s.routers.set i r')[j]? = if i = j then some r' else s.routers[j]? := by
  obtain ⟨-, hr⟩ := current_eq_some_iff.mp h
  rw [List.getElem?_set]
  split
  case isTrue hij => exact if_pos (hij ▸ (List.getElem?_eq_some_iff.mp hr).1)
  case isFalse => rfl

/-- Putting back what is in the seat changes nothing. -/
theorem update_seat (s : Roster C) : s.update s.seat = s := by
  cases hcurrent : s.current with
  | none => exact update_of_none hcurrent _
  | some found =>
    obtain ⟨i, r⟩ := found
    obtain ⟨hlt, hr⟩ := List.getElem?_eq_some_iff.mp (current_eq_some_iff.mp hcurrent).2
    rw [seat_of_current hcurrent, update_of_current hcurrent, ← hr, List.set_getElem_self]

/-- The router that was put back is in the seat. -/
theorem current_update {s : Roster C} {i : Nat} {r : Router C} (h : s.current = some (i, r))
    (r' : Router C) : (s.update (.taken r')).current = some (i, r') := by
  obtain ⟨hinstalled, hr⟩ := current_eq_some_iff.mp h
  have hlt : i < s.routers.length := (List.getElem?_eq_some_iff.mp hr).1
  rw [update_of_current h]
  exact current_eq_some_iff.mpr ⟨hinstalled, by simp [hlt]⟩

end Roster

/-! ### Changing every router -/

section

variable {D : Client} (f : Router C → Router D)

/-- The seat with its router changed. -/
def Seat.map : Seat C → Seat D
  | .vacant => .vacant
  | .taken r => .taken (f r)
  | .busy => .busy

/-- The roster with every router changed. -/
def Roster.map (s : Roster C) : Roster D := ⟨s.routers.map f, s.installed⟩

namespace Roster

variable (s : Roster C)

theorem current_map : (s.map f).current = s.current.map fun found ↦ (found.1, f found.2) := by
  obtain ⟨routers, _ | i⟩ := s
  · rfl
  · simp only [current, map, Option.bind_some, List.getElem?_map]
    cases routers[i]? <;> rfl

theorem seat_map : (s.map f).seat = s.seat.map f := by
  unfold seat
  rw [current_map]
  cases s.current <;> rfl

theorem update_map (seat : Seat C) : (s.map f).update (seat.map f) = (s.update seat).map f := by
  unfold update
  rw [current_map]
  cases s.current with
  | none => rfl
  | some found =>
    cases seat with
    | vacant => rfl
    | busy => rfl
    | taken r => simp only [Option.map_some, Seat.map, map, List.map_set]

end Roster

end

/-! ### Acts -/

/-- What can be done. -/
inductive Act (C : Client) (σ : Type)
  /-- Installs a new router. -/
  | install (config : Config)
  /-- Installs a router of the roster again. -/
  | reinstall (n : Nat)
  | uninstall
  | request (request : Request C)
  | signal (handle : Handle) (signal : Signal)
  /-- Something happens that has nothing to do with the routers. -/
  | elapse (change : σ → σ)

namespace Act

variable {σ : Type}

/-- The routers and the world after an act. -/
def perform (W : World C σ) (s : Roster C) (w : σ) : Act C σ → Roster C × σ
  | .install config => (⟨s.routers ++ [.new config], some s.routers.length⟩, w)
  | .reinstall n => (if n < s.routers.length then { s with installed := some n } else s, w)
  | .uninstall => ({ s with installed := none }, w)
  | .request q =>
    match s.seat.serve W q w with
    | (_, seat, w) => (s.update seat, w)
  | .signal h q =>
    match s.seat.signal W h q w with
    | (_, seat, w) => (s.update seat, w)
  | .elapse change => (s, change w)

end Act

/-- The routers and the world after some acts. -/
def Roster.run {σ : Type} (W : World C σ) (s : Roster C × σ) (acts : List (Act C σ)) :
    Roster C × σ :=
  acts.foldl (fun s a ↦ a.perform W s.1 s.2) s

/-! ### Worlds that go alike -/

namespace Seat

variable {σ τ : Type} {V : World C σ} {W : World C τ} {R : σ → τ → Prop} (h : V.Alike W R)
  (seat : Seat C) {v : σ} {w : τ} (hvw : R v w)

include h hvw

/-- In worlds that go alike a request takes the same course. -/
theorem serve_alike (q : Request C) : (seat.serve V q v).1 = (seat.serve W q w).1 ∧
    (seat.serve V q v).2.1 = (seat.serve W q w).2.1 ∧
      R (seat.serve V q v).2.2 (seat.serve W q w).2.2 := by
  unfold serve
  cases seat.router.bind (·.serve q) with
  | error e => exact ⟨rfl, rfl, hvw⟩
  | ok plan =>
    obtain ⟨hanswer, hstate, hrest⟩ := plan.run_alike h hvw
    exact ⟨congrArg Except.ok hanswer, congrArg Seat.taken hstate, hrest⟩

/-- In worlds that go alike a signal takes the same course. -/
theorem signal_alike (hd : Handle) (q : Signal) :
    (seat.signal V hd q v).1 = (seat.signal W hd q w).1 ∧
    (seat.signal V hd q v).2.1 = (seat.signal W hd q w).2.1 ∧
      R (seat.signal V hd q v).2.2 (seat.signal W hd q w).2.2 := by
  unfold signal
  cases seat.router.bind (·.signal hd q) with
  | error e => exact ⟨rfl, rfl, h.note hvw _⟩
  | ok plan =>
    have hrun := plan.run_alike h hvw
    simp only
    revert hrun
    rcases plan.run V v with ⟨_ | reply, r, v'⟩ <;>
      rcases plan.run W w with ⟨_ | reply', r', w'⟩ <;> rintro ⟨hreply, hstate, hrest⟩
    · exact ⟨rfl, congrArg Seat.taken hstate, h.note hrest _⟩
    · exact nomatch hreply
    · exact nomatch hreply
    · obtain rfl := Option.some.inj hreply
      exact ⟨rfl, congrArg Seat.taken hstate, hrest⟩

end Seat

end WindowRouting

import WindowRouting.Proofs.Arena
import WindowRouting.Proofs.Exchanges
import WindowRouting.Proofs.Locality
import WindowRouting.Proofs.Watch

/-!
Logs of scale factors. Whatever bears on the scale factors of windows is entered in a log
(`scaleLog`): windows are created and are changed when they are announced, the host reports scale
factors when it is asked for them, and listeners are shown windows in calls. The host is not to be
trusted: it may report anything, but a report counts only if it is a number above zero that is not
infinite (`PositiveFinite`, `validScale_iff`). Each router accounts for what it does to its windows
by what it adds to the log (`Router.Accounts`, `Router.accounts_serve`).
-/

set_option autoImplicit false
set_option relaxedAutoImplicit false

namespace WindowRouting

variable {C : Client} {σ : Type}

/-! ### Scale factors that a window can have -/

/-- The number is above zero and not infinite: in the order of the words, it comes after the zero
with positive sign and before the infinity with positive sign. -/
def PositiveFinite (x : Float32) : Prop := 0 < x.toBits.toNat ∧ x.toBits.toNat < 0x7F800000

instance : DecidablePred PositiveFinite := fun x ↦
  inferInstanceAs (Decidable (0 < x.toBits.toNat ∧ x.toBits.toNat < 0x7F800000))

section Word

open Float.Model Float.Model.UnpackedFloat

variable (b : BitVec 32)

theorem toNat_unpackExponent :
    (@unpackExponent Format.binary32 b).toNat = b.toNat / 2 ^ 23 % 2 ^ 8 := by
  rw [← Nat.shiftRight_eq_div_pow]
  exact BitVec.extractLsb_toNat 30 23 b

theorem toNat_unpackMantissa :
    (@unpackMantissa Format.binary32 b).toNat = b.toNat % 2 ^ 23 :=
  BitVec.extractLsb_toNat 22 0 b

theorem toNat_unpackSign :
    (@unpackSign Format.binary32 b).toNat = b.toNat / 2 ^ 31 % 2 ^ 1 := by
  rw [← Nat.shiftRight_eq_div_pow]
  exact BitVec.extractLsb_toNat 31 31 b

theorem ofBitVec_unpackSign : Sign.ofBitVec (@unpackSign Format.binary32 b) =
    if b.toNat < 2 ^ 31 then .positive else .negative := by
  have hlt := b.isLt
  have hzero : (BitVec.ofNat 1 0).toNat = 0 := rfl
  refine if_congr ?_ rfl rfl
  rw [← BitVec.toNat_inj, toNat_unpackSign, hzero]
  omega

/-- The number is finite and has the positive sign, and is not zero. -/
def IsPositive : UnpackedFloat → Prop
  | .finite .positive _ _ _ => True
  | _ => False

theorem isPositive_iff (u : UnpackedFloat) :
    IsPositive u ↔ u.isFinite = true ∧ UnpackedFloat.lt (.zero .positive) u = true := by
  cases u with
  | infinity sign => exact iff_of_false id fun h ↦ Bool.false_ne_true h.1
  | notANumber => exact iff_of_false id fun h ↦ Bool.false_ne_true h.1
  | zero sign => exact iff_of_false id fun h ↦ Bool.false_ne_true h.2
  | finite sign mantissa exponent hpos =>
    cases sign with
    | positive => exact iff_of_true trivial ⟨rfl, rfl⟩
    | negative => exact iff_of_false id fun h ↦ Bool.false_ne_true h.2

theorem isPositive_finite {p : Prop} [Decidable p] {mantissa : Nat} {exponent : Int}
    {hpos : 0 < mantissa} :
    IsPositive (.finite (if p then .positive else .negative) mantissa exponent hpos) ↔ p := by
  by_cases hp : p
  · rw [if_pos hp]
    exact iff_of_true trivial hp
  · rw [if_neg hp]
    exact iff_of_false id hp

theorem isPositive_unpack :
    IsPositive (UnpackedFloat.unpack Format.binary32 b) ↔
      0 < b.toNat ∧ b.toNat < 0x7F800000 := by
  have hlt := b.isLt
  have hones : @unpackExponent Format.binary32 b = -BitVec.ofNat _ 1 ↔
      b.toNat / 2 ^ 23 % 2 ^ 8 = 2 ^ 8 - 1 := by
    rw [← BitVec.toNat_inj, toNat_unpackExponent]
    rfl
  have hzeros : @unpackExponent Format.binary32 b = BitVec.ofNat _ 0 ↔
      b.toNat / 2 ^ 23 % 2 ^ 8 = 0 := by
    rw [← BitVec.toNat_inj, toNat_unpackExponent]
    rfl
  have hnone : @unpackMantissa Format.binary32 b = BitVec.ofNat _ 0 ↔ b.toNat % 2 ^ 23 = 0 := by
    rw [← BitVec.toNat_inj, toNat_unpackMantissa]
    rfl
  unfold UnpackedFloat.unpack
  dsimp only
  by_cases htop : @unpackExponent Format.binary32 b = -BitVec.ofNat _ 1
  · -- The infinities and what is no number.
    rw [if_pos htop]
    rw [hones] at htop
    have hnot : ¬ (0 < b.toNat ∧ b.toNat < 0x7F800000) := by omega
    by_cases hzero : @unpackMantissa Format.binary32 b = BitVec.ofNat _ 0
    · rw [if_pos hzero]
      exact iff_of_false id hnot
    · rw [if_neg hzero]
      exact iff_of_false id hnot
  rw [if_neg htop]
  rw [hones] at htop
  by_cases hbottom : @unpackExponent Format.binary32 b = BitVec.ofNat _ 0
  · -- The zeros and the subnormal numbers.
    rw [if_pos hbottom]
    rw [hzeros] at hbottom
    by_cases hzero : @unpackMantissa Format.binary32 b = BitVec.ofNat _ 0
    · rw [dif_pos hzero]
      rw [hnone] at hzero
      refine iff_of_false id ?_
      omega
    · rw [dif_neg hzero]
      rw [hnone] at hzero
      rw [ofBitVec_unpackSign, isPositive_finite]
      omega
  · rw [if_neg hbottom]
    rw [hzeros] at hbottom
    rw [ofBitVec_unpackSign, isPositive_finite]
    omega

end Word

/-- The check that the scale factors of the host have to pass. -/
theorem validScale_iff (x : Float32) : validScale x = true ↔ PositiveFinite x := by
  have hlt : 0 < x ↔
      Float.Model.UnpackedFloat.lt (.zero .positive) x.toModel.unpack = true := decide_eq_true_iff
  rw [validScale, Bool.and_eq_true, decide_eq_true_eq, hlt]
  exact (isPositive_iff _).symm.trans (isPositive_unpack _)

/-! ### Logs -/

/-- What bears on a scale factor. -/
inductive ScaleNews
  /-- A window is created with it. -/
  | created
  /-- It is written to a window that is announced. -/
  | written
  /-- The host reports it. -/
  | reported
  /-- The listener of a window is shown the window with it. -/
  | shown
deriving DecidableEq

/-- An entry of a log of scale factors. -/
structure ScaleEntry where
  news : ScaleNews
  place : Place
  scale : Float32
deriving DecidableEq

namespace ScaleEntry

/-- The window of the entry has the scale factor then. -/
def gives (e : ScaleEntry) : Bool :=
  match e.news with
  | .created | .written => true
  | .reported => decide (PositiveFinite e.scale)
  | .shown => false

/-- The scale factor that the entry gives to a window. -/
def given? (place : Place) (e : ScaleEntry) : Option Float32 :=
  if e.place = place ∧ e.gives = true then some e.scale else none

end ScaleEntry

/-- The latest scale factor that a log gives to a window. -/
def latestScale (log : List ScaleEntry) (place : Place) : Option Float32 :=
  (log.filterMap (·.given? place)).getLast?

/-- Listeners are shown the latest scale factors. -/
def ShownLatest (log : List ScaleEntry) : Prop :=
  ∀ before e after, log = before ++ e :: after → e.news = .shown →
    latestScale before e.place = some e.scale

variable {log new : List ScaleEntry} {place : Place} {e : ScaleEntry}

theorem latestScale_append (log new : List ScaleEntry) (place : Place) :
    latestScale (log ++ new) place = (latestScale new place).or (latestScale log place) := by
  rw [latestScale, List.filterMap_append, List.getLast?_append]
  rfl

theorem latestScale_snoc (log : List ScaleEntry) (e : ScaleEntry) (place : Place) :
    latestScale (log ++ [e]) place = (e.given? place).or (latestScale log place) := by
  rw [latestScale_append]
  congr 1
  cases h : e.given? place <;> simp [latestScale, h]

/-- What is about the windows of other routers gives a window nothing. -/
theorem latestScale_append_of_router_ne (h : ∀ e ∈ new, e.place.router ≠ place.router) :
    latestScale (log ++ new) place = latestScale log place := by
  have hnone : new.filterMap (·.given? place) = [] := by
    refine List.filterMap_eq_nil_iff.mpr fun e he ↦ if_neg fun hgiven ↦ h e he ?_
    rw [hgiven.1]
  rw [latestScale_append, latestScale, hnone]
  rfl

theorem shownLatest_snoc (h : ShownLatest log)
    (he : e.news = .shown → latestScale log e.place = some e.scale) :
    ShownLatest (log ++ [e]) := by
  intro before e' after heq hshown
  rcases List.eq_nil_or_concat after with rfl | ⟨after', last, rfl⟩
  · obtain ⟨rfl, hlast⟩ := List.append_inj' heq rfl
    obtain rfl := List.singleton_inj.mp hlast
    exact he hshown
  · have hsplit : log ++ [e] = (before ++ e' :: after') ++ [last] := by
      rw [heq, List.concat_eq_append, List.append_assoc, List.cons_append]
    exact h before e' after' (List.append_inj' hsplit rfl).1 hshown

/-- What was shown or stays is the latest of something that was given. -/
theorem exists_of_latestScale {scale : Float32} (h : latestScale log place = some scale) :
    ∃ e ∈ log, e.gives = true ∧ e.scale = scale := by
  obtain ⟨e, he, hgiven⟩ := List.mem_filterMap.mp (List.mem_of_getLast? h)
  obtain ⟨⟨-, hgives⟩, hscale⟩ := (Option.ite_none_right_eq_some).mp hgiven
  exact ⟨e, he, hgives, Option.some.inj hscale⟩

/-! ### The log of a run -/

/-- What an exchange with the client of router number `i` says about a scale factor. -/
def Exchange.news? (i : Nat) (x : Exchange C) : Option ScaleEntry :=
  match x.call, x.answer with
  | .window _ id window _, _ => some ⟨.shown, ⟨i, id⟩, window.scaleFactor⟩
  | .scaleFactor _ id, some (some scale) => some ⟨.reported, ⟨i, id⟩, scale⟩
  | _, _ => none

/-- What the answer to a request to router number `i` says about a scale factor. -/
def Request.scaleEntries (i : Nat) : Request C → Option Answer → List ScaleEntry
  | .create d _, some (.created id _) => [⟨.created, ⟨i, id⟩, d.scaleFactor⟩]
  | .announce patch, some (.announced (some (id, _))) =>
    (patch.scaleFactor.map fun scale ↦ ⟨.written, ⟨i, id⟩, scale⟩).toList
  | _, _ => []

/-- What an act that comes to router number `i` says about scale factors. -/
def Router.scaleEntries (W : World C σ) (i : Nat) (r : Router C) (w : σ) :
    Act C σ → List ScaleEntry
  | .request q =>
    match r.serve q with
    | .ok plan => q.scaleEntries i (plan.run W w).1 ++
        (plan.exchanges W w).filterMap (·.news? i)
    | .error _ => []
  | .signal h q =>
    match r.signal h q with
    | .ok plan => (plan.exchanges W w).filterMap (·.news? i)
    | .error _ => []
  | _ => []

/-- What an act says about scale factors. It comes to the router in the seat. -/
def Roster.scaleEntries (W : World C σ) (s : Roster C) (w : σ) (a : Act C σ) : List ScaleEntry :=
  match s.current with
  | some (i, r) => r.scaleEntries W i w a
  | none => []

/-- What some acts say about scale factors, in order. -/
def scaleLog (W : World C σ) : Roster C × σ → List (Act C σ) → List ScaleEntry
  | _, [] => []
  | s, a :: acts => s.1.scaleEntries W s.2 a ++ scaleLog W (a.perform W s.1 s.2) acts

/-! ### What a router accounts for -/

namespace Router

variable {r r' r'' : Router C} {i : Nat} {id : WindowId}

/-- The windows of router number `i` have the latest scale factors that a log gives to them. -/
def ScaledBy (r : Router C) (i : Nat) (log : List ScaleEntry) : Prop :=
  ∀ id window, r.windows.get? id = some window →
    latestScale log ⟨i, id⟩ = some window.scaleFactor

/-- If the windows of router number `i` had the latest scale factors before it became `r'`, they
have them afterwards, the entries `new` included, and its listeners were shown no others. -/
structure Accounts (i : Nat) (r : Router C) (new : List ScaleEntry) (r' : Router C) : Prop where
  router_eq : ∀ e ∈ new, e.place.router = i
  scales : ∀ log, r.ScaledBy i log → r'.ScaledBy i (log ++ new)
  shown : ∀ log, r.ScaledBy i log → ShownLatest log → ShownLatest (log ++ new)

theorem Accounts.trans {later : List ScaleEntry} (h : Accounts i r new r')
    (hlater : Accounts i r' later r'') : Accounts i r (new ++ later) r'' where
  router_eq := List.forall_mem_append.mpr ⟨h.router_eq, hlater.router_eq⟩
  scales log hlog := List.append_assoc log new later ▸ hlater.scales _ (h.scales log hlog)
  shown log hlog hshown :=
    List.append_assoc log new later ▸ hlater.shown _ (h.scales log hlog) (h.shown log hlog hshown)

/-- The windows that are left have the scale factors that they had. -/
theorem accounts_kept (h : ∀ id window, r'.windows.get? id = some window →
    ∃ before, r.windows.get? id = some before ∧ before.scaleFactor = window.scaleFactor) :
    Accounts i r [] r' where
  router_eq := nofun
  scales log hlog id window hid := by
    obtain ⟨before, hbefore, heq⟩ := h id window hid
    rw [List.append_nil, hlog id before hbefore, heq]
  shown log _ hshown := by rwa [List.append_nil]

theorem accounts_same (h : r'.windows = r.windows) : Accounts i r [] r' :=
  accounts_kept fun _ window hid ↦ ⟨window, h ▸ hid, rfl⟩

/-- One window is given a scale factor. -/
theorem accounts_given {news : ScaleNews} {scale : Float32}
    (hgives : (ScaleEntry.mk news ⟨i, id⟩ scale).gives = true)
    (h : ∀ other window, r'.windows.get? other = some window →
      (other = id ∧ window.scaleFactor = scale) ∨
        (other ≠ id ∧ ∃ before, r.windows.get? other = some before ∧
          before.scaleFactor = window.scaleFactor)) :
    Accounts i r [⟨news, ⟨i, id⟩, scale⟩] r' where
  router_eq e he := by rw [List.mem_singleton.mp he]
  scales log hlog other window hother := by
    rw [latestScale_snoc]
    rcases h other window hother with ⟨rfl, hscale⟩ | ⟨hne, before, hbefore, hscale⟩
    · rw [ScaleEntry.given?, if_pos ⟨rfl, hgives⟩, hscale]
      rfl
    · rw [ScaleEntry.given?, if_neg fun hgiven ↦ hne (Place.mk.inj hgiven.1).2.symm,
        Option.none_or, hlog other before hbefore, hscale]
  shown log _ hshown := by
    refine shownLatest_snoc hshown fun hnews ↦ ?_
    obtain rfl : news = .shown := hnews
    exact nomatch hgives

/-- An entry that gives no scale factor, but may show the latest one. -/
theorem accounts_passing (hgives : e.gives = false) (hrouter : e.place.router = i)
    (hshown : e.news = .shown → ∃ window, r.windows.get? e.place.id = some window ∧
      window.scaleFactor = e.scale) : Accounts i r [e] r where
  router_eq e' he' := by rw [List.mem_singleton.mp he', hrouter]
  scales log hlog id window hid := by
    have hnone : e.given? ⟨i, id⟩ = none :=
      if_neg fun hgiven ↦ Bool.false_ne_true (hgives.symm.trans hgiven.2)
    rw [latestScale_snoc, hnone, Option.none_or, hlog id window hid]
  shown log hlog hlatest := by
    refine shownLatest_snoc hlatest fun hnews ↦ ?_
    obtain ⟨window, hwindow, hscale⟩ := hshown hnews
    have hplace : e.place = ⟨i, e.place.id⟩ := hrouter ▸ rfl
    rw [hplace, hlog _ window hwindow, hscale]

/-! ### Events -/

variable {t : Target C} {es : List (Exchange C)}

/-- The listener of a window is called with the window as it is. -/
theorem accounts_shown (ht : r.windows.get? t.id = some t.window) :
    Accounts i r [⟨.shown, ⟨i, t.id⟩, t.window.scaleFactor⟩] r :=
  accounts_passing rfl rfl fun _ ↦ ⟨t.window, ht, rfl⟩

theorem accounts_addresses (ht : r.windows.get? t.id = some t.window)
    (hes : ∀ x ∈ es, t.Addresses x.call) :
    Accounts i r (es.filterMap (·.news? i)) r := by
  induction es with
  | nil => exact accounts_same rfl
  | cons x es ih =>
    obtain ⟨hx, hrest⟩ := List.forall_mem_cons.mp hes
    obtain ⟨c, answer⟩ := x
    cases c with
    | window listener id window call =>
      obtain ⟨rfl, rfl⟩ := hx
      exact (accounts_shown ht).trans (ih hrest)
    | drag session call => exact ih hrest
    | gesture gesture call => exact ih hrest
    | scaleFactor host id => exact hx.elim

theorem Undisturbed.accounts (h : r.Undisturbed t r' es)
    (ht : r.windows.get? t.id = some t.window) :
    Accounts i r (es.filterMap (·.news? i)) r' := by
  have hnew := (accounts_addresses ht h.addresses).trans (accounts_same (i := i) h.windows_eq)
  rwa [List.append_nil] at hnew

theorem Rescales.accounts (h : r.Rescales t r' es) (ht : r.windows.get? t.id = some t.window) :
    Accounts i r (es.filterMap (·.news? i)) r' := by
  cases h with
  | unasked told => exact accounts_shown ht
  | failed host => exact accounts_same rfl
  | unknown host told => exact accounts_shown ht
  | @refused host scale hscale told =>
    have hrefused : (ScaleEntry.mk .reported ⟨i, t.id⟩ scale).gives = false :=
      decide_eq_false fun hpos ↦
        Bool.false_ne_true (hscale.symm.trans ((validScale_iff scale).mpr hpos))
    exact (accounts_passing hrefused rfl nofun).trans (accounts_shown ht)
  | @rescaled host scale hscale told =>
    have hvalid : (ScaleEntry.mk .reported ⟨i, t.id⟩ scale).gives = true :=
      decide_eq_true ((validScale_iff scale).mp hscale)
    have hscaled : (r.modifyWindow t.id (·.withScale scale)).windows.get? t.id =
        some (t.window.withScale scale) :=
      (IdMap.get?_modify_self r.windows.live t.id _).trans (congrArg (Option.map _) ht)
    refine (accounts_given hvalid fun other window hother ↦ ?_).trans
      (accounts_shown (t := { t with window := t.window.withScale scale }) hscaled)
    by_cases heq : other = t.id
    · subst heq
      rw [hscaled] at hother
      exact Or.inl ⟨rfl, Option.some.inj hother ▸ rfl⟩
    · have hsame : (r.modifyWindow t.id (·.withScale scale)).windows.get? other =
          r.windows.get? other := IdMap.get?_modify_of_ne (Ne.symm heq) _
      exact Or.inr ⟨heq, window, hsame ▸ hother, rfl⟩

theorem accounts_deliver {e : Event} {plan : Plan C (Router C) Reply}
    (hplan : r.deliver id e = .ok plan) (htakes : plan.Takes r' es) :
    Accounts i r (es.filterMap (·.news? i)) r' := by
  unfold deliver at hplan
  split at hplan
  case h_1 => exact nomatch hplan
  case h_2 t x hfind =>
    obtain rfl := Except.ok.inj hplan
    obtain ⟨hwindow, -, rfl, -⟩ := find?_eq_some_iff.mp hfind
    by_cases he : e = .scale
    · subst he
      exact ((r.course_rescale t).rescales htakes).accounts hwindow
    · exact (undisturbed_of_handle he htakes).accounts hwindow

/-! ### Requests -/

/-- A window is created. Under a null id it is not there afterwards. -/
theorem accounts_opened (h : r.InStep) (d : Descriptor) (listener : C.Listener) :
    Accounts i r [⟨.created, ⟨i, r.windows.nextId⟩, d.scaleFactor⟩] (r.opened d listener).2 := by
  refine accounts_given rfl fun other window hother ↦ ?_
  rw [get?_windows_opened h] at hother
  split at hother
  case isTrue hnew =>
    obtain rfl := Option.some.inj hother
    exact Or.inl ⟨hnew.1, rfl⟩
  case isFalse =>
    refine Or.inr ⟨?_, window, hother, rfl⟩
    rintro rfl
    exact nomatch (windows_vacant_nextId h _ rfl).symm.trans hother

/-- The next window is announced, and may be given a scale factor then. -/
theorem accounts_announced (patch : WindowPatch) :
    Accounts i r ((Request.announce patch : Request C).scaleEntries i
      (some (.announced (r.announceWith patch.apply).1))) (r.announceWith patch.apply).2 := by
  rcases r.windows.announceWith_cases patch.apply with
    ⟨-, hnone⟩ | ⟨-, id, rest, before, -, -, hid, hsome⟩
  · simp only [announceWith, hnone]
    exact accounts_kept fun _ window hid ↦ ⟨window, hid, rfl⟩
  · have hwindows (other : WindowId) : (r.announceWith patch.apply).2.windows.get? other =
        (r.windows.live.modify id patch.apply).get? other := by
      simp only [announceWith, hsome]
      rfl
    have hself : (r.announceWith patch.apply).2.windows.get? id = some (patch.apply before) := by
      rw [hwindows, IdMap.get?_modify_self]
      exact congrArg (Option.map _) hid
    have hothers {other : WindowId} (hne : other ≠ id) :
        (r.announceWith patch.apply).2.windows.get? other = r.windows.get? other := by
      rw [hwindows]
      exact IdMap.get?_modify_of_ne hne.symm _
    have hentry : (r.announceWith patch.apply).1 = some (id, patch.apply before) := by
      simp only [announceWith, hsome]
    rw [hentry]
    cases hpatch : patch.scaleFactor with
    | none =>
      have hkept : (patch.apply before).scaleFactor = before.scaleFactor := by
        simp [WindowPatch.apply, Window.scaleFactor, hpatch]
      simp only [Request.scaleEntries, hpatch, Option.map_none, Option.toList_none]
      refine accounts_kept fun other window hother ↦ ?_
      by_cases heq : other = id
      · rw [heq, hself] at hother
        exact ⟨before, heq ▸ hid, Option.some.inj hother ▸ hkept.symm⟩
      · exact ⟨window, hothers heq ▸ hother, rfl⟩
    | some scale =>
      have hwritten : (patch.apply before).scaleFactor = scale := by
        simp [WindowPatch.apply, Window.scaleFactor, hpatch]
      simp only [Request.scaleEntries, hpatch, Option.map_some, Option.toList_some]
      refine accounts_given rfl fun other window hother ↦ ?_
      by_cases heq : other = id
      · rw [heq, hself] at hother
        exact Or.inl ⟨heq, Option.some.inj hother ▸ hwritten⟩
      · exact Or.inr ⟨heq, window, hothers heq ▸ hother, rfl⟩

theorem accounts_closed (r : Router C) (i : Nat) (id : WindowId) :
    Accounts i r [] (r.closed id) := by
  refine accounts_kept fun other window hother ↦ ?_
  have hclosed : (r.windows.close id).2.get? other = some window := hother
  rw [OpenWindows.get?_close] at hclosed
  split at hclosed
  case isTrue => exact nomatch hclosed
  case isFalse => exact ⟨window, hclosed, rfl⟩

theorem accounts_close {plan : Plan C (Router C) Unit} (hplan : r.close id = .ok plan)
    (W : World C σ) (w : σ) :
    Accounts i r ((plan.exchanges W w).filterMap (·.news? i)) (plan.run W w).2.1 := by
  have hleaves := Plan.leaves_run W plan w
  have htakes := Plan.takes_run W plan w
  obtain ⟨⟨x, hx⟩, hclosed⟩ := eq_closed_of_close hplan hleaves
  have hsilent : (plan.exchanges W w).filterMap (·.news? i) = [] := by
    rw [close, hx] at hplan
    obtain rfl := Except.ok.inj hplan
    refine List.filterMap_eq_nil_iff.mpr fun exchange he ↦ ?_
    have hcall := ((r.closed id).course_cancelAll id x).calls.of_takes htakes exchange he
    obtain ⟨c, answer⟩ := exchange
    cases c with
    | drag session call => rfl
    | gesture gesture call => rfl
    | window listener id window call => exact hcall.elim
    | scaleFactor host id => exact hcall.elim
  rw [hsilent, hclosed]
  exact accounts_closed r i id

theorem accounts_serve (h : r.InStep) {q : Request C} {plan : Plan C (Router C) Answer}
    (hplan : r.serve q = .ok plan) (W : World C σ) (w : σ) :
    Accounts i r (q.scaleEntries i (plan.run W w).1 ++
      (plan.exchanges W w).filterMap (·.news? i)) (plan.run W w).2.1 := by
  cases q with
  | create d listener =>
    obtain rfl := Except.ok.inj hplan
    exact accounts_opened h d listener
  | announce patch =>
    obtain rfl := Except.ok.inj hplan
    have hnew := accounts_announced (r := r) (i := i) patch
    rwa [← List.append_nil (Request.scaleEntries i _ _)] at hnew
  | close id =>
    obtain ⟨inner, hinner, rfl⟩ := map_eq_ok hplan
    rw [Plan.mapAnswer, Plan.exchanges_map, Plan.run_map]
    exact accounts_close hinner W w
  | send id e =>
    obtain ⟨inner, hinner, rfl⟩ := map_eq_ok hplan
    rw [Plan.mapAnswer, Plan.exchanges_map, Plan.run_map]
    exact accounts_deliver hinner (Plan.takes_run W inner w)
  | resolve h =>
    obtain ⟨_, -, rfl⟩ := map_eq_ok hplan
    exact accounts_same rfl
  | attachHost | config | handle | window | windows =>
    obtain rfl := Except.ok.inj hplan
    exact accounts_same rfl

end Router

end WindowRouting

import WindowRouting.Proofs.PerWindow

/-!
Protocols of sessions. A protocol says how sessions of one kind are opened, which calls are
messages to them and how they go on with each message (`Protocol`). Read along a history it gives
the phase of each session (`Protocol.At`). `Protocol.Fits` puts together what the history says of
the sessions of one window while the window has at most one of them; each of the lemmas after it
adds one kind of call. Sessions that fit are told apart: a window never has two that are open
(`open_unique`).
-/

set_option autoImplicit false
set_option relaxedAutoImplicit false

namespace WindowRouting

variable {C : Client}

/-- A protocol of sessions. -/
structure Protocol (C : Client) where
  Phase : Type
  Message : Type
  /-- The number of the window that opened a session with the call, and the first phase of the
  session. -/
  opening? : Entry C → Option (Nat × Phase)
  /-- The number of the window that makes the call only while it has no session. -/
  asking? : Entry C → Option Nat
  /-- The session that the call is a message to, and the message. -/
  message? : Entry C → Option (Ticket × Message)
  /-- The call asks for a session or is a message to one, as far as its kind goes. -/
  concerns : Call C.ticketed → Bool
  /-- The phase after a message, if the session can receive it. -/
  next : Phase → Message → Option Phase
  /-- The session receives no more messages. -/
  Over : Phase → Prop
  asking_of_opening : ∀ {e k φ}, opening? e = some (k, φ) → asking? e = some k
  owner_of_asking : ∀ {e k}, asking? e = some k → e.call.owner = some k
  owner_of_message : ∀ {e x m}, message? e = some (x, m) → e.call.owner = some x.window
  ticket_of_message : ∀ {e x m}, message? e = some (x, m) → e.call.ticket? = some x
  concerns_of_asking : ∀ {e k}, asking? e = some k → concerns e.call = true
  concerns_of_message : ∀ {e x m}, message? e = some (x, m) → concerns e.call = true
  message_of_asking : ∀ {e k}, asking? e = some k → message? e = none
  next_of_over : ∀ {φ}, Over φ → ∀ m, next φ m = none

namespace Protocol

variable (P : Protocol C)

/-- The session with ticket `x` was opened in phase `φ`. -/
def Opens (h : History C) (x : Ticket) (φ : P.Phase) : Prop :=
  ∃ e, h[x.call]? = some e ∧ P.opening? e = some (x.window, φ)

/-- The session was opened. -/
def Opened (h : History C) (x : Ticket) : Prop := ∃ φ, P.Opens h x φ

/-- The messages to a session. -/
def messages (h : History C) (x : Ticket) : List P.Message :=
  h.filterMap fun e ↦ (P.message? e).bind fun (y, m) ↦ if y = x then some m else none

/-- The session was opened, and with its messages it has come to phase `φ`. -/
def At (h : History C) (x : Ticket) (φ : P.Phase) : Prop :=
  ∃ φ₀, P.Opens h x φ₀ ∧ (P.messages h x).foldlM P.next φ₀ = some φ

/-- The session kept to the protocol and is over. -/
def Finished (h : History C) (x : Ticket) : Prop := ∃ φ, P.At h x φ ∧ P.Over φ

/-- The session received its first message in the act that opened it, right after it was opened. -/
def StartsAtOnce (h : History C) (x : Ticket) : Prop :=
  ∃ e e' m, h[x.call]? = some e ∧ h[x.call + 1]? = some e' ∧ e'.act = e.act ∧
    P.message? e' = some (x, m) ∧ (P.messages h x).head? = some m

/-- Whenever window number `k` makes a call that it makes without a session only, all its sessions
so far are over. -/
def Apart (k : Nat) (h : History C) : Prop :=
  h.EachCall fun before e ↦ P.asking? e = some k → ∀ x, x.window = k → P.Opened before x →
    P.Finished before x

variable {P} {h : History C} {e : Entry C} {x : Ticket} {φ φ' : P.Phase} {m : P.Message}

theorem Opens.call_lt (hopens : P.Opens h x φ) : x.call < h.length := by
  obtain ⟨d, hd, -⟩ := hopens
  exact (List.getElem?_eq_some_iff.mp hd).1

theorem Opens.unique (hopens : P.Opens h x φ) (hopens' : P.Opens h x φ') : φ = φ' := by
  obtain ⟨d, hd, hφ⟩ := hopens
  obtain ⟨d', hd', hφ'⟩ := hopens'
  obtain rfl := Option.some.inj (hd.symm.trans hd')
  exact (Prod.mk.inj (Option.some.inj (hφ.symm.trans hφ'))).2

theorem Opens.append (hopens : P.Opens h x φ) (es : History C) : P.Opens (h ++ es) x φ := by
  obtain ⟨d, hd, hφ⟩ := hopens
  exact ⟨d, (List.getElem?_append_left (List.getElem?_eq_some_iff.mp hd).1).trans hd, hφ⟩

/-- A session that was opened so far was opened before or by the last call. -/
theorem opens_snoc (hopens : P.Opens (h ++ [e]) x φ) :
    P.Opens h x φ ∨ x.call = h.length ∧ P.opening? e = some (x.window, φ) := by
  obtain ⟨d, hd, hφ⟩ := hopens
  rcases Nat.lt_trichotomy x.call h.length with hlt | heq | hgt
  · rw [List.getElem?_append_left hlt] at hd
    exact Or.inl ⟨d, hd, hφ⟩
  · rw [heq, List.getElem?_concat_length] at hd
    obtain rfl := Option.some.inj hd
    exact Or.inr ⟨heq, hφ⟩
  · rw [List.getElem?_eq_none (by rw [List.length_append]; exact hgt)] at hd
    exact nomatch hd

theorem Opened.append (hopened : P.Opened h x) (es : History C) : P.Opened (h ++ es) x := by
  obtain ⟨φ, hφ⟩ := hopened
  exact ⟨φ, hφ.append es⟩

theorem opened_snoc (hopened : P.Opened (h ++ [e]) x) :
    P.Opened h x ∨ x.call = h.length ∧ ∃ φ, P.opening? e = some (x.window, φ) := by
  obtain ⟨φ, hφ⟩ := hopened
  rcases opens_snoc hφ with hold | ⟨hcall, hnew⟩
  · exact Or.inl ⟨φ, hold⟩
  · exact Or.inr ⟨hcall, φ, hnew⟩

theorem messages_append (es : History C) :
    P.messages (h ++ es) x = P.messages h x ++ P.messages es x :=
  List.filterMap_append

theorem messages_eq_nil (hnone : ∀ d ∈ h, ∀ m, P.message? d ≠ some (x, m)) :
    P.messages h x = [] := by
  refine List.filterMap_eq_nil_iff.mpr fun d hd ↦ ?_
  cases hm : P.message? d with
  | none => rfl
  | some found =>
    obtain ⟨y, m⟩ := found
    refine if_neg ?_
    rintro rfl
    exact hnone d hd m hm

theorem messages_singleton (hm : P.message? e = some (x, m)) : P.messages [e] x = [m] := by
  simp [messages, hm]

/-- A session that is being opened has received no message. -/
theorem messages_of_new (hpast : ∀ d ∈ h, ∀ y, d.call.ticket? = some y → y.call < h.length)
    (hx : h.length ≤ x.call) (hquiet : P.message? e = none) : P.messages (h ++ [e]) x = [] := by
  refine messages_eq_nil fun d hd m hm ↦ ?_
  rcases List.mem_append.mp hd with hold | hlast
  · exact Nat.not_lt.mpr hx (hpast d hold x (P.ticket_of_message hm))
  · rw [List.mem_singleton.mp hlast, hquiet] at hm
    exact nomatch hm

theorem StartsAtOnce.append (hstarts : P.StartsAtOnce h x) (es : History C) :
    P.StartsAtOnce (h ++ es) x := by
  obtain ⟨d, d', m, hd, hd', hact, hm, hfirst⟩ := hstarts
  have hlt : x.call + 1 < h.length := (List.getElem?_eq_some_iff.mp hd').1
  refine ⟨d, d', m, ?_, ?_, hact, hm, ?_⟩
  · rw [List.getElem?_append_left (Nat.lt_of_succ_lt hlt), hd]
  · rw [List.getElem?_append_left hlt, hd']
  · rw [messages_append, List.head?_append, hfirst, Option.some_or]

theorem At.opened (hat : P.At h x φ) : P.Opened h x := by
  obtain ⟨φ₀, hopens, -⟩ := hat
  exact ⟨φ₀, hopens⟩

theorem At.unique (hat : P.At h x φ) (hat' : P.At h x φ') : φ = φ' := by
  obtain ⟨φ₀, hopens, hfold⟩ := hat
  obtain ⟨φ₁, hopens', hfold'⟩ := hat'
  rw [hopens.unique hopens', hfold'] at hfold
  exact (Option.some.inj hfold).symm

/-- A session stays where it is when it receives no message. -/
theorem At.append_other (hat : P.At h x φ) {es : History C}
    (hnone : ∀ d ∈ es, ∀ m, P.message? d ≠ some (x, m)) : P.At (h ++ es) x φ := by
  obtain ⟨φ₀, hopens, hfold⟩ := hat
  refine ⟨φ₀, hopens.append es, ?_⟩
  rw [messages_append, messages_eq_nil hnone, List.append_nil, hfold]

theorem At.snoc_message (hat : P.At h x φ) (hm : P.message? e = some (x, m))
    (hnext : P.next φ m = some φ') : P.At (h ++ [e]) x φ' := by
  obtain ⟨φ₀, hopens, hfold⟩ := hat
  refine ⟨φ₀, hopens.append [e], ?_⟩
  rw [messages_append, messages_singleton hm, List.foldlM_append, hfold]
  simpa using hnext

/-- A session that is over stays over. -/
theorem over_of_append {es : History C} (hover : P.Over φ) (hat : P.At h x φ)
    (hat' : P.At (h ++ es) x φ') : φ' = φ := by
  obtain ⟨φ₀, hopens, hfold⟩ := hat
  obtain ⟨φ₁, hopens', hfold'⟩ := hat'
  rw [← (hopens.append es).unique hopens', messages_append, List.foldlM_append, hfold] at hfold'
  cases hms : P.messages es x with
  | nil =>
    rw [hms] at hfold'
    exact (Option.some.inj hfold').symm
  | cons m ms =>
    have hnone : List.foldlM P.next φ (m :: ms) = none := by
      rw [List.foldlM_cons, P.next_of_over hover]
      rfl
    rw [hms] at hfold'
    exact nomatch hnone.symm.trans hfold'

/-- A session that keeps to the protocol has always done so. -/
theorem At.of_append {es : History C} (hat : P.At (h ++ es) x φ) (hopened : P.Opened h x) :
    ∃ φ', P.At h x φ' := by
  obtain ⟨φ₀, hopens, hfold⟩ := hat
  obtain ⟨φ₁, hopens'⟩ := hopened
  rw [messages_append, List.foldlM_append] at hfold
  cases hsofar : (P.messages h x).foldlM P.next φ₀ with
  | none =>
    rw [hsofar] at hfold
    exact nomatch hfold
  | some φ' => exact ⟨φ', φ₁, hopens', by rw [hopens'.append es |>.unique hopens, hsofar]⟩

/-! ### One session at a time -/

variable (P) in
/-- The session was opened and is not over. -/
def Open (h : History C) (x : Ticket) : Prop := P.Opened h x ∧ ¬P.Finished h x

/-- A session is over when a later one of its window has been opened. -/
theorem finished_of_lt {k : Nat} {y : Ticket} (hapart : P.Apart k h) (hat : ∃ φ, P.At h x φ)
    (hx : x.window = k) (hy : y.window = k) (hlt : x.call < y.call) (hopened : P.Opened h x)
    (hopened' : P.Opened h y) : P.Finished h x := by
  obtain ⟨φ, d, hd, hφ⟩ := hopened
  obtain ⟨ψ, e, he, hψ⟩ := hopened'
  obtain ⟨hlen, he⟩ := List.getElem?_eq_some_iff.mp he
  have hsplit : h = h.take y.call ++ e :: h.drop (y.call + 1) := by
    rw [← he, List.getElem_cons_drop, List.take_append_drop]
  have hbefore : P.Opened (h.take y.call) x :=
    ⟨φ, d, (List.getElem?_take_of_lt hlt).trans hd, hφ⟩
  have hasks : P.asking? e = some k := hy ▸ P.asking_of_opening hψ
  obtain ⟨φ', hat', hover⟩ := hapart _ e _ hsplit hasks x hx hbefore
  obtain ⟨φ'', hat⟩ := hat
  have heq : φ'' = φ' := over_of_append hover hat' (hsplit ▸ hat)
  exact ⟨φ'', hat, heq ▸ hover⟩

/-- At every moment a window has at most one session that is open. -/
theorem open_unique {k : Nat} {y : Ticket} (hapart : P.Apart k h)
    (hat : ∀ z, z.window = k → P.Opened h z → ∃ φ, P.At h z φ) {before after : History C}
    (hh : h = before ++ after) (hx : x.window = k) (hy : y.window = k) (hopen : P.Open before x)
    (hopen' : P.Open before y) : x = y := by
  subst hh
  have hat' {z : Ticket} (hz : z.window = k) (hopened : P.Opened before z) :
      ∃ φ, P.At before z φ := by
    obtain ⟨φ, hφ⟩ := hopened
    obtain ⟨φ', hφ'⟩ := hat z hz ⟨φ, hφ.append after⟩
    exact hφ'.of_append ⟨φ, hφ⟩
  rcases Nat.lt_trichotomy x.call y.call with hlt | heq | hgt
  · exact absurd (finished_of_lt hapart.of_append (hat' hx hopen.1) hx hy hlt hopen.1 hopen'.1)
      hopen.2
  · obtain ⟨window, call⟩ := x
    obtain rfl : window = k := hx
    obtain ⟨window', call'⟩ := y
    obtain rfl : window' = window := hy
    obtain rfl : call = call' := heq
    rfl
  · exact absurd (finished_of_lt hapart.of_append (hat' hy hopen'.1) hy hx hgt hopen'.1 hopen.1)
      hopen'.2

/-! ### The sessions of a window -/

/-- What the history says of the sessions of window number `k`, where `held` is the session that the
window has now and its phase. A session that the window has no more is over, unless it was lost. Of
each message, `allowed` says what it must have come from. -/
structure Fits (P : Protocol C) (allowed : Nat → P.Message → Prop) (k : Nat)
    (held : Option (Ticket × P.Phase)) (lost : Prop) (h : History C) : Prop where
  holding : ∀ x φ, held = some (x, φ) → x.window = k ∧ P.At h x φ
  finished : ∀ x, x.window = k → P.Opened h x → (∀ φ, held ≠ some (x, φ)) →
    ∃ φ, P.At h x φ ∧ (P.Over φ ∨ lost)
  starts : ∀ x, x.window = k → P.Opened h x → P.StartsAtOnce h x
  apart : P.Apart k h
  called : ∀ e ∈ h, ∀ x m, P.message? e = some (x, m) → x.window = k →
    P.Opened h x ∧ allowed e.act m

namespace Fits

variable {allowed : Nat → P.Message → Prop} {k : Nat} {held held' : Option (Ticket × P.Phase)}
  {lost lost' : Prop}

theorem of_unused (hunused : ∀ e ∈ h, e.call.owner ≠ some k) :
    Fits P allowed k none lost h := by
  have hnone (x : Ticket) (hk : x.window = k) : ¬P.Opened h x := by
    rintro ⟨φ, e, he, hφ⟩
    refine hunused e (List.mem_of_getElem? he) ?_
    rw [P.owner_of_asking (P.asking_of_opening hφ), hk]
  refine ⟨nofun, fun x hk hx ↦ absurd hx (hnone x hk), fun x hk hx ↦ absurd hx (hnone x hk), ?_,
    fun e he x m hm hk ↦ ?_⟩
  · intro before e after hh hasks
    exact absurd (P.owner_of_asking hasks) (hunused e (by simp [hh]))
  · exact absurd ((P.owner_of_message hm).trans (congrArg some hk)) (hunused e he)

/-- One more call, which opens no session. -/
theorem snoc (hfits : Fits P allowed k held lost h) (hopening : ∀ φ, P.opening? e ≠ some (k, φ))
    (hholding : ∀ x φ, held' = some (x, φ) → x.window = k ∧ P.At (h ++ [e]) x φ)
    (hover : ∀ x, x.window = k → P.Opened h x → (∀ φ, held' ≠ some (x, φ)) →
      ∃ φ, P.At (h ++ [e]) x φ ∧ (P.Over φ ∨ lost'))
    (hasks : P.asking? e = some k → held = none ∧ ¬lost)
    (hcalled : ∀ x m, P.message? e = some (x, m) → x.window = k → P.Opened h x ∧ allowed e.act m) :
    Fits P allowed k held' lost' (h ++ [e]) := by
  have hopened {x : Ticket} (hk : x.window = k) (hx : P.Opened (h ++ [e]) x) : P.Opened h x := by
    rcases opened_snoc hx with hold | ⟨-, φ, hnew⟩
    · exact hold
    · rw [hk] at hnew
      exact absurd hnew (hopening φ)
  constructor
  · exact hholding
  · exact fun x hk hx ↦ hover x hk (hopened hk hx)
  · exact fun x hk hx ↦ (hfits.starts x hk (hopened hk hx)).append [e]
  · refine History.eachCall_snoc.mpr ⟨hfits.apart, fun he x hk hx ↦ ?_⟩
    obtain ⟨hnone, hlost⟩ := hasks he
    obtain ⟨φ, hat, hφ⟩ := hfits.finished x hk hx fun φ ↦ hnone ▸ nofun
    exact ⟨φ, hat, hφ.resolve_right hlost⟩
  · intro d hd x m hm hk
    rcases List.mem_append.mp hd with hold | hnew
    · exact (hfits.called d hold x m hm hk).imp_left fun hx ↦ hx.append [e]
    · obtain rfl := List.mem_singleton.mp hnew
      exact (hcalled x m hm hk).imp_left fun hx ↦ hx.append _

/-- A call that is no message to a session of the window and opens none. -/
theorem quiet (hfits : Fits P allowed k held lost h)
    (hmessage : ∀ x m, P.message? e = some (x, m) → x.window ≠ k)
    (hopening : ∀ φ, P.opening? e ≠ some (k, φ))
    (hasks : P.asking? e = some k → held = none ∧ ¬lost) (hlost : lost → lost') :
    Fits P allowed k held lost' (h ++ [e]) := by
  have hsame {x : Ticket} {φ : P.Phase} (hk : x.window = k) (hat : P.At h x φ) :
      P.At (h ++ [e]) x φ := by
    refine hat.append_other fun d hd m hm ↦ ?_
    rw [List.mem_singleton.mp hd] at hm
    exact hmessage x m hm hk
  refine hfits.snoc hopening (fun x φ hheld ↦ ?_) (fun x hk hx hheld ↦ ?_) hasks
    fun x m hm hk ↦ absurd hk (hmessage x m hm)
  · obtain ⟨hk, hat⟩ := hfits.holding x φ hheld
    exact ⟨hk, hsame hk hat⟩
  · obtain ⟨φ, hat, hover⟩ := hfits.finished x hk hx hheld
    exact ⟨φ, hsame hk hat, hover.imp_right hlost⟩

/-- A call that has nothing to do with the sessions of the window. -/
theorem other (hfits : Fits P allowed k held lost h)
    (hother : e.call.owner ≠ some k ∨ P.concerns e.call = false) (hlost : lost → lost') :
    Fits P allowed k held lost' (h ++ [e]) := by
  have hasks : P.asking? e ≠ some k := by
    intro hasks
    rcases hother with hother | hother
    · exact hother (P.owner_of_asking hasks)
    · exact nomatch (P.concerns_of_asking hasks).symm.trans hother
  refine hfits.quiet (fun x m hm hk ↦ ?_) (fun φ hφ ↦ hasks (P.asking_of_opening hφ))
    (fun h ↦ absurd h hasks) hlost
  rcases hother with hother | hother
  · exact hother ((P.owner_of_message hm).trans (congrArg some hk))
  · exact nomatch (P.concerns_of_message hm).symm.trans hother

/-- Calls that have nothing to do with sessions of the kind. -/
theorem others (hfits : Fits P allowed k held lost h) {es : History C}
    (hes : ∀ e ∈ es, P.concerns e.call = false) : Fits P allowed k held lost (h ++ es) := by
  induction es using List.reverseRecOn with
  | nil => rwa [List.append_nil]
  | append_singleton es e ih =>
    rw [← List.append_assoc]
    refine (ih fun d hd ↦ hes d (List.mem_append_left _ hd)).other (Or.inr (hes e ?_)) fun h ↦ h
    exact List.mem_append_right _ (List.mem_singleton_self e)

/-- A call that the window makes without a session, and that opens none. -/
theorem asked (hfits : Fits P allowed k none lost h) (hlost : ¬lost)
    (hasks : P.asking? e = some k) (hopening : P.opening? e = none) :
    Fits P allowed k none lost (h ++ [e]) := by
  refine hfits.quiet (fun x m hm _ ↦ ?_) (fun φ hφ ↦ ?_) (fun _ ↦ ⟨rfl, hlost⟩) fun h ↦ h
  · exact nomatch (P.message_of_asking hasks).symm.trans hm
  · exact nomatch hopening.symm.trans hφ

/-- The session that the window has is lost. -/
theorem dropped (hfits : Fits P allowed k held lost h) (hlost : lost') :
    Fits P allowed k none lost' h where
  holding := nofun
  finished x hk hx _ := by
    by_cases hheld : ∃ φ, held = some (x, φ)
    · obtain ⟨φ, hφ⟩ := hheld
      exact ⟨φ, (hfits.holding x φ hφ).2, Or.inr hlost⟩
    · obtain ⟨φ, hat, -⟩ := hfits.finished x hk hx fun φ hφ ↦ hheld ⟨φ, hφ⟩
      exact ⟨φ, hat, Or.inr hlost⟩
  starts := hfits.starts
  apart := hfits.apart
  called := hfits.called

theorem mono (hfits : Fits P allowed k held lost h) (hlost : lost → lost') :
    Fits P allowed k held lost' h where
  holding := hfits.holding
  finished x hk hx hheld := by
    obtain ⟨φ, hat, hover⟩ := hfits.finished x hk hx hheld
    exact ⟨φ, hat, hover.imp_right hlost⟩
  starts := hfits.starts
  apart := hfits.apart
  called := hfits.called

/-- A message to the session that the window has, which goes on or is over then. -/
theorem message {ψ : P.Phase} (hfits : Fits P allowed k (some (x, φ)) lost h)
    (hm : P.message? e = some (x, m)) (hnext : P.next φ m = some ψ) (hallowed : allowed e.act m)
    (hheld : held' = some (x, ψ) ∨ held' = none ∧ P.Over ψ) :
    Fits P allowed k held' lost (h ++ [e]) := by
  obtain ⟨hwindow, hbefore⟩ := hfits.holding x φ rfl
  have hat : P.At (h ++ [e]) x ψ := hbefore.snoc_message hm hnext
  have hasking (j : Nat) : P.asking? e ≠ some j := fun hasks ↦
    nomatch (P.message_of_asking hasks).symm.trans hm
  refine hfits.snoc (fun χ hχ ↦ hasking k (P.asking_of_opening hχ)) (fun y χ hy ↦ ?_)
    (fun y hk hy hother ↦ ?_) (fun hasks ↦ absurd hasks (hasking k)) (fun y n hn hk ↦ ?_)
  · rcases hheld with hkeep | ⟨hnone, -⟩
    · obtain ⟨rfl, rfl⟩ := Prod.mk.inj (Option.some.inj (hkeep.symm.trans hy))
      exact ⟨hwindow, hat⟩
    · exact nomatch hnone.symm.trans hy
  · by_cases hyx : y = x
    · subst hyx
      rcases hheld with hkeep | ⟨-, hover⟩
      · exact absurd hkeep (hother ψ)
      · exact ⟨ψ, hat, Or.inl hover⟩
    · obtain ⟨χ, hχ, hover⟩ := hfits.finished y hk hy fun χ hχ ↦
        hyx (Prod.mk.inj (Option.some.inj hχ)).1.symm
      refine ⟨χ, hχ.append_other fun d hd n hn ↦ ?_, hover⟩
      rw [List.mem_singleton.mp hd, hm] at hn
      exact hyx (Prod.mk.inj (Option.some.inj hn)).1.symm
  · obtain ⟨rfl, rfl⟩ := Prod.mk.inj (Option.some.inj (hm.symm.trans hn))
    exact ⟨hbefore.opened, hallowed⟩

/-- The sessions that there are after one was opened and received its first message. -/
theorem eq_or_opened {e' : Entry C} (hm : P.message? e' = some (⟨k, h.length⟩, m)) {y : Ticket}
    (hk : y.window = k) (hy : P.Opened (h ++ [e] ++ [e']) y) :
    y = ⟨k, h.length⟩ ∨ P.Opened h y := by
  rcases opened_snoc hy with hy | ⟨-, ψ, hψ⟩
  · rcases opened_snoc hy with hold | ⟨hcall, -⟩
    · exact Or.inr hold
    · obtain ⟨window, call⟩ := y
      exact Or.inl (by rw [← hk, ← hcall])
  · have hquiet := P.message_of_asking (P.asking_of_opening hψ)
    exact nomatch hquiet.symm.trans hm

/-- A session that was opened before keeps its phase while a new one is opened and receives its
first message. -/
theorem at_of_old {e' : Entry C} (hquiet : P.message? e = none)
    (hm : P.message? e' = some (⟨k, h.length⟩, m)) (hat : P.At h x φ) :
    P.At (h ++ [e] ++ [e']) x φ := by
  obtain ⟨φ₀, hopens⟩ := hat.opened
  rw [List.append_assoc]
  refine hat.append_other fun d hd n hn ↦ ?_
  rcases List.mem_cons.mp hd with rfl | hd
  · exact nomatch hquiet.symm.trans hn
  · rw [List.mem_singleton.mp hd, hm] at hn
    obtain ⟨rfl, -⟩ := Prod.mk.inj (Option.some.inj hn)
    exact Nat.lt_irrefl _ hopens.call_lt

/-- A session is opened and receives its first message. -/
theorem begun {e' : Entry C} (hfits : Fits P allowed k none lost h) (hlost : ¬lost)
    (hpast : ∀ d ∈ h, ∀ y, d.call.ticket? = some y → y.call < h.length)
    (hopening : P.opening? e = some (k, φ)) (hm : P.message? e' = some (⟨k, h.length⟩, m))
    (hact : e'.act = e.act) (hnext : P.next φ m = some φ') (hallowed : allowed e'.act m) :
    Fits P allowed k (some (⟨k, h.length⟩, φ')) lost (h ++ [e] ++ [e']) := by
  have hquiet : P.message? e = none := P.message_of_asking (P.asking_of_opening hopening)
  have hopens : P.Opens (h ++ [e]) ⟨k, h.length⟩ φ := ⟨e, List.getElem?_concat_length, hopening⟩
  have hnew : P.messages (h ++ [e]) ⟨k, h.length⟩ = [] :=
    messages_of_new hpast (Nat.le_refl _) hquiet
  have hat : P.At (h ++ [e] ++ [e']) ⟨k, h.length⟩ φ' :=
    At.snoc_message ⟨φ, hopens, by rw [hnew]; rfl⟩ hm hnext
  have hfinished {y : Ticket} (hk : y.window = k) (hy : P.Opened h y) : P.Finished h y := by
    obtain ⟨ψ, hψ, hover⟩ := hfits.finished y hk hy nofun
    exact ⟨ψ, hψ, hover.resolve_right hlost⟩
  constructor
  · intro y ψ hy
    obtain ⟨rfl, rfl⟩ := Prod.mk.inj (Option.some.inj hy)
    exact ⟨rfl, hat⟩
  · intro y hk hy hother
    rcases eq_or_opened hm hk hy with rfl | hold
    · exact absurd rfl (hother φ')
    · obtain ⟨ψ, hψ, hover⟩ := hfinished hk hold
      exact ⟨ψ, at_of_old hquiet hm hψ, Or.inl hover⟩
  · intro y hk hy
    rcases eq_or_opened hm hk hy with rfl | hold
    · refine ⟨e, e', m, by simp, by simp, hact, hm, ?_⟩
      rw [messages_append, hnew, messages_singleton hm]
      rfl
    · exact ((hfits.starts y hk hold).append [e]).append [e']
  · refine History.eachCall_snoc.mpr ⟨History.eachCall_snoc.mpr ⟨hfits.apart, ?_⟩, ?_⟩
    · exact fun _ y hk hy ↦ hfinished hk hy
    · exact fun hasks ↦ nomatch (P.message_of_asking hasks).symm.trans hm
  · intro d hd y n hn hk
    rcases List.mem_append.mp hd with hd | hlast
    · rcases List.mem_append.mp hd with hold | hlast
      · refine (hfits.called d hold y n hn hk).imp_left fun hy ↦ ?_
        exact (hy.append [e]).append [e']
      · rw [List.mem_singleton.mp hlast, hquiet] at hn
        exact nomatch hn
    · obtain rfl := List.mem_singleton.mp hlast
      obtain ⟨rfl, rfl⟩ := Prod.mk.inj (Option.some.inj (hm.symm.trans hn))
      exact ⟨hat.opened, hallowed⟩

end Fits

end Protocol

end WindowRouting

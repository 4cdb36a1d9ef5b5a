import WindowRouting.Proofs.Json.Texts

/-!
Nothing but its texts is read as a value. A token is read only from a text that starts with it
(`Token.exists_spelled_of_read?`), so the tokens of a text are spelled by it. While these are taken
up one by one, what is open accounts for all that were taken up before (`State.tokens`,
`State.tokens_of_next?`); in the end this is the value that was read, so the texts of a value are
those from which it is read (`Value.parse?_eq_some_iff`).
-/

set_option autoImplicit false
set_option relaxedAutoImplicit false

namespace WindowRouting.Json

/-! ### Strings -/

/-- What is read as the rest of a string is spelled up to its closing quote. -/
theorem Piece.exists_spelled_of_string? {s rest : List Char} {pieces : List Piece}
    (h : string? s = some (pieces, rest)) :
    ∃ cs, Piece.Spelled pieces cs ∧ s = cs ++ '"' :: rest := by
  fun_induction string? s generalizing pieces rest with
  | case1 => exact absurd h.symm (Option.some_ne_none _)
  | case2 cs =>
    obtain ⟨rfl, rfl⟩ := Prod.mk.inj (Option.some.inj h)
    exact ⟨[], .nil, rfl⟩
  | case3 a b c d cs ih =>
    obtain ⟨u, hunit, h⟩ := Option.bind_eq_some_iff.mp h
    obtain ⟨⟨found, after⟩, hrest, h⟩ := Option.map_eq_some_iff.mp h
    obtain ⟨rfl, rfl⟩ := Prod.mk.inj h
    obtain ⟨tail, htail, rfl⟩ := ih hrest
    exact ⟨_, .unit hunit htail, rfl⟩
  | case4 e cs _ ih =>
    obtain ⟨c, hescape, h⟩ := Option.bind_eq_some_iff.mp h
    obtain ⟨⟨found, after⟩, hrest, h⟩ := Option.map_eq_some_iff.mp h
    obtain ⟨rfl, rfl⟩ := Prod.mk.inj h
    obtain ⟨tail, htail, rfl⟩ := ih hrest
    exact ⟨_, .escape hescape htail, rfl⟩
  | case5 => exact absurd h.symm (Option.some_ne_none _)
  | case6 c cs hquote _ hescape hcontrol ih =>
    obtain ⟨⟨found, after⟩, hrest, h⟩ := Option.map_eq_some_iff.mp h
    obtain ⟨rfl, rfl⟩ := Prod.mk.inj h
    obtain ⟨tail, htail, rfl⟩ := ih hrest
    -- Nothing but the end of the text keeps a backslash from being read as an escape.
    have hbackslash : c ≠ '\\' := by
      intro heq
      cases tail with
      | nil => exact hescape '"' after heq rfl
      | cons e tail => exact hescape e (tail ++ '"' :: after) heq rfl
    exact ⟨_, .char (Char.not_lt.mp hcontrol) hquote hbackslash htail, rfl⟩

/-! ### Numerals -/

namespace Numeral

/-- A digit is written as it was read. -/
theorem digitChar_of_isDigit {c : Char} (h : c.isDigit = true) :
    Nat.digitChar (c.toNat - '0'.toNat) = c ∧ c.toNat - '0'.toNat < 10 := by
  have hall : ∀ n < 58, 48 ≤ n →
      Nat.digitChar (n - '0'.toNat) = Char.ofNat n ∧ n - '0'.toNat < 10 := by decide
  simp only [Char.isDigit, Bool.and_eq_true, decide_eq_true_eq] at h
  have hlow : 48 ≤ c.toNat := UInt32.le_iff_toNat_le.mp h.1
  have hhigh : c.toNat ≤ 57 := UInt32.le_iff_toNat_le.mp h.2
  have hc := hall c.toNat (Nat.lt_succ_of_le hhigh) hlow
  rwa [Char.ofNat_toNat] at hc

theorem digitText_spanDigits {s rest : List Char} {ds : List Nat}
    (h : spanDigits s = (ds, rest)) : s = digitText ds ++ rest ∧ ∀ d ∈ ds, d < 10 := by
  obtain ⟨rfl, rfl⟩ := Prod.mk.inj h
  have hdigits : ∀ c ∈ s.takeWhile Char.isDigit, c.isDigit = true := fun c hc ↦
    List.mem_takeWhile_imp hc
  constructor
  · have htext : digitText ((s.takeWhile Char.isDigit).map fun c ↦ c.toNat - '0'.toNat) =
        s.takeWhile Char.isDigit := by
      rw [digitText, List.map_map]
      refine (List.map_congr_left fun c hc ↦ ?_).trans (List.map_id _)
      exact (digitChar_of_isDigit (hdigits c hc)).1
    rw [htext, List.takeWhile_append_dropWhile]
  · intro d hd
    obtain ⟨c, hc, rfl⟩ := List.mem_map.mp hd
    exact (digitChar_of_isDigit (hdigits c hc)).2

theorem spelled_of_whole? {s rest : List Char} {ds : List Nat}
    (h : whole? s = some (ds, rest)) :
    AreDigits ds ∧ (ds.head? = some 0 → ds = [0]) ∧ s = digitText ds ++ rest := by
  unfold whole? at h
  split at h
  · exact absurd h.symm (Option.some_ne_none _)
  · exact absurd h.symm (Option.some_ne_none _)
  · rename_i found tail hne hzero hspan
    obtain ⟨rfl, rfl⟩ := Prod.mk.inj (Option.some.inj h)
    obtain ⟨htext, hlt⟩ := digitText_spanDigits hspan
    refine ⟨⟨hne, hlt⟩, fun hhead ↦ ?_, htext⟩
    cases found with
    | nil => exact absurd rfl hne
    | cons d rest =>
      obtain rfl := Option.some.inj hhead
      cases rest with
      | nil => rfl
      | cons d' rest => exact absurd rfl (hzero d' rest)

theorem exists_spelled_of_fraction? {s rest : List Char} {ds : List Nat}
    (h : fraction? s = some (ds, rest)) : ∃ f, FractionSpelled ds f ∧ s = f ++ rest := by
  unfold fraction? at h
  split at h
  · split at h
    · exact absurd h.symm (Option.some_ne_none _)
    · rename_i found tail hne hspan
      obtain ⟨rfl, rfl⟩ := Prod.mk.inj (Option.some.inj h)
      obtain ⟨rfl, hlt⟩ := digitText_spanDigits hspan
      exact ⟨_, .present ⟨hne, hlt⟩, rfl⟩
  · obtain ⟨rfl, rfl⟩ := Prod.mk.inj (Option.some.inj h)
    exact ⟨[], .absent, rfl⟩

theorem exists_spelled_of_exponentDigits? {s rest : List Char}
    {exponent : Option (Bool × List Nat)} (h : exponentDigits? s = some (exponent, rest)) :
    ∃ negative sign ds, exponent = some (negative, ds) ∧ SignSpelled negative sign ∧
      AreDigits ds ∧ s = sign ++ digitText ds ++ rest := by
  unfold exponentDigits? at h
  split at h
  rename_i negative tail hsign
  split at h
  · exact absurd h.symm (Option.some_ne_none _)
  · rename_i found after hne hspan
    obtain ⟨rfl, rfl⟩ := Prod.mk.inj (Option.some.inj h)
    obtain ⟨rfl, hlt⟩ := digitText_spanDigits hspan
    have hspelled : ∃ sign, SignSpelled negative sign ∧ s = sign ++ (digitText found ++ after) := by
      split at hsign
      · obtain ⟨rfl, rfl⟩ := Prod.mk.inj hsign
        exact ⟨['-'], .minus, rfl⟩
      · obtain ⟨rfl, rfl⟩ := Prod.mk.inj hsign
        exact ⟨['+'], .plus, rfl⟩
      · obtain ⟨rfl, rfl⟩ := Prod.mk.inj hsign
        exact ⟨[], .absent, rfl⟩
    obtain ⟨sign, hspelled, htext⟩ := hspelled
    exact ⟨negative, sign, found, rfl, hspelled, ⟨hne, hlt⟩,
      htext.trans (List.append_assoc _ _ _).symm⟩

theorem exists_spelled_of_exponent? {s rest : List Char} {exponent : Option (Bool × List Nat)}
    (h : exponent? s = some (exponent, rest)) :
    ∃ e, ExponentSpelled exponent e ∧ s = e ++ rest := by
  unfold exponent? at h
  split at h
  · obtain ⟨negative, sign, ds, rfl, hsign, hds, rfl⟩ := exists_spelled_of_exponentDigits? h
    exact ⟨_, .present (.inl rfl) hsign hds, rfl⟩
  · obtain ⟨negative, sign, ds, rfl, hsign, hds, rfl⟩ := exists_spelled_of_exponentDigits? h
    exact ⟨_, .present (.inr rfl) hsign hds, rfl⟩
  · obtain ⟨rfl, rfl⟩ := Prod.mk.inj (Option.some.inj h)
    exact ⟨[], .absent, rfl⟩

theorem exists_spelled_of_read? {s rest : List Char} {n : Numeral}
    (h : read? s = some (n, rest)) : ∃ cs, n.Spelled cs ∧ s = cs ++ rest := by
  have hunsigned {negative : Bool} {s : List Char} (h : unsigned? negative s = some (n, rest)) :
      ∃ cs, n.Spelled cs ∧ (if negative then ['-'] else []) ++ s = cs ++ rest := by
    simp only [unsigned?, bind, Option.bind_eq_some_iff] at h
    obtain ⟨⟨whole, s₁⟩, hwhole, ⟨fraction, s₂⟩, hfraction, ⟨exponent, s₃⟩, hexponent, h⟩ := h
    obtain ⟨rfl, rfl⟩ := Prod.mk.inj (Option.some.inj h)
    obtain ⟨hdigits, hzero, rfl⟩ := spelled_of_whole? hwhole
    obtain ⟨f, hf, rfl⟩ := exists_spelled_of_fraction? hfraction
    obtain ⟨e, he, rfl⟩ := exists_spelled_of_exponent? hexponent
    refine ⟨_, .intro negative hdigits hzero hf he, ?_⟩
    simp only [List.append_assoc]
  unfold read? at h
  split at h
  · exact hunsigned h
  · exact hunsigned h

end Numeral

/-! ### Tokens -/

/-- A token is read from the front of a text that starts with it. -/
theorem Token.exists_spelled_of_read? {s rest : List Char} {t : Token}
    (h : Token.read? s = some (t, rest)) : ∃ cs, t.Spelled cs ∧ s = cs ++ rest := by
  unfold Token.read? at h
  split at h
  case h_10 cs =>
    obtain ⟨⟨pieces, after⟩, hpieces, h⟩ := Option.map_eq_some_iff.mp h
    obtain ⟨rfl, rfl⟩ := Prod.mk.inj h
    obtain ⟨cs, hcs, rfl⟩ := Piece.exists_spelled_of_string? hpieces
    exact ⟨_, .string hcs, by simp⟩
  case h_11 =>
    obtain ⟨⟨n, after⟩, hn, h⟩ := Option.map_eq_some_iff.mp h
    obtain ⟨rfl, rfl⟩ := Prod.mk.inj h
    obtain ⟨cs, hcs, rfl⟩ := Numeral.exists_spelled_of_read? hn
    exact ⟨cs, .number hcs, rfl⟩
  all_goals
    obtain ⟨rfl, rfl⟩ := Prod.mk.inj (Option.some.inj h)
    exact ⟨_, by constructor, rfl⟩

/-- A text spells the tokens that are read from it. -/
theorem text_of_tokens? {s : List Char} {ts : List Token} (h : tokens? s = some ts) :
    Token.Text ts s := by
  fun_induction tokens? s generalizing ts with
  | case1 s hspace =>
    obtain rfl := Option.some.inj h
    exact .nil (List.dropWhile_eq_nil_iff.mp hspace)
  | case2 => exact absurd h.symm (Option.some_ne_none _)
  | case3 s c tail hspace t rest hread ih =>
    obtain ⟨later, hlater, rfl⟩ := Option.map_eq_some_iff.mp h
    obtain ⟨cs, hcs, heq⟩ := Token.exists_spelled_of_read? hread
    rw [← List.takeWhile_append_dropWhile (p := Token.isSpace) (l := s), hspace, heq]
    exact .cons (fun c hc ↦ List.mem_takeWhile_imp hc) hcs (ih hlater)

/-! ### What was taken up -/

/-- Parts that come before others: each is followed by a comma. -/
def commaed (parts : List (List Token)) : List Token := parts.flatMap (· ++ [.comma])

theorem commaed_concat (parts : List (List Token)) (part : List Token) :
    commaed (parts ++ [part]) = commaed parts ++ (part ++ [.comma]) := by
  rw [commaed, List.flatMap_append, List.flatMap_singleton, commaed]

theorem intercalate_comma_concat (parts : List (List Token)) (last : List Token) :
    [Token.comma].intercalate (parts ++ [last]) = commaed parts ++ last := by
  induction parts with
  | nil => exact List.intercalate_singleton
  | cons part parts ih =>
    -- The first part has a comma behind it, since another part follows.
    obtain ⟨next, rest, hrest⟩ := List.exists_cons_of_ne_nil (l := parts ++ [last]) (by simp)
    rw [List.cons_append, hrest, List.intercalate_cons_cons, ← hrest, ih, commaed, commaed,
      List.flatMap_cons]
    simp only [List.append_assoc]

/-- The tokens that were taken up for what is open. -/
def Frame.tokens : Frame → List Token
  | array elements => .openArray :: commaed (elements.reverse.map Value.tokens)
  | object members k =>
    .openObject :: (commaed (members.reverse.map Value.memberTokens) ++ [.string k, .colon])

/-- The tokens that were taken up for all that is open. -/
def stackTokens : List Frame → List Token
  | [] => []
  | f :: stack => stackTokens stack ++ f.tokens

namespace State

/-- The tokens that were taken up so far. -/
def tokens : State → List Token
  | value stack => stackTokens stack
  | element stack => stackTokens stack ++ [.openArray]
  | firstKey stack => stackTokens stack ++ [.openObject]
  | key members stack =>
    stackTokens stack ++ .openObject :: commaed (members.reverse.map Value.memberTokens)
  | colon members k stack =>
    stackTokens stack ++
      .openObject :: (commaed (members.reverse.map Value.memberTokens) ++ [.string k])
  | after v stack => stackTokens stack ++ v.tokens

theorem tokens_of_begin? {stack : List Frame} {next : State} {t : Token}
    (h : begin? stack t = some next) : next.tokens = stackTokens stack ++ [t] := by
  cases t <;> simp only [begin?, Option.some.injEq, reduceCtorEq] at h <;> subst h <;>
    simp only [tokens, Value.tokens]

/-- A token that is taken up is accounted for. -/
theorem tokens_of_next? {state next : State} {t : Token} (h : state.next? t = some next) :
    next.tokens = state.tokens ++ [t] := by
  unfold next? at h
  split at h
  case h_1 => exact tokens_of_begin? h
  case h_2 stack =>
    obtain rfl := Option.some.inj h
    rw [tokens, tokens, Value.tokens, List.append_assoc]
    rfl
  case h_3 => exact tokens_of_begin? h
  case h_4 stack =>
    obtain rfl := Option.some.inj h
    rw [tokens, tokens, Value.tokens_object, List.append_assoc]
    rfl
  case h_5 stack k =>
    obtain rfl := Option.some.inj h
    rw [tokens, tokens, List.append_assoc]
    rfl
  case h_6 members stack k =>
    obtain rfl := Option.some.inj h
    rw [tokens, tokens, List.append_assoc, List.cons_append]
  case h_7 members k stack =>
    obtain rfl := Option.some.inj h
    rw [tokens, tokens, stackTokens, Frame.tokens, List.append_assoc, List.cons_append,
      List.append_assoc]
    rfl
  case h_8 v elements stack =>
    obtain rfl := Option.some.inj h
    rw [tokens, tokens, stackTokens, stackTokens, Frame.tokens, Frame.tokens, List.reverse_cons,
      List.map_append, List.map_singleton, commaed_concat]
    simp only [List.append_assoc, List.cons_append]
  case h_9 v elements stack =>
    obtain rfl := Option.some.inj h
    rw [tokens, tokens, stackTokens, Frame.tokens, Value.tokens, List.reverse_cons,
      List.map_append, List.map_singleton, intercalate_comma_concat]
    simp only [List.append_assoc, List.cons_append]
  case h_10 v members k stack =>
    obtain rfl := Option.some.inj h
    rw [tokens, tokens, stackTokens, Frame.tokens, List.reverse_cons,
      List.map_append, List.map_singleton, commaed_concat, Value.memberTokens]
    simp only [List.append_assoc, List.cons_append, List.nil_append]
  case h_11 v members k stack =>
    obtain rfl := Option.some.inj h
    rw [tokens, tokens, stackTokens, Frame.tokens, Value.tokens_object, List.reverse_cons,
      List.map_append, List.map_singleton, intercalate_comma_concat, Value.memberTokens]
    simp only [List.append_assoc, List.cons_append, List.nil_append]
  case h_12 => exact absurd h.symm (Option.some_ne_none _)

/-- All tokens that are taken up are accounted for. -/
theorem tokens_of_foldlM {state last : State} {ts : List Token}
    (h : ts.foldlM next? state = some last) : last.tokens = state.tokens ++ ts := by
  induction ts generalizing state with
  | nil =>
    obtain rfl := Option.some.inj h
    exact (List.append_nil _).symm
  | cons t ts ih =>
    obtain ⟨next, hnext, hrest⟩ := Option.bind_eq_some_iff.mp (List.foldlM_cons.symm.trans h)
    rw [ih hrest, tokens_of_next? hnext, List.append_assoc, List.singleton_append]

end State

namespace Value

/-- A value is read from no tokens but its own. -/
theorem tokens_of_ofTokens? {ts : List Token} {v : Value} (h : ofTokens? ts = some v) :
    v.tokens = ts := by
  unfold ofTokens? at h
  split at h
  · rename_i found hread
    obtain rfl := Option.some.inj h
    exact State.tokens_of_foldlM hread
  · exact absurd h.symm (Option.some_ne_none _)

/-- A value is read from its texts and from no others. -/
theorem parse?_eq_some_iff {s : List Char} {v : Value} : parse? s = some v ↔ v.IsText s := by
  constructor
  · intro h
    obtain ⟨ts, hts, hv⟩ := Option.bind_eq_some_iff.mp h
    obtain rfl := tokens_of_ofTokens? hv
    exact text_of_tokens? hts
  · exact parse?_of_isText

end Value

end WindowRouting.Json

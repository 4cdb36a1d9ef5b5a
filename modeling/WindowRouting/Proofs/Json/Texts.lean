import Mathlib.Data.List.Chain
import WindowRouting.Json.Value
import WindowRouting.Proofs.Json.Spelling

/-!
The texts of a value. A value has one sequence of tokens (`Value.tokens`), and a text of the value
spells these one after another with any white space around them (`Value.IsText`). A value is what is
read from each of its texts (`Value.parse?_of_isText`).

A numeral needs no white space behind it: in the tokens of a value it is followed by a comma or by
the end of an array or object (`Value.isChain_tokens`), and its text does not run on into these.
-/

set_option autoImplicit false
set_option relaxedAutoImplicit false

namespace WindowRouting.Json

namespace Token

/-- The tokens may be spelled as this text, with white space around each of them. -/
inductive Text : List Token → List Char → Prop
  | nil {w : List Char} (hw : ∀ c ∈ w, isSpace c = Bool.true) : Text [] w
  | cons {w cs s : List Char} {t : Token} {ts : List Token} (hw : ∀ c ∈ w, isSpace c = Bool.true)
      (ht : t.Spelled cs) (hs : Text ts s) : Text (t :: ts) (w ++ (cs ++ s))

/-- A token that may follow a value: it is spelled by one character that no numeral has. -/
inductive Closes : Token → Prop
  | comma : Closes .comma
  | array : Closes .closeArray
  | object : Closes .closeObject

/-- The token may follow the other one without white space between them. -/
def Allows (t u : Token) : Prop := t.isNumber = Bool.true → u.Closes

theorem Spelled.not_isSpace {t : Token} {cs : List Char} (h : t.Spelled cs) :
    ∃ c tail, cs = c :: tail ∧ isSpace c = Bool.false := by
  cases h with
  | number h =>
    obtain ⟨c, tail, rfl, hc⟩ := h.exists_cons
    refine ⟨c, tail, rfl, ?_⟩
    by_contra hspace
    simp only [isSpace, Bool.not_eq_false, Bool.or_eq_true, decide_eq_true_eq] at hspace
    rcases hspace with ((rfl | rfl) | rfl) | rfl <;> revert hc <;> decide
  | _ => exact ⟨_, _, rfl, by decide⟩

/-- A numeral ends where the text of the tokens begins that are allowed after it. -/
theorem Text.ends {ts : List Token} {s : List Char} (h : Text ts s)
    (hclose : ∀ u ∈ ts.head?, u.Closes) : Numeral.Ends s := by
  have hspace {w s : List Char} (hw : ∀ c ∈ w, isSpace c = Bool.true) (hs : Numeral.Ends s) :
      Numeral.Ends (w ++ s) := by
    cases w with
    | nil => exact hs
    | cons c w =>
      intro x hx
      obtain rfl := Option.some.inj hx
      have hc := hw c List.mem_cons_self
      simp only [isSpace, Bool.or_eq_true, decide_eq_true_eq] at hc
      rcases hc with ((rfl | rfl) | rfl) | rfl <;> decide
  cases h with
  | nil hw =>
    have hempty : Numeral.Ends [] := fun c hc ↦ absurd hc (Option.not_mem_none c)
    exact List.append_nil s ▸ hspace hw hempty
  | cons hw ht hs =>
    refine hspace hw fun c hc ↦ ?_
    cases hclose _ rfl <;> cases ht <;> obtain rfl := Option.some.inj hc <;> decide

end Token

/-- The tokens are read from every text that spells them. -/
theorem tokens?_of_text {ts : List Token} {s : List Char} (h : Token.Text ts s)
    (hchain : ts.IsChain Token.Allows) : tokens? s = some ts := by
  induction h with
  | @nil w hw =>
    have hdrop : w.dropWhile Token.isSpace = [] := List.dropWhile_eq_nil_iff.mpr hw
    rw [tokens?]
    split
    · rfl
    · rename_i heq
      exact absurd (heq.symm.trans hdrop) (List.cons_ne_nil _ _)
  | @cons w cs s t ts hw ht hs ih =>
    obtain ⟨hhead, htail⟩ := List.isChain_cons.mp hchain
    have hends : t.isNumber = Bool.true → Numeral.Ends s := by
      intro hnumber
      exact hs.ends fun u hu ↦ hhead u hu hnumber
    obtain ⟨c, tail, rfl, hc⟩ := ht.not_isSpace
    have hdrop : (w ++ (c :: tail ++ s)).dropWhile Token.isSpace = c :: tail ++ s := by
      refine Text.dropWhile_append_of_head? hw fun x hx ↦ ?_
      obtain rfl := Option.some.inj hx
      exact hc
    have hread := Token.read?_of_spelled ht hends
    rw [tokens?]
    split
    · rename_i heq
      exact absurd (hdrop.symm.trans heq) (List.cons_ne_nil _ _)
    · rename_i heq
      rw [hdrop] at heq
      rw [heq] at hread
      split
      · rename_i hnone
        exact absurd (hread.symm.trans hnone) (Option.some_ne_none _)
      · rename_i hsome
        obtain ⟨rfl, rfl⟩ := Prod.mk.inj (Option.some.inj (hread.symm.trans hsome))
        rw [ih htail, Option.map_some]

namespace Value

/-- Induction on values: a property that arrays and objects have if all their elements and members
have it. -/
@[induction_eliminator]
theorem induction {P : Value → Prop} (null : P .null) (bool : ∀ b, P (.bool b))
    (number : ∀ n, P (.number n)) (string : ∀ pieces, P (.string pieces))
    (array : ∀ elements, (∀ v ∈ elements, P v) → P (.array elements))
    (object : ∀ members : List (List Piece × Value),
      (∀ member ∈ members, P member.2) → P (.object members)) (v : Value) : P v :=
  Value.rec (motive_1 := P) (motive_2 := fun vs ↦ ∀ v ∈ vs, P v)
    (motive_3 := fun ms ↦ ∀ m ∈ ms, P m.2) (motive_4 := fun m ↦ P m.2)
    null bool number string array object
    (fun _ hv ↦ nomatch hv) (fun _ _ hv hvs ↦ List.forall_mem_cons.mpr ⟨hv, hvs⟩)
    (fun _ hm ↦ nomatch hm) (fun _ _ hm hms ↦ List.forall_mem_cons.mpr ⟨hm, hms⟩)
    (fun _ _ hv ↦ hv) v

/-- The tokens of a value. -/
def tokens : Value → List Token
  | null => [.null]
  | bool b => [.bool b]
  | number n => [.number n]
  | string pieces => [.string pieces]
  | array elements => .openArray :: ([.comma].intercalate (elements.map tokens) ++ [.closeArray])
  | object members =>
    .openObject :: ([.comma].intercalate (members.map fun member ↦
      .string member.1 :: .colon :: tokens member.2) ++ [.closeObject])
termination_by v => sizeOf v
decreasing_by
  · have := List.sizeOf_lt_of_mem ‹_›
    grind [Value.array.sizeOf_spec]
  · have := List.sizeOf_lt_of_mem ‹_›
    rcases member with ⟨k, v⟩
    grind [Value.object.sizeOf_spec]

/-- The tokens of a member. -/
def memberTokens (m : List Piece × Value) : List Token := .string m.1 :: .colon :: m.2.tokens

theorem tokens_object (members : List (List Piece × Value)) :
    (object members).tokens =
      .openObject :: ([.comma].intercalate (members.map memberTokens) ++ [.closeObject]) := by
  rw [tokens]
  rfl

/-- No value starts with a token that may follow one. -/
theorem exists_tokens_eq_cons (v : Value) : ∃ t ts, v.tokens = t :: ts ∧ ¬t.Closes := by
  cases v <;> exact ⟨_, _, by rw [tokens], by rintro ⟨⟩⟩

/-! ### Numerals among the tokens -/

/-- Sequences that are separated by commas and closed. -/
theorem isChain_intercalate {parts : List (List Token)}
    (hparts : ∀ part ∈ parts, part.IsChain Token.Allows) {close : Token} (hclose : close.Closes) :
    ([.comma].intercalate parts ++ [close]).IsChain Token.Allows := by
  have happend {part ts : List Token} {t : Token} (hpart : part.IsChain Token.Allows)
      (ht : t.Closes) (hts : (t :: ts).IsChain Token.Allows) :
      (part ++ t :: ts).IsChain Token.Allows := by
    refine List.isChain_append.mpr ⟨hpart, hts, fun _ _ u hu _ ↦ ?_⟩
    obtain rfl := Option.some.inj hu
    exact ht
  induction parts with
  | nil => exact List.isChain_singleton close
  | cons part rest ih =>
    obtain ⟨hpart, hrest⟩ := List.forall_mem_cons.mp hparts
    cases rest with
    | nil =>
      rw [List.intercalate_singleton]
      exact happend hpart hclose (List.isChain_singleton close)
    | cons next rest =>
      rw [List.intercalate_cons_cons, List.append_assoc, List.append_assoc]
      refine happend hpart .comma (List.isChain_cons.mpr ⟨fun _ _ hnumber ↦ ?_, ih hrest⟩)
      exact nomatch hnumber

/-- In the tokens of a value, every numeral is followed by a token that may follow a value. -/
theorem isChain_tokens (v : Value) : v.tokens.IsChain Token.Allows := by
  have hopen {t : Token} {ts : List Token} (ht : t.isNumber = Bool.false)
      (hts : ts.IsChain Token.Allows) : (t :: ts).IsChain Token.Allows := by
    refine List.isChain_cons.mpr ⟨fun _ _ hnumber ↦ ?_, hts⟩
    exact absurd hnumber (ht ▸ Bool.false_ne_true)
  induction v with
  | array elements ih =>
    rw [tokens]
    refine hopen rfl (isChain_intercalate (fun part hpart ↦ ?_) .array)
    obtain ⟨v, hv, rfl⟩ := List.mem_map.mp hpart
    exact ih v hv
  | object members ih =>
    rw [tokens_object]
    refine hopen rfl (isChain_intercalate (fun part hpart ↦ ?_) .object)
    obtain ⟨m, hm, rfl⟩ := List.mem_map.mp hpart
    exact hopen rfl (hopen rfl (ih m hm))
  | _ =>
    rw [tokens]
    exact List.isChain_singleton _

/-! ### Reading the tokens -/

theorem foldlM_of_next? {state next : State} {t : Token} (h : state.next? t = some next)
    (rest : List Token) :
    (t :: rest).foldlM State.next? state = rest.foldlM State.next? next := by
  rw [List.foldlM_cons, h]
  rfl

/-- The tokens `ts` are read as the value `v`, wherever a value may stand. -/
def Reads (v : Value) (ts : List Token) : Prop :=
  ∀ (stack : List Frame) (rest : List Token),
    (ts ++ rest).foldlM State.next? (.value stack) = rest.foldlM State.next? (.after v stack)

/-- The first element of an array is read as any other value. -/
theorem foldlM_element (v : Value) (stack : List Frame) (rest : List Token) :
    (v.tokens ++ rest).foldlM State.next? (.element stack) =
      (v.tokens ++ rest).foldlM State.next? (.value (.array [] :: stack)) := by
  obtain ⟨t, ts, heq, ht⟩ := v.exists_tokens_eq_cons
  have hnext : State.next? (.element stack) t = State.next? (.value (.array [] :: stack)) t := by
    cases t with
    | closeArray => exact absurd .array ht
    | _ => rfl
  rw [heq, List.cons_append, List.foldlM_cons, List.foldlM_cons, hnext]

/-- The elements of an array that has some already, up to its end. -/
theorem foldlM_elements {v : Value} {vs : List Value} (hreads : ∀ w ∈ v :: vs, w.Reads w.tokens)
    (before : List Value) (stack : List Frame) (rest : List Token) :
    ([Token.comma].intercalate ((v :: vs).map tokens) ++ ([Token.closeArray] ++ rest)).foldlM
        State.next? (.value (.array before :: stack)) =
      rest.foldlM State.next? (.after (.array (before.reverse ++ v :: vs)) stack) := by
  induction vs generalizing v before with
  | nil =>
    rw [List.map_singleton, List.intercalate_singleton, hreads v List.mem_cons_self,
      List.singleton_append, foldlM_of_next? rfl, List.reverse_cons]
  | cons w vs ih =>
    obtain ⟨hv, hvs⟩ := List.forall_mem_cons.mp hreads
    rw [List.map_cons, List.map_cons, List.intercalate_cons_cons, List.append_assoc,
      List.append_assoc, hv, List.singleton_append, foldlM_of_next? rfl, ← List.map_cons,
      ih hvs (v :: before), List.reverse_cons, List.append_assoc, List.singleton_append]

/-- The members of an object that has some already, up to its end. -/
theorem foldlM_members {m : List Piece × Value} {ms : List (List Piece × Value)}
    (hreads : ∀ n ∈ m :: ms, n.2.Reads n.2.tokens) (before : List (List Piece × Value))
    (stack : List Frame) (rest : List Token) :
    ([Token.comma].intercalate ((m :: ms).map memberTokens) ++
        ([Token.closeObject] ++ rest)).foldlM State.next? (.key before stack) =
      rest.foldlM State.next? (.after (.object (before.reverse ++ m :: ms)) stack) := by
  have hmember (m : List Piece × Value) (hm : m.2.Reads m.2.tokens) (before) (rest) :
      (memberTokens m ++ rest).foldlM State.next? (.key before stack) =
        rest.foldlM State.next? (.after m.2 (.object before m.1 :: stack)) := by
    rw [memberTokens, List.cons_append, foldlM_of_next? rfl, List.cons_append,
      foldlM_of_next? rfl, hm]
  induction ms generalizing m before with
  | nil =>
    rw [List.map_singleton, List.intercalate_singleton, hmember m (hreads m List.mem_cons_self),
      List.singleton_append, foldlM_of_next? rfl, List.reverse_cons]
  | cons n ms ih =>
    obtain ⟨hm, hms⟩ := List.forall_mem_cons.mp hreads
    rw [List.map_cons, List.map_cons, List.intercalate_cons_cons, List.append_assoc,
      List.append_assoc, hmember m hm, List.singleton_append, foldlM_of_next? rfl, ← List.map_cons,
      ih hms (m :: before), List.reverse_cons, List.append_assoc, List.singleton_append]

/-- The first key of an object is read as any other key. -/
theorem foldlM_firstKey (m : List Piece × Value) (stack : List Frame) (rest : List Token) :
    (memberTokens m ++ rest).foldlM State.next? (.firstKey stack) =
      (memberTokens m ++ rest).foldlM State.next? (.key [] stack) := by
  rw [memberTokens, List.cons_append, foldlM_of_next? rfl, foldlM_of_next? rfl]

theorem exists_intercalate_eq_append (part : List Token) (rest : List (List Token)) :
    ∃ tail, [Token.comma].intercalate (part :: rest) = part ++ tail := by
  cases rest with
  | nil => exact ⟨[], by rw [List.intercalate_singleton, List.append_nil]⟩
  | cons next rest => exact ⟨_, by rw [List.intercalate_cons_cons, List.append_assoc]⟩

/-- A value is read from its tokens. -/
theorem reads_tokens (v : Value) : v.Reads v.tokens := by
  induction v with
  | array elements ih =>
    intro stack rest
    rw [tokens, List.cons_append, foldlM_of_next? rfl, List.append_assoc]
    cases elements with
    | nil => rfl
    | cons v vs =>
      obtain ⟨tail, htail⟩ := exists_intercalate_eq_append v.tokens (vs.map tokens)
      have helements := foldlM_elements ih [] stack rest
      rw [List.map_cons, htail, List.append_assoc] at helements ⊢
      exact (foldlM_element v stack _).trans helements
  | object members ih =>
    intro stack rest
    rw [tokens_object, List.cons_append, foldlM_of_next? rfl, List.append_assoc]
    cases members with
    | nil => rfl
    | cons m ms =>
      obtain ⟨tail, htail⟩ := exists_intercalate_eq_append (memberTokens m) (ms.map memberTokens)
      have hmembers := foldlM_members ih [] stack rest
      rw [List.map_cons, htail, List.append_assoc] at hmembers ⊢
      exact (foldlM_firstKey m stack _).trans hmembers
  | _ =>
    intro stack rest
    rw [tokens]
    rfl

/-- The text spells the tokens of the value. -/
def IsText (v : Value) (s : List Char) : Prop := Token.Text v.tokens s

/-- A value is read from each of its texts. -/
theorem parse?_of_isText {v : Value} {s : List Char} (h : v.IsText s) : parse? s = some v := by
  have hread := v.reads_tokens [] []
  rw [List.append_nil] at hread
  rw [parse?, tokens?_of_text h v.isChain_tokens, Option.bind_some, ofTokens?, hread]
  rfl

end Value

end WindowRouting.Json

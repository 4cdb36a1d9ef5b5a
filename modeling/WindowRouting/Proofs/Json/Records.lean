import Mathlib.Data.List.Forall2
import Mathlib.Data.List.Perm.Basic
import WindowRouting.Json.Fields
import WindowRouting.Proofs.Json.Readings
import WindowRouting.Proofs.Text.Pieces

/-!
The two forms of a record. As an object, a record takes each of its fields from the only member with
the name of the field, or its default if there is none (`Gives`); the order of the members does not
matter, nor do members with other names, however often they are repeated and whatever their values
(`Rearranged`). Every key has to be a text, though (`HasTextKeys`): an escaped surrogate that stands
alone is none, and an object with such a key is refused even if no field has anything to do with it
(`surrogate_key_refused`). As an array of its first fields, a record is read as the object with
these fields. White space between tokens never matters, since a value is read from every text that
spells it and from no other (`Value.parse?_eq_some_iff`).

The rules are the same for all records (`ReadsRecord`), and settings and descriptors follow them
(`records_read`).
-/

set_option autoImplicit false
set_option relaxedAutoImplicit false

namespace WindowRouting.Json

namespace Value

/-- The members of an object. -/
abbrev Members := List (List Piece × Value)

/-- The values that the members with this name give. -/
def given (members : Members) (name : String) : List Value :=
  (members.filter fun m ↦ Piece.text? m.1 = some name.toList).map (·.2)

/-- The key of every member is a text. -/
def HasTextKeys (members : Members) : Prop := ∀ m ∈ members, ∃ key, Piece.text? m.1 = some key

theorem given_cons_self {m : List Piece × Value} {name : String}
    (h : Piece.text? m.1 = some name.toList) (members : Members) :
    given (m :: members) name = m.2 :: given members name := by
  rw [given, List.filter_cons_of_pos (by simpa using h), List.map_cons, given]

theorem given_cons_of_ne {m : List Piece × Value} {name : String}
    (h : Piece.text? m.1 ≠ some name.toList) (members : Members) :
    given (m :: members) name = given members name := by
  rw [given, List.filter_cons_of_neg (by simpa using h), given]

theorem given_perm {members members' : Members} (h : members.Perm members') (name : String) :
    (given members name).Perm (given members' name) :=
  (h.filter _).map _

/-! ### The fields of an object -/

/-- The members with their keys as texts. -/
def Keyed (members : Members) (keyed : List (List Char × Value)) : Prop :=
  List.Forall₂ (fun m k ↦ Piece.text? m.1 = some k.1 ∧ m.2 = k.2) members keyed

theorem mapM_eq_some_iff_keyed {members : Members} {keyed : List (List Char × Value)} :
    (members.mapM fun (key, v) ↦ (Piece.text? key).map (·, v)) = some keyed ↔
      Keyed members keyed := by
  have hmember (m : List Piece × Value) (k : List Char × Value) :
      (Piece.text? m.1).map (·, m.2) = some k ↔ Piece.text? m.1 = some k.1 ∧ m.2 = k.2 := by
    rw [Option.map_eq_some_iff]
    constructor
    · rintro ⟨key, hkey, rfl⟩
      exact ⟨hkey, rfl⟩
    · intro ⟨hkey, hvalue⟩
      exact ⟨k.1, hkey, Prod.ext rfl hvalue⟩
  rw [Text.mapM_eq_some_iff]
  exact ⟨fun h ↦ h.imp fun m k ↦ (hmember m k).mp, fun h ↦ h.imp fun m k ↦ (hmember m k).mpr⟩

theorem exists_keyed_iff {members : Members} :
    (∃ keyed, Keyed members keyed) ↔ HasTextKeys members := by
  constructor
  · intro ⟨keyed, hkeyed⟩ m hm
    induction hkeyed with
    | nil => exact absurd hm List.not_mem_nil
    | @cons n k members keyed hkey _ ih =>
      rcases List.mem_cons.mp hm with rfl | hm
      · exact ⟨k.1, hkey.1⟩
      · exact ih hm
  · intro hkeys
    induction members with
    | nil => exact ⟨[], .nil⟩
    | cons m members ih =>
      obtain ⟨⟨key, hkey⟩, hrest⟩ := List.forall_mem_cons.mp hkeys
      obtain ⟨keyed, hkeyed⟩ := ih hrest
      exact ⟨(key, m.2) :: keyed, .cons ⟨hkey, rfl⟩ hkeyed⟩

theorem Keyed.map_filter {members : Members} {keyed : List (List Char × Value)}
    (h : Keyed members keyed) (name : String) :
    (keyed.filter (·.1 = name.toList)).map (·.2) = given members name := by
  induction h with
  | nil => rfl
  | @cons m k members keyed hkey _ ih =>
    by_cases hname : k.1 = name.toList
    · have hm : Piece.text? m.1 = some name.toList := hname ▸ hkey.1
      rw [given_cons_self hm, List.filter_cons_of_pos (by simpa using hname), List.map_cons, ih,
        hkey.2]
    · have hm : Piece.text? m.1 ≠ some name.toList := by
        rw [hkey.1]
        exact fun heq ↦ hname (Option.some.inj heq)
      rw [given_cons_of_ne hm, List.filter_cons_of_neg (by simpa using hname), ih]

/-- A field is read if it is given once or not at all. -/
theorem member?_eq_some_iff {keyed : List (List Char × Value)} {name : String}
    {v : Option Value} :
    member? keyed name = some v ↔ (keyed.filter (·.1 = name.toList)).map (·.2) = v.toList := by
  rw [member?]
  split
  · rename_i heq
    rw [heq]
    cases v <;> simp
  · rename_i heq
    rw [heq]
    cases v <;> simp
  · rename_i hnil hone
    constructor
    · intro h
      exact nomatch h
    · intro h
      cases v with
      | none => exact absurd (List.map_eq_nil_iff.mp h) hnil
      | some w =>
        obtain ⟨k, hk, -⟩ := List.map_eq_singleton_iff.mp h
        exact absurd hk (hone k.1 k.2)

/-- The fields of an object are read if all its keys are texts and no field is given twice. -/
theorem fields?_object_eq_some_iff {names : List String} {members : Members}
    {fields : List (Option Value)} :
    (object members).fields? names = some fields ↔
      HasTextKeys members ∧
        List.Forall₂ (fun name v ↦ given members name = v.toList) names fields := by
  have hfields {keyed : List (List Char × Value)} (hkeyed : Keyed members keyed) :
      names.mapM (member? keyed) = some fields ↔
        List.Forall₂ (fun name v ↦ given members name = v.toList) names fields := by
    simp only [Text.mapM_eq_some_iff, member?_eq_some_iff, hkeyed.map_filter]
  rw [← exists_keyed_iff]
  constructor
  · intro h
    obtain ⟨keyed, hkeyed, h⟩ := Option.bind_eq_some_iff.mp h
    have hkeyed := mapM_eq_some_iff_keyed.mp hkeyed
    exact ⟨⟨keyed, hkeyed⟩, (hfields hkeyed).mp h⟩
  · intro ⟨⟨keyed, hkeyed⟩, h⟩
    exact Option.bind_eq_some_iff.mpr
      ⟨keyed, mapM_eq_some_iff_keyed.mpr hkeyed, (hfields hkeyed).mpr h⟩

/-- The fields of an object depend only on the values that are given for them. -/
theorem fields?_object_congr {names : List String} {members members' : Members}
    (hkeys : HasTextKeys members ↔ HasTextKeys members')
    (hgiven : ∀ name ∈ names, (given members name).Perm (given members' name)) :
    (object members).fields? names = (object members').fields? names := by
  have hfield {name : String} (hname : name ∈ names) (v : Option Value) :
      given members name = v.toList ↔ given members' name = v.toList := by
    have hperm := hgiven name hname
    cases v with
    | none =>
      rw [Option.toList_none]
      exact ⟨fun h ↦ (h ▸ hperm).nil_eq.symm, fun h ↦ (h ▸ hperm).eq_nil⟩
    | some w =>
      rw [Option.toList_some]
      exact ⟨fun h ↦ (h ▸ hperm).singleton_eq.symm, fun h ↦ (h ▸ hperm).eq_singleton⟩
  refine Option.ext fun fields ↦ ?_
  rw [fields?_object_eq_some_iff, fields?_object_eq_some_iff, hkeys]
  refine and_congr_right fun _ ↦ ⟨fun h ↦ ?_, fun h ↦ ?_⟩
  · exact Text.forall₂_imp_of_mem h fun name hname v ↦ (hfield hname v).mp
  · exact Text.forall₂_imp_of_mem h fun name hname v ↦ (hfield hname v).mpr

/-- The members of the one object are those of the other in another order, and with other members
whose keys are texts that are not among `names`. -/
inductive Rearranged (names : List String) : Members → Members → Prop
  | order {members members' : Members} (h : members.Perm members') :
      Rearranged names members members'
  | unknown {members : Members} {m : List Piece × Value} {key : List Char}
      (hkey : Piece.text? m.1 = some key) (hnames : ∀ name ∈ names, key ≠ name.toList) :
      Rearranged names members (m :: members)
  | symm {members members' : Members} (h : Rearranged names members members') :
      Rearranged names members' members
  | trans {members members' members'' : Members} (h : Rearranged names members members')
      (h' : Rearranged names members' members'') : Rearranged names members members''

theorem Rearranged.fields?_eq {names : List String} {members members' : Members}
    (h : Rearranged names members members') :
    (object members).fields? names = (object members').fields? names := by
  induction h with
  | order h =>
    refine fields?_object_congr ?_ fun name _ ↦ given_perm h name
    exact ⟨fun hkeys m hm ↦ hkeys m (h.mem_iff.mpr hm), fun hkeys m hm ↦ hkeys m (h.mem_iff.mp hm)⟩
  | @unknown members m key hkey hnames =>
    refine fields?_object_congr ?_ fun name hname ↦ ?_
    · constructor
      · intro hkeys
        exact List.forall_mem_cons.mpr ⟨⟨key, hkey⟩, hkeys⟩
      · intro hkeys
        exact (List.forall_mem_cons.mp hkeys).2
    · have hm : Piece.text? m.1 ≠ some name.toList := by
        rw [hkey]
        exact fun heq ↦ hnames name hname (Option.some.inj heq)
      rw [given_cons_of_ne hm]
  | symm _ ih => exact ih.symm
  | trans _ _ ih ih' => exact ih.trans ih'

/-- The members have the first of the names, in their order. -/
inductive Positional : List String → Members → Prop
  | nil {names : List String} : Positional names []
  | cons {name : String} {names : List String} {m : List Piece × Value} {members : Members}
      (hm : Piece.text? m.1 = some name.toList) (h : Positional names members) :
      Positional (name :: names) (m :: members)

theorem Positional.length_le {names : List String} {members : Members}
    (h : Positional names members) : members.length ≤ names.length := by
  induction h with
  | nil => exact Nat.zero_le _
  | cons _ _ ih => exact Nat.succ_le_succ ih

theorem Positional.hasTextKeys {names : List String} {members : Members}
    (h : Positional names members) : HasTextKeys members := by
  induction h with
  | nil => exact fun m hm ↦ absurd hm List.not_mem_nil
  | @cons name _ _ _ hm _ ih => exact List.forall_mem_cons.mpr ⟨⟨name.toList, hm⟩, ih⟩

/-- Nothing is given under a name that comes later or not at all. -/
theorem Positional.given_eq_nil {names : List String} {members : Members}
    (h : Positional names members) {name : String} (hname : name ∉ names) :
    given members name = [] := by
  induction h with
  | nil => rfl
  | @cons first _ m _ hm _ ih =>
    rw [List.mem_cons, not_or] at hname
    obtain ⟨hne, hrest⟩ := hname
    have hother : Piece.text? m.1 ≠ some name.toList := by
      rw [hm]
      exact fun heq ↦ hne (String.toList_inj.mp (Option.some.inj heq)).symm
    rw [given_cons_of_ne hother]
    exact ih hrest

/-- The members give the fields that the array of their values gives. -/
theorem Positional.forall₂_given {names : List String} {members : Members}
    (h : Positional names members) (hnodup : names.Nodup) :
    List.Forall₂ (fun name v ↦ given members name = v.toList) names
      ((members.map (·.2)).map some ++ List.replicate (names.length - members.length) none) := by
  induction h with
  | @nil names =>
    have hlength : names.length = (List.replicate names.length (none : Option Value)).length :=
      List.length_replicate.symm
    refine (List.forall₂_iff_zip.mpr ⟨hlength, fun {name v} hv ↦ ?_⟩)
    rw [List.eq_of_mem_replicate (List.of_mem_zip hv).2]
    rfl
  | @cons name names m members hm h ih =>
    obtain ⟨hname, hnodup⟩ := List.nodup_cons.mp hnodup
    have hhead : given (m :: members) name = [m.2] := by
      rw [given_cons_self hm, h.given_eq_nil hname]
    have htail : ∀ other ∈ names, given (m :: members) other = given members other := by
      intro other hother
      refine given_cons_of_ne ?_ members
      rw [hm]
      intro heq
      exact hname (String.toList_inj.mp (Option.some.inj heq) ▸ hother)
    simp only [List.map_cons, List.cons_append, List.length_cons, Nat.add_sub_add_right]
    refine .cons hhead (Text.forall₂_imp_of_mem (ih hnodup) fun other hother v hv ↦ ?_)
    rw [htail other hother, hv]

/-- An array of the first fields has the fields of the object with these members. -/
theorem Positional.fields?_array {names : List String} {members : Members}
    (h : Positional names members) (hnodup : names.Nodup) :
    (array (members.map (·.2))).fields? names = (object members).fields? names := by
  have hlength : (members.map (·.2)).length ≤ names.length := by
    rw [List.length_map]
    exact h.length_le
  rw [fields?, if_pos hlength, List.length_map]
  exact (fields?_object_eq_some_iff.mpr ⟨h.hasTextKeys, h.forall₂_given hnodup⟩).symm

/-! ### The types of the fields -/

/-- A value is a 32-bit word if it is a whole number that fits: no sign, fraction or exponent. -/
inductive IsWord : Value → UInt32 → Prop
  | intro {digits : List Nat} {w : UInt32} (hdigits : Numeral.ofDigits digits = w.toNat) :
      IsWord (.number ⟨false, digits, [], none⟩) w

/-- A value is a number in single precision if it is a number that is not too large for it. -/
inductive IsSingle : Value → Float32 → Prop
  | intro {n : Numeral} {x : Float32} (hn : n.single? = some x) : IsSingle (.number n) x

/-- A value is a size if it is an array of two words. -/
inductive IsSize : Value → Size → Prop
  | intro {w h : Value} {size : Size} (hwidth : IsWord w size.width)
      (hheight : IsWord h size.height) : IsSize (.array [w, h]) size

inductive IsTitle : Value → String → Prop
  | intro {pieces : List Piece} {title : String} (htitle : Piece.text? pieces = some title.toList) :
      IsTitle (.string pieces) title

theorem word?_eq_some_iff {v : Value} {w : UInt32} : v.word? = some w ↔ IsWord v w := by
  constructor
  · intro h
    cases v with
    | number n =>
      rw [word?, Numeral.word?, Option.ite_none_right_eq_some] at h
      obtain ⟨hword, hw⟩ := h
      obtain ⟨negative, whole, fraction, exponent⟩ := n
      simp only [Numeral.isWhole, Bool.and_eq_true, Bool.not_eq_true', List.isEmpty_iff,
        Option.isNone_iff_eq_none, decide_eq_true_eq] at hword
      obtain ⟨⟨rfl, rfl, rfl⟩, hsize⟩ := hword
      refine .intro ?_
      rw [← Option.some.inj hw, UInt32.toNat_ofNat_of_lt' hsize]
    | _ => exact nomatch h
  · rintro ⟨hdigits⟩
    rw [word?, Numeral.word?, if_pos, hdigits, UInt32.ofNat_toNat]
    simpa [Numeral.isWhole, hdigits] using w.toNat_lt

theorem single?_eq_some_iff {v : Value} {x : Float32} : v.single? = some x ↔ IsSingle v x := by
  constructor
  · intro h
    cases v with
    | number n => exact .intro h
    | _ => exact nomatch h
  · rintro ⟨h⟩
    exact h

theorem size?_eq_some_iff {v : Value} {size : Size} : v.size? = some size ↔ IsSize v size := by
  constructor
  · intro h
    unfold size? at h
    split at h
    · obtain ⟨w, hw, h⟩ := Option.bind_eq_some_iff.mp h
      obtain ⟨height, hheight, h⟩ := Option.bind_eq_some_iff.mp h
      obtain rfl := Option.some.inj h
      exact .intro (word?_eq_some_iff.mp hw) (word?_eq_some_iff.mp hheight)
    · exact nomatch h
  · rintro ⟨hwidth, hheight⟩
    rw [size?, word?_eq_some_iff.mpr hwidth, word?_eq_some_iff.mpr hheight]
    rfl

theorem title?_eq_some_iff {v : Value} {title : String} :
    v.text?.map String.ofList = some title ↔ IsTitle v title := by
  constructor
  · intro h
    obtain ⟨cs, hcs, rfl⟩ := Option.map_eq_some_iff.mp h
    cases v with
    | string pieces => exact .intro (by rw [String.toList_ofList]; exact hcs)
    | _ => exact nomatch hcs
  · rintro ⟨htitle⟩
    rw [text?, htitle, Option.map_some, String.ofList_toList]

/-! ### Records -/

/-- A field that is given the values `vs`: it is the default if there are none, and otherwise there
is only one value, and the field is what this is as a value of its type. -/
inductive Gives {α : Type} (default : α) (IsType : Value → α → Prop) : List Value → α → Prop
  | missing : Gives default IsType [] default
  | once {v : Value} {a : α} (h : IsType v a) : Gives default IsType [v] a

theorem gives_iff {α : Type} {default : α} {read? : Value → Option α} {IsType : Value → α → Prop}
    (hread : ∀ v a, read? v = some a ↔ IsType v a) {vs : List Value} {a : α} :
    Gives default IsType vs a ↔
      ∃ v : Option Value, vs = v.toList ∧ fieldOr default read? v = some a := by
  constructor
  · intro h
    cases h with
    | missing => exact ⟨none, rfl, rfl⟩
    | @once v _ h => exact ⟨some v, rfl, (hread v a).mpr h⟩
  · intro ⟨v, hv, h⟩
    cases v with
    | none =>
      obtain rfl := Option.some.inj h
      exact hv ▸ .missing
    | some v => exact hv ▸ .once ((hread v a).mp h)

end Value

open Value

/-- What the values under each name make of the settings. -/
structure ConfigFields (given : String → List Value) (c : Config) : Prop where
  timeout : Gives (default : Config).gestureTimeout IsWord (given "scroll_gesture_timeout")
    c.gestureTimeout
  scale : Gives (default : Config).scrollScale IsSingle (given "smooth_scroll_scale") c.scrollScale

/-- What the values under each name make of a descriptor. -/
structure DescriptorFields (given : String → List Value) (d : Descriptor) : Prop where
  size : Gives (default : Descriptor).size IsSize (given "size") d.size
  scale : Gives (default : Descriptor).scaleFactor IsSingle (given "scale_factor") d.scaleFactor
  title : Gives (default : Descriptor).title IsTitle (given "title") d.title

theorem ofJson?_config_iff {members : Members} {c : Config} :
    Config.ofJson? (.object members) = some c ↔
      HasTextKeys members ∧ ConfigFields (given members) c := by
  constructor
  · intro h
    obtain ⟨fields, hfields, h⟩ := Option.bind_eq_some_iff.mp h
    obtain ⟨hkeys, hgiven⟩ := fields?_object_eq_some_iff.mp hfields
    simp only [List.forall₂_cons_left_iff, List.forall₂_nil_left_iff] at hgiven
    obtain ⟨_, _, htimeout, ⟨_, _, hscale, rfl, rfl⟩, rfl⟩ := hgiven
    obtain ⟨timeout, hreadTimeout, h⟩ := Option.bind_eq_some_iff.mp h
    obtain ⟨scale, hreadScale, h⟩ := Option.bind_eq_some_iff.mp h
    obtain rfl := Option.some.inj h
    exact ⟨hkeys, (gives_iff fun _ _ ↦ word?_eq_some_iff).mpr ⟨_, htimeout, hreadTimeout⟩,
      (gives_iff fun _ _ ↦ single?_eq_some_iff).mpr ⟨_, hscale, hreadScale⟩⟩
  · intro ⟨hkeys, hgiven⟩
    obtain ⟨timeout, htimeout, hreadTimeout⟩ :=
      (gives_iff fun _ _ ↦ word?_eq_some_iff).mp hgiven.timeout
    obtain ⟨scale, hscale, hreadScale⟩ :=
      (gives_iff fun _ _ ↦ single?_eq_some_iff).mp hgiven.scale
    have hfields := fields?_object_eq_some_iff.mpr ⟨hkeys, .cons htimeout (.cons hscale .nil)⟩
    simp only [Config.ofJson?, bind, hfields, Option.bind_some, hreadTimeout, hreadScale]

theorem ofJson?_descriptor_iff {members : Members} {d : Descriptor} :
    Descriptor.ofJson? (.object members) = some d ↔
      HasTextKeys members ∧ DescriptorFields (given members) d := by
  constructor
  · intro h
    obtain ⟨fields, hfields, h⟩ := Option.bind_eq_some_iff.mp h
    obtain ⟨hkeys, hgiven⟩ := fields?_object_eq_some_iff.mp hfields
    simp only [List.forall₂_cons_left_iff, List.forall₂_nil_left_iff] at hgiven
    obtain ⟨_, _, hsize, ⟨_, _, hscale, ⟨_, _, htitle, rfl, rfl⟩, rfl⟩, rfl⟩ := hgiven
    obtain ⟨size, hreadSize, h⟩ := Option.bind_eq_some_iff.mp h
    obtain ⟨scale, hreadScale, h⟩ := Option.bind_eq_some_iff.mp h
    obtain ⟨title, hreadTitle, h⟩ := Option.bind_eq_some_iff.mp h
    obtain rfl := Option.some.inj h
    exact ⟨hkeys, (gives_iff fun _ _ ↦ size?_eq_some_iff).mpr ⟨_, hsize, hreadSize⟩,
      (gives_iff fun _ _ ↦ single?_eq_some_iff).mpr ⟨_, hscale, hreadScale⟩,
      (gives_iff fun _ _ ↦ title?_eq_some_iff).mpr ⟨_, htitle, hreadTitle⟩⟩
  · intro ⟨hkeys, hgiven⟩
    obtain ⟨size, hsize, hreadSize⟩ := (gives_iff fun _ _ ↦ size?_eq_some_iff).mp hgiven.size
    obtain ⟨scale, hscale, hreadScale⟩ :=
      (gives_iff fun _ _ ↦ single?_eq_some_iff).mp hgiven.scale
    obtain ⟨title, htitle, hreadTitle⟩ :=
      (gives_iff fun _ _ ↦ title?_eq_some_iff).mp hgiven.title
    have hfields := fields?_object_eq_some_iff.mpr
      ⟨hkeys, .cons hsize (.cons hscale (.cons htitle .nil))⟩
    simp only [Descriptor.ofJson?, bind, hfields, Option.bind_some, hreadSize, hreadScale,
      hreadTitle]

/-- Texts are read as records with these names by the rules of records: `Fields` says what the
values that an object gives under each name make of a record. -/
structure ReadsRecord {α : Type} (names : List String) (ofJson? : Value → Option α)
    (Fields : (String → List Value) → α → Prop) : Prop where
  /-- The order of the members, white space and members whose keys are texts that name no field do
  not matter. -/
  rearranged : ∀ {members members' : Members} {s s' : List Char},
    Rearranged names members members' → (object members).IsText s → (object members').IsText s' →
      (parse? s).bind ofJson? = (parse? s').bind ofJson?
  /-- An object is accepted if all its keys are texts, and each field is missing or given once by a
  value of its type. -/
  object_iff : ∀ {members : Members} {s : List Char} {a : α}, (object members).IsText s →
    ((parse? s).bind ofJson? = some a ↔ HasTextKeys members ∧ Fields (given members) a)
  /-- An array of the first fields is read as the object that has them. -/
  positional : ∀ {members : Members} {s s' : List Char}, Positional names members →
    (array (members.map (·.2))).IsText s → (object members).IsText s' →
      (parse? s).bind ofJson? = (parse? s').bind ofJson?
  /-- An array with more elements than there are fields is refused. -/
  too_long : ∀ {elements : List Value} {s : List Char}, names.length < elements.length →
    (array elements).IsText s → (parse? s).bind ofJson? = none

/-- What only looks at the fields follows the rules of records. -/
theorem readsRecord {α : Type} {names : List String} {ofJson? : Value → Option α}
    {Fields : (String → List Value) → α → Prop} (hnodup : names.Nodup)
    (ofFields? : List (Option Value) → Option α)
    (hof : ∀ v, ofJson? v = (v.fields? names).bind ofFields?)
    (hobject : ∀ members a, ofJson? (object members) = some a ↔
      HasTextKeys members ∧ Fields (given members) a) :
    ReadsRecord names ofJson? Fields where
  rearranged h hs hs' := by
    rw [parse?_of_isText hs, parse?_of_isText hs', Option.bind_some, Option.bind_some, hof, hof,
      h.fields?_eq]
  object_iff hs := by
    rw [parse?_of_isText hs, Option.bind_some]
    exact hobject _ _
  positional h hs hs' := by
    rw [parse?_of_isText hs, parse?_of_isText hs', Option.bind_some, Option.bind_some, hof, hof,
      h.fields?_array hnodup]
  too_long h hs := by
    rw [parse?_of_isText hs, Option.bind_some, hof, fields?, if_neg (Nat.not_le_of_lt h)]
    rfl

/-- Values are read from their texts and from no others, and the texts of settings and of
descriptors are read by the rules of records. -/
theorem records_read :
    (∀ s v, parse? s = some v ↔ v.IsText s) ∧
      ReadsRecord ["scroll_gesture_timeout", "smooth_scroll_scale"] Config.ofJson? ConfigFields ∧
      ReadsRecord ["size", "scale_factor", "title"] Descriptor.ofJson? DescriptorFields := by
  refine ⟨fun _ _ ↦ parse?_eq_some_iff, ?_, ?_⟩
  · exact readsRecord (by decide) _ (fun _ ↦ rfl) fun _ _ ↦ ofJson?_config_iff
  · exact readsRecord (by decide) _ (fun _ ↦ rfl) fun _ _ ↦ ofJson?_descriptor_iff

/-- A member whose key needs no escapes. -/
def plainMember (name : String) (v : Value) : List Piece × Value := (name.toList.map .char, v)

/-- A title alone in an object, and among members with a name that no field has; a size that is
none, given in both forms; and an array that has too many elements. -/
theorem title_read :
    let alone := "\x7b\"title\":\"a b\"\x7d".toList
    let crowded := "\x7b\"x\":null, \"title\" : \"a b\",\"x\":[] \x7d".toList
    (parse? alone).bind Descriptor.ofJson? =
      some ⟨(default : Descriptor).size, (default : Descriptor).scaleFactor, "a b"⟩ ∧
    (parse? crowded).bind Descriptor.ofJson? = (parse? alone).bind Descriptor.ofJson? ∧
    (parse? "[null]".toList).bind Descriptor.ofJson? =
      (parse? "\x7b\"size\":null\x7d".toList).bind Descriptor.ofJson? ∧
    (parse? "[null,null,null,null]".toList).bind Descriptor.ofJson? = none := by
  obtain ⟨hread, -, hdescriptor⟩ := records_read
  have htitle : (Value.object [plainMember "title" (.string ("a b".toList.map .char))]).IsText
      "\x7b\"title\":\"a b\"\x7d".toList := (hread _ _).mp (by cbv)
  have hkey (name : String) (v : Value) :
      Piece.text? (plainMember name v).1 = some name.toList := Piece.text?_map_char _
  have hunknown : ∀ name ∈ ["size", "scale_factor", "title"], "x".toList ≠ name.toList := by decide
  refine ⟨(hdescriptor.object_iff htitle).mpr ⟨?_, .missing, .missing, ?_⟩, ?_, ?_, ?_⟩
  · intro m hm
    obtain rfl := List.mem_singleton.mp hm
    exact ⟨_, hkey _ _⟩
  · exact .once (.intro (Piece.text?_map_char _))
  · refine hdescriptor.rearranged (.symm ?_) ((hread _ _).mp (by cbv)) htitle
    exact .trans (.unknown (m := plainMember "x" (.array [])) (hkey _ _) hunknown) (.trans
      (.order (.swap _ _ _)) (.unknown (m := plainMember "x" .null) (hkey _ _) hunknown))
  · have hsize : (Value.object [plainMember "size" .null]).IsText
        "\x7b\"size\":null\x7d".toList := (hread _ _).mp (by cbv)
    have harray : (Value.array [.null]).IsText "[null]".toList := (hread _ _).mp (by cbv)
    exact hdescriptor.positional (.cons (hkey _ _) .nil) harray hsize
  · have hlong : (Value.array (List.replicate 4 .null)).IsText "[null,null,null,null]".toList :=
      (hread _ _).mp (by cbv)
    exact hdescriptor.too_long (by decide) hlong

/-- An escaped surrogate that stands alone is a key in the grammar, but no text: the one member with
this key makes an object be refused that is read as the default settings without it. -/
theorem surrogate_key_refused :
    (Value.object []).IsText "\x7b\x7d".toList ∧
    (Value.object [([.unit 0xd800], .null)]).IsText "\x7b\"\\ud800\":null\x7d".toList ∧
    (parse? "\x7b\x7d".toList).bind Config.ofJson? = some default ∧
    (parse? "\x7b\"\\ud800\":null\x7d".toList).bind Config.ofJson? = none := by
  have hempty : (Value.object []).IsText "\x7b\x7d".toList := parse?_eq_some_iff.mp (by cbv)
  have hmember : (Value.object [([.unit 0xd800], .null)]).IsText
      "\x7b\"\\ud800\":null\x7d".toList := parse?_eq_some_iff.mp (by cbv)
  refine ⟨hempty, hmember, ?_, ?_⟩
  · rw [parse?_of_isText hempty, Option.bind_some, ofJson?_config_iff]
    exact ⟨fun m hm ↦ absurd hm List.not_mem_nil, .missing, .missing⟩
  · rw [parse?_of_isText hmember, Option.bind_some, Option.eq_none_iff_forall_ne_some]
    intro c hc
    obtain ⟨key, hkey⟩ := (ofJson?_config_iff.mp hc).1 _ (List.mem_singleton_self _)
    exact Option.some_ne_none key (hkey.symm.trans rfl)

end WindowRouting.Json

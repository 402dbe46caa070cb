import Mathlib.Data.List.Permutation
import Mathlib.Data.List.TakeWhile
import Mathlib.Data.String.Basic
import Mathlib.Logic.Relation
import ReferenceAudit.Manifest.Load
import ReferenceAudit.Proofs.Lists

/-!
# What a manifest declares

A document conforms to the shape of a manifest if the values of all declared members do, at every level. Each
check of the reader takes just the values that conform to a shape, and gives the same for two values that differ
in nothing the shape declares; checks that are put together keep both. Main statement: so does the reader of
manifests.
-/
namespace ReferenceAudit.Manifest

/-! ## Shapes -/

/-- What is declared of a value. The fields of a record are taken from members, each from the one under the
first of its names that is there. -/
inductive Shape
  | text
  | textOrNull
  | integer
  /-- Nothing, or a mapping whatever is in it. -/
  | detail
  | anything
  | map (values : Shape)
  | record (fields : List (List String × Shape))

namespace Shape

def targetLibrary : Shape :=
  .record [(["type"], .text), (["framework"], .textOrNull), (["dependencies"], .map .text),
    (["compile"], .map .detail),
    (["build"], .map .detail)]

def library : Shape := .record [(["type"], .text), (["path"], .textOrNull)]

def manifest : Shape :=
  .record [(["version"], .integer), (["targets"], .map (.map .targetLibrary)), (["libraries"], .map .library),
    (["packageFolders", "package_folders"], .map .anything)]

end Shape

/-- The member that a field is taken from, with its name. -/
def given? (members : List (String × Json)) (names : List String) : Option (String × Json) :=
  names.findSome? fun name => (member? members name).map (name, ·)

/-- A number in digits: none but a lone one is zero, and there are not too many. -/
structure IsNumeral (cs : List Char) : Prop where
  digits : ∀ c ∈ cs, isDigit c = true
  ne_nil : cs ≠ []
  zero : cs.head? = some '0' → cs = ['0']

/-- The values that are read as a whole number. -/
inductive IsInteger : Json → Prop
  | bool (b : Bool) : IsInteger (.bool b)
  | integer (n : Int) : IsInteger (.integer n)
  | decimal {d : Decimal} {n : Int} (h : d.whole = .whole n) (hsize : n.natAbs < 1 <<< 63) : IsInteger (.decimal d)
  | text {s : String} {cs : List Char} (h : bareNumber? s = some cs) (hnumeral : IsNumeral cs)
      (hlength : cs.length ≤ longestNumber) : IsInteger (.text s)
  | negative {s : String} {cs : List Char} (h : bareNumber? s = some ('-' :: cs)) (hnumeral : IsNumeral cs)
      (hlength : cs.length < longestNumber) : IsInteger (.text s)

/-- Values of a shape. A field that is not there conforms. -/
inductive Conforms : Shape → Json → Prop
  | text (s : String) : Conforms .text (.text s)
  | null : Conforms .textOrNull .null
  | textOrNull (s : String) : Conforms .textOrNull (.text s)
  | integer {v : Json} (h : IsInteger v) : Conforms .integer v
  | noDetail : Conforms .detail .null
  | detail (members : List (String × Json)) : Conforms .detail (.object members)
  | anything (v : Json) : Conforms .anything v
  | map {values : Shape} {members : List (String × Json)} (h : ∀ m ∈ members, Conforms values m.2) :
      Conforms (.map values) (.object members)
  | record {fields : List (List String × Shape)} {members : List (String × Json)}
      (h : ∀ f ∈ fields, ∀ m, given? members f.1 = some m → Conforms f.2 m.2) :
      Conforms (.record fields) (.object members)

/-- One change to a value that touches nothing of what a shape declares. -/
inductive Edit : Shape → Json → Json → Prop
  /-- A member comes in under a name that no field has. -/
  | insert {fields : List (List String × Shape)} (before after : List (String × Json)) {name : String} (v : Json)
      (h : ∀ f ∈ fields, name ∉ f.1) :
      Edit (.record fields) (.object (before ++ after)) (.object (before ++ (name, v) :: after))
  /-- A member changes so that no field that goes by its name is touched. -/
  | field {fields : List (List String × Shape)} (before after : List (String × Json)) {name : String} {v w : Json}
      (h : ∀ f ∈ fields, name ∈ f.1 → Edit f.2 v w) :
      Edit (.record fields) (.object (before ++ (name, v) :: after)) (.object (before ++ (name, w) :: after))
  | value {values : Shape} (before after : List (String × Json)) {key : String} {v w : Json} (h : Edit values v w) :
      Edit (.map values) (.object (before ++ (key, v) :: after)) (.object (before ++ (key, w) :: after))
  | detail (members members' : List (String × Json)) : Edit .detail (.object members) (.object members')
  | anything (v w : Json) : Edit .anything v w

/-- Values that edits, made or taken back one after the other, lead from one to the other. -/
def SameDeclared (s : Shape) : Json → Json → Prop := Relation.EqvGen (Edit s)

/-! ## Members after an edit -/

section
variable {before after : List (String × Json)} {name n : String} {v w : Json}

theorem member?_of_ne (h : n ≠ name) : member? (before ++ (name, v) :: after) n = member? (before ++ after) n := by
  simp [member?, List.lookup_append, List.lookup_cons, beq_eq_false_iff_ne.2 h]

theorem member?_edited (before after : List (String × Json)) (name : String) (v w : Json) :
    member? (before ++ (name, v) :: after) name = member? (before ++ (name, w) :: after) name ∨
      (member? (before ++ (name, v) :: after) name = some v ∧
        member? (before ++ (name, w) :: after) name = some w) := by
  cases h : before.lookup name <;> simp [member?, List.lookup_append, h]

theorem given?_cons (members : List (String × Json)) (n : String) (names : List String) :
    given? members (n :: names) = ((member? members n).map (n, ·)).or (given? members names) := by
  cases h : member? members n <;> simp [given?, h]

/-- A field taken from two lists of members: from the same member, or from one that was edited. -/
inductive GivenAlike (s : Shape) : Option (String × Json) → Option (String × Json) → Prop
  | same (given : Option (String × Json)) : GivenAlike s given given
  | edited (name : String) {v w : Json} (h : Edit s v w) : GivenAlike s (some (name, v)) (some (name, w))

/-- Two lists of members with the same fields, but for edits of these. -/
def AlikeIn (fields : List (List String × Shape)) (members members' : List (String × Json)) : Prop :=
  ∀ f ∈ fields, GivenAlike f.2 (given? members f.1) (given? members' f.1)

theorem given?_of_not_mem {names : List String} (h : name ∉ names) :
    given? (before ++ (name, v) :: after) names = given? (before ++ after) names := by
  induction names with
  | nil => rfl
  | cons n names ih =>
    rw [List.mem_cons, not_or] at h
    rw [given?_cons, given?_cons, member?_of_ne (Ne.symm h.1), ih h.2]

theorem givenAlike_of_edit {names : List String} {s : Shape} (h : name ∈ names → Edit s v w) :
    GivenAlike s (given? (before ++ (name, v) :: after) names) (given? (before ++ (name, w) :: after) names) := by
  induction names with
  | nil => exact .same none
  | cons n names ih =>
    have hothers := ih fun hm => h (List.mem_cons_of_mem _ hm)
    rw [given?_cons, given?_cons]
    by_cases hn : n = name
    · subst hn
      rcases member?_edited before after n v w with hsame | ⟨hv, hw⟩
      · rw [hsame]
        cases member? (before ++ (n, w) :: after) n with
        | none => exact hothers
        | some u => exact .same _
      · rw [hv, hw]
        exact .edited n (h List.mem_cons_self)
    · rw [member?_of_ne hn, member?_of_ne hn]
      cases member? (before ++ after) n with
      | none => exact hothers
      | some u => exact .same _

theorem exists_alikeIn_of_edit {fields : List (List String × Shape)} {v w : Json} (h : Edit (.record fields) v w) :
    ∃ members members', v = .object members ∧ w = .object members' ∧ AlikeIn fields members members' := by
  cases h with
  | insert _ _ v hnot =>
    refine ⟨_, _, rfl, rfl, fun f hf => ?_⟩
    rw [given?_of_not_mem (hnot f hf)]
    exact .same _
  | field _ _ h => exact ⟨_, _, rfl, rfl, fun f hf => givenAlike_of_edit (h f hf)⟩

end

/-! ## Checks put together -/

namespace Checked
variable {α β γ : Type}

theorem exists_map_iff {f : α → β} {a : Checked α} : (∃ y, a.map f = .ok y) ↔ ∃ x, a = .ok x := by
  cases a <;> simp [Except.map]

theorem exists_both_iff {a : Checked α} {b : Checked β} :
    (∃ p, both a b = .ok p) ↔ (∃ x, a = .ok x) ∧ ∃ y, b = .ok y := by
  cases a <;> cases b <;> simp [both]

theorem exists_each_iff {check : α → Checked β} {as : List α} :
    (∃ bs, each check as = .ok bs) ↔ ∀ a ∈ as, ∃ b, check a = .ok b := by
  induction as with
  | nil => simp [each]
  | cons a as ih => rw [each, exists_map_iff, exists_both_iff, ih, List.forall_mem_cons]

theorem each_append_cons_congr {check : α → Checked β} {a a' : α} (h : check a = check a') (before after : List α) :
    each check (before ++ a :: after) = each check (before ++ a' :: after) := by
  induction before with
  | nil => rw [List.nil_append, List.nil_append, each, each, h]
  | cons b before ih => rw [List.cons_append, List.cons_append, each, each, ih]

end Checked

open Checked
variable {α β : Type}

/-- A check takes just the values of a shape, and does not tell values from each
other that an edit leads between. -/
structure Checks (check : List String → Json → Checked α) (s : Shape) : Prop where
  ok_iff : ∀ location v, (∃ a, check location v = .ok a) ↔ Conforms s v
  edit : ∀ {v w}, Edit s v w → ∀ location, check location v = check location w

/-- The same of what is read from the members of a record. -/
structure ReadsFields (read : List (String × Json) → List String → Checked α)
    (fields : List (List String × Shape)) :
    Prop where
  ok_iff : ∀ members location, (∃ a, read members location = .ok a) ↔
    ∀ f ∈ fields, ∀ m, given? members f.1 = some m → Conforms f.2 m.2
  alike : ∀ {members members'}, AlikeIn fields members members' → ∀ location,
    read members location = read members' location

theorem Checks.map {check : List String → Json → Checked α} {s : Shape} (h : Checks check s) (f : α → β) :
    Checks (fun location v => (check location v).map f) s := by
  refine ⟨fun location v => exists_map_iff.trans (h.ok_iff location v), fun hedit location => ?_⟩
  rw [h.edit hedit location]

theorem ReadsFields.map {read : List (String × Json) → List String → Checked α}
    {fields : List (List String × Shape)} (h : ReadsFields read fields) (f : α → β) :
    ReadsFields (fun members location => (read members location).map f) fields := by
  refine ⟨fun members location => exists_map_iff.trans (h.ok_iff members location), fun halike location => ?_⟩
  rw [h.alike halike location]

theorem ReadsFields.both {read : List (String × Json) → List String → Checked α}
    {read' : List (String × Json) → List String → Checked β} {fields fields' : List (List String × Shape)}
    (h : ReadsFields read fields) (h' : ReadsFields read' fields') :
    ReadsFields (fun members location => Checked.both (read members location) (read' members location))
      (fields ++ fields') := by
  constructor
  · intro members location
    rw [exists_both_iff, h.ok_iff, h'.ok_iff, List.forall_mem_append]
  · intro members members' halike location
    have hfirst : AlikeIn fields members members' := fun f hf => halike f (List.mem_append_left _ hf)
    have hsecond : AlikeIn fields' members members' := fun f hf => halike f (List.mem_append_right _ hf)
    rw [h.alike hfirst location, h'.alike hsecond location]

/-- A field as it was given, or its default. -/
def checkGiven (check : List String → Json → Checked α) (default : α) (location : List String) :
    Option (String × Json) → Checked α
  | none => .ok default
  | some m => check (location ++ [m.1]) m.2

theorem Checks.readsFields {check : List String → Json → Checked α} {s : Shape} (h : Checks check s)
    (names : List String) (default : α) :
    ReadsFields (fun members location => checkGiven check default location (given? members names))
      [(names, s)] := by
  constructor
  · intro members location
    rw [List.forall_mem_singleton]
    cases given? members names with
    | none => simp [checkGiven]
    | some m => simpa [checkGiven] using h.ok_iff (location ++ [m.1]) m.2
  · intro members members' halike location
    have hfield := halike _ (List.mem_singleton_self _)
    dsimp only at hfield ⊢
    generalize given? members names = given, given? members' names = given' at hfield
    cases hfield with
    | same => rfl
    | edited name hedit => exact h.edit hedit _

theorem field_eq_checkGiven (check : List String → Json → Checked α) (name : String) (default : α)
    (members : List (String × Json)) (location : List String) :
    field members location name default check = checkGiven check default location (given? members [name]) := by
  rw [field, given?_cons]
  cases member? members name <;> rfl

theorem Checks.field {check : List String → Json → Checked α} {s : Shape} (h : Checks check s) (name : String)
    (default : α) :
    ReadsFields (fun members location => field members location name default check) [([name], s)] := by
  simpa only [field_eq_checkGiven] using h.readsFields [name] default

theorem ReadsFields.atRoot {read : List (String × Json) → List String → Checked α}
    {fields : List (List String × Shape)} (h : ReadsFields read fields) :
    ReadsFields (fun members _ => read members []) fields :=
  ⟨fun members _ => h.ok_iff members [], fun halike _ => h.alike halike []⟩

/-- A record is checked by reading its fields. -/
theorem ReadsFields.record {read : List (String × Json) → List String → Checked α}
    {check : List String → Json → Checked α} {fields : List (List String × Shape)} (h : ReadsFields read fields)
    (hobject : ∀ location members, check location (.object members) = read members location)
    (hother : ∀ location v, (∀ members, v ≠ .object members) → ∃ place, check location v = fail place .record) :
    Checks check (.record fields) := by
  constructor
  · intro location v
    by_cases hv : ∃ members, v = .object members
    · obtain ⟨members, rfl⟩ := hv
      rw [hobject, h.ok_iff]
      exact ⟨.record, fun hc => by cases hc; assumption⟩
    · have hnot : ∀ members, v ≠ .object members := fun members he => hv ⟨members, he⟩
      obtain ⟨place, hfail⟩ := hother location v hnot
      rw [hfail]
      constructor
      · rintro ⟨a, ha⟩
        cases ha
      · intro hc
        cases hc
        exact absurd rfl (hnot _)
  · intro v w hedit location
    obtain ⟨members, members', rfl, rfl, halike⟩ := exists_alikeIn_of_edit hedit
    rw [hobject, hobject, h.alike halike location]

theorem Checks.mapping {check : List String → Json → Checked α} {s : Shape} (h : Checks check s) :
    Checks (mapping check) (.map s) := by
  constructor
  · intro location v
    cases v with
    | object members =>
      rw [Manifest.mapping, exists_map_iff, exists_each_iff]
      simp only [exists_map_iff, h.ok_iff]
      exact ⟨.map, fun hc => by cases hc; assumption⟩
    | _ =>
      refine ⟨fun hok => ?_, fun hc => by cases hc⟩
      obtain ⟨a, ha⟩ := hok
      cases ha
  · intro v w hedit location
    cases hedit with
    | @value _ before after key v w hedit =>
      rw [Manifest.mapping, Manifest.mapping]
      refine congrArg _ (each_append_cons_congr ?_ before after)
      rw [h.edit hedit]

/-! ## The checks of a manifest -/

theorem checks_text : Checks text .text := by
  refine ⟨fun location v => ⟨?_, fun hc => ?_⟩, fun hedit => by cases hedit⟩
  · rintro ⟨a, ha⟩
    cases v with
    | text s => exact .text s
    | _ => cases ha
  · cases hc with
    | text s => exact ⟨s, rfl⟩

theorem checks_textOrNull : Checks textOrNull .textOrNull := by
  refine ⟨fun location v => ⟨?_, fun hc => ?_⟩, fun hedit => by cases hedit⟩
  · rintro ⟨a, ha⟩
    cases v with
    | null => exact .null
    | text s => exact .textOrNull s
    | _ => cases ha
  · cases hc with
    | null => exact ⟨none, rfl⟩
    | textOrNull s => exact ⟨some s, rfl⟩

theorem checks_assetDetail : Checks assetDetail .detail := by
  refine ⟨fun location v => ⟨?_, fun hc => ?_⟩, fun hedit location => ?_⟩
  · rintro ⟨a, ha⟩
    cases v with
    | null => exact .noDetail
    | object members => exact .detail members
    | _ => cases ha
  · cases hc <;> exact ⟨(), rfl⟩
  · cases hedit
    rfl

theorem checks_anything : Checks (fun _ _ => .ok ()) .anything :=
  ⟨fun _ v => ⟨fun _ => .anything v, fun _ => ⟨(), rfl⟩⟩, fun _ _ => rfl⟩

/-- The digits that a number starts with; no others are read behind a zero. -/
def leadingDigits : List Char → List Char
  | '0' :: _ => ['0']
  | ds => ds.takeWhile isDigit

theorem leadingDigits_of_head? {ds : List Char} (h : ds.head? ≠ some '0') :
    leadingDigits ds = ds.takeWhile isDigit := by
  rw [leadingDigits]
  rintro rest rfl
  exact h rfl

theorem isNumeral_iff {ds : List Char} : IsNumeral ds ↔ leadingDigits ds = ds ∧ ds ≠ [] := by
  by_cases hzero : ds.head? = some '0'
  · obtain ⟨rest, rfl⟩ := List.head?_eq_some_iff.1 hzero
    constructor
    · intro h
      exact ⟨(h.zero hzero).symm, h.ne_nil⟩
    · rintro ⟨hrest, -⟩
      have hone : '0' :: rest = ['0'] := hrest.symm
      rw [hone]
      exact ⟨fun c hc => List.mem_singleton.1 hc ▸ rfl, by simp, fun _ => rfl⟩
  · rw [leadingDigits_of_head? hzero, List.takeWhile_eq_self_iff]
    exact ⟨fun h => ⟨h.digits, h.ne_nil⟩, fun h => ⟨h.1, h.2, fun hfirst => absurd hfirst hzero⟩⟩

theorem leadingDigits_isPrefix (ds : List Char) : leadingDigits ds <+: ds := by
  by_cases hzero : ds.head? = some '0'
  · obtain ⟨rest, rfl⟩ := List.head?_eq_some_iff.1 hzero
    exact List.prefix_append ['0'] rest
  · rw [leadingDigits_of_head? hzero]
    exact List.takeWhile_prefix isDigit

theorem exists_read_iff (sign : Nat) (ds : List Char) (n : Int) :
    (∃ m, (if longestNumber < sign + (leadingDigits ds).length then .error .integerSize
      else if leadingDigits ds = [] ∨ (leadingDigits ds).length < ds.length then .error .integerText
      else .ok n : Except Issue.Rule Int) = .ok m) ↔ IsNumeral ds ∧ sign + ds.length ≤ longestNumber := by
  rw [isNumeral_iff]
  constructor
  · rintro ⟨m, hm⟩
    split at hm
    · cases hm
    · rename_i hsize
      split at hm
      · cases hm
      · rename_i hread
        push Not at hread
        have hall : leadingDigits ds = ds := (leadingDigits_isPrefix ds).eq_of_length_le hread.2
        rw [hall] at hread hsize
        exact ⟨⟨hall, hread.1⟩, Nat.le_of_not_lt hsize⟩
  · rintro ⟨⟨hall, hne⟩, hsize⟩
    rw [hall, if_neg (Nat.not_lt.2 hsize), if_neg (by simp [hne])]
    exact ⟨n, rfl⟩

theorem exists_digits_negative_iff {ds : List Char} :
    (∃ n, digits ('-' :: ds) = .ok n) ↔ IsNumeral ds ∧ ds.length < longestNumber := by
  refine (exists_read_iff 1 ds _).trans ?_
  rw [Nat.add_comm, Nat.succ_le_iff]

theorem exists_digits_iff {ds : List Char} (hsign : ds.head? ≠ some '-') :
    (∃ n, digits ds = .ok n) ↔ IsNumeral ds ∧ ds.length ≤ longestNumber := by
  have hminus : ∀ rest, ds = '-' :: rest → False := by
    rintro rest rfl
    exact hsign rfl
  by_cases hzero : ds.head? = some '0'
  · obtain ⟨rest, rfl⟩ := List.head?_eq_some_iff.1 hzero
    refine (exists_read_iff 0 ('0' :: rest) _).trans ?_
    rw [Nat.zero_add]
  · have hone : ∀ rest, ds = '0' :: rest → False := by
      rintro rest rfl
      exact hzero rfl
    rw [digits.eq_4 ds hminus hone, ← leadingDigits_of_head? hzero]
    refine (exists_read_iff 0 ds _).trans ?_
    rw [Nat.zero_add]

theorem isInteger_negative_iff {s : String} {ds : List Char} (hbare : bareNumber? s = some ('-' :: ds)) :
    IsInteger (.text s) ↔ IsNumeral ds ∧ ds.length < longestNumber := by
  constructor
  · intro h
    cases h with
    | text h hnumeral =>
      obtain rfl := Option.some.inj (hbare.symm.trans h)
      exact absurd (hnumeral.digits '-' List.mem_cons_self) (by decide)
    | negative h hnumeral hlength =>
      obtain rfl := (List.cons.inj (Option.some.inj (hbare.symm.trans h))).2
      exact ⟨hnumeral, hlength⟩
  · exact fun h => .negative hbare h.1 h.2

theorem isInteger_unsigned_iff {s : String} {ds : List Char} (hbare : bareNumber? s = some ds)
    (hsign : ds.head? ≠ some '-') : IsInteger (.text s) ↔ IsNumeral ds ∧ ds.length ≤ longestNumber := by
  constructor
  · intro h
    cases h with
    | text h hnumeral hlength =>
      obtain rfl := Option.some.inj (hbare.symm.trans h)
      exact ⟨hnumeral, hlength⟩
    | negative h =>
      obtain rfl := Option.some.inj (hbare.symm.trans h)
      exact absurd rfl hsign
  · exact fun h => .text hbare h.1 h.2

theorem exists_integerText_iff {s : String} : (∃ n, integerText s = .ok n) ↔ IsInteger (.text s) := by
  rw [integerText]
  cases hbare : bareNumber? s with
  | none =>
    constructor
    · rintro ⟨n, hn⟩
      cases hn
    · intro h
      cases h with
      | text h => rw [hbare] at h; cases h
      | negative h => rw [hbare] at h; cases h
  | some cs =>
    dsimp only
    by_cases hsign : cs.head? = some '-'
    · obtain ⟨ds, rfl⟩ := List.head?_eq_some_iff.1 hsign
      rw [exists_digits_negative_iff, isInteger_negative_iff hbare]
    · rw [exists_digits_iff hsign, isInteger_unsigned_iff hbare hsign]

theorem checks_integer : Checks integer .integer := by
  refine ⟨fun location v => ?_, fun hedit => by cases hedit⟩
  have hshape : Conforms .integer v ↔ IsInteger v := ⟨fun hc => by cases hc; assumption, .integer⟩
  rw [hshape]
  cases v with
  | bool b => exact ⟨fun _ => .bool b, fun _ => ⟨_, rfl⟩⟩
  | integer n => exact ⟨fun _ => .integer n, fun _ => ⟨n, rfl⟩⟩
  | decimal d =>
    rw [integer]
    constructor
    · rintro ⟨n, hn⟩
      split at hn
      · rename_i m hwhole
        split at hn
        · rename_i hsmall
          exact .decimal hwhole hsmall
        · cases hn
      · cases hn
      · cases hn
    · intro h
      cases h with
      | decimal hwhole hsmall =>
        rw [hwhole]
        exact ⟨_, if_pos hsmall⟩
  | text s =>
    rw [← exists_integerText_iff, integer]
    cases integerText s with
    | ok n => exact ⟨fun _ => ⟨n, rfl⟩, fun _ => ⟨n, rfl⟩⟩
    | error rule => exact ⟨fun h => (by cases h.choose_spec), fun h => (by cases h.choose_spec)⟩
  | _ => exact ⟨fun h => (by cases h.choose_spec), fun h => by cases h⟩

theorem checks_assets : Checks assets (.map .detail) := checks_assetDetail.mapping.map _

theorem checks_library : Checks library .library := by
  have hfields := ((checks_text.field "type" "package").both (checks_textOrNull.field "path" none)).map
    fun p => (⟨p.1, p.2⟩ : Library)
  refine hfields.record (fun _ _ => rfl) fun location v hv => ⟨location, ?_⟩
  cases v with
  | object members => exact absurd rfl (hv members)
  | _ => rfl

theorem checks_targetLibrary : Checks targetLibrary .targetLibrary := by
  have hfields := ((checks_text.field "type" "package").both <| (checks_textOrNull.field "framework" none).both <|
    (checks_text.mapping.field "dependencies" OrderedMap.empty).both <| (checks_assets.field "compile" []).both <|
    checks_assets.field "build" []).map
      fun p => (⟨p.1, p.2.1, p.2.2.1, p.2.2.2.1, p.2.2.2.2⟩ : TargetLibrary)
  refine hfields.record (fun _ _ => rfl) fun location v hv => ⟨location, ?_⟩
  cases v with
  | object members => exact absurd rfl (hv members)
  | _ => rfl

theorem readsFields_folderNames : ReadsFields (fun members _ => folderNames members)
    [(["packageFolders", "package_folders"], .map .anything)] := by
  have hfield := ((checks_anything.mapping.readsFields ["packageFolders", "package_folders"] OrderedMap.empty).map
    OrderedMap.keys).atRoot
  have hsame (members : List (String × Json)) : folderNames members =
      (checkGiven (mapping fun _ _ => .ok ()) OrderedMap.empty []
        (given? members ["packageFolders", "package_folders"])).map
        OrderedMap.keys := by
    rw [folderNames, given?_cons]
    cases hfirst : member? members "packageFolders" with
    | some v => simp [field, hfirst, checkGiven]
    | none => simp [field_eq_checkGiven]
  simpa only [hsame] using hfield

theorem checks_ofJson : Checks (fun _ => ofJson) .manifest := by
  have hfields := (((checks_integer.field "version" 3).both <|
    (checks_targetLibrary.mapping.mapping.field "targets" OrderedMap.empty).both <|
    (checks_library.mapping.field "libraries" OrderedMap.empty).both readsFields_folderNames).map
      fun p => (⟨p.1, p.2.1, p.2.2.1, p.2.2.2⟩ : Manifest)).atRoot
  refine hfields.record (fun _ _ => rfl) fun location v hv => ⟨[], ?_⟩
  cases v with
  | object members => exact absurd rfl (hv members)
  | _ => rfl

theorem ofJson_eq_of_sameDeclared {doc doc' : Json} (h : SameDeclared .manifest doc doc') :
    ofJson doc = ofJson doc' := by
  induction h with
  | rel doc doc' hedit => exact checks_ofJson.edit hedit []
  | refl doc => rfl
  | symm doc doc' _ ih => exact ih.symm
  | trans doc doc' doc'' _ _ ih ih' => exact ih.trans ih'

theorem parse_of_document {text : String} {doc : Json} (h : Json.parse text = .ok doc) :
    parse text = (ofJson doc).mapError .manifestShape := by
  simp only [parse, h]
  cases ofJson doc <;> rfl

def plainText : String :=
  "\x7b\"version\": [], \"targets\": \x7b\"t\": \x7b\"a/1\": \x7b\"type\": 0, " ++
    "\"compile\": \x7b\"x.dll\": \x7b\x7d\x7d\x7d\x7d\x7d\x7d"

def ladenText : String :=
  "\x7b\"project\": 1, \"version\": [], \"targets\": \x7b\"t\": \x7b\"a/1\": \x7b\"type\": 0, " ++
    "\"compile\": \x7b\"x.dll\": \x7b\"related\": \".xml\"\x7d\x7d, \"sha\": null\x7d\x7d\x7d\x7d"

/-- A document with one entry, whose members these are. -/
def entryDocument (members : List (String × Json)) : List (String × Json) :=
  [("version", .list []), ("targets", .object [("t", .object [("a/1", .object members)])])]

def entryMembers (detail : List (String × Json)) : List (String × Json) :=
  [("type", .integer 0), ("compile", .object [("x.dll", .object detail)])]

theorem edit_entryDocument {members members' : List (String × Json)}
    (h : Edit .targetLibrary (.object members) (.object members')) :
    Edit .manifest (.object (entryDocument members)) (.object (entryDocument members')) := by
  refine .field [("version", .list [])] [] fun f hf hname => ?_
  obtain rfl | rfl | rfl | rfl : f = _ ∨ f = _ ∨ f = _ ∨ f = _ := by simpa [Shape.manifest] using hf
  · simp at hname
  · exact .value [] [] (.value [] [] h)
  · simp at hname
  · simp at hname

theorem sameDeclared_laden : SameDeclared .manifest (.object (entryDocument (entryMembers [])))
    (.object (("project", .integer 1) ::
      entryDocument (entryMembers [("related", .text ".xml")] ++ [("sha", .null)]))) := by
  have hdetail : Edit .targetLibrary (.object (entryMembers []))
      (.object (entryMembers [("related", .text ".xml")])) := by
    refine .field [("type", .integer 0)] [] fun f hf hname => ?_
    obtain rfl | rfl | rfl | rfl | rfl : f = _ ∨ f = _ ∨ f = _ ∨ f = _ ∨ f = _ := by
      simpa [Shape.targetLibrary] using hf
    · simp at hname
    · simp at hname
    · simp at hname
    · exact .value [] [] (.detail [] _)
    · simp at hname
  have hsha : Edit .targetLibrary (.object (entryMembers [("related", .text ".xml")]))
      (.object (entryMembers [("related", .text ".xml")] ++ [("sha", .null)])) :=
    .insert (entryMembers [("related", .text ".xml")]) [] .null (by simp)
  have hproject (members : List (String × Json)) :
      Edit .manifest (.object (entryDocument members))
        (.object (("project", .integer 1) :: entryDocument members)) :=
    .insert [] (entryDocument members) (.integer 1) (by simp)
  exact .trans _ _ _ (.rel _ _ (edit_entryDocument hdetail))
    (.trans _ _ _ (.rel _ _ (edit_entryDocument hsha)) (.rel _ _ (hproject _)))

end ReferenceAudit.Manifest

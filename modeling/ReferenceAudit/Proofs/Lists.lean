import Mathlib.Data.List.Forall2
import Mathlib.Data.List.Induction
import Mathlib.Data.List.Perm.Basic
import ReferenceAudit.OrderedMap
import ReferenceAudit.Text.Order

/-! # Lists without their repetitions, sorted sets of texts, lists worked through in step, and maps made of lists -/
namespace ReferenceAudit

theorem bind_eq_ok {ε α β : Type} {x : Except ε α} {f : α → Except ε β} {b : β} :
    x >>= f = .ok b ↔ ∃ a, x = .ok a ∧ f a = .ok b := by
  cases x <;> simp [bind, Except.bind]

theorem bind_eq_error {ε α β : Type} {x : Except ε α} {f : α → Except ε β} {e : ε} :
    x >>= f = .error e ↔ x = .error e ∨ ∃ a, x = .ok a ∧ f a = .error e := by
  cases x <;> simp [bind, Except.bind]

theorem map_eq_ok {ε α β : Type} {x : Except ε α} {f : α → β} {b : β} :
    x.map f = .ok b ↔ ∃ a, x = .ok a ∧ f a = b := by
  cases x <;> simp [Except.map]

theorem map_eq_error {ε α β : Type} {x : Except ε α} {f : α → β} {e : ε} : x.map f = .error e ↔ x = .error e := by
  cases x <;> simp [Except.map]

namespace Lists

section
variable {α : Type} [BEq α] [LawfulBEq α]

theorem eraseDups_concat_of_mem {xs : List α} {x : α} (h : x ∈ xs) : (xs ++ [x]).eraseDups = xs.eraseDups := by
  have hr : [x].removeAll xs = [] := by simp [List.removeAll, h]
  rw [List.eraseDups_append, hr, List.eraseDups_nil, List.append_nil]

theorem eraseDups_concat_of_not_mem {xs : List α} {x : α} (h : x ∉ xs) :
    (xs ++ [x]).eraseDups = xs.eraseDups ++ [x] := by
  have hr : [x].removeAll xs = [x] := by simp [List.removeAll, h]
  rw [List.eraseDups_append, hr, List.eraseDups_cons]
  simp

theorem nodup_eraseDups (xs : List α) : xs.eraseDups.Nodup := by
  induction xs using List.reverseRecOn with
  | nil => simp
  | append_singleton xs x ih =>
    by_cases hx : x ∈ xs
    · rwa [eraseDups_concat_of_mem hx]
    · rw [eraseDups_concat_of_not_mem hx, List.nodup_append]
      refine ⟨ih, by simp, ?_⟩
      rintro a ha b hb rfl
      rw [List.mem_singleton] at hb
      exact hx (hb ▸ List.mem_eraseDups.1 ha)

end

theorem lookup_filter {α β : Type} [BEq α] [LawfulBEq α] {p : α → Bool} {k : α} (hk : p k = true)
    (es : List (α × β)) :
    (es.filter fun e => p e.1).lookup k = es.lookup k := by
  induction es with
  | nil => rfl
  | cons e es ih =>
    by_cases he : p e.1 = true
    · rw [List.filter_cons_of_pos (by simpa using he), List.lookup_cons, List.lookup_cons, ih]
    · have hne : (k == e.1) = false := beq_eq_false_iff_ne.2 fun h => he (h ▸ hk)
      rw [List.filter_cons_of_neg (by simpa using he), List.lookup_cons, hne, ih]

theorem eq_nil_congr {α : Type} {xs ys : List α} (h : ∀ x, x ∈ xs ↔ x ∈ ys) : xs = [] ↔ ys = [] := by
  rw [List.eq_nil_iff_forall_not_mem, List.eq_nil_iff_forall_not_mem]
  exact forall_congr' fun x => not_congr (h x)

theorem flatMap_intercalate {α β : Type} {f : α → List β} {sep : α} {sep' : β} (h : f sep = [sep'])
    (ls : List (List α)) :
    ([sep].intercalate ls).flatMap f = [sep'].intercalate (ls.map (·.flatMap f)) := by
  induction ls with
  | nil => rfl
  | cons l ls ih =>
    by_cases hlast : ls = []
    · simp [hlast]
    · have hlast' : ls.map (·.flatMap f) ≠ [] := by simpa using hlast
      rw [List.map_cons, List.intercalate_cons_of_ne_nil hlast, List.intercalate_cons_of_ne_nil hlast',
        List.flatMap_append, List.flatMap_append, ih, List.flatMap_singleton, h]

theorem mem_intercalate_iff {α : Type} {sep x : α} (hne : x ≠ sep) {ls : List (List α)} :
    x ∈ [sep].intercalate ls ↔ ∃ l ∈ ls, x ∈ l := by
  induction ls with
  | nil => simp
  | cons l ls ih =>
    by_cases hlast : ls = []
    · simp [hlast]
    · simp [List.intercalate_cons_of_ne_nil hlast, ih, hne]

/-- A member with a property, before which no member has it. -/
def IsFirst {α : Type} (P : α → Prop) (xs : List α) (x : α) : Prop :=
  ∃ before after, xs = before ++ x :: after ∧ P x ∧ ∀ y ∈ before, ¬P y

/-- A member with a property, behind which no member has it. -/
def IsLast {α : Type} (P : α → Prop) (xs : List α) (x : α) : Prop :=
  ∃ before after, xs = before ++ x :: after ∧ P x ∧ ∀ y ∈ after, ¬P y

theorem isFirst_cons_iff {α : Type} {P : α → Prop} {xs : List α} {x z : α} :
    IsFirst P (x :: xs) z ↔ (P x ∧ z = x) ∨ (¬P x ∧ IsFirst P xs z) := by
  constructor
  · rintro ⟨before, after, he, hz, hnone⟩
    cases before with
    | nil =>
      cases he
      exact Or.inl ⟨hz, rfl⟩
    | cons y before =>
      cases he
      obtain ⟨hx, hnone⟩ := List.forall_mem_cons.1 hnone
      exact Or.inr ⟨hx, before, after, rfl, hz, hnone⟩
  · rintro (⟨hx, rfl⟩ | ⟨hx, before, after, rfl, hz, hnone⟩)
    · exact ⟨[], xs, rfl, hx, by simp⟩
    · exact ⟨x :: before, after, rfl, hz, List.forall_mem_cons.2 ⟨hx, hnone⟩⟩

theorem isLast_cons_iff {α : Type} {P : α → Prop} {xs : List α} {x z : α} :
    IsLast P (x :: xs) z ↔ IsLast P xs z ∨ (z = x ∧ P x ∧ ∀ y ∈ xs, ¬P y) := by
  constructor
  · rintro ⟨before, after, he, hz, hnone⟩
    cases before with
    | nil =>
      cases he
      exact Or.inr ⟨rfl, hz, hnone⟩
    | cons y before =>
      cases he
      exact Or.inl ⟨before, after, rfl, hz, hnone⟩
  · rintro (⟨before, after, rfl, hz, hnone⟩ | ⟨rfl, hz, hnone⟩)
    · exact ⟨x :: before, after, rfl, hz, hnone⟩
    · exact ⟨[], xs, rfl, hz, hnone⟩

theorem isLast_concat_iff {α : Type} {P : α → Prop} {xs : List α} {x z : α} :
    IsLast P (xs ++ [x]) z ↔ (P x ∧ z = x) ∨ (¬P x ∧ IsLast P xs z) := by
  constructor
  · rintro ⟨before, after, he, hz, hnone⟩
    rcases List.eq_nil_or_concat after with rfl | ⟨after, y, rfl⟩
    · obtain ⟨-, hx⟩ := List.append_inj' he rfl
      cases hx
      exact Or.inl ⟨hz, rfl⟩
    · have hsplit : xs ++ [x] = (before ++ z :: after) ++ [y] := by simpa using he
      obtain ⟨rfl, hx⟩ := List.append_inj' hsplit rfl
      cases hx
      exact Or.inr ⟨hnone _ (by simp), before, after, rfl, hz, fun y hy => hnone y (by simp [hy])⟩
  · rintro (⟨hx, rfl⟩ | ⟨hx, before, after, rfl, hz, hnone⟩)
    · exact ⟨xs, [], rfl, hx, nofun⟩
    · exact ⟨before, after ++ [x], by simp, hz, List.forall_mem_append.2 ⟨hnone, List.forall_mem_singleton.2 hx⟩⟩

theorem IsLast.mem {α : Type} {P : α → Prop} {xs : List α} {x : α} (h : IsLast P xs x) : x ∈ xs := by
  obtain ⟨before, after, rfl, -, -⟩ := h
  exact List.mem_append_right _ List.mem_cons_self

theorem IsLast.of {α : Type} {P : α → Prop} {xs : List α} {x : α} (h : IsLast P xs x) : P x := by
  obtain ⟨before, after, -, hx, -⟩ := h
  exact hx

theorem IsLast.eq {α : Type} {P : α → Prop} {xs : List α} {x y : α} (hx : IsLast P xs x) (hy : IsLast P xs y) :
    x = y := by
  induction xs using List.reverseRecOn with
  | nil =>
    cases hx.mem
  | append_singleton xs z ih =>
    rw [isLast_concat_iff] at hx hy
    rcases hx with ⟨hz, rfl⟩ | ⟨hz, hx⟩ <;> rcases hy with ⟨hz', rfl⟩ | ⟨hz', hy⟩
    · rfl
    · exact absurd hz hz'
    · exact absurd hz' hz
    · exact ih hx hy

theorem isLast_forall₂_iff {α β : Type} {R : α → β → Prop} {P : α → Prop} {Q : β → Prop} {xs : List α} {ys : List β}
    (h : List.Forall₂ R xs ys) (hPQ : ∀ x y, R x y → (P x ↔ Q y)) (hR : ∀ x y y', R x y → R x y' → y = y') {y : β} :
    IsLast Q ys y ↔ ∃ x, IsLast P xs x ∧ R x y := by
  induction h with
  | nil => simp [IsLast]
  | @cons x z xs ys hxz hrest ih =>
    have hnone : (∀ y ∈ ys, ¬Q y) ↔ ∀ x ∈ xs, ¬P x := by
      clear ih
      induction hrest with
      | nil => simp
      | cons hxy _ ih => rw [List.forall_mem_cons, List.forall_mem_cons, ih, hPQ _ _ hxy]
    rw [isLast_cons_iff, ih, hnone, ← hPQ _ _ hxz]
    simp only [isLast_cons_iff]
    constructor
    · rintro (⟨x', hlast, hx'⟩ | ⟨rfl, hx, hno⟩)
      · exact ⟨x', Or.inl hlast, hx'⟩
      · exact ⟨x, Or.inr ⟨rfl, hx, hno⟩, hxz⟩
    · rintro ⟨x', hlast | ⟨rfl, hx, hno⟩, hx'⟩
      · exact Or.inl ⟨x', hlast, hx'⟩
      · exact Or.inr ⟨hR _ _ _ hx' hxz, hx, hno⟩

theorem isLast_map_iff {α β : Type} {f : α → β} {P : β → Prop} {xs : List α} {y : β} :
    IsLast P (xs.map f) y ↔ ∃ x, IsLast (fun x => P (f x)) xs x ∧ f x = y := by
  have hall : List.Forall₂ (fun x y => f x = y) xs (xs.map f) :=
    List.forall₂_map_right_iff.2 (List.forall₂_same.2 fun _ _ => rfl)
  refine isLast_forall₂_iff hall ?_ fun x y y' h h' => h.symm.trans h'
  rintro x y rfl
  rfl

theorem isLast_iff_of_nodup_map {α β : Type} {key : α → β} {xs : List α} (hn : (xs.map key).Nodup) {k : β} {x : α} :
    IsLast (fun x => key x = k) xs x ↔ x ∈ xs ∧ key x = k := by
  constructor
  · rintro ⟨before, after, rfl, hx, -⟩
    exact ⟨by simp, hx⟩
  · rintro ⟨hx, rfl⟩
    obtain ⟨before, after, rfl⟩ := List.append_of_mem hx
    rw [List.map_append, List.map_cons, List.nodup_append] at hn
    have hlater : key x ∉ after.map key := (List.nodup_cons.1 hn.2.1).1
    exact ⟨before, after, rfl, rfl, fun y hy hkey => hlater (hkey ▸ List.mem_map_of_mem hy)⟩

theorem find?_eq_some_iff_isFirst {α : Type} {p : α → Bool} {xs : List α} {x : α} :
    xs.find? p = some x ↔ IsFirst (fun y => p y = true) xs x := by
  rw [List.find?_eq_some_iff_append]
  constructor
  · rintro ⟨hx, before, after, rfl, hnone⟩
    exact ⟨before, after, rfl, hx, fun y hy => by simpa using hnone y hy⟩
  · rintro ⟨before, after, rfl, hx, hnone⟩
    exact ⟨hx, before, after, rfl, fun y hy => by simpa using hnone y hy⟩

theorem forall₂_filterMap {α β γ : Type} {R : β → γ → Prop} {f : α → Option β} {g : α → Option γ} {xs : List α}
    (h : ∀ x ∈ xs, Option.Rel R (f x) (g x)) : List.Forall₂ R (xs.filterMap f) (xs.filterMap g) := by
  induction xs with
  | nil => exact .nil
  | cons x xs ih =>
    have hrest := ih fun y hy => h y (List.mem_cons_of_mem _ hy)
    have hx := h x List.mem_cons_self
    rw [List.filterMap_cons, List.filterMap_cons]
    generalize f x = a at hx ⊢
    generalize g x = b at hx ⊢
    cases hx with
    | none => exact hrest
    | some hab => exact .cons hab hrest

theorem map_eq_of_forall₂ {α β γ : Type} {R : α → β → Prop} {f : α → γ} {g : β → γ} {xs : List α} {ys : List β}
    (h : List.Forall₂ R xs ys) (hfg : ∀ x y, R x y → f x = g y) : xs.map f = ys.map g := by
  induction h with
  | nil => rfl
  | cons hxy _ ih => rw [List.map_cons, List.map_cons, hfg _ _ hxy, ih]

theorem eq_of_map_eq {α β : Type} {f : α → β} {xs ys : List α} (h : ∀ x ∈ xs, ∀ y ∈ ys, f x = f y → x = y)
    (hsame : xs.map f = ys.map f) : xs = ys := by
  induction xs generalizing ys with
  | nil => exact (List.map_eq_nil_iff.1 hsame.symm).symm
  | cons x xs ih =>
    cases ys with
    | nil => cases hsame
    | cons y ys =>
      obtain ⟨hfirst, hrest⟩ := List.cons.inj hsame
      have hxy : x = y := h x List.mem_cons_self y List.mem_cons_self hfirst
      have hxys : xs = ys :=
        ih (fun a ha b hb => h a (List.mem_cons_of_mem _ ha) b (List.mem_cons_of_mem _ hb)) hrest
      rw [hxy, hxys]

/-- Members that are compared one by one are still so compared after a choice that is made alike. -/
theorem forall₂_filter {α β : Type} {R : α → β → Prop} {p : α → Bool} {q : β → Bool} {xs : List α} {ys : List β}
    (h : List.Forall₂ R xs ys) (hpq : ∀ x y, R x y → p x = q y) : List.Forall₂ R (xs.filter p) (ys.filter q) := by
  induction h with
  | nil => exact .nil
  | cons hxy _ ih =>
    rw [List.filter_cons, List.filter_cons, hpq _ _ hxy]
    split
    · exact .cons hxy ih
    · exact ih

theorem exists_forall₂_iff {α β : Type} {R : α → β → Prop} {xs : List α} :
    (∃ ys, List.Forall₂ R xs ys) ↔ ∀ x ∈ xs, ∃ y, R x y := by
  induction xs with
  | nil => simp
  | cons x xs ih =>
    simp only [List.forall₂_cons_left_iff, List.forall_mem_cons, ← ih]
    constructor
    · rintro ⟨_, y, ys, hy, hys, -⟩
      exact ⟨⟨y, hy⟩, ys, hys⟩
    · rintro ⟨⟨y, hy⟩, ys, hys⟩
      exact ⟨_, y, ys, hy, hys, rfl⟩

theorem mapM_eq_ok_iff {α β ε : Type} {f : α → Except ε β} {xs : List α} {ys : List β} :
    xs.mapM f = .ok ys ↔ List.Forall₂ (fun x y => f x = .ok y) xs ys := by
  induction xs generalizing ys with
  | nil => simp [pure, Except.pure, eq_comm]
  | cons x xs ih =>
    rw [List.mapM_cons, List.forall₂_cons_left_iff]
    cases hx : f x with
    | error e => simp [bind, Except.bind]
    | ok y => cases hxs : xs.mapM f with
      | error e =>
        have hno (zs : List β) : ¬ List.Forall₂ (fun x y => f x = .ok y) xs zs := fun h => by
          rw [ih.2 h] at hxs
          cases hxs
        simp [bind, Except.bind, hno]
      | ok zs =>
        have honly (us : List β) : List.Forall₂ (fun x y => f x = .ok y) xs us ↔ us = zs := by
          rw [← ih, hxs, Except.ok.injEq, eq_comm]
        simp [bind, Except.bind, pure, Except.pure, honly, eq_comm]

theorem exists_perm_of_mapM_eq_ok {α β ε : Type} {f : α → Except ε β} {xs xs' : List α} (h : xs.Perm xs')
    {ys : List β} (hys : xs.mapM f = .ok ys) : ∃ ys', xs'.mapM f = .ok ys' ∧ ys.Perm ys' := by
  obtain ⟨ys', hall, hperm⟩ := List.perm_comp_forall₂ h.symm (mapM_eq_ok_iff.1 hys)
  exact ⟨ys', mapM_eq_ok_iff.2 hall, hperm.symm⟩

/-- Members that are compared one by one, each of which gives something to compare, give it as a list. -/
theorem exists_mapM_of_forall₂ {α α' β β' ε : Type} {R : α → α' → Prop} {S : β → β' → Prop} {f : α → Except ε β}
    {f' : α' → Except ε β'} {xs : List α} {xs' : List α'} (h : List.Forall₂ R xs xs')
    (hstep : ∀ x x' y, R x x' → f x = .ok y → ∃ y', f' x' = .ok y' ∧ S y y') {ys : List β}
    (hys : xs.mapM f = .ok ys) :
    ∃ ys', xs'.mapM f' = .ok ys' ∧ List.Forall₂ S ys ys' := by
  have hall := mapM_eq_ok_iff.1 hys
  clear hys
  induction h generalizing ys with
  | nil =>
    cases hall
    exact ⟨[], rfl, .nil⟩
  | cons hx _ ih =>
    cases hall with
    | cons hy hall =>
      obtain ⟨y', hy', hone⟩ := hstep _ _ _ hx hy
      obtain ⟨ys', hys', hrest⟩ := ih hall
      exact ⟨y' :: ys', mapM_eq_ok_iff.2 (.cons hy' (mapM_eq_ok_iff.1 hys')), .cons hone hrest⟩

theorem mapM_eq_ok_map {α β ε : Type} {f : α → Except ε β} {g : α → β} {xs : List α}
    (h : ∀ x ∈ xs, f x = .ok (g x)) :
    xs.mapM f = .ok (xs.map g) := by
  rw [mapM_eq_ok_iff, List.forall₂_map_right_iff, List.forall₂_same]
  exact h

theorem mapM_eq_ok_filterMap {α β ε : Type} {f : α → Except ε β} {g : α → Option β} {xs : List α}
    (h : ∀ x ∈ xs, ∃ y, g x = some y ∧ f x = .ok y) : xs.mapM f = .ok (xs.filterMap g) := by
  induction xs with
  | nil => rfl
  | cons x xs ih =>
    obtain ⟨y, hy, hx⟩ := h x List.mem_cons_self
    have hrest := ih fun x hx => h x (List.mem_cons_of_mem _ hx)
    rw [List.filterMap_cons_some hy]
    exact mapM_eq_ok_iff.2 (.cons hx (mapM_eq_ok_iff.1 hrest))

theorem exists_mapM_eq_ok {α β ε : Type} {f : α → Except ε β} {xs : List α} (h : ∀ x ∈ xs, ∃ y, f x = .ok y) :
    ∃ ys, xs.mapM f = .ok ys := by
  induction xs with
  | nil => exact ⟨[], rfl⟩
  | cons x xs ih =>
    obtain ⟨y, hy⟩ := h x List.mem_cons_self
    obtain ⟨ys, hys⟩ := ih fun x hx => h x (List.mem_cons_of_mem _ hx)
    exact ⟨y :: ys, mapM_eq_ok_iff.2 (.cons hy (mapM_eq_ok_iff.1 hys))⟩

theorem filterM_eq_ok {α ε : Type} {p : α → Except ε Bool} {chosen : α → Bool} {xs : List α}
    (h : ∀ x ∈ xs, p x = .ok (chosen x)) : xs.filterM p = .ok (xs.filter chosen) := by
  -- the chosen ones are gathered in reverse
  have hgathered (acc : List α) : xs.filterAuxM p acc = .ok ((xs.filter chosen).reverse ++ acc) := by
    induction xs generalizing acc with
    | nil => rfl
    | cons x xs ih =>
      have hstep : (x :: xs).filterAuxM p acc = xs.filterAuxM p (bif chosen x then x :: acc else acc) := by
        rw [List.filterAuxM, h x List.mem_cons_self]
        rfl
      rw [hstep, ih (fun y hy => h y (List.mem_cons_of_mem _ hy)), List.filter_cons]
      cases chosen x <;> simp
  rw [List.filterM, hgathered, List.append_nil]
  exact congrArg Except.ok (List.reverse_reverse _)

theorem exists_of_mapM_eq_error {α β ε : Type} {f : α → Except ε β} {xs : List α} {e : ε}
    (h : xs.mapM f = .error e) :
    ∃ x ∈ xs, f x = .error e := by
  induction xs with
  | nil => cases h
  | cons x xs ih =>
    rw [List.mapM_cons] at h
    rcases bind_eq_error.1 h with hx | ⟨_, -, hrest⟩
    · exact ⟨x, List.mem_cons_self, hx⟩
    · rcases bind_eq_error.1 hrest with hxs | ⟨_, -, hpure⟩
      · obtain ⟨y, hy, hfail⟩ := ih hxs
        exact ⟨y, List.mem_cons_of_mem _ hy, hfail⟩
      · cases hpure

theorem mapM_eq_error_iff {α β ε : Type} {f : α → Except ε β} {xs : List α} {e : ε} :
    xs.mapM f = .error e ↔ ∃ x, IsFirst (fun y => ∃ fault, f y = .error fault) xs x ∧ f x = .error e := by
  induction xs with
  | nil => simp [pure, Except.pure, IsFirst]
  | cons x xs ih =>
    have hnever (ys : List β) (y : β) : (pure (y :: ys) : Except ε (List β)) ≠ .error e := nofun
    rw [List.mapM_cons, bind_eq_error]
    simp only [bind_eq_error, ih, hnever, and_false, exists_const, or_false, isFirst_cons_iff]
    cases hx : f x with
    | error fault => simp [hx]
    | ok y => simp

theorem mapM_map {α β γ ε : Type} (f : α → Except ε β) (g : β → γ) (xs : List α) :
    (xs.mapM fun x => (f x).map g) = (xs.mapM f).map (List.map g) := by
  induction xs with
  | nil => rfl
  | cons x xs ih =>
    rw [List.mapM_cons, List.mapM_cons, ih]
    cases f x with
    | error e => rfl
    | ok y => cases xs.mapM f <;> rfl

theorem forM_eq_ok_iff {α ε : Type} {f : α → Except ε Unit} {xs : List α} :
    xs.forM f = .ok () ↔ ∀ x ∈ xs, f x = .ok () := by
  induction xs with
  | nil => exact ⟨nofun, fun _ => rfl⟩
  | cons x xs ih =>
    have hsteps : (x :: xs).forM f = (f x >>= fun _ => xs.forM f) := rfl
    rw [hsteps, bind_eq_ok, List.forall_mem_cons, ← ih]
    exact ⟨fun ⟨_, hx, hrest⟩ => ⟨hx, hrest⟩, fun ⟨hx, hrest⟩ => ⟨(), hx, hrest⟩⟩

theorem exists_mem_of_mem_mapM {α β ε : Type} {f : α → Except ε β} {xs : List α} {ys : List β}
    (h : xs.mapM f = .ok ys) {y : β} (hy : y ∈ ys) : ∃ x ∈ xs, f x = .ok y := by
  have hall := mapM_eq_ok_iff.1 h
  clear h
  induction hall with
  | nil => cases hy
  | cons hx _ ih =>
    rcases List.mem_cons.1 hy with rfl | hy
    · exact ⟨_, List.mem_cons_self, hx⟩
    · obtain ⟨x, hm, hx⟩ := ih hy
      exact ⟨x, List.mem_cons_of_mem _ hm, hx⟩

end Lists

namespace Text

theorem pairwise_le_sorted (xs : List String) : (sorted xs).Pairwise (· ≤ ·) := by
  have hsorted : (sorted xs).Pairwise fun a b => decide (a ≤ b) = true := by
    refine List.pairwise_mergeSort (fun a b c hab hbc => ?_) (fun a b => ?_) xs
    · simpa using String.le_trans (by simpa using hab) (by simpa using hbc)
    · simpa using String.le_total a b
  simpa using hsorted

theorem pairwise_lt_sortedSet (xs : List String) : (sortedSet xs).Pairwise (· < ·) := by
  have hnodup : (sortedSet xs).Nodup := (List.mergeSort_perm xs.eraseDups _).nodup_iff.2 (Lists.nodup_eraseDups xs)
  refine ((pairwise_le_sorted xs.eraseDups).and hnodup).imp fun {a b} h => ?_
  by_contra hnot
  exact h.2 (String.le_antisymm h.1 (String.not_lt.1 hnot))

theorem nodup_of_pairwise_lt {xs : List String} (h : xs.Pairwise (· < ·)) : xs.Nodup := by
  refine h.imp ?_
  rintro a _ hlt rfl
  exact String.lt_irrefl a hlt

/-- A list in strict order is the sorted set of whatever list has the same members. -/
theorem eq_sortedSet {xs ys : List String} (hys : ys.Pairwise (· < ·)) (h : ∀ x, x ∈ ys ↔ x ∈ xs) :
    ys = sortedSet xs := by
  have hsorted := pairwise_lt_sortedSet xs
  have hperm : ys.Perm (sortedSet xs) :=
    (List.perm_ext_iff_of_nodup (nodup_of_pairwise_lt hys) (nodup_of_pairwise_lt hsorted)).2 (by simpa using h)
  exact hperm.eq_of_pairwise (fun a b _ _ hab hba => absurd hba (String.lt_asymm hab)) hys hsorted

end Text

theorem OrderedMap.get?_ofList_iff {α : Type} {es : List (String × α)} {key : String} {value : α} :
    (ofList es).get? key = some value ↔ Lists.IsLast (fun e => e.1 = key) es (key, value) := by
  induction es with
  | nil => simp [ofList, Lists.IsLast]
  | cons e es ih =>
    have hlater : (ofList es).get? key = none ↔ ∀ e ∈ es, e.1 ≠ key := by
      rw [get?_eq_none_iff, mem_keys_ofList, List.mem_map]
      push Not
      rfl
    have hhere : (if key = e.1 then some e.2 else none) = some value ↔ (key, value) = e ∧ e.1 = key := by
      obtain ⟨name, held⟩ := e
      simp only [Option.ite_none_right_eq_some, Option.some.injEq, Prod.mk.injEq]
      constructor
      · rintro ⟨rfl, rfl⟩
        exact ⟨⟨rfl, rfl⟩, rfl⟩
      · rintro ⟨⟨rfl, rfl⟩, -⟩
        exact ⟨rfl, rfl⟩
    rw [get?_ofList_cons, Option.or_eq_some_iff, ih, hlater, hhere, Lists.isLast_cons_iff]
    refine or_congr_right ⟨fun h => ?_, fun h => ?_⟩
    · exact ⟨h.2.1, h.2.2, h.1⟩
    · exact ⟨h.2.2, h.1, h.2.1⟩

end ReferenceAudit

/-! # Maps from texts that keep the order in which their keys came -/
namespace ReferenceAudit

structure OrderedMap (α : Type) where
  entries : List (String × α)
  nodup_keys : (entries.map Prod.fst).Nodup
  deriving DecidableEq

namespace OrderedMap
variable {α β : Type}

def empty : OrderedMap α := ⟨[], by simp⟩

instance : Inhabited (OrderedMap α) := ⟨empty⟩

def keys (m : OrderedMap α) : List String := m.entries.map Prod.fst

def values (m : OrderedMap α) : List α := m.entries.map Prod.snd

def get? (m : OrderedMap α) (key : String) : Option α := m.entries.lookup key

def contains (m : OrderedMap α) (key : String) : Bool := m.keys.contains key

def getD (m : OrderedMap α) (key : String) (default : α) : α := (m.get? key).getD default

def replaced (key : String) (value : α) (e : String × α) : String × α := if e.1 = key then (key, value) else e

theorem map_fst_replaced (key : String) (value : α) (es : List (String × α)) :
    (es.map (replaced key value)).map Prod.fst = es.map Prod.fst := by
  induction es with
  | nil => rfl
  | cons e es ih => by_cases h : e.1 = key <;> simp [replaced, h, ← ih]

theorem nodup_keys_append {es : List (String × α)} {key : String} {value : α}
    (hn : (es.map Prod.fst).Nodup) (hk : key ∉ es.map Prod.fst) :
    ((es ++ [(key, value)]).map Prod.fst).Nodup := by
  rw [List.map_append, List.nodup_append]
  refine ⟨hn, by simp, ?_⟩
  rintro a ha b hb rfl
  simp only [List.map_cons, List.map_nil, List.mem_singleton] at hb
  exact hk (hb ▸ ha)

/-- A new key goes to the end; a key that is there keeps its place and takes the new value. -/
def insert (m : OrderedMap α) (key : String) (value : α) : OrderedMap α :=
  if h : key ∈ m.keys then
    ⟨m.entries.map (replaced key value), by rw [map_fst_replaced]; exact m.nodup_keys⟩
  else
    ⟨m.entries ++ [(key, value)], nodup_keys_append m.nodup_keys h⟩

def ofList (es : List (String × α)) : OrderedMap α := es.foldl (fun m e => m.insert e.1 e.2) empty

def map (f : α → β) (m : OrderedMap α) : OrderedMap β :=
  ⟨m.entries.map fun e => (e.1, f e.2), by simpa [Function.comp_def] using m.nodup_keys⟩

/-- The entry under the very name, else the first under a name that `same` takes for it. -/
def find? (m : OrderedMap α) (same : String → String → Bool) (key : String) : Option α :=
  match m.get? key with
  | some value => some value
  | none => (m.entries.find? fun e => same e.1 key).map Prod.snd

@[simp] theorem keys_empty : (empty : OrderedMap α).keys = [] := rfl

theorem keys_insert (m : OrderedMap α) (key : String) (value : α) :
    (m.insert key value).keys = if key ∈ m.keys then m.keys else m.keys ++ [key] := by
  unfold insert
  split <;> rename_i h
  · exact map_fst_replaced ..
  · simp [keys]

theorem mem_keys_insert {m : OrderedMap α} {key k : String} {value : α} :
    k ∈ (m.insert key value).keys ↔ k ∈ m.keys ∨ k = key := by
  rw [keys_insert]; split <;> rename_i h <;> simp
  rintro rfl; exact h

theorem lookup_map_replaced (es : List (String × α)) (key k : String) (value : α) :
    (es.map (replaced key value)).lookup k =
      if k = key then (if key ∈ es.map Prod.fst then some value else none) else es.lookup k := by
  induction es with
  | nil => simp
  | cons e es ih =>
    obtain ⟨a, b⟩ := e
    rw [List.map_cons, List.lookup_cons, ih, List.lookup_cons]
    by_cases ha : a = key
    · subst ha
      by_cases hk : k = a
      · simp [replaced, hk]
      · simp [replaced, hk, beq_eq_false_iff_ne.2 hk]
    · by_cases hk : k = key
      · subst hk
        have hm : k ∈ ((a, b) :: es).map Prod.fst ↔ k ∈ es.map Prod.fst := by simp [Ne.symm ha]
        simp only [hm]; simp [replaced, ha, beq_eq_false_iff_ne.2 (Ne.symm ha)]
      · simp [replaced, ha, hk]

theorem lookup_eq_none_of_not_mem {es : List (String × α)} {k : String} (h : k ∉ es.map Prod.fst) :
    es.lookup k = none := by
  induction es with
  | nil => rfl
  | cons e es ih =>
    obtain ⟨a, b⟩ := e
    simp only [List.map_cons, List.mem_cons, not_or] at h
    simp [List.lookup_cons, beq_eq_false_iff_ne.2 h.1, ih h.2]

theorem get?_insert (m : OrderedMap α) (key k : String) (value : α) :
    (m.insert key value).get? k = if k = key then some value else m.get? k := by
  unfold insert get?
  split <;> rename_i h
  · rw [lookup_map_replaced]; simp only [keys] at h; simp [if_pos h]
  · rw [List.lookup_append]
    by_cases hk : k = key
    · subst hk; simp [lookup_eq_none_of_not_mem h]
    · simp [List.lookup_cons, beq_eq_false_iff_ne.2 hk, hk]

@[simp] theorem get?_empty (k : String) : (empty : OrderedMap α).get? k = none := rfl

theorem getD_insert (m : OrderedMap α) (key k : String) (value default : α) :
    (m.insert key value).getD k default = if k = key then value else m.getD k default := by
  unfold getD
  rw [get?_insert]
  split <;> rfl

/-- The keys are distinct, so an entry is what is found under its key. -/
theorem get?_eq_some_iff {m : OrderedMap α} {key : String} {value : α} :
    m.get? key = some value ↔ (key, value) ∈ m.entries := by
  obtain ⟨es, hn⟩ := m
  simp only [get?]
  induction es with
  | nil => simp
  | cons e es ih =>
    obtain ⟨k, v⟩ := e
    rw [List.map_cons, List.nodup_cons] at hn
    rw [List.lookup_cons, List.mem_cons]
    by_cases hk : key = k
    · subst hk
      have hne : (key, value) ∉ es := fun hm => hn.1 (List.mem_map.2 ⟨(key, value), hm, rfl⟩)
      simp [hne, eq_comm]
    · simp [beq_eq_false_iff_ne.2 hk, hk, ih hn.2]

theorem mem_keys_iff {m : OrderedMap α} {key : String} : key ∈ m.keys ↔ ∃ value, m.get? key = some value := by
  simp [keys, get?_eq_some_iff]

theorem get?_eq_none_iff {m : OrderedMap α} {key : String} : m.get? key = none ↔ key ∉ m.keys := by
  rw [mem_keys_iff, ← Option.isSome_iff_exists]
  simp

@[simp] theorem keys_map (f : α → β) (m : OrderedMap α) : (m.map f).keys = m.keys := by simp [keys, map]

theorem get?_map (f : α → β) (m : OrderedMap α) (k : String) : (m.map f).get? k = (m.get? k).map f := by
  obtain ⟨es, hn⟩ := m
  simp only [get?, map]
  clear hn
  induction es with
  | nil => rfl
  | cons e es ih =>
    rw [List.map_cons, List.lookup_cons, List.lookup_cons, ih]
    split <;> rfl

/-- Distinct keys are all new, so the entries are kept as they come. -/
theorem entries_ofList {es : List (String × α)} (hn : (es.map Prod.fst).Nodup) : (ofList es).entries = es := by
  have hfold (done : OrderedMap α) (es : List (String × α)) (h : ((done.entries ++ es).map Prod.fst).Nodup) :
      (es.foldl (fun m e => m.insert e.1 e.2) done).entries = done.entries ++ es := by
    induction es generalizing done with
    | nil => simp
    | cons e es ih =>
      have hk : e.1 ∉ done.keys := by
        rw [List.map_append, List.map_cons, List.nodup_append] at h
        exact fun hm => h.2.2 e.1 hm e.1 List.mem_cons_self rfl
      have hi : (done.insert e.1 e.2).entries = done.entries ++ [e] := by simp [insert, hk]
      rw [List.foldl_cons, ih _ (by simpa [hi] using h), hi, List.append_assoc, List.singleton_append]
  simpa [ofList, empty] using hfold empty es (by simpa [empty] using hn)

theorem get?_ofList_cons (e : String × α) (es : List (String × α)) (key : String) :
    (ofList (e :: es)).get? key = ((ofList es).get? key).or (if key = e.1 then some e.2 else none) := by
  have hfold (done : OrderedMap α) : (es.foldl (fun m e => m.insert e.1 e.2) done).get? key =
      ((ofList es).get? key).or (done.get? key) := by
    induction es generalizing done with
    | nil => simp [ofList]
    | cons e es ih =>
      rw [ofList, List.foldl_cons, List.foldl_cons, ih, ih (empty.insert e.1 e.2), get?_insert, get?_insert]
      cases (ofList es).get? key <;> split <;> rfl
  rw [ofList, List.foldl_cons, hfold, get?_insert, get?_empty]

theorem mem_keys_ofList {es : List (String × α)} {key : String} :
    key ∈ (ofList es).keys ↔ key ∈ es.map Prod.fst := by
  induction es with
  | nil => simp [ofList]
  | cons e es ih =>
    rw [List.map_cons, List.mem_cons, ← ih, ← Decidable.not_iff_not, not_or, ← get?_eq_none_iff, ← get?_eq_none_iff,
      get?_ofList_cons, Option.or_eq_none_iff, ite_eq_right_iff, and_comm]
    simp

theorem mem_of_get?_ofList {es : List (String × α)} {key : String} {value : α}
    (h : (ofList es).get? key = some value) :
    (key, value) ∈ es := by
  induction es with
  | nil => cases h
  | cons e es ih =>
    rw [get?_ofList_cons, Option.or_eq_some_iff, Option.ite_none_right_eq_some] at h
    rcases h with hlater | ⟨-, rfl, hvalue⟩
    · exact List.mem_cons_of_mem _ (ih hlater)
    · cases hvalue
      exact List.mem_cons_self

end OrderedMap
end ReferenceAudit

import ReferenceAudit.ManifestCache

/-!
# What the calls of a cache do

A call gives what is kept, or it reads or resolves and keeps what came out of that. Of every call it is said once
which of these it is and what it leaves.
-/
namespace ReferenceAudit.ManifestCache
variable {ι : Type} {c : ManifestCache ι}

theorem tokens_eq_map (c : ManifestCache ι) : c.tokens = c.manifests.entries.map fun e => e.2.token := by
  simp [tokens, OrderedMap.values, Function.comp_def]

theorem entries_evict (c : ManifestCache ι) (token : Nat) :
    (c.evict token).manifests.entries = c.manifests.entries.filter fun e => e.2.token != token := by
  refine OrderedMap.entries_ofList ?_
  exact c.manifests.nodup_keys.sublist (List.filter_sublist.map Prod.fst)

/-- The entry of a path goes with its token, so its name is free then. -/
theorem not_mem_keys_evict {key : String} {k : KeptManifest} (h : c.manifests.get? key = some k) :
    key ∉ (c.evict k.token).manifests.keys := by
  intro hm
  obtain ⟨k', hleft⟩ := OrderedMap.mem_keys_iff.1 hm
  rw [OrderedMap.get?_eq_some_iff, entries_evict] at hleft
  obtain ⟨hold, hne⟩ := List.mem_filter.1 hleft
  have hsame : k' = k := Option.some.inj ((OrderedMap.get?_eq_some_iff.2 hold).symm.trans h)
  simp [hsame] at hne

theorem entries_keep {key : String} (hkey : key ∉ c.manifests.keys) (k : KeptManifest) :
    (c.keep key k).manifests.entries = c.manifests.entries ++ [(key, k)] := by
  simp [keep, OrderedMap.insert, hkey]

theorem mem_entries_keep {key : String} (hkey : key ∉ c.manifests.keys) (k : KeptManifest) :
    (key, k) ∈ (c.keep key k).manifests.entries := by
  rw [entries_keep hkey]
  exact List.mem_append_right _ List.mem_cons_self

theorem keys_keep {key : String} (hkey : key ∉ c.manifests.keys) (k : KeptManifest) :
    (c.keep key k).manifests.keys = c.manifests.keys ++ [key] := by
  rw [OrderedMap.keys, entries_keep hkey, List.map_append]
  rfl

/-- A manifest as it is kept when it has just been read. -/
def fresh (alloc : Allocation) (d : Disk) (path : Path) (c : ManifestCache ι) (m : Manifest) : KeptManifest :=
  ⟨d.time? path.text, alloc.next c.tokens, m⟩

variable {alloc : Allocation} {d : Disk} {path : Path} {key : String} {k : KeptManifest} {c' : ManifestCache ι}
  {fault : Fault}

theorem reload_cases (alloc : Allocation) (d : Disk) (path : Path) (key : String) (c : ManifestCache ι) :
    (∃ fault, Manifest.load d path = .error fault ∧ c.reload alloc d path key = (.error fault, c.miss)) ∨
      ∃ m, Manifest.load d path = .ok m ∧
        c.reload alloc d path key = (.ok (fresh alloc d path c m), c.miss.keep key (fresh alloc d path c m)) := by
  rw [reload]
  cases Manifest.load d path with
  | error fault => exact Or.inl ⟨fault, rfl, rfl⟩
  | ok m => exact Or.inr ⟨m, rfl, rfl⟩

/-- For a path that cannot be resolved nothing is looked up, and nothing counted. -/
theorem manifest_of_pathKey_eq_error (h : pathKey d path = .error fault) :
    c.manifest alloc d path = (.error fault, c) := by
  rw [manifest, h]

/-- A manifest is given from the cache, or it is read after what was kept under its path is gone. -/
theorem manifest_cases (alloc : Allocation) (hkey : pathKey d path = .ok key) (c : ManifestCache ι) :
    (∃ k, (key, k) ∈ c.manifests.entries ∧ k.time = d.time? path.text ∧
        c.manifest alloc d path = (.ok k, c.hit)) ∨
      ∃ c₀ : ManifestCache ι,
        (c₀ = c ∨ ∃ old, (key, old) ∈ c.manifests.entries ∧ old.time ≠ d.time? path.text ∧ c₀ = c.evict old.token) ∧
        key ∉ c₀.manifests.keys ∧ c.manifest alloc d path = c₀.reload alloc d path key := by
  rw [manifest, hkey]
  dsimp only
  cases hget : c.manifests.get? key with
  | none => exact Or.inr ⟨c, Or.inl rfl, OrderedMap.get?_eq_none_iff.1 hget, rfl⟩
  | some k =>
    have hmem := OrderedMap.get?_eq_some_iff.1 hget
    by_cases htime : k.time = d.time? path.text
    · exact Or.inl ⟨k, hmem, htime, if_pos htime⟩
    · exact Or.inr ⟨c.evict k.token, Or.inr ⟨k, hmem, htime, rfl⟩, not_mem_keys_evict hget, if_neg htime⟩

theorem exists_pathKey_of_manifest (h : c.manifest alloc d path = (.ok k, c')) :
    ∃ key, pathKey d path = .ok key := by
  cases hkey : pathKey d path with
  | ok key => exact ⟨key, rfl⟩
  | error fault =>
    rw [manifest_of_pathKey_eq_error hkey] at h
    cases h

theorem get?_of_manifest (hkey : pathKey d path = .ok key) (h : c.manifest alloc d path = (.ok k, c')) :
    c'.manifests.get? key = some k ∧ k.time = d.time? path.text := by
  rw [OrderedMap.get?_eq_some_iff]
  rcases manifest_cases alloc hkey c with ⟨k', hmem, htime, hout⟩ | ⟨c₀, -, hfree, hout⟩ <;> rw [hout] at h
  · cases h
    exact ⟨hmem, htime⟩
  · rcases reload_cases alloc d path key c₀ with ⟨fault, -, hreload⟩ | ⟨m, -, hreload⟩ <;>
      rw [hreload] at h <;> cases h
    exact ⟨mem_entries_keep hfree _, rfl⟩

theorem manifest_of_get? (hkey : pathKey d path = .ok key) (h : c.manifests.get? key = some k)
    (htime : k.time = d.time? path.text) : c.manifest alloc d path = (.ok k, c.hit) := by
  rw [manifest, hkey]
  dsimp only
  rw [h]
  exact if_pos htime

variable [DecidableEq ι]

theorem mem_targets_of_target? {key : TargetKey ι} {r : Resolved} (h : c.target? key = some r) :
    (key, r) ∈ c.targets := by
  obtain ⟨before, after, htargets, -⟩ := List.lookup_eq_some_iff.1 h
  rw [htargets]
  exact List.mem_append_right _ List.mem_cons_self

theorem target?_keepTarget_self (c : ManifestCache ι) (key : TargetKey ι) (r : Resolved) :
    (c.keepTarget key r).target? key = some r :=
  List.lookup_cons_self

theorem target?_keepTarget_of_ne {key key' : TargetKey ι} (h : key' ≠ key) (c : ManifestCache ι) (r : Resolved) :
    (c.keepTarget key r).target? key' = c.target? key' := by
  rw [target?, keepTarget, List.lookup_cons, beq_eq_false_iff_ne.2 h]
  rfl

def keyOf (k : KeptManifest) (selector : Selector) (ignored : List String) (naming : ι) : TargetKey ι :=
  ⟨k.token, Text.fold selector.targetKey, Text.sorted (ignored.map packageKey), naming⟩

/-- A target is given from the cache, or it is resolved with the ignored ids folded and sorted. -/
theorem resolveKept_cases (d : Disk) (namings : ι → ModuleNaming) (k : KeptManifest) (selector : Selector)
    (ignored : List String) (naming : ι) (c : ManifestCache ι) :
    (∃ r, c.target? (keyOf k selector ignored naming) = some r ∧
        c.resolveKept d namings k selector ignored naming = (.ok r, c.hit)) ∨
      c.target? (keyOf k selector ignored naming) = none ∧
        ((∃ fault, resolveTarget d k.manifest selector (keyOf k selector ignored naming).ignored (namings naming) =
            .error fault ∧ c.resolveKept d namings k selector ignored naming = (.error fault, c.miss)) ∨
          ∃ r, resolveTarget d k.manifest selector (keyOf k selector ignored naming).ignored
            (namings naming) = .ok r ∧
            c.resolveKept d namings k selector ignored naming =
              (.ok r, c.miss.keepTarget (keyOf k selector ignored naming) r)) := by
  rw [resolveKept]
  dsimp only [keyOf]
  cases c.target? ⟨k.token, Text.fold selector.targetKey, Text.sorted (ignored.map packageKey), naming⟩ with
  | some r => exact Or.inl ⟨r, rfl, rfl⟩
  | none =>
    refine Or.inr ⟨rfl, ?_⟩
    cases resolveTarget d k.manifest selector (Text.sorted (ignored.map packageKey)) (namings naming) with
    | error fault => exact Or.inl ⟨fault, rfl, rfl⟩
    | ok r => exact Or.inr ⟨r, rfl, rfl⟩

/-- A target is asked of the manifest that the path's call gives, if the ignored ids can be read. -/
theorem resolve_cases (alloc : Allocation) (d : Disk) (namings : ι → ModuleNaming) (path : Path)
    (selector : Selector) (ignored : Except Fault (List String)) (naming : ι) (c : ManifestCache ι) :
    (∃ fault c', c.manifest alloc d path = (.error fault, c') ∧
        c.resolve alloc d namings path selector ignored naming = (.error fault, c')) ∨
      ∃ k c', c.manifest alloc d path = (.ok k, c') ∧
        ((∃ fault, ignored = .error fault ∧
            c.resolve alloc d namings path selector ignored naming = (.error fault, c')) ∨
          ∃ ids, ignored = .ok ids ∧ c.resolve alloc d namings path selector ignored naming =
            c'.resolveKept d namings k selector ids naming) := by
  rw [resolve]
  obtain ⟨result, c'⟩ := c.manifest alloc d path
  cases result with
  | error fault => exact Or.inl ⟨fault, c', rfl, rfl⟩
  | ok k =>
    refine Or.inr ⟨k, c', rfl, ?_⟩
    cases ignored with
    | error fault => exact Or.inl ⟨fault, rfl, rfl⟩
    | ok ids => exact Or.inr ⟨ids, rfl, rfl⟩

variable {namings : ι → ModuleNaming} {ids : List String} {naming : ι}

theorem resolve_of_pathKey_eq_error (h : pathKey d path = .error fault) (selector : Selector)
    (ignored : Except Fault (List String)) (naming : ι) :
    c.resolve alloc d namings path selector ignored naming = (.error fault, c) := by
  rw [resolve, manifest_of_pathKey_eq_error h]

theorem resolve_of_manifest (h : c.manifest alloc d path = (.ok k, c')) (s : Selector) :
    c.resolve alloc d namings path s (.ok ids) naming = c'.resolveKept d namings k s ids naming := by
  rw [resolve, h]

theorem resolveKept_of_some {s : Selector} {r : Resolved} (h : c.target? (keyOf k s ids naming) = some r) :
    c.resolveKept d namings k s ids naming = (.ok r, c.hit) := by
  rw [keyOf] at h
  rw [resolveKept]
  simp only [h]

end ReferenceAudit.ManifestCache

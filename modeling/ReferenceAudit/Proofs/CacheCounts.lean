import ReferenceAudit.Proofs.CacheLinks
import ReferenceAudit.Proofs.Lists
import ReferenceAudit.Proofs.ResolvedPaths

/-!
# How often a cache reads and resolves

A cache counts what it was asked: a manifest that it has kept is a hit, and so is a target; what it must read or
resolve is a miss. While no version of a file comes back after another one has been seen, a version that was
seen is the one that is kept, with every target that was given of it. So each version is read once, and each
target resolved once.
-/
namespace ReferenceAudit.ManifestCache
variable {ι : Type}

structure Version where
  key : String
  time : Option Nat
  deriving DecidableEq

/-- What a call asks for: of which version of its manifest, and which of its targets. -/
structure Use (ι : Type) where
  version : Version
  target : String
  ignored : List String
  naming : ι
  deriving DecidableEq

/-- The version of its file that a path leads to. -/
def versionOf (d : Disk) (path : Path) : Version := ⟨placeKey (d.placeOf path), d.time? path.text⟩

/-- Of a selector the folded name counts, of the ignored ids their folded forms in order. -/
def useOf (d : Disk) (path : Path) (selector : Selector) (ignored : List String) (naming : ι) : Use ι :=
  ⟨versionOf d path, Text.fold selector.targetKey, Text.sorted (ignored.map packageKey), naming⟩

def Use.key (w : Use ι) (token : Nat) : TargetKey ι := ⟨token, w.target, w.ignored, w.naming⟩

theorem Use.eq_of_key_eq {u w : Use ι} {token token' : Nat} (hversion : u.version = w.version)
    (h : u.key token = w.key token') : u = w := by
  obtain ⟨version, target, ignored, naming⟩ := u
  obtain ⟨version', target', ignored', naming'⟩ := w
  simp only [key, TargetKey.mk.injEq] at h
  obtain ⟨-, rfl, rfl, rfl⟩ := h
  rw [Use.mk.injEq]
  exact ⟨hversion, rfl, rfl, rfl⟩

/-- Whether a version is the last one of its file that was seen. -/
def IsLatest (vs : List Version) (v : Version) : Prop := Lists.IsLast (fun u => u.key = v.key) vs v

theorem isLatest_concat_iff {vs : List Version} {u v : Version} :
    IsLatest (vs ++ [v]) u ↔ (v.key = u.key ∧ u = v) ∨ (v.key ≠ u.key ∧ IsLatest vs u) :=
  Lists.isLast_concat_iff

theorem isLatest_concat_self (vs : List Version) (v : Version) : IsLatest (vs ++ [v]) v :=
  isLatest_concat_iff.2 (Or.inl ⟨rfl, rfl⟩)

theorem IsLatest.eq {vs : List Version} {u v : Version} (hu : IsLatest vs u) (hv : IsLatest vs v)
    (h : u.key = v.key) : u = v := by
  rw [IsLatest, h] at hu
  exact Lists.IsLast.eq hu hv

/-- A manifest is kept with the last time of its file that was seen. -/
def KeptLatest (vs : List Version) (key : String) (k : KeptManifest) : Prop := IsLatest vs ⟨key, k.time⟩

def AnyTarget (_ : Manifest) (_ : TargetKey ι) (_ : Resolved) : Prop := True

variable {vs : List Version} {c c₀ : ManifestCache ι}

/-- One more version is seen; the manifests stay the latest if the only one with its
path is of this very version. -/
theorem Linked.see (h : Linked (KeptLatest vs) AnyTarget c) {v : Version}
    (hv : ∀ e ∈ c.manifests.entries, e.1 = v.key → e.2.time = v.time) :
    Linked (KeptLatest (vs ++ [v])) AnyTarget c := by
  refine ⟨fun e he => isLatest_concat_iff.2 ?_, h.tokens, h.targets⟩
  by_cases hkey : v.key = e.1
  · refine Or.inl ⟨hkey, ?_⟩
    rw [← hkey, hv e he hkey.symm]
  · exact Or.inr ⟨hkey, h.kept e he⟩

variable [DecidableEq ι]

/-! ## What eviction spares -/

/-- A cache without what was kept under a path. -/
structure Without (key : String) (c c₀ : ManifestCache ι) : Prop where
  entries : ∀ e, e ∈ c₀.manifests.entries ↔ e ∈ c.manifests.entries ∧ e.1 ≠ key
  targets : ∀ e ∈ c₀.manifests.entries, ∀ target : TargetKey ι, target.token = e.2.token →
    c₀.target? target = c.target? target
  hits : c₀.hits = c.hits
  misses : c₀.misses = c.misses

theorem Without.mem_keys_iff {key : String} (h : Without key c c₀) {key' : String} :
    key' ∈ c₀.manifests.keys ↔ key' ∈ c.manifests.keys ∧ key' ≠ key := by
  simp only [OrderedMap.keys, List.mem_map, h.entries]
  constructor
  · rintro ⟨e, ⟨he, hne⟩, rfl⟩
    exact ⟨⟨e, he, rfl⟩, hne⟩
  · rintro ⟨⟨e, he, rfl⟩, hne⟩
    exact ⟨e, ⟨he, hne⟩, rfl⟩

theorem without_self {key : String} (h : key ∉ c.manifests.keys) : Without key c c := by
  refine ⟨fun e => ⟨fun he => ⟨he, ?_⟩, fun he => he.1⟩, fun _ _ _ _ => rfl, rfl, rfl⟩
  rintro rfl
  exact h (List.mem_map_of_mem he)

theorem Linked.without_evict {Kept : String → KeptManifest → Prop}
    {Built : Manifest → TargetKey ι → Resolved → Prop} (h : Linked Kept Built c) {key : String}
    {k : KeptManifest} (hk : (key, k) ∈ c.manifests.entries) :
    Without key c (c.evict k.token) := by
  have hentries (e : String × KeptManifest) : e ∈ (c.evict k.token).manifests.entries ↔
      e ∈ c.manifests.entries ∧ e.2.token ≠ k.token := by
    rw [entries_evict, List.mem_filter, bne_iff_ne]
  constructor
  · intro e
    rw [hentries]
    refine and_congr_right fun he => not_congr ⟨fun htoken => ?_, fun hkey => ?_⟩
    · exact congrArg Prod.fst (h.eq_of_token he hk htoken)
    · exact congrArg (fun e => e.2.token) (List.inj_on_of_nodup_map c.manifests.nodup_keys he hk hkey)
  · intro e he target htoken
    have hspared : (target.token != k.token) = true := by
      rw [htoken, bne_iff_ne]
      exact ((hentries e).1 he).2
    exact Lists.lookup_filter (p := fun key => key.token != k.token) hspared c.targets
  · rfl
  · rfl

/-! ## What the counters count -/

/-- A cache that has seen versions of manifests and has given targets: it keeps the
latest version of each file that it has seen, with the targets that it has given of
that version; it has read each version once and resolved each target once. -/
structure Counted (vs : List Version) (ws : List (Use ι)) (c : ManifestCache ι) : Prop where
  linked : Linked (KeptLatest vs) AnyTarget c
  keys : ∀ v ∈ vs, v.key ∈ c.manifests.keys
  used : ∀ w ∈ ws, w.version ∈ vs
  targets : ∀ e ∈ c.manifests.entries, ∀ w : Use ι, w.version = ⟨e.1, e.2.time⟩ →
    ((c.target? (w.key e.2.token)).isSome = true ↔ w ∈ ws)
  misses : c.misses = vs.eraseDups.length + ws.eraseDups.length
  total : c.hits + c.misses = vs.length + ws.length

variable {ws : List (Use ι)}

theorem counted_empty : Counted [] [] (empty : ManifestCache ι) := by
  refine ⟨linked_empty, nofun, nofun, nofun, rfl, rfl⟩

/-- A version that was seen, and of whose file no other has been seen since, is kept. -/
theorem Counted.exists_kept (h : Counted vs ws c) {v : Version} (hv : IsLatest vs v) :
    ∃ k, c.manifests.get? v.key = some k ∧ k.time = v.time := by
  obtain ⟨k, hk⟩ := OrderedMap.mem_keys_iff.1 (h.keys v hv.mem)
  have hlatest : IsLatest vs ⟨v.key, k.time⟩ := h.linked.kept _ (OrderedMap.get?_eq_some_iff.1 hk)
  exact ⟨k, hk, congrArg Version.time (hlatest.eq hv rfl)⟩

theorem Counted.hit (h : Counted vs ws c) {v : Version} (hv : IsLatest vs v) : Counted (vs ++ [v]) ws c.hit := by
  have hsame : ∀ e ∈ c.manifests.entries, e.1 = v.key → e.2.time = v.time := by
    intro e he hkey
    have hlatest : IsLatest vs ⟨e.1, e.2.time⟩ := h.linked.kept e he
    exact congrArg Version.time (hlatest.eq hv hkey)
  refine ⟨(h.linked.see hsame).hit, ?_, fun w hw => List.mem_append_left _ (h.used w hw), h.targets, ?_, ?_⟩
  · exact List.forall_mem_append.2 ⟨h.keys, List.forall_mem_singleton.2 (h.keys v hv.mem)⟩
  · rw [Lists.eraseDups_concat_of_mem hv.mem]
    exact h.misses
  · have htotal := h.total
    simp only [ManifestCache.hit, List.length_append, List.length_singleton]
    omega

theorem Counted.keep (h : Counted vs ws c) {v : Version} (hv : v ∉ vs) (hwithout : Without v.key c c₀)
    (hlinked : Linked (KeptLatest vs) AnyTarget c₀) {k : KeptManifest} (htime : k.time = v.time)
    (htoken : k.token ∉ c₀.tokens) : Counted (vs ++ [v]) ws (c₀.miss.keep v.key k) := by
  have hfree : v.key ∉ c₀.manifests.keys := fun hm => (hwithout.mem_keys_iff.1 hm).2 rfl
  have hkept : KeptLatest (vs ++ [v]) v.key k := by
    rw [KeptLatest, htime]
    exact isLatest_concat_self vs v
  have hseen : Linked (KeptLatest (vs ++ [v])) AnyTarget c₀ :=
    hlinked.see fun e he hkey => absurd hkey ((hwithout.entries e).1 he).2
  have hkeys : (c₀.miss.keep v.key k).manifests.keys = c₀.manifests.keys ++ [v.key] := keys_keep hfree k
  have hentries : (c₀.miss.keep v.key k).manifests.entries = c₀.manifests.entries ++ [(v.key, k)] :=
    entries_keep hfree k
  refine ⟨hseen.miss.keep hfree htoken hkept, ?_, fun w hw => ?_, fun e he w hw => ?_, ?_, ?_⟩
  · rw [hkeys]
    refine List.forall_mem_append.2 ⟨fun u hu => ?_,
      List.forall_mem_singleton.2 (List.mem_append_right _ (by simp))⟩
    by_cases hkey : u.key = v.key
    · exact List.mem_append_right _ (by simp [hkey])
    · exact List.mem_append_left _ (hwithout.mem_keys_iff.2 ⟨h.keys u hu, hkey⟩)
  · exact List.mem_append_left _ (h.used w hw)
  · rw [hentries] at he
    rcases List.mem_append.1 he with hold | hnew
    · have htargets : c₀.target? (w.key e.2.token) = c.target? (w.key e.2.token) := hwithout.targets e hold _ rfl
      rw [← h.targets e ((hwithout.entries e).1 hold).1 w hw, ← htargets]
      rfl
    · -- of the new version nothing was asked before, and its token is no target's
      cases List.mem_singleton.1 hnew
      have hnone : (c₀.miss.keep v.key k).target? (w.key k.token) = none := hlinked.target?_eq_none htoken
      have hversion : w.version = v := by rw [hw, htime]
      rw [hnone]
      exact iff_of_false Bool.false_ne_true fun hw' => hv (hversion ▸ h.used w hw')
  · rw [Lists.eraseDups_concat_of_not_mem hv, List.length_append, List.length_singleton]
    have hmisses := h.misses
    have hsame := hwithout.misses
    simp only [ManifestCache.keep, miss]
    omega
  · have htotal := h.total
    have hhits := hwithout.hits
    have hmisses := hwithout.misses
    simp only [ManifestCache.keep, miss, List.length_append, List.length_singleton]
    omega

theorem Counted.askAgain (h : Counted vs ws c) {w : Use ι} (hw : w ∈ ws) : Counted vs (ws ++ [w]) c.hit := by
  refine ⟨h.linked.hit, h.keys, ?_, fun e he u hu => ?_, ?_, ?_⟩
  · exact List.forall_mem_append.2 ⟨h.used, List.forall_mem_singleton.2 (h.used w hw)⟩
  · rw [List.mem_append, List.mem_singleton, or_iff_left_of_imp fun hsame => hsame ▸ hw]
    exact h.targets e he u hu
  · rw [Lists.eraseDups_concat_of_mem hw]
    exact h.misses
  · have htotal := h.total
    simp only [ManifestCache.hit, List.length_append, List.length_singleton]
    omega

theorem Counted.askNew (h : Counted vs ws c) {w : Use ι} (hw : w ∉ ws) {key : String} {k : KeptManifest}
    (hk : (key, k) ∈ c.manifests.entries) (hversion : w.version = ⟨key, k.time⟩) (r : Resolved) :
    Counted vs (ws ++ [w]) (c.miss.keepTarget (w.key k.token) r) := by
  have hlatest : IsLatest vs ⟨key, k.time⟩ := h.linked.kept _ hk
  refine ⟨h.linked.miss.keepTarget hk rfl trivial, h.keys, ?_, fun e he u hu => ?_, ?_, ?_⟩
  · exact List.forall_mem_append.2 ⟨h.used, List.forall_mem_singleton.2 (hversion ▸ hlatest.mem)⟩
  · rw [List.mem_append, List.mem_singleton, ← h.targets e he u hu]
    by_cases hkeys : u.key e.2.token = w.key k.token
    · -- one token, so one manifest, and then one use
      have he' : e = (key, k) := h.linked.eq_of_token he hk (congrArg TargetKey.token hkeys)
      have hversions : u.version = w.version := by rw [hu, he', hversion]
      have hfound : (c.miss.keepTarget (w.key k.token) r).target? (u.key e.2.token) = some r := by
        rw [hkeys]
        exact target?_keepTarget_self c.miss _ r
      exact iff_of_true (by rw [hfound]; rfl) (Or.inr (Use.eq_of_key_eq hversions hkeys))
    · have hne : u ≠ w := by
        rintro rfl
        have hkey : e.1 = key := congrArg Version.key (hu.symm.trans hversion)
        have he' : e = (key, k) := List.inj_on_of_nodup_map c.manifests.nodup_keys he hk hkey
        exact hkeys (by rw [he'])
      have hold : (c.miss.keepTarget (w.key k.token) r).target? (u.key e.2.token) = c.target? (u.key e.2.token) :=
        target?_keepTarget_of_ne hkeys c.miss r
      rw [hold, or_iff_left hne]
  · have hmisses := h.misses
    rw [Lists.eraseDups_concat_of_not_mem hw, List.length_append, List.length_singleton]
    simp only [keepTarget, miss]
    omega
  · have htotal := h.total
    simp only [keepTarget, miss, List.length_append, List.length_singleton]
    omega

section
variable {d : Disk} {path : Path} {k : KeptManifest} {c' : ManifestCache ι}

theorem Counted.manifest (h : Counted vs ws c) {alloc : Allocation}
    (hlatest : versionOf d path ∈ vs → IsLatest vs (versionOf d path))
    (hout : c.manifest alloc d path = (.ok k, c')) :
    Counted (vs ++ [versionOf d path]) ws c' := by
  obtain ⟨key, hkey⟩ := exists_pathKey_of_manifest hout
  cases eq_placeKey_of_pathKey hkey
  rcases manifest_cases alloc hkey c with ⟨k', hmem, htime, hhit⟩ | ⟨c₀, hc₀, hfree, hreload⟩
  · rw [hhit] at hout
    cases hout
    have hkept : IsLatest vs ⟨placeKey (d.placeOf path), k.time⟩ := h.linked.kept _ hmem
    rw [htime] at hkept
    exact h.hit hkept
  · have hnew : versionOf d path ∉ vs := by
      intro hv
      obtain ⟨k', hk', htime⟩ := h.exists_kept (hlatest hv)
      rcases hc₀ with rfl | ⟨old, hold, hne, -⟩
      · exact hfree (OrderedMap.mem_keys_iff.2 ⟨k', hk'⟩)
      · have hsame : k' = old := Option.some.inj (hk'.symm.trans (OrderedMap.get?_eq_some_iff.2 hold))
        exact hne (hsame ▸ htime)
    have hspared : Without (placeKey (d.placeOf path)) c c₀ ∧ Linked (KeptLatest vs) AnyTarget c₀ := by
      rcases hc₀ with rfl | ⟨old, hold, -, rfl⟩
      · exact ⟨without_self hfree, h.linked⟩
      · exact ⟨h.linked.without_evict hold, h.linked.evict old.token⟩
    rw [hreload] at hout
    rcases reload_cases alloc d path (placeKey (d.placeOf path)) c₀ with ⟨fault, -, hfailed⟩ | ⟨m, -, hread⟩
    · rw [hfailed] at hout
      cases hout
    · rw [hread] at hout
      cases hout
      exact h.keep hnew hspared.1 hspared.2 rfl (alloc.isNew c₀.tokens)

variable {namings : ι → ModuleNaming} {selector : Selector} {ids : List String} {naming : ι} {r : Resolved}

theorem Counted.resolveKept (h : Counted vs ws c) {w : Use ι} {key : String} (hk : (key, k) ∈ c.manifests.entries)
    (hversion : w.version = ⟨key, k.time⟩) (hkey : keyOf k selector ids naming = w.key k.token)
    (hout : (c.resolveKept d namings k selector ids naming).1 = .ok r) :
    Counted vs (ws ++ [w]) (c.resolveKept d namings k selector ids naming).2 := by
  have hasked := h.targets _ hk w hversion
  rcases resolveKept_cases d namings k selector ids naming c with
    ⟨r', htarget, hhit⟩ | ⟨hnone, ⟨fault, -, hfailed⟩ | ⟨r', -, hbuilt⟩⟩
  · rw [hkey] at htarget
    rw [hhit]
    exact h.askAgain (hasked.1 (by rw [htarget]; rfl))
  · rw [hfailed] at hout
    cases hout
  · rw [hkey] at hnone hbuilt
    rw [hbuilt]
    refine h.askNew (fun hw => ?_) hk hversion r'
    have hsome := hasked.2 hw
    rw [hnone] at hsome
    cases hsome

theorem Counted.resolve (h : Counted vs ws c) {alloc : Allocation}
    (hlatest : versionOf d path ∈ vs → IsLatest vs (versionOf d path))
    (hout : (c.resolve alloc d namings path selector (.ok ids) naming).1 = .ok r) :
    Counted (vs ++ [versionOf d path]) (ws ++ [useOf d path selector ids naming])
      (c.resolve alloc d namings path selector (.ok ids) naming).2 := by
  rcases resolve_cases alloc d namings path selector (.ok ids) naming c with
    ⟨fault, c', -, hfailed⟩ | ⟨k, c', hmanifest, ⟨fault, hids, -⟩ | ⟨_, hids, hresolve⟩⟩
  · rw [hfailed] at hout
    cases hout
  · cases hids
  · cases hids
    obtain ⟨key, hkey⟩ := exists_pathKey_of_manifest hmanifest
    cases eq_placeKey_of_pathKey hkey
    obtain ⟨hget, htime⟩ := get?_of_manifest hkey hmanifest
    have hversion : (useOf d path selector ids naming).version = ⟨placeKey (d.placeOf path), k.time⟩ := by
      rw [htime]
      rfl
    rw [hresolve] at hout ⊢
    exact (h.manifest hlatest hmanifest).resolveKept (OrderedMap.get?_eq_some_iff.1 hget) hversion rfl hout

theorem Counted.resolve_again (h : Counted vs ws c) (alloc : Allocation) (namings : ι → ModuleNaming)
    (hkey : pathKey d path = .ok (placeKey (d.placeOf path))) (hlatest : IsLatest vs (versionOf d path))
    (hw : useOf d path selector ids naming ∈ ws) :
    ∃ r, c.resolve alloc d namings path selector (.ok ids) naming = (.ok r, c.hit.hit) := by
  obtain ⟨k, hk, htime⟩ := h.exists_kept hlatest
  have hversion : (useOf d path selector ids naming).version = ⟨placeKey (d.placeOf path), k.time⟩ := by
    rw [htime]
    rfl
  have hasked := h.targets _ (OrderedMap.get?_eq_some_iff.1 hk) _ hversion
  obtain ⟨r, hr⟩ := Option.isSome_iff_exists.1 (hasked.2 hw)
  refine ⟨r, ?_⟩
  rw [resolve_of_manifest (manifest_of_get? hkey hk htime)]
  exact resolveKept_of_some hr

end

end ReferenceAudit.ManifestCache

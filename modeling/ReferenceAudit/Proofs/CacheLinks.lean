import ReferenceAudit.Analysis
import ReferenceAudit.Proofs.CacheCalls
import ReferenceAudit.Proofs.TargetResolution

/-!
# How manifests and targets hang together in a cache

The tokens tell the manifests that are kept apart, and each target belongs to the manifest with its token. Every
call preserves this, together with whatever is asked of the manifests and of the targets. Main statement: where
the manifests that are kept are up to date, a target is given as if it were read and resolved afresh.
-/
namespace ReferenceAudit.ManifestCache
variable {ι : Type}

/-- The manifests that are kept are as `Kept` says, and the targets of each are as `Built` says. -/
structure Linked (Kept : String → KeptManifest → Prop) (Built : Manifest → TargetKey ι → Resolved → Prop)
    (c : ManifestCache ι) : Prop where
  kept : ∀ e ∈ c.manifests.entries, Kept e.1 e.2
  tokens : c.tokens.Nodup
  targets : ∀ t ∈ c.targets, ∃ e ∈ c.manifests.entries, e.2.token = t.1.token ∧ Built e.2.manifest t.1 t.2

variable {Kept Kept' : String → KeptManifest → Prop} {Built Built' : Manifest → TargetKey ι → Resolved → Prop}
  {c : ManifestCache ι}

theorem linked_empty : Linked Kept Built (empty : ManifestCache ι) := by
  constructor <;> simp [empty, OrderedMap.empty, tokens, OrderedMap.values]

theorem linked_clear (c : ManifestCache ι) : Linked Kept Built c.clear := by
  have h : Linked Kept Built (empty : ManifestCache ι) := linked_empty
  exact ⟨h.kept, h.tokens, h.targets⟩

theorem Linked.hit (h : Linked Kept Built c) : Linked Kept Built c.hit := ⟨h.kept, h.tokens, h.targets⟩

theorem Linked.miss (h : Linked Kept Built c) : Linked Kept Built c.miss := ⟨h.kept, h.tokens, h.targets⟩

/-- What hangs together still does under whatever follows from it, of each target together with its manifest. -/
theorem Linked.mono (h : Linked Kept Built c) (hkept : ∀ key k, Kept key k → Kept' key k)
    (hbuilt : ∀ key k, Kept key k → ∀ target r, Built k.manifest target r → Built' k.manifest target r) :
    Linked Kept' Built' c := by
  refine ⟨fun e he => hkept e.1 e.2 (h.kept e he), h.tokens, ?_⟩
  intro t ht
  obtain ⟨e, he, htoken, hr⟩ := h.targets t ht
  exact ⟨e, he, htoken, hbuilt e.1 e.2 (h.kept e he) t.1 t.2 hr⟩

theorem Linked.evict (h : Linked Kept Built c) (token : Nat) : Linked Kept Built (c.evict token) := by
  have hentries := entries_evict c token
  have hsub : ∀ e ∈ (c.evict token).manifests.entries, e ∈ c.manifests.entries := by
    intro e he
    rw [hentries] at he
    exact (List.mem_filter.1 he).1
  refine ⟨fun e he => h.kept e (hsub e he), ?_, ?_⟩
  · have htokens := h.tokens
    rw [tokens_eq_map] at *
    rw [hentries]
    exact htokens.sublist (List.filter_sublist.map _)
  · intro t ht
    obtain ⟨ht, hne⟩ := List.mem_filter.1 ht
    obtain ⟨e, he, htoken, hbuilt⟩ := h.targets t ht
    refine ⟨e, ?_, htoken, hbuilt⟩
    rw [hentries]
    exact List.mem_filter.2 ⟨he, by rw [htoken]; exact hne⟩

theorem Linked.keep (h : Linked Kept Built c) {key : String} (hkey : key ∉ c.manifests.keys) {k : KeptManifest}
    (htoken : k.token ∉ c.tokens) (hk : Kept key k) : Linked Kept Built (c.keep key k) := by
  have hentries := entries_keep hkey k
  refine ⟨?_, ?_, ?_⟩
  · intro e he
    rw [hentries] at he
    rcases List.mem_append.1 he with hold | hnew
    · exact h.kept e hold
    · rw [List.mem_singleton.1 hnew]
      exact hk
  · have htokens := h.tokens
    rw [tokens_eq_map] at *
    rw [hentries, List.map_append, List.nodup_append]
    refine ⟨htokens, by simp, ?_⟩
    rintro a ha b hb rfl
    have hb : a = k.token := by simpa using hb
    exact htoken (hb ▸ ha)
  · intro t ht
    obtain ⟨e, he, hrest⟩ := h.targets t ht
    exact ⟨e, by rw [hentries]; exact List.mem_append_left _ he, hrest⟩

theorem Linked.keepTarget (h : Linked Kept Built c) {e : String × KeptManifest} (he : e ∈ c.manifests.entries)
    {key : TargetKey ι} (htoken : e.2.token = key.token) {r : Resolved} (hr : Built e.2.manifest key r) :
    Linked Kept Built (c.keepTarget key r) := by
  refine ⟨h.kept, h.tokens, ?_⟩
  intro t ht
  rcases List.mem_cons.1 ht with rfl | ht
  · exact ⟨e, he, htoken, hr⟩
  · exact h.targets t ht

theorem Linked.eq_of_token (h : Linked Kept Built c) {e e' : String × KeptManifest} (he : e ∈ c.manifests.entries)
    (he' : e' ∈ c.manifests.entries) (htoken : e.2.token = e'.2.token) : e = e' := by
  have htokens := h.tokens
  rw [tokens_eq_map] at htokens
  exact List.inj_on_of_nodup_map htokens he he' htoken

section
variable {d : Disk} {path : Path}

/-- A manifest that is given is kept, under the path's name, and all hangs together again. -/
theorem Linked.manifest (h : Linked Kept Built c) (alloc : Allocation)
    (hfresh : ∀ key m token, pathKey d path = .ok key → Manifest.load d path = .ok m →
      Kept key ⟨d.time? path.text, token, m⟩) :
    Linked Kept Built (c.manifest alloc d path).2 ∧
      ∀ k, (c.manifest alloc d path).1 = .ok k →
        ∃ key, (key, k) ∈ (c.manifest alloc d path).2.manifests.entries := by
  cases hkey : pathKey d path with
  | error fault =>
    rw [manifest_of_pathKey_eq_error hkey]
    exact ⟨h, nofun⟩
  | ok key =>
    rcases manifest_cases alloc hkey c with ⟨k, hmem, -, hout⟩ | ⟨c₀, hc₀, hfree, hout⟩ <;> rw [hout]
    · refine ⟨h.hit, ?_⟩
      intro k' hk
      cases hk
      exact ⟨key, hmem⟩
    · have hlinked : Linked Kept Built c₀ := by
        rcases hc₀ with rfl | ⟨old, -, -, rfl⟩
        · exact h
        · exact h.evict old.token
      rcases reload_cases alloc d path key c₀ with ⟨fault, -, hout⟩ | ⟨m, hload, hout⟩ <;> rw [hout]
      · exact ⟨hlinked.miss, nofun⟩
      · refine ⟨hlinked.miss.keep hfree (alloc.isNew c₀.tokens) (hfresh key m _ hkey hload), ?_⟩
        intro k hk
        cases hk
        exact ⟨key, mem_entries_keep hfree _⟩

/-- What is up to date under the path's name is what the path reads as, so a call gives that. -/
theorem map_manifest_eq_load {alloc : Allocation} {key : String} (hkey : pathKey d path = .ok key)
    (hcurrent : ∀ k, (key, k) ∈ c.manifests.entries → k.time = d.time? path.text →
      Manifest.load d path = .ok k.manifest) :
    (c.manifest alloc d path).1.map (·.manifest) = Manifest.load d path := by
  rcases manifest_cases alloc hkey c with ⟨k, hmem, htime, hout⟩ | ⟨c₀, -, -, hout⟩ <;> rw [hout]
  · exact (hcurrent k hmem htime).symm
  · rcases reload_cases alloc d path key c₀ with ⟨fault, hload, hout⟩ | ⟨m, hload, hout⟩ <;> rw [hout] <;>
      exact hload.symm

end

/-- The target of a manifest that a key stands for resolves to `r`. -/
def Answers (d : Disk) (namings : ι → ModuleNaming) (m : Manifest) (key : TargetKey ι) (r : Resolved) : Prop :=
  ∃ selector ignored, key.target = Text.fold (Selector.targetKey selector) ∧
    key.ignored = Text.sorted (ignored.map packageKey) ∧
    resolveTarget d m selector ignored (namings key.naming) = .ok r

variable [DecidableEq ι] {d : Disk} {namings : ι → ModuleNaming}

theorem Linked.target?_eq_none (h : Linked Kept Built c) {key : TargetKey ι} (htoken : key.token ∉ c.tokens) :
    c.target? key = none := by
  rw [Option.eq_none_iff_forall_ne_some]
  intro r hr
  obtain ⟨e, he, hsame, -⟩ := h.targets _ (mem_targets_of_target? hr)
  rw [tokens_eq_map] at htoken
  exact htoken (List.mem_map.2 ⟨e, he, hsame⟩)

/-- A target that is resolved is kept with the manifest that it was resolved from. -/
theorem Linked.resolveKept (h : Linked Kept Built c) {e : String × KeptManifest} (he : e ∈ c.manifests.entries)
    {selector : Selector} {ignored : List String} {naming : ι}
    (hbuilt : ∀ r, resolveTarget d e.2.manifest selector (keyOf e.2 selector ignored naming).ignored
      (namings naming) = .ok r → Built e.2.manifest (keyOf e.2 selector ignored naming) r) :
    Linked Kept Built (c.resolveKept d namings e.2 selector ignored naming).2 := by
  rcases resolveKept_cases d namings e.2 selector ignored naming c with
    ⟨r, -, hout⟩ | ⟨-, ⟨fault, -, hout⟩ | ⟨r, hresolve, hout⟩⟩ <;> rw [hout]
  · exact h.hit
  · exact h.miss
  · exact h.miss.keepTarget he rfl (hbuilt r hresolve)

/-- A target that is kept is what the manifest's target resolves to. -/
theorem Linked.target?_eq_some (h : Linked Kept (Answers d namings) c) {e : String × KeptManifest}
    (he : e ∈ c.manifests.entries) (hm : e.2.manifest.HasDistinctTargets) {selector : Selector}
    {ignored : List String} {naming : ι} {r : Resolved}
    (hr : c.target? (keyOf e.2 selector ignored naming) = some r) :
    resolveTarget d e.2.manifest selector ignored (namings naming) = .ok r := by
  obtain ⟨e', he', htoken, selector', ignored', htarget, hignored, hresolve⟩ :=
    h.targets _ (mem_targets_of_target? hr)
  have hsame : e' = e := h.eq_of_token he' he htoken
  rw [hsame] at hresolve
  exact resolveTarget_eq_ok_of_key hm htarget.symm hignored.symm hresolve

theorem Linked.resolveKept_spec (h : Linked Kept (Answers d namings) c) {e : String × KeptManifest}
    (he : e ∈ c.manifests.entries) (hm : e.2.manifest.HasDistinctTargets) (selector : Selector)
    (ignored : List String) (naming : ι) :
    (c.resolveKept d namings e.2 selector ignored naming).1 =
        resolveTarget d e.2.manifest selector ignored (namings naming) ∧
      Linked Kept (Answers d namings) (c.resolveKept d namings e.2 selector ignored naming).2 := by
  have hsorted : resolveTarget d e.2.manifest selector (keyOf e.2 selector ignored naming).ignored
      (namings naming) = resolveTarget d e.2.manifest selector ignored (namings naming) := resolveTarget_sorted ..
  constructor
  · rcases resolveKept_cases d namings e.2 selector ignored naming c with
      ⟨r, htarget, hout⟩ | ⟨-, ⟨fault, hresolve, hout⟩ | ⟨r, hresolve, hout⟩⟩ <;> rw [hout]
    · exact (h.target?_eq_some he hm htarget).symm
    · exact (hsorted.symm.trans hresolve).symm
    · exact (hsorted.symm.trans hresolve).symm
  · refine h.resolveKept he fun r hresolve => ?_
    exact ⟨selector, ignored, rfl, rfl, hsorted.symm.trans hresolve⟩

/-- While the manifests that are kept are up to date and no two of a manifest's target names differ in case
only, a call gives what the disk has, if the path can be resolved, and what is kept hangs together again. -/
theorem Linked.resolve_spec (h : Linked Kept (Answers d namings) c) (alloc : Allocation) {path : Path}
    {key : String} (hkey : pathKey d path = .ok key)
    (hfresh : ∀ m token, Manifest.load d path = .ok m → Kept key ⟨d.time? path.text, token, m⟩)
    (hcurrent : ∀ k, Kept key k → k.time = d.time? path.text → Manifest.load d path = .ok k.manifest)
    (hnames : ∀ key k, Kept key k → k.manifest.HasDistinctTargets) (selector : Selector)
    (ignored : Except Fault (List String)) (naming : ι) :
    (c.resolve alloc d namings path selector ignored naming).1 =
        Analysis.resolveAfresh d path selector ignored (namings naming) ∧
      Linked Kept (Answers d namings) (c.resolve alloc d namings path selector ignored naming).2 := by
  have hread : ∀ key m token, pathKey d path = .ok key → Manifest.load d path = .ok m →
      Kept key ⟨d.time? path.text, token, m⟩ := by
    intro key' m token hkey' hload
    rw [hkey] at hkey'
    cases hkey'
    exact hfresh m token hload
  obtain ⟨hlinked, hkept⟩ := h.manifest alloc hread
  have hresult : (c.manifest alloc d path).1.map (·.manifest) = Manifest.load d path :=
    map_manifest_eq_load hkey fun k hk => hcurrent k (h.kept _ hk)
  rw [Analysis.resolveAfresh]
  rcases resolve_cases alloc d namings path selector ignored naming c with
    ⟨fault, c', hout, hresolve⟩ | ⟨k, c', hout, hresolve⟩ <;> rw [hout] at hresult hlinked hkept
  · have hload : Manifest.load d path = .error fault := hresult.symm
    rw [hload, hresolve]
    exact ⟨rfl, hlinked⟩
  · have hload : Manifest.load d path = .ok k.manifest := hresult.symm
    rw [hload]
    rcases hresolve with ⟨fault, rfl, hresolve⟩ | ⟨ids, rfl, hresolve⟩ <;> rw [hresolve]
    · exact ⟨rfl, hlinked⟩
    · obtain ⟨key', hmem⟩ := hkept k rfl
      exact hlinked.resolveKept_spec hmem (hnames _ k (hlinked.kept _ hmem)) selector ids naming

end ReferenceAudit.ManifestCache

import ReferenceAudit.Proofs.SettledAnalyses

/-!
# Analyses among others are analyses on their own

A cache that several analyses share keeps only what is up to date as long as nothing is written. So no analysis
sees what the others have left there, whether they failed or not. Only a path that a cache cannot resolve stops
an analysis that would have an outcome without one. Main statement: analyses one after another, none of which is
stopped by other than its input, give what each of them gives on its own, and leave the disk as it was.
-/
namespace ReferenceAudit.Analysis
variable {ι α β : Type} {P : Option (ManifestCache ι) → Prop} {d : Disk}

/-- Work that leaves the disk as it is and gives the same with any cache of a kind as
without one, leaving a cache of that kind; or work that with any such cache is
stopped by the same fault, which is none of the input. -/
inductive Indifferent (P : Option (ManifestCache ι) → Prop) (d : Disk) (x : Work ι α) : Prop
  | same (result : Except Fault α) (hnone : runOn x ⟨d, none⟩ = (result, ⟨d, none⟩))
      (hall : ∀ cache, P cache → ∃ cache', P cache' ∧ runOn x ⟨d, cache⟩ = (result, ⟨d, cache'⟩))
  | stopped (fault : Fault) (hfault : fault.isInput = false)
      (hall : ∀ cache, P cache → (runOn x ⟨d, cache⟩).1 = .error fault)

theorem indifferent_orFault (x : Except Fault α) : Indifferent P d (orFault x) :=
  .same x (runOn_orFault x _) fun cache hcache => ⟨cache, hcache, runOn_orFault x _⟩

theorem indifferent_look (f : Disk → Except Fault α) : Indifferent P d (look f) :=
  .same (f d) (runOn_look f _) fun cache hcache => ⟨cache, hcache, runOn_look f _⟩

theorem Indifferent.bind {x : Work ι α} {f : α → Work ι β} (hx : Indifferent P d x)
    (hf : ∀ a, Indifferent P d (f a)) : Indifferent P d (x >>= f) := by
  cases hx with
  | stopped fault hfault hall =>
    refine .stopped fault hfault fun cache hcache => ?_
    have hrun : runOn x ⟨d, cache⟩ = (.error fault, (runOn x ⟨d, cache⟩).2) := Prod.ext (hall cache hcache) rfl
    rw [runOn_bind, hrun]
  | same result hnone hall =>
    cases result with
    | error fault =>
      refine .same (.error fault) (by rw [runOn_bind, hnone]) fun cache hcache => ?_
      obtain ⟨cache', hcache', hrun⟩ := hall cache hcache
      exact ⟨cache', hcache', by rw [runOn_bind, hrun]⟩
    | ok a =>
      cases hf a with
      | stopped fault hfault hrest =>
        refine .stopped fault hfault fun cache hcache => ?_
        obtain ⟨cache', hcache', hrun⟩ := hall cache hcache
        rw [runOn_bind, hrun]
        exact hrest cache' hcache'
      | same result hnone' hrest =>
        refine .same result (by rw [runOn_bind, hnone]; exact hnone') fun cache hcache => ?_
        obtain ⟨cache₁, hcache₁, hrun⟩ := hall cache hcache
        obtain ⟨cache₂, hcache₂, hrun'⟩ := hrest cache₁ hcache₁
        exact ⟨cache₂, hcache₂, by rw [runOn_bind, hrun]; exact hrun'⟩

theorem Indifferent.map {x : Work ι α} (hx : Indifferent P d x) (f : α → β) : Indifferent P d (f <$> x) := by
  rw [← bind_pure_comp]
  exact hx.bind fun a => indifferent_orFault (.ok (f a))

/-- A cache with manifests that are up to date, of which no two target names differ in case only. -/
def HoldsCurrent (env : Environment ι) (d : Disk) (cache : Option (ManifestCache ι)) : Prop :=
  ∃ c, cache = some c ∧
    ManifestCache.Linked (ManifestCache.Keeps (fun _ k => k.manifest.HasDistinctTargets) d)
      (ManifestCache.Answers d env.namings) c

theorem holdsCurrent_empty (env : Environment ι) (d : Disk) : HoldsCurrent env d (some .empty) :=
  ⟨.empty, rfl, ManifestCache.linked_empty⟩

variable [DecidableEq ι] {env : Environment ι} {policy : Policy} {r : Request}

theorem indifferent_resolve_of_none (path : Path) (selector : Selector) (ignored : Except Fault (List String)) :
    Indifferent (· = none) d (resolve env path selector ignored) := by
  refine .same _ (runOn_resolve env path selector ignored _) ?_
  rintro cache rfl
  exact ⟨none, rfl, runOn_resolve env path selector ignored _⟩

theorem indifferent_resolve (hd : d.Rooted) {path : Path} (hp : ∀ part ∈ path.parts, Path.IsComponent part)
    (hnames : ∀ m, Manifest.load d path = .ok m → m.HasDistinctTargets) (selector : Selector)
    (ignored : Except Fault (List String)) :
    Indifferent (HoldsCurrent env d) d (resolve env path selector ignored) := by
  cases hkey : ManifestCache.pathKey d path with
  | error fault =>
    refine .stopped fault (ManifestCache.isInput_of_pathKey hkey) ?_
    rintro cache ⟨c, rfl, -⟩
    rw [runOn_resolve]
    dsimp only
    rw [ManifestCache.resolve_of_pathKey_eq_error hkey]
  | ok key =>
    refine .same _ (runOn_resolve env path selector ignored _) ?_
    rintro cache ⟨c, rfl, hlinked⟩
    obtain ⟨hsame, hleft⟩ := ManifestCache.resolve_of_keeps env.allocation hd hp hkey hlinked
      (fun m _ hload => hnames m hload) (fun _ _ hk => hk) selector ignored env.naming
    refine ⟨_, ⟨_, rfl, hleft⟩, ?_⟩
    rw [runOn_resolve]
    dsimp only
    rw [hsame]

theorem indifferent_analyze (hdump : policy.dump = false)
    (hresolve : ∀ path ∈ r.manifest, ∀ selector,
      Indifferent P d (resolve env (Path.ofString path) selector policy.ignoredBuildFiles)) :
    Indifferent P d (analyze env policy r) := by
  have hpackages : Indifferent P d (resolvePackages env policy r) := by
    rw [resolvePackages]
    split
    · exact indifferent_orFault (.ok none)
    · exact indifferent_orFault (.error _)
    · rename_i path selector hmanifest _
      exact (hresolve path hmanifest selector).map some
  cases hfailed : r.compilerFailed with
  | true =>
    rw [analyze, if_pos hfailed]
    exact indifferent_orFault (.ok _)
  | false =>
    rw [analyze_eq_bind hfailed]
    refine (indifferent_look _).bind fun references => (indifferent_look _).bind fun used => ?_
    refine hpackages.bind fun resolved => Indifferent.bind ?_ fun dumped => indifferent_orFault _
    rw [runDump, hdump]
    exact indifferent_orFault (.ok [])

/-- What the analysis of a request gives on its own, without a cache. -/
def alone (env : Environment ι) (policy : Policy) (d : Disk) (r : Request) : Except Fault Outcome :=
  (runOn (analyze env policy r) ⟨d, none⟩).1

/-- What stands for an analysis among others: its outcome, or the fault that it ended with. -/
def settled (r : Request) : Except Fault Outcome → Outcome
  | .ok o => o
  | .error fault => Outcome.failed r.module fault

/-- One analysis among others: an input that is bad is settled, and the cache is as good as before. If it is not
stopped with one cache, it is with none. -/
theorem Indifferent.analyzeOrFail (h : Indifferent P d (analyze env policy r)) {cache₀ : Option (ManifestCache ι)}
    (hcache₀ : P cache₀)
    (hinput : ∀ fault, (runOn (analyze env policy r) ⟨d, cache₀⟩).1 = .error fault → fault.isInput = true)
    {cache : Option (ManifestCache ι)} (hcache : P cache) : ∃ cache', P cache' ∧
      runOn (analyzeOrFail env policy r) ⟨d, cache⟩ = (.ok (settled r (alone env policy d r)), ⟨d, cache'⟩) := by
  cases h with
  | stopped fault hfault hall =>
    have hno := hinput fault (hall cache₀ hcache₀)
    rw [hfault] at hno
    cases hno
  | same result hnone hall =>
    have halone : alone env policy d r = result := congrArg Prod.fst hnone
    obtain ⟨_, _, hrun₀⟩ := hall cache₀ hcache₀
    obtain ⟨cache', hcache', hrun⟩ := hall cache hcache
    refine ⟨cache', hcache', ?_⟩
    rw [runOn_analyzeOrFail, hrun, halone]
    cases result with
    | ok o => rfl
    | error fault =>
      dsimp only
      rw [if_pos (hinput fault (congrArg Prod.fst hrun₀))]
      rfl

theorem runOn_analyzeAll_of_indifferent {rs : List Request} (h : ∀ r ∈ rs, Indifferent P d (analyze env policy r))
    {cache₀ : Option (ManifestCache ι)} (hcache₀ : P cache₀)
    (hinput : ∀ r ∈ rs, ∀ fault, (runOn (analyze env policy r) ⟨d, cache₀⟩).1 = .error fault → fault.isInput = true)
    {cache : Option (ManifestCache ι)} (hcache : P cache) : ∃ cache',
      runOn (analyzeAll env policy rs) ⟨d, cache⟩ =
        (.ok (rs.map fun r => settled r (alone env policy d r)), ⟨d, cache'⟩) := by
  -- the induction is on the requests; each analysis leaves the disk and a cache of the same kind to those
  -- that follow
  induction rs generalizing cache with
  | nil => exact ⟨cache, rfl⟩
  | cons r rs ih =>
    obtain ⟨cache₁, hcache₁, hrun⟩ :=
      (h r List.mem_cons_self).analyzeOrFail hcache₀ (hinput r List.mem_cons_self) hcache
    obtain ⟨cache₂, hrest⟩ := ih (fun r hr => h r (List.mem_cons_of_mem _ hr))
      (fun r hr => hinput r (List.mem_cons_of_mem _ hr)) hcache₁
    refine ⟨cache₂, ?_⟩
    rw [analyzeAll] at hrest ⊢
    rw [List.mapM_cons, runOn_bind, hrun]
    dsimp only
    rw [runOn_bind, hrest]
    rfl

/-- Requests that share a manifest: one for a module without declared references, one for a target that there is
not, and two for one target by its names in either case. -/
def sharedRequests : List Request :=
  [undeclaredRequest, { loopRequest with target := some ⟨"u", none⟩ }, loopRequest,
    { loopRequest with target := some ⟨"T", none⟩ }]

end ReferenceAudit.Analysis

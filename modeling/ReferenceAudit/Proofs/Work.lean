import ReferenceAudit.Analysis
import ReferenceAudit.Proofs.DiskWrites

/-!
# Runs of work on a disk and a cache

What a run of work gives and what it leaves, for each way in which work is put together.
-/
namespace ReferenceAudit.Analysis
variable {ι α β : Type}

/-- What work gives, or the fault that it ends with, and what it leaves. -/
def runOn (x : Work ι α) (w : Workspace ι) : Except Fault α × Workspace ι := x.run.run w

@[simp] theorem runOn_orFault (x : Except Fault α) (w : Workspace ι) : runOn (orFault x) w = (x, w) := by
  cases x <;> rfl

@[simp] theorem runOn_look (f : Disk → Except Fault α) (w : Workspace ι) : runOn (look f) w = (f w.disk, w) :=
  runOn_orFault (f w.disk) w

theorem runOn_bind (x : Work ι α) (f : α → Work ι β) (w : Workspace ι) :
    runOn (x >>= f) w = match runOn x w with
      | (.ok a, w) => runOn (f a) w
      | (.error fault, w) => (.error fault, w) := by
  rw [runOn, run_bind, runOn]
  obtain ⟨result, v⟩ := x.run.run w
  cases result <;> rfl

theorem runOn_bind_eq_ok {x : Work ι α} {f : α → Work ι β} {w w' : Workspace ι} {b : β} :
    runOn (x >>= f) w = (.ok b, w') ↔ ∃ a v, runOn x w = (.ok a, v) ∧ runOn (f a) v = (.ok b, w') := run_bind_eq_ok

theorem runOn_bind_eq_error {x : Work ι α} {f : α → Work ι β} {w w' : Workspace ι} {fault : Fault} :
    runOn (x >>= f) w = (.error fault, w') ↔
      runOn x w = (.error fault, w') ∨ ∃ a v, runOn x w = (.ok a, v) ∧ runOn (f a) v = (.error fault, w') :=
  run_bind_eq_error

@[simp] theorem runOn_onDisk (e : Effect α) (w : Workspace ι) :
    runOn (onDisk e) w = ((e.runOn w.disk).1, { w with disk := (e.runOn w.disk).2 }) := by
  have hget : (get : Work ι (Workspace ι)).run.run w = (.ok w, w) := rfl
  rw [runOn, onDisk, run_bind, hget]
  exact runOn_orFault _ _

theorem runOn_tryCatch (x : Work ι α) (f : Fault → Work ι α) (w : Workspace ι) :
    runOn (tryCatch x f) w = match runOn x w with
      | (.ok a, w) => (.ok a, w)
      | (.error fault, w) => runOn (f fault) w := by
  rw [runOn, run_tryCatch, runOn]
  obtain ⟨result, v⟩ := x.run.run w
  cases result <;> rfl

theorem runOn_map (f : α → β) (x : Work ι α) (w : Workspace ι) :
    runOn (f <$> x) w = ((runOn x w).1.map f, (runOn x w).2) := by
  have hmap : f <$> x = x >>= fun a => pure (f a) := (bind_pure_comp f x).symm
  rw [hmap, runOn_bind]
  obtain ⟨result, v⟩ := runOn x w
  cases result <;> rfl

/-- Without a cache a target is resolved afresh; a cache is left as the call leaves it. -/
theorem runOn_resolve [DecidableEq ι] (env : Environment ι) (path : Path) (selector : Selector)
    (ignored : Except Fault (List String)) (w : Workspace ι) :
    runOn (resolve env path selector ignored) w = match w.cache with
      | none => (resolveAfresh w.disk path selector ignored (env.namings env.naming), w)
      | some c =>
        let out := c.resolve env.allocation w.disk env.namings path selector ignored env.naming
        (out.1, { w with cache := some out.2 }) := by
  have hget : runOn (get : Work ι (Workspace ι)) w = (.ok w, w) := rfl
  rw [resolve, runOn_bind, hget]
  dsimp only
  cases w.cache with
  | none => exact runOn_orFault _ w
  | some c => exact runOn_orFault _ _

/-- The packages to judge by are none without a manifest, else the manifest's target. -/
theorem resolvePackages_eq_ok [DecidableEq ι] {env : Environment ι} {policy : Policy} {r : Request}
    {w w' : Workspace ι} {resolved : Option Resolved}
    (h : runOn (resolvePackages env policy r) w = (.ok resolved, w')) :
    (r.manifest = none ∧ resolved = none ∧ w' = w) ∨
      ∃ path selector x, r.manifest = some path ∧ r.target = some selector ∧ resolved = some x ∧
        runOn (resolve env (Path.ofString path) selector policy.ignoredBuildFiles) w = (.ok x, w') := by
  rw [resolvePackages] at h
  cases hmanifest : r.manifest with
  | none =>
    rw [hmanifest] at h
    cases h
    exact Or.inl ⟨rfl, rfl, rfl⟩
  | some path => cases htarget : r.target with
    | none =>
      rw [hmanifest, htarget] at h
      cases h
    | some selector =>
      rw [hmanifest, htarget] at h
      dsimp only at h
      rw [runOn_map] at h
      refine Or.inr ⟨path, selector, ?_⟩
      generalize runOn (resolve env (Path.ofString path) selector policy.ignoredBuildFiles) w = out at h ⊢
      obtain ⟨result, v⟩ := out
      cases result with
      | error fault => cases h
      | ok x =>
        cases h
        exact ⟨x, rfl, rfl, rfl, rfl⟩

/-- What an analysis writes beside its outcome. -/
def runDump (policy : Policy) (r : Request) (used : List String) : Work ι (List Path) :=
  if policy.dump then onDisk (Store.dump r.declared.parent used r.offered) else pure []

section
variable [DecidableEq ι] {env : Environment ι} {policy : Policy} {r : Request} {w w' : Workspace ι} {o : Outcome}

theorem runOn_analyze_of_compilerFailed (h : r.compilerFailed = true) (w : Workspace ι) :
    runOn (analyze env policy r) w = (.ok (Outcome.skipped r.module "compiler reported errors"), w) := by
  rw [analyze, if_pos h]
  rfl

/-- Among others, an analysis that ends with a fault of its input gives an outcome all the same. -/
theorem runOn_analyzeOrFail (env : Environment ι) (policy : Policy) (r : Request) (w : Workspace ι) :
    runOn (analyzeOrFail env policy r) w = match runOn (analyze env policy r) w with
      | (.ok o, v) => (.ok o, v)
      | (.error fault, v) => if fault.isInput then (.ok (Outcome.failed r.module fault), v) else
          (.error fault, v) := by
  rw [analyzeOrFail, runOn_tryCatch]
  obtain ⟨result, v⟩ := runOn (analyze env policy r) w
  cases result with
  | ok o => rfl
  | error fault =>
    dsimp only
    split <;> rfl

/-- The steps of an analysis, one after the other. -/
theorem analyze_eq_bind (h : r.compilerFailed = false) :
    analyze env policy r = (do
      let references ← look (Store.loadReferences · r.declared)
      let used ← look (usedModules · r)
      let resolved ← resolvePackages env policy r
      let dumped ← runDump policy r used
      orFault (conclude policy r dumped (verdicts policy resolved references used))) := by
  have hnot : ¬ r.compilerFailed = true := by simp [h]
  rw [analyze, if_neg hnot]
  unfold runDump
  cases policy.dump <;> rfl

/-- An analysis goes no further than declared references that cannot be loaded. -/
theorem runOn_analyze_of_loadReferences_eq_error {fault : Fault} (h : r.compilerFailed = false)
    (hload : Store.loadReferences w.disk r.declared = .error fault) :
    runOn (analyze env policy r) w = (.error fault, w) := by
  rw [analyze_eq_bind h, runOn_bind, runOn_look, hload]

/-- An analysis that was not spared has an outcome where each of its steps gives something. -/
theorem analyze_eq_ok_iff (h : r.compilerFailed = false) :
    runOn (analyze env policy r) w = (.ok o, w') ↔ ∃ references used resolved v dumped,
      Store.loadReferences w.disk r.declared = .ok references ∧ usedModules w.disk r = .ok used ∧
      runOn (resolvePackages env policy r) w = (.ok resolved, v) ∧
        runOn (runDump policy r used) v = (.ok dumped, w') ∧
      conclude policy r dumped (verdicts policy resolved references used) = .ok o := by
  rw [analyze_eq_bind h]
  simp only [runOn_bind_eq_ok, runOn_look, runOn_orFault, Prod.mk.injEq]
  constructor
  · rintro ⟨references, _, ⟨hreferences, rfl⟩, used, _, ⟨hused, rfl⟩, resolved, v, hresolved, dumped, _, hdumped,
      hconclude, rfl⟩
    exact ⟨references, used, resolved, v, dumped, hreferences, hused, hresolved, hdumped, hconclude⟩
  · rintro ⟨references, used, resolved, v, dumped, hreferences, hused, hresolved, hdumped, hconclude⟩
    exact ⟨references, w, ⟨hreferences, rfl⟩, used, w, ⟨hused, rfl⟩, resolved, v, hresolved, dumped, w', hdumped,
      hconclude, rfl⟩

/-- An analysis fails as one of its steps does, each after those before it. -/
theorem analyze_fault_cases {fault : Fault} (h : r.compilerFailed = false)
    (hrun : (runOn (analyze env policy r) w).1 = .error fault) :
    Store.loadReferences w.disk r.declared = .error fault ∨
      ∃ references, Store.loadReferences w.disk r.declared = .ok references ∧
        (usedModules w.disk r = .error fault ∨ (runOn (resolvePackages env policy r) w).1 = .error fault ∨
          ∃ used resolved v, runOn (resolvePackages env policy r) w = (.ok resolved, v) ∧
            ((runOn (runDump policy r used) v).1 = .error fault ∨
              ∃ dumped, conclude policy r dumped (verdicts policy resolved references used) = .error fault)) := by
  obtain ⟨w', hrun⟩ : ∃ w', runOn (analyze env policy r) w = (.error fault, w') := ⟨_, Prod.ext hrun rfl⟩
  rw [analyze_eq_bind h] at hrun
  rcases runOn_bind_eq_error.1 hrun with hreferences | ⟨references, v₁, hreferences, hrun⟩ <;>
    rw [runOn_look, Prod.mk.injEq] at hreferences
  · exact Or.inl hreferences.1
  obtain ⟨hreferences, rfl⟩ := hreferences
  refine Or.inr ⟨references, hreferences, ?_⟩
  rcases runOn_bind_eq_error.1 hrun with hused | ⟨used, v₂, hused, hrun⟩ <;> rw [runOn_look, Prod.mk.injEq] at hused
  · exact Or.inl hused.1
  obtain ⟨-, rfl⟩ := hused
  rcases runOn_bind_eq_error.1 hrun with hresolved | ⟨resolved, v₃, hresolved, hrun⟩
  · exact Or.inr (Or.inl (by rw [hresolved]))
  refine Or.inr (Or.inr ⟨used, resolved, v₃, hresolved, ?_⟩)
  rcases runOn_bind_eq_error.1 hrun with hdumped | ⟨dumped, v₄, -, hrun⟩
  · exact Or.inl (by rw [hdumped])
  · rw [runOn_orFault, Prod.mk.injEq] at hrun
    exact Or.inr ⟨dumped, hrun.1⟩

end
end ReferenceAudit.Analysis

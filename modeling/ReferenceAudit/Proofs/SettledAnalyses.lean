import ReferenceAudit.Proofs.ExpectedFaults
import ReferenceAudit.Proofs.InputFaults

/-!
# Which analyses do not keep the others from being made

Analyses are made one after another, and one that fails by its input is settled with that. Main statement: where
nothing obstructs an analysis at its turn, there is an outcome for every request. A directory in the place of a
file does obstruct one, and then there are no outcomes at all.
-/
namespace ReferenceAudit.Analysis
variable {ι : Type} [DecidableEq ι] {env : Environment ι} {policy : Policy} {r : Request} {rs : List Request}
  {w : Workspace ι} {fault : Fault}

/-- Nothing obstructs an analysis at its turn, with the disk and the cache that those before it leave. -/
def UnobstructedTurns (env : Environment ι) (policy : Policy) : List Request → Workspace ι → Prop
  | [], _ => True
  | r :: rs, w => (r.compilerFailed = false → Unobstructed policy w r) ∧
    UnobstructedTurns env policy rs (runOn (analyzeOrFail env policy r) w).2

theorem exists_runOn_analyzeOrFail
    (h : ∀ fault, (runOn (analyze env policy r) w).1 = .error fault → fault.isInput = true) :
    ∃ o, runOn (analyzeOrFail env policy r) w = (.ok o, (runOn (analyzeOrFail env policy r) w).2) ∧
      o.module = r.module := by
  rw [runOn_analyzeOrFail]
  cases hrun : runOn (analyze env policy r) w with
  | mk result v => cases result with
    | ok o => exact ⟨o, rfl, module_of_analyze hrun⟩
    | error fault =>
      have hinput := h fault (by rw [hrun])
      refine ⟨Outcome.failed r.module fault, ?_, rfl⟩
      simp [hinput]

theorem UnobstructedTurns.exists_runOn_analyzeAll (hnaming : (env.namings env.naming).FailsByInput)
    {ids : List String} (hignored : policy.ignoredBuildFiles = .ok ids) {s : Suppression}
    (hs : policy.suppression = .ok s) (hp : ∀ r ∈ rs, ∀ part ∈ r.declared.parts, Path.IsComponent part)
    (h : UnobstructedTurns env policy rs w) :
    ∃ os w', runOn (analyzeAll env policy rs) w = (.ok os, w') ∧ os.map (·.module) = rs.map (·.module) := by
  -- the induction is on the requests; what one analysis leaves is what the next one is made on
  induction rs generalizing w with
  | nil => exact ⟨[], w, rfl, rfl⟩
  | cons r rs ih =>
    obtain ⟨hclear, hrest⟩ := h
    obtain ⟨o, hfirst, hmodule⟩ := exists_runOn_analyzeOrFail fun fault hrun =>
      Unobstructed.isInput_of_analyze hclear (hp r List.mem_cons_self) hnaming hignored hs hrun
    obtain ⟨os, w', hothers, hmodules⟩ := ih (fun r hr => hp r (List.mem_cons_of_mem _ hr)) hrest
    refine ⟨o :: os, w', ?_, ?_⟩
    · rw [analyzeAll] at hothers ⊢
      rw [List.mapM_cons]
      exact runOn_bind_eq_ok.2 ⟨o, _, hfirst, runOn_bind_eq_ok.2 ⟨os, w', hothers, rfl⟩⟩
    · rw [List.map_cons, List.map_cons, hmodule, hmodules]

/-- **Bad inputs are settled one by one.** Where nothing obstructs it, an analysis by a configuration that is
accepted gives an outcome or fails by its input; and where nothing obstructs the analyses at their turns, there
is one outcome for each request, in their order. -/
theorem analyses_settle (env : Environment ι) (hnaming : (env.namings env.naming).FailsByInput) (config : Config)
    (htyped : config.Typed) (hvalid : config.validate = .ok ()) :
    (∀ r w fault, (∀ part ∈ r.declared.parts, Path.IsComponent part) →
      (r.compilerFailed = false → Unobstructed config.policy w r) →
      (runOn (analyze env config.policy r) w).1 = .error fault → fault.isInput = true) ∧
    ∀ rs w, (∀ r ∈ rs, ∀ part ∈ r.declared.parts, Path.IsComponent part) →
      UnobstructedTurns env config.policy rs w →
      ∃ os w', runOn (analyzeAll env config.policy rs) w = (.ok os, w') ∧
        os.map (·.module) = rs.map (·.module) := by
  obtain ⟨ids, hignored⟩ := htyped.ignoredBuildFiles_eq
  obtain ⟨s, hs⟩ := htyped.suppression_eq hvalid
  constructor
  · intro r w fault hp hclear hrun
    exact Unobstructed.isInput_of_analyze hclear hp hnaming hignored hs hrun
  · intro rs w hp hturns
    exact hturns.exists_runOn_analyzeAll hnaming hignored hs hp

theorem failsByInput_absolute (here : Path) : (ModuleNaming.absolute here).FailsByInput := by
  intro path fault h
  cases h

def listingConfig : Config := { Config.default with dumpReferenceInfo := .bool true }

def undeclaredRequest : Request := { loopRequest with module := "y", declared := Path.ofString "n" }

private theorem runOn_analyze_undeclared (cache : Option (ManifestCache Unit)) :
    runOn (analyze loopEnvironment listingConfig.policy undeclaredRequest) ⟨loopDisk, cache⟩ =
      (.error (.inputMissing "Declared references file" (some "n")), ⟨loopDisk, cache⟩) := by
  have hmissing : Store.loadReferences loopDisk (Path.ofString "n") =
      .error (.inputMissing "Declared references file" (some "n")) := by
    decide +kernel
  exact runOn_analyze_of_loadReferences_eq_error rfl hmissing

theorem unobstructed_loop (policy : Policy) (cache : Option (ManifestCache Unit)) {r : Request}
    (hused : r.used = some []) (hmanifest : r.manifest = some "m")
    (hdeclared : r.declared = Path.ofString "r" ∨ r.declared = Path.ofString "n") :
    Unobstructed policy ⟨loopDisk, cache⟩ r := by
  constructor
  · rcases hdeclared with h | h <;> rw [h] <;> dsimp only <;> decide +kernel
  · intro hnone
    rw [hused] at hnone
    cases hnone
  · intro _ path hpath
    rw [hmanifest] at hpath
    cases hpath
    exact Manifest.legible_of_load load_loop
  · intro _ path hpath _
    rw [hmanifest] at hpath
    cases hpath
    exact ⟨_, pathKey_loop⟩
  · intro _
    rcases hdeclared with h | h <;> rw [h] <;> dsimp only <;> decide +kernel

/-- One analysis that fails and one that writes listings, through a cache. -/
theorem undeclared_settled : listingConfig.Typed ∧ listingConfig.validate = .ok () ∧
    (∃ fault, (runOn (analyze loopEnvironment listingConfig.policy undeclaredRequest) ⟨loopDisk, some .empty⟩).1 =
      .error fault ∧ fault.isInput = true) ∧
    ∃ os w', runOn (analyzeAll loopEnvironment listingConfig.policy [undeclaredRequest, loopRequest])
      ⟨loopDisk, some .empty⟩ = (.ok os, w') ∧ os.map (·.module) = ["y", "x"] := by
  have hnaming : (loopEnvironment.namings loopEnvironment.naming).FailsByInput := failsByInput_absolute _
  have htyped : listingConfig.Typed := ⟨⟨true, rfl⟩, ⟨true, rfl⟩, ⟨[], rfl⟩, ⟨[], rfl⟩, ⟨[], rfl⟩, ⟨[], rfl⟩⟩
  have hvalid : listingConfig.validate = .ok () := rfl
  have hundeclared := runOn_analyze_undeclared (some .empty)
  have hparts : ∀ r ∈ [undeclaredRequest, loopRequest], ∀ part ∈ r.declared.parts, Path.IsComponent part := by
    intro r hr part hm
    rcases List.mem_cons.1 hr with rfl | hr
    · exact Path.isComponent_of_mem_ofString hm
    · rw [List.mem_singleton.1 hr] at hm
      exact Path.isComponent_of_mem_ofString hm
  have hturns : UnobstructedTurns loopEnvironment listingConfig.policy [undeclaredRequest, loopRequest]
      ⟨loopDisk, some .empty⟩ := by
    refine ⟨fun _ => unobstructed_loop _ _ rfl rfl (Or.inr rfl), fun _ => ?_, trivial⟩
    rw [runOn_analyzeOrFail, hundeclared]
    exact unobstructed_loop _ _ rfl rfl (Or.inl rfl)
  obtain ⟨hone, hall⟩ := analyses_settle loopEnvironment hnaming listingConfig htyped hvalid
  have hinput := hone undeclaredRequest _ _ (hparts _ List.mem_cons_self)
    (fun _ => unobstructed_loop _ _ rfl rfl (Or.inr rfl))
    (congrArg Prod.fst hundeclared)
  exact ⟨htyped, hvalid, ⟨_, congrArg Prod.fst hundeclared, hinput⟩, hall _ _ hparts hturns⟩

theorem runOn_analyzeAll_of_isDirectory (hfailed : r.compilerFailed = false)
    (hdir : w.disk.find? r.declared.text = some .directory) (rs : List Request) :
    runOn (analyzeAll env policy (r :: rs)) w = (.error (.isDirectory r.declared.text), w) := by
  obtain ⟨loc, hloc, hentry⟩ := Disk.find?_eq_some_iff.1 hdir
  have hload : Store.loadReferences w.disk r.declared = .error (.isDirectory r.declared.text) := by
    rw [Store.loadReferences, if_pos (Disk.isThere_of_find? hdir)]
    simp [Disk.read, hloc, hentry, Except.mapError, bind, Except.bind]
  have hrun : runOn (analyze env policy r) w = (.error (.isDirectory r.declared.text), w) :=
    runOn_analyze_of_loadReferences_eq_error hfailed hload
  rw [analyzeAll, List.mapM_cons, runOn_bind, runOn_analyzeOrFail, hrun]
  rfl

def misdeclaredRequest : Request := { loopRequest with declared := Path.ofString "/p" }

/-- It keeps the one after it from being analysed, though that one is in order. -/
theorem misdeclared_stops_all : Config.default.Typed ∧ Config.default.validate = .ok () ∧
    (Fault.isDirectory "/p").isInput = false ∧
    runOn (analyzeAll loopEnvironment Config.default.policy [misdeclaredRequest, loopRequest]) ⟨loopDisk, none⟩ =
      (.error (.isDirectory "/p"), ⟨loopDisk, none⟩) := by
  have hdir : loopDisk.find? misdeclaredRequest.declared.text = some .directory := by decide +kernel
  exact ⟨Config.typed_default, rfl, rfl, runOn_analyzeAll_of_isDirectory rfl hdir _⟩

end ReferenceAudit.Analysis

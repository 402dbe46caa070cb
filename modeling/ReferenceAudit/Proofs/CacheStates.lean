import ReferenceAudit.Proofs.CacheRuns

/-!
# The states of a cache

Whatever a cache was asked, on whatever disks, with whatever faults among its answers and whichever tokens were
given out: each manifest that it keeps was read by one of the calls, and each target was resolved by one of
them. Main statement: no two manifests have one token, even if tokens come back once their manifests are gone,
so the token of a target leads to the very manifest that the target was resolved from.
-/
namespace ReferenceAudit

def Resolved.IsResolution {ι : Type} (namings : ι → ModuleNaming) (r : Resolved) : Prop :=
  ∃ d m selector ignored naming, resolveTarget d m selector ignored (namings naming) = .ok r

namespace ManifestCache
variable {ι : Type}

/-- What a cache is asked, with the disk that the call finds. Tokens may be given out
in another way at each call. -/
inductive Call (ι : Type)
  | clear
  | manifest (alloc : Allocation) (d : Disk) (path : Path)
  | resolve (alloc : Allocation) (d : Disk) (path : Path) (selector : Selector)
      (ignored : Except Fault (List String)) (naming : ι)

namespace Call

/-- Where a call reads a manifest, if it does not find it kept. -/
def source? : Call ι → Option (Disk × Path)
  | clear => none
  | manifest _ d path | resolve _ d path .. => some (d, path)

/-- A manifest as a call can have kept it under a name: that of the path from which
it was read, with the file's time. -/
def Reads (call : Call ι) (key : String) (k : KeptManifest) : Prop :=
  ∃ d path, call.source? = some (d, path) ∧ pathKey d path = .ok key ∧
    Manifest.load d path = .ok k.manifest ∧ k.time = d.time? path.text

/-- A target as a call can have resolved it from a manifest, by a selector and ids that have the target's key. -/
def Resolves (namings : ι → ModuleNaming) (call : Call ι) (m : Manifest) (key : TargetKey ι)
    (r : Resolved) : Prop :=
  ∃ alloc d path selector ids, call = .resolve alloc d path selector (.ok ids) key.naming ∧
    key.target = Text.fold selector.targetKey ∧ key.ignored = Text.sorted (ids.map packageKey) ∧
    resolveTarget d m selector key.ignored (namings key.naming) = .ok r

theorem Reads.exists_time {call : Call ι} {key : String} {k : KeptManifest} (h : call.Reads key k) :
    ∃ t, k.time = some t := by
  obtain ⟨d, path, -, -, hload, htime⟩ := h
  obtain ⟨bytes, t, hfile⟩ := Manifest.find?_of_load hload
  exact ⟨t, htime.trans (Disk.time?_of_find? hfile)⟩

theorem Resolves.isResolution {namings : ι → ModuleNaming} {call : Call ι} {m : Manifest} {key : TargetKey ι}
    {r : Resolved} (h : call.Resolves namings m key r) : r.IsResolution namings := by
  obtain ⟨-, d, -, selector, -, -, -, -, hr⟩ := h
  exact ⟨d, m, selector, key.ignored, key.naming, hr⟩

variable [DecidableEq ι]

def apply (namings : ι → ModuleNaming) (c : ManifestCache ι) : Call ι → ManifestCache ι
  | clear => c.clear
  | manifest alloc d path => (c.manifest alloc d path).2
  | resolve alloc d path selector ignored naming => (c.resolve alloc d namings path selector ignored naming).2

end Call

/-- The manifests and the targets of a cache come from some calls, and hang together. -/
def ComesFrom (namings : ι → ModuleNaming) (calls : List (Call ι)) : ManifestCache ι → Prop :=
  Linked (fun key k => ∃ call ∈ calls, call.Reads key k) fun m key r =>
    ∃ call ∈ calls, call.Resolves namings m key r

variable [DecidableEq ι] {namings : ι → ModuleNaming} {calls : List (Call ι)} {c : ManifestCache ι}

theorem ComesFrom.apply (h : ComesFrom namings calls c) (call : Call ι) :
    ComesFrom namings (calls ++ [call]) (call.apply namings c) := by
  have hlast : call ∈ calls ++ [call] := List.mem_append_right _ List.mem_cons_self
  have hearlier : ComesFrom namings (calls ++ [call]) c := by
    refine Linked.mono h ?_ ?_
    · rintro key k ⟨earlier, hcall, hreads⟩
      exact ⟨earlier, List.mem_append_left _ hcall, hreads⟩
    · rintro - k - key r ⟨earlier, hcall, hresolves⟩
      exact ⟨earlier, List.mem_append_left _ hcall, hresolves⟩
  cases call with
  | clear => exact linked_clear c
  | manifest alloc d path =>
    exact (hearlier.manifest alloc fun key m token hkey hload => ⟨_, hlast, d, path, rfl, hkey, hload, rfl⟩).1
  | resolve alloc d path selector ignored naming =>
    obtain ⟨hlinked, hkept⟩ :=
      hearlier.manifest alloc fun key m token hkey hload => ⟨_, hlast, d, path, rfl, hkey, hload, rfl⟩
    rw [Call.apply]
    rcases resolve_cases alloc d namings path selector ignored naming c with
      ⟨fault, c', hout, hresolve⟩ | ⟨k, c', hout, ⟨fault, -, hresolve⟩ | ⟨ids, rfl, hresolve⟩⟩ <;>
      rw [hout] at hlinked hkept <;> rw [hresolve]
    · exact hlinked
    · exact hlinked
    · obtain ⟨key, hmem⟩ := hkept k rfl
      exact hlinked.resolveKept hmem fun r hr => ⟨_, hlast, alloc, d, path, selector, ids, rfl, rfl, rfl, hr⟩

def after (namings : ι → ModuleNaming) (calls : List (Call ι)) : ManifestCache ι :=
  calls.foldl (Call.apply namings) empty

theorem after_concat (namings : ι → ModuleNaming) (calls : List (Call ι)) (call : Call ι) :
    after namings (calls ++ [call]) = call.apply namings (after namings calls) := by
  rw [after, List.foldl_append]
  rfl

theorem comesFrom_after (namings : ι → ModuleNaming) (calls : List (Call ι)) :
    ComesFrom namings calls (after namings calls) := by
  -- the induction is on the calls, the last one first
  induction calls using List.reverseRecOn with
  | nil => exact linked_empty
  | append_singleton calls call ih =>
    rw [after_concat]
    exact ih.apply call

/-- A manifest is written anew, and the next call gives its token out again: nothing
is left of the target that was resolved before. -/
example : let written := stockedDisk.addFile ["w", "m"] (Text.Utf8.encode packageText)
    let rewritten := written.addFile ["w", "m"] (Text.Utf8.encode bareText)
    let naming : Unit → ModuleNaming := fun _ => .absolute ⟨.single, ["w"]⟩
    let before : List (Call Unit) := [.resolve .successor written (Path.ofString "m") ⟨"T", none⟩ (.ok []) ()]
    let c := after naming before
    let c' := after naming (before ++ [.manifest .successor rewritten (Path.ofString "m")])
    c.tokens = [1] ∧ c.targets.length = 1 ∧ c'.tokens = [1] ∧ c'.targets.length = 0 := by
  decide +kernel

/-- A cache that some calls lead to, with whatever disks and tokens there are at each call. -/
def Reachable (namings : ι → ModuleNaming) (c : ManifestCache ι) : Prop := ∃ calls, c = after namings calls

theorem reachable_empty : Reachable namings empty := ⟨[], rfl⟩

theorem Reachable.apply (h : Reachable namings c) (call : Call ι) : Reachable namings (call.apply namings c) := by
  obtain ⟨calls, rfl⟩ := h
  exact ⟨calls ++ [call], (after_concat namings calls call).symm⟩

theorem Reachable.isResolution (h : Reachable namings c) : ∀ t ∈ c.targets, t.2.IsResolution namings := by
  obtain ⟨calls, rfl⟩ := h
  intro t ht
  obtain ⟨e, -, -, call, -, hresolves⟩ := (comesFrom_after namings calls).targets t ht
  exact hresolves.isResolution

theorem Reachable.isResolution_resolve (h : Reachable namings c) {alloc : Allocation} {d : Disk} {path : Path}
    {selector : Selector} {ignored : Except Fault (List String)} {naming : ι} {r : Resolved}
    (hr : (c.resolve alloc d namings path selector ignored naming).1 = .ok r) : r.IsResolution namings := by
  rcases resolve_cases alloc d namings path selector ignored naming c with
    ⟨fault, c', -, hresolve⟩ | ⟨k, c', hout, ⟨fault, -, hresolve⟩ | ⟨ids, -, hresolve⟩⟩ <;> rw [hresolve] at hr
  · cases hr
  · cases hr
  · have hkept : ∀ t ∈ c'.targets, t.2.IsResolution namings := by
      have hc' := h.apply (.manifest alloc d path)
      rw [Call.apply, hout] at hc'
      exact hc'.isResolution
    rcases resolveKept_cases d namings k selector ids naming c' with
      ⟨r', htarget, hout⟩ | ⟨-, ⟨fault, -, hout⟩ | ⟨r', hresolved, hout⟩⟩ <;> rw [hout] at hr <;> cases hr
    · exact hkept _ (mem_targets_of_target? htarget)
    · exact ⟨d, k.manifest, selector, _, naming, hresolved⟩

end ManifestCache
end ReferenceAudit

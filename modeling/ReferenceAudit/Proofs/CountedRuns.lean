import ReferenceAudit.Proofs.CacheCounts
import ReferenceAudit.Proofs.CacheRuns

/-!
# Runs of a cache, counted

A run in which the cache is asked for targets only, of whatever manifests by whatever spellings of their paths.
As each change of a file gives it a time that it did not have before, no version of a file comes back. Main
statement: if all calls succeed, the misses are as many as there are different versions and different uses among
the calls, and the other halves of the calls are hits; what happens to other files costs a manifest nothing.
-/
namespace ReferenceAudit.ManifestCache
variable {ι : Type}

/-- What a call asked for. If it gave a target, it could read the ignored ids. -/
def Lookup.use (l : Lookup ι) : Use ι := useOf l.disk l.path l.selector (l.ignored.toOption.getD []) l.naming

namespace Trace

def uses (t : Trace ι) : List (Use ι) := t.lookups.map Lookup.use

def versions (t : Trace ι) : List Version := t.uses.map (·.version)

def Succeeds (t : Trace ι) : Prop := ∀ l ∈ t.lookups, l.answer.isOk = true

instance (t : Trace ι) : Decidable t.Succeeds := inferInstanceAs (Decidable (∀ l ∈ t.lookups, l.answer.isOk = true))

end Trace

variable {d : Disk} {cs : List Disk.Change} {vs : List Version} {path : Path} {bytes : List UInt8} {time : Nat}

/-- Of a disk after some changes versions of files were seen. A version that was seen is the latest of its file
as long as the file is of that version. -/
structure Settled (d : Disk) (cs : List Disk.Change) (vs : List Version) : Prop where
  seen : ∀ v ∈ vs, ∃ loc time, (∀ part ∈ loc, Path.IsComponent part) ∧ v = ⟨placeKey loc, some time⟩ ∧
    Disk.WasOf d cs loc time
  latest : ∀ loc bytes time, (∀ part ∈ loc, Path.IsComponent part) →
    (d.after cs).entryAt? loc = some (.file bytes time) → ⟨placeKey loc, some time⟩ ∈ vs →
    IsLatest vs ⟨placeKey loc, some time⟩

theorem settled_start (d : Disk) : Settled d [] [] := ⟨nofun, nofun⟩

theorem Settled.change (h : Settled d cs vs) {c : Disk.Change} (hnew : Disk.NewTimes d (cs ++ [c])) :
    Settled d (cs ++ [c]) vs := by
  constructor
  · intro v hv
    obtain ⟨loc, time, hparts, hversion, hwas⟩ := h.seen v hv
    exact ⟨loc, time, hparts, hversion, hwas.append [c]⟩
  · intro loc bytes time hparts hfile hv
    obtain ⟨loc', time', hparts', hversion, hwas⟩ := h.seen _ hv
    rw [Version.mk.injEq, Option.some.injEq] at hversion
    obtain ⟨hkey, rfl⟩ := hversion
    rw [← eq_of_placeKey_eq hparts hparts' hkey] at hwas
    exact h.latest loc bytes time hparts (hnew.file_of_after hwas hfile) hv

theorem versionOf_of_find? (h : d.find? path.text = some (.file bytes time)) :
    versionOf d path = ⟨placeKey (d.placeOf path), some time⟩ := by
  rw [versionOf, Disk.time?_of_find? h]

theorem Settled.isLatest (h : Settled d cs vs) (hd : (d.after cs).Rooted)
    (hp : ∀ part ∈ path.parts, Path.IsComponent part)
    (hfile : (d.after cs).find? path.text = some (.file bytes time)) (hv : versionOf (d.after cs) path ∈ vs) :
    IsLatest vs (versionOf (d.after cs) path) := by
  rw [versionOf_of_find? hfile] at hv ⊢
  exact h.latest _ bytes time (fun _ hm => Disk.isComponent_of_mem_placeOf hd hp hm)
    (Disk.entryAt?_placeOf hd hp hfile) hv

theorem Settled.see (h : Settled d cs vs) (hd : (d.after cs).Rooted)
    (hp : ∀ part ∈ path.parts, Path.IsComponent part)
    (hfile : (d.after cs).find? path.text = some (.file bytes time)) :
    Settled d cs (vs ++ [versionOf (d.after cs) path]) := by
  have hparts : ∀ part ∈ (d.after cs).placeOf path, Path.IsComponent part :=
    fun _ hm => Disk.isComponent_of_mem_placeOf hd hp hm
  have hplace := Disk.entryAt?_placeOf hd hp hfile
  have hversion := versionOf_of_find? hfile
  refine ⟨?_, fun loc bytes' time' hloc hfile' hv => ?_⟩
  · refine List.forall_mem_append.2 ⟨h.seen, List.forall_mem_singleton.2 ?_⟩
    exact ⟨_, time, hparts, hversion, Disk.wasOf_of_after hplace⟩
  · rw [isLatest_concat_iff, hversion]
    by_cases hkey : placeKey ((d.after cs).placeOf path) = placeKey loc
    · have hsame : (d.after cs).placeOf path = loc := eq_of_placeKey_eq hparts hloc hkey
      rw [hsame, hfile'] at hplace
      cases hplace
      exact Or.inl ⟨hkey, by rw [hkey]⟩
    · refine Or.inr ⟨hkey, h.latest loc bytes' time' hloc hfile' ?_⟩
      rcases List.mem_append.1 hv with hv | hv
      · exact hv
      · rw [hversion] at hv
        exact absurd (congrArg Version.key (List.mem_singleton.1 hv)).symm hkey

/-- After changes that are not about a file, the file is as it was, if it is still there. -/
theorem find?_of_others (hd : d.Rooted) (hp : ∀ part ∈ path.parts, Path.IsComponent part) {cs' : List Disk.Change}
    (hfile : (d.after cs).find? path.text = some (.file bytes time))
    (hothers : ∀ stamp ∈ Disk.stamps cs', stamp.1 ≠ d.placeOf path)
    (hthere : (d.after (cs ++ cs')).isFile path.text = true) :
    (d.after (cs ++ cs')).find? path.text = some (.file bytes time) := by
  have hrooted (cs : List Disk.Change) : (d.after cs).Rooted := hd.of_cwd_eq (Disk.cwd_after d cs)
  have hplaces (cs : List Disk.Change) : (d.after cs).placeOf path = d.placeOf path :=
    Disk.placeOf_congr (Disk.cwd_after d cs) path
  rw [Disk.isFile] at hthere
  split at hthere
  · rename_i bytes' time' hnow
    have hplace := Disk.entryAt?_placeOf (hrooted _) hp hfile
    have hplace' := Disk.entryAt?_placeOf (hrooted _) hp hnow
    rw [hplaces] at hplace hplace'
    rw [Disk.after_append] at hplace'
    have hold := (Disk.file_of_after hplace').resolve_left fun hstamp => hothers _ hstamp rfl
    rw [hnow, ← hold, hplace]
  · cases hthere

variable [DecidableEq ι] {alloc : Allocation} {namings : ι → ModuleNaming} {c : ManifestCache ι} {ws : List (Use ι)}
  {es : List (Event ι)} {selector : Selector} {ignored : Except Fault (List String)} {ids : List String}
  {naming : ι}

theorem eq_ok_of_isOk_resolve
    (h : (c.resolve alloc d namings path selector ignored naming).1.isOk = true) : ∃ ids, ignored = .ok ids := by
  cases ignored with
  | ok ids => exact ⟨ids, rfl⟩
  | error fault =>
    rcases resolve_cases alloc d namings path selector (.error fault) naming c with
      ⟨fault', c', -, hfailed⟩ | ⟨k, c', -, ⟨fault', -, hfailed⟩ | ⟨ids, hids, -⟩⟩
    · rw [hfailed] at h
      cases h
    · rw [hfailed] at h
      cases h
    · cases hids

theorem Settled.exists_file (h : Settled d cs vs) (hc : Counted vs ws c)
    (hout : (c.resolve alloc (d.after cs) namings path selector (.ok ids) naming).1.isOk = true) :
    ∃ bytes time, (d.after cs).find? path.text = some (.file bytes time) := by
  rcases resolve_cases alloc (d.after cs) namings path selector (.ok ids) naming c with
    ⟨fault, c', -, hfailed⟩ | ⟨k, c', hk, -⟩
  · rw [hfailed] at hout
    cases hout
  · obtain ⟨key, hkey⟩ := exists_pathKey_of_manifest hk
    rcases manifest_cases alloc hkey c with ⟨k', hmem, htime, -⟩ | ⟨c₀, -, -, hreload⟩
    · have hkept : IsLatest vs ⟨key, k'.time⟩ := hc.linked.kept _ hmem
      obtain ⟨loc, time, -, hversion, -⟩ := h.seen _ hkept.mem
      have hsome : k'.time = some time := congrArg Version.time hversion
      obtain ⟨bytes, hfile⟩ := Disk.find?_of_time? (htime.symm.trans hsome)
      exact ⟨bytes, time, hfile⟩
    · rw [hreload] at hk
      rcases reload_cases alloc (d.after cs) path key c₀ with ⟨fault, -, hfailed⟩ | ⟨m, hload, -⟩
      · rw [hfailed] at hk
        cases hk
      · exact Manifest.find?_of_load hload

theorem exists_of_isOk {ε α : Type} {x : Except ε α} (h : x.isOk = true) : ∃ a, x = .ok a := by
  cases x with
  | error e => cases h
  | ok a => exact ⟨a, rfl⟩

/-- The cache has counted what it was asked, and the disk is settled. -/
structure Trace.Tallied (d : Disk) (es : List (Event ι)) (t : Trace ι) : Prop where
  disk : t.disk = d.after (changes es)
  counted : Counted t.versions t.uses t.cache
  settled : Settled d (changes es) t.versions

theorem Trace.Tallied.resolve {t : Trace ι} (h : t.Tallied d es) (hd : d.Rooted) {path : String}
    (hok : (Event.apply alloc namings t (.resolve path selector ignored naming)).Succeeds) :
    (Event.apply alloc namings t (.resolve path selector ignored naming)).Tallied d
      (es ++ [.resolve path selector ignored naming]) := by
  obtain ⟨disk, cache, lookups⟩ := t
  obtain ⟨rfl, hcounted, hsettled⟩ := h
  have hp : ∀ part ∈ (Path.ofString path).parts, Path.IsComponent part := isComponent_ofString path
  have hrooted : (d.after (changes es)).Rooted := hd.of_cwd_eq (Disk.cwd_after d _)
  have hgiven := hok _ (List.mem_append_right _ List.mem_cons_self)
  obtain ⟨ids, rfl⟩ := eq_ok_of_isOk_resolve hgiven
  obtain ⟨bytes, time, hfile⟩ := hsettled.exists_file hcounted hgiven
  obtain ⟨r, hr⟩ := exists_of_isOk hgiven
  have hchanges : changes (es ++ [.resolve path selector (.ok ids) naming]) = changes es := by
    rw [changes_append]
    exact List.append_nil _
  have huses (l : Lookup ι) (c : ManifestCache ι) : (Trace.mk (d.after (changes es)) c (lookups ++ [l])).uses =
      (Trace.mk (d.after (changes es)) cache lookups).uses ++ [l.use] := List.map_append
  have hversions (l : Lookup ι) (c : ManifestCache ι) :
      (Trace.mk (d.after (changes es)) c (lookups ++ [l])).versions =
      (Trace.mk (d.after (changes es)) cache lookups).versions ++ [l.use.version] := by
    rw [versions, huses, List.map_append]
    rfl
  rw [Event.apply]
  refine ⟨by rw [hchanges], ?_, ?_⟩
  · rw [huses, hversions]
    exact hcounted.resolve (hsettled.isLatest hrooted hp hfile) hr
  · rw [hversions, hchanges]
    exact hsettled.see hrooted hp hfile

theorem prefix_lookups_run (es es' : List (Event ι)) :
    (run alloc namings d es).lookups <+: (run alloc namings d (es ++ es')).lookups := by
  induction es' using List.reverseRecOn with
  | nil => rw [List.append_nil]
  | append_singleton es' e ih =>
    have hstep (t : Trace ι) : t.lookups <+: (e.apply alloc namings t).lookups := by
      cases e with
      | change | clear | manifest => exact List.prefix_refl _
      | resolve => exact List.prefix_append _ _
    rw [← List.append_assoc, run_concat]
    exact ih.trans (hstep _)

theorem Trace.Succeeds.of_append {es' : List (Event ι)} (h : (run alloc namings d (es ++ es')).Succeeds) :
    (run alloc namings d es).Succeeds :=
  fun l hl => h l ((prefix_lookups_run es es').subset hl)

theorem tallied_run (hd : d.Rooted) (hclear : .clear ∉ es) (hmanifest : ∀ path, .manifest path ∉ es)
    (hnew : Disk.NewTimes d (changes es)) (hok : (run alloc namings d es).Succeeds) :
    (run alloc namings d es).Tallied d es := by
  -- the induction is on the events, the last one first
  induction es using List.reverseRecOn with
  | nil => exact ⟨rfl, counted_empty, settled_start d⟩
  | append_singleton es e ih =>
    have hchanges := changes_append es [e]
    have hbefore : Disk.NewTimes d (changes es) := Disk.NewTimes.of_append (hchanges ▸ hnew)
    have hlast : e ∈ es ++ [e] := List.mem_append_right _ List.mem_cons_self
    have h : (run alloc namings d es).Tallied d es := ih (fun hm => hclear (List.mem_append_left _ hm))
      (fun path hm => hmanifest path (List.mem_append_left _ hm)) hbefore hok.of_append
    rw [run_concat] at hok ⊢
    cases e with
    | change c =>
      refine ⟨?_, h.counted, ?_⟩
      · rw [hchanges, Disk.after_append, ← h.disk]
        rfl
      · rw [hchanges] at hnew ⊢
        exact h.settled.change hnew
    | clear => exact absurd hlast hclear
    | manifest path => exact absurd hlast (hmanifest path)
    | resolve path selector ignored naming => exact h.resolve hd hok

theorem mem_lookups_run (alloc : Allocation) (namings : ι → ModuleNaming) (d : Disk)
    (earlier since : List (Event ι)) (path : String) (selector : Selector)
    (ignored : Except Fault (List String)) (naming : ι) :
    let t := run alloc namings d earlier
    ⟨t.disk, Path.ofString path, selector, ignored, naming,
        (t.cache.resolve alloc t.disk namings (Path.ofString path) selector ignored naming).1⟩ ∈
      (run alloc namings d (earlier ++ .resolve path selector ignored naming :: since)).lookups := by
  intro t
  rw [List.append_cons]
  refine (prefix_lookups_run _ since).subset ?_
  rw [run_concat]
  exact List.mem_append_right _ List.mem_cons_self

/-- What is asked for again, after changes that are not about its file, is given at once. -/
theorem resolve_after_others (hd : d.Rooted) {earlier since : List (Event ι)} {path : String}
    (hes : es = earlier ++ .resolve path selector (.ok ids) naming :: since)
    (hothers : ∀ stamp ∈ Disk.stamps (changes since), stamp.1 ≠ d.placeOf (Path.ofString path))
    (h₁ : (run alloc namings d earlier).Tallied d earlier) (h : (run alloc namings d es).Tallied d es)
    (hok : (run alloc namings d es).Succeeds)
    (hthere : (run alloc namings d es).disk.isFile (Path.ofString path).text = true) :
    ∃ r, (run alloc namings d es).cache.resolve alloc (run alloc namings d es).disk namings (Path.ofString path)
      selector (.ok ids) naming = (.ok r, (run alloc namings d es).cache.hit.hit) := by
  have hp : ∀ part ∈ (Path.ofString path).parts, Path.IsComponent part := isComponent_ofString path
  have hrooted : (d.after (changes es)).Rooted := hd.of_cwd_eq (Disk.cwd_after d _)
  have hmem := mem_lookups_run alloc namings d earlier since path selector (.ok ids) naming
  rw [← hes] at hmem
  have hgiven := hok _ hmem
  have huse := List.mem_map_of_mem (f := Lookup.use) hmem
  rw [h₁.disk] at hgiven huse
  rw [h.disk] at hthere ⊢
  obtain ⟨bytes, time, hfile₁⟩ := h₁.settled.exists_file h₁.counted hgiven
  have hchanges : changes es = changes earlier ++ changes since := by
    rw [hes, changes_append]
    rfl
  have hfile : (d.after (changes es)).find? (Path.ofString path).text = some (.file bytes time) := by
    rw [hchanges] at hthere ⊢
    exact find?_of_others hd hp hfile₁ hothers hthere
  have hversion : versionOf (d.after (changes earlier)) (Path.ofString path) =
      versionOf (d.after (changes es)) (Path.ofString path) := by
    rw [versionOf_of_find? hfile₁, versionOf_of_find? hfile, Disk.placeOf_congr (Disk.cwd_after d _),
      Disk.placeOf_congr (Disk.cwd_after d _)]
  rw [Lookup.use, useOf, hversion] at huse
  have hlatest := h.settled.isLatest hrooted hp hfile (h.counted.used _ huse)
  exact h.counted.resolve_again alloc namings (pathKey_of_find? hrooted hp hfile) hlatest huse

/-- **Nothing is read or resolved twice.** In a run of calls for targets that all succeed, and in which each
change gives a file a time that it did not have, the misses are the different versions and the different uses
that were asked for, and of the two lookups of each call all others are hits. What was asked once is given at
once, whatever has happened to other files. -/
theorem run_counts (alloc : Allocation) (namings : ι → ModuleNaming) {d : Disk} (hd : d.Rooted)
    {es : List (Event ι)} (hclear : .clear ∉ es) (hmanifest : ∀ path, .manifest path ∉ es)
    (hnew : Disk.NewTimes d (changes es)) (hok : (run alloc namings d es).Succeeds) :
    let t := run alloc namings d es
    t.cache.misses = t.versions.eraseDups.length + t.uses.eraseDups.length ∧
      t.cache.hits + t.cache.misses = 2 * t.uses.length ∧
      ∀ earlier path selector ids naming since, es = earlier ++ .resolve path selector (.ok ids) naming :: since →
        (∀ stamp ∈ Disk.stamps (changes since), stamp.1 ≠ d.placeOf (Path.ofString path)) →
        t.disk.isFile (Path.ofString path).text = true →
        ∃ r, t.cache.resolve alloc t.disk namings (Path.ofString path) selector (.ok ids) naming =
          (.ok r, t.cache.hit.hit) := by
  intro t
  have h : t.Tallied d es := tallied_run hd hclear hmanifest hnew hok
  refine ⟨h.counted.misses, ?_, ?_⟩
  · have htotal := h.counted.total
    rw [Trace.versions, List.length_map] at htotal
    rw [Nat.two_mul]
    exact htotal
  · intro earlier path selector ids naming since hes hothers hthere
    have h₁ : (run alloc namings d earlier).Tallied d earlier := by
      rw [hes] at hclear hmanifest hok hnew
      rw [changes_append] at hnew
      exact tallied_run hd (fun hm => hclear (List.mem_append_left _ hm))
        (fun path hm => hmanifest path (List.mem_append_left _ hm)) hnew.of_append hok.of_append
    exact resolve_after_others hd hes hothers h₁ h hok hthere

/-- Two manifests, of which one is touched between the calls, with an earlier time than it had. -/
def turnsRun : List (Event Unit) :=
  [.change (.write ["w", "m"] (Text.Utf8.encode bareText) 5),
    .change (.write ["w", "n"] (Text.Utf8.encode bareText) 5),
    .resolve "m" ⟨"T", none⟩ (.ok []) (), .resolve "n" ⟨"T", none⟩ (.ok []) (), .change (.touch ["w", "n"] 2),
    .resolve "n" ⟨"T", none⟩ (.ok []) (), .resolve "../w/m" ⟨"t", none⟩ (.ok []) ()]

def turnsTrace : Trace Unit := run .successor (fun _ => .absolute ⟨.single, ["w"]⟩) (Disk.empty ["w"]) turnsRun

/-- Three versions are read and three targets resolved for four calls; the manifest that stayed is still kept. -/
theorem turnsRun_counts : (Disk.empty ["w"]).Rooted ∧ .clear ∉ turnsRun ∧ (∀ path, .manifest path ∉ turnsRun) ∧
    Disk.NewTimes (Disk.empty ["w"]) (changes turnsRun) ∧ turnsTrace.Succeeds ∧
    turnsTrace.cache.misses = 6 ∧ turnsTrace.cache.hits = 2 ∧
    ∃ r, turnsTrace.cache.resolve .successor turnsTrace.disk (fun _ => .absolute ⟨.single, ["w"]⟩)
      (Path.ofString "m") ⟨"T", none⟩ (.ok []) () = (.ok r, turnsTrace.cache.hit.hit) := by
  have hrooted : (Disk.empty ["w"]).Rooted := by decide +kernel
  have hclear : .clear ∉ turnsRun := by simp [turnsRun]
  have hmanifest : ∀ path, .manifest path ∉ turnsRun := by simp [turnsRun]
  have hnew : Disk.NewTimes (Disk.empty ["w"]) (changes turnsRun) :=
    Disk.newTimes_of_missing (by decide) (by decide)
  have hevaluated : turnsTrace.Succeeds ∧ turnsTrace.versions.eraseDups.length = 3 ∧
      turnsTrace.uses.eraseDups.length = 3 ∧ turnsTrace.uses.length = 4 ∧
      turnsTrace.disk.isFile (Path.ofString "m").text = true := by
    decide +kernel
  obtain ⟨hok, hversions, huses, hcalls, hthere⟩ := hevaluated
  obtain ⟨hmisses, htotal, hkept⟩ :=
    run_counts .successor (fun _ => .absolute ⟨.single, ["w"]⟩) hrooted hclear hmanifest hnew hok
  rw [← turnsTrace] at hmisses htotal hkept
  rw [hversions, huses] at hmisses
  rw [hmisses, hcalls] at htotal
  refine ⟨hrooted, hclear, hmanifest, hnew, hok, hmisses, Nat.add_right_cancel htotal, ?_⟩
  refine hkept [.change (.write ["w", "m"] (Text.Utf8.encode bareText) 5),
    .change (.write ["w", "n"] (Text.Utf8.encode bareText) 5)] "m" ⟨"T", none⟩ [] () _ rfl ?_ hthere
  decide

end ReferenceAudit.ManifestCache

import ReferenceAudit.Proofs.Refusals
import ReferenceAudit.Proofs.SettledAnalyses

/-!
# What an analysis leaves on the disk

All that an analysis writes are its listings, and it writes them after its input has been found to be in order. Main
statement: one that fails by its input leaves the disk as it was, and whatever comes of one, nothing has changed but
what is at the places of the listings.
-/
namespace ReferenceAudit

namespace Disk
variable {d d' d'' : Disk} {places : List Location}

/-- Two disks on which the same is, its times included, but for what is at some places. -/
structure SameBut (places : List Location) (d d' : Disk) : Prop where
  cwd : d'.cwd = d.cwd
  loops : d'.loops = d.loops
  entryAt? : ∀ loc, loc ∉ places → d'.entryAt? loc = d.entryAt? loc

theorem SameBut.refl (places : List Location) (d : Disk) : SameBut places d d := ⟨rfl, rfl, fun _ _ => rfl⟩

theorem SameBut.trans (h : SameBut places d d') (h' : SameBut places d' d'') : SameBut places d d'' :=
  ⟨h'.cwd.trans h.cwd, h'.loops.trans h.loops, fun loc hloc => (h'.entryAt? loc hloc).trans (h.entryAt? loc hloc)⟩

theorem sameBut_putFile {loc : Location} (h : loc ∈ places) (d : Disk) (bytes : List UInt8) :
    SameBut places d (d.putFile loc bytes) := by
  refine ⟨rfl, rfl, fun l hl => ?_⟩
  have hne : l ≠ loc := fun he => hl (he ▸ h)
  exact entryAt?_putFile_of_ne hne d bytes

end Disk

namespace Store
variable {d : Disk} {directory : Path} {loc : Location}

theorem find?_of_loadReferences {path : Path} {rs : List Reference} (h : loadReferences d path = .ok rs) :
    ∃ bytes t, d.find? path.text = some (.file bytes t) := by
  rw [loadReferences] at h
  split at h
  · obtain ⟨bytes, hread, -⟩ := bind_eq_ok.1 h
    exact ⟨bytes, Disk.find?_of_read hread⟩
  · cases h

theorem refusedOnly_writeListing (path : Path) (modules : List String) :
    Effect.RefusedOnly (writeListing path modules) := by
  refine (refusedOnly_writeIfChanged path (listingText modules) true).bind fun wrote => ?_
  split <;> exact Effect.refusedOnly_pure _

theorem refusedOnly_dump (directory : Path) (used offered : List String) :
    Effect.RefusedOnly (dump directory used offered) :=
  (refusedOnly_writeListing _ _).bind fun _ => (refusedOnly_writeListing _ _).bind fun _ =>
    Effect.refusedOnly_pure _

theorem disk_of_runOn_save (h : d.Offers directory loc) {name : String} (hname : Path.IsName name)
    (bytes : List UInt8) : (Effect.runOn (Effect.save (directory.child name) bytes) d).2 = d ∨
      d.IsFree (loc ++ [name]) ∧
        (Effect.runOn (Effect.save (directory.child name) bytes) d).2 = d.putFile (loc ++ [name]) bytes := by
  have hparent : d.Offers (directory.child name).parent loc := by simpa [Path.child, Path.parent] using h
  have hmade : Effect.runOn (Effect.makeDirectories (directory.child name).root
      (directory.child name).parent.parts.reverse) d = (.ok (), d) := Effect.runOn_makeDirectories hparent
  rw [Effect.save, Effect.runOn_bind, hmade]
  dsimp only
  cases hwrite : Effect.runOn (Effect.writeFile (directory.child name) bytes) d with
  | mk result d' => cases result with
    | error fault => exact Or.inl (Effect.disk_of_runOn_writeFile hwrite)
    | ok _ =>
      obtain ⟨place, hplace, hfree, hput⟩ := Effect.exists_of_runOn_writeFile hwrite
      rw [h.locate_child name hname] at hplace
      cases hplace
      exact Or.inr ⟨hfree, hput⟩

theorem disk_of_runOn_writeListing (h : d.Offers directory loc) {name : String} (hname : Path.IsName name)
    (modules : List String) : (Effect.runOn (writeListing (directory.child name) modules) d).2 = d ∨
      d.IsFree (loc ++ [name]) ∧ ∃ bytes,
        (Effect.runOn (writeListing (directory.child name) modules) d).2 = d.putFile (loc ++ [name]) bytes := by
  have hwrite : (Effect.runOn (writeListing (directory.child name) modules) d).2 =
      (Effect.runOn (writeIfChanged (directory.child name) (listingText modules) true) d).2 := by
    rw [writeListing, Effect.runOn_bind]
    generalize Effect.runOn (writeIfChanged (directory.child name) (listingText modules) true) d = out
    obtain ⟨result, d'⟩ := out
    rcases result with fault | _ | _ <;> rfl
  have hsave : (Effect.runOn (writeIfChanged (directory.child name) (listingText modules) true) d).2 = d ∨
      (Effect.runOn (writeIfChanged (directory.child name) (listingText modules) true) d).2 =
        (Effect.runOn (Effect.save (directory.child name) (Text.Utf8.encode (listingText modules))) d).2 := by
    rw [writeIfChanged, Effect.runOn_bind, Effect.runOn_look]
    rcases isUnchanged d (directory.child name) true (listingText modules) with fault | _ | _
    · exact Or.inl rfl
    · refine Or.inr ?_
      dsimp only
      rw [if_neg Bool.false_ne_true, Effect.runOn_bind]
      generalize Effect.runOn (Effect.save (directory.child name) (Text.Utf8.encode (listingText modules))) d = out
      obtain ⟨result, d'⟩ := out
      cases result <;> rfl
    · exact Or.inl rfl
  rw [hwrite]
  rcases hsave with hsame | hsaved
  · exact Or.inl hsame
  · rw [hsaved]
    exact (disk_of_runOn_save h hname _).imp_right fun ⟨hfree, hput⟩ => ⟨hfree, _, hput⟩

/-- In a directory that is there a listing changes nothing but its own place, and no directory: one in its place
keeps it from being written, as a loop does. -/
theorem sameBut_writeListing (h : d.Offers directory loc) {name : String} (hname : Path.IsName name)
    {places : List Location} (hplace : loc ++ [name] ∈ places) (modules : List String) :
    d.SameBut places (Effect.runOn (writeListing (directory.child name) modules) d).2 ∧
      d.KeepsDirectories (Effect.runOn (writeListing (directory.child name) modules) d).2 := by
  rcases disk_of_runOn_writeListing h hname modules with hsame | ⟨hfree, bytes, hput⟩
  · rw [hsame]
    exact ⟨.refl _ _, rfl, fun _ hl => hl⟩
  · rw [hput]
    exact ⟨Disk.sameBut_putFile hplace d bytes, Disk.keepsDirectories_putFile hfree.directory bytes⟩

theorem sameBut_dump (h : d.Offers directory loc) (used offered : List String) :
    d.SameBut [loc ++ [usedFileName], loc ++ [unusedFileName]]
      (Effect.runOn (dump directory used offered) d).2 := by
  have hused : loc ++ [usedFileName] ∈ [loc ++ [usedFileName], loc ++ [unusedFileName]] := by simp
  have hunused : loc ++ [unusedFileName] ∈ [loc ++ [usedFileName], loc ++ [unusedFileName]] := by simp
  obtain ⟨hfirst, hkeeps⟩ := sameBut_writeListing h isName_usedFileName hused (usedListing used)
  rw [dump, Effect.runOn_bind]
  generalize Effect.runOn (writeListing (directory.child usedFileName) (usedListing used)) d =
    out at hfirst hkeeps ⊢
  obtain ⟨result, d₁⟩ := out
  cases result with
  | error fault => exact hfirst
  | ok first =>
    obtain ⟨hsecond, -⟩ :=
      sameBut_writeListing (h.keep hkeeps) isName_unusedFileName hunused (unusedListing used offered)
    refine hfirst.trans ?_
    dsimp only
    rw [Effect.runOn_bind]
    generalize Effect.runOn (writeListing (directory.child unusedFileName) (unusedListing used offered)) d₁ = out
      at hsecond ⊢
    obtain ⟨result, d₂⟩ := out
    cases result <;> exact hsecond

end Store

/-! ## Faults of a configuration -/

theorem Setting.isInput_eq_false_of_texts {v : Setting} {operation : String} {fault : Fault}
    (h : v.texts operation = .error fault) : fault.isInput = false := by
  rcases bind_eq_error.1 h with hmembers | ⟨members, -, htexts⟩
  · cases v <;> cases hmembers <;> rfl
  · obtain ⟨member, -, htext⟩ := Lists.exists_of_mapM_eq_error htexts
    cases member <;> cases htext <;> rfl

theorem Suppression.isInput_eq_false_of_ofIds {rules : List (String × List String)} {alwaysUsed : List String}
    {fault : Fault} (h : ofIds rules alwaysUsed = .error fault) : fault.isInput = false := by
  rcases bind_eq_error.1 h with hrules | ⟨_, -, hpure⟩
  · obtain ⟨rule, -, hrule⟩ := Lists.exists_of_mapM_eq_error hrules
    rcases bind_eq_error.1 hrule with hids | ⟨_, -, hpure⟩
    · obtain ⟨id, -, hid⟩ := Lists.exists_of_mapM_eq_error hids
      rw [categoryOf] at hid
      split at hid
      · cases hid
      · cases hid
        rfl
    · cases hpure
  · cases hpure

namespace Config

theorem isInput_eq_false_of_rules {c : Config} {fault : Fault} (h : c.rules = .error fault) :
    fault.isInput = false := by
  rw [rules] at h
  split at h
  · obtain ⟨entry, -, hentry⟩ := Lists.exists_of_mapM_eq_error h
    rcases bind_eq_error.1 hentry with hlabel | ⟨_, -, hrest⟩
    · generalize entry.1 = label at hlabel
      cases label <;> cases hlabel <;> rfl
    · rcases bind_eq_error.1 hrest with hids | ⟨_, -, hpure⟩
      · exact Setting.isInput_eq_false_of_texts hids
      · cases hpure
  · split at h
    · cases h
      rfl
    · cases h

theorem isInput_eq_false_of_suppression {c : Config} {fault : Fault} (h : c.policy.suppression = .error fault) :
    fault.isInput = false := by
  rcases bind_eq_error.1 h with hrules | ⟨_, -, h⟩
  · exact isInput_eq_false_of_rules hrules
  rcases bind_eq_error.1 h with hids | ⟨_, -, h⟩
  · exact Suppression.isInput_eq_false_of_ofIds hids
  rcases bind_eq_error.1 h with htexts | ⟨_, -, hpure⟩
  · exact Setting.isInput_eq_false_of_texts htexts
  · cases hpure

end Config

namespace Analysis
variable {ι : Type} {policy : Policy} {r : Request} {w w' : Workspace ι} {fault : Fault}

/-- Where the listings of a request stand. -/
def listingPlaces (d : Disk) (r : Request) : List Location :=
  [Store.usedFileName, Store.unusedFileName].filterMap fun name =>
    (d.locate (r.declared.parent.child name).text).toOption

theorem listingPlaces_eq {d : Disk} {loc : Location} (h : d.Offers r.declared.parent loc) :
    listingPlaces d r = [loc ++ [Store.usedFileName], loc ++ [Store.unusedFileName]] := by
  have hused := h.locate_child _ Store.isName_usedFileName
  have hunused := h.locate_child _ Store.isName_unusedFileName
  simp [listingPlaces, hused, hunused, Except.toOption]

theorem isInput_eq_false_of_conclude {dumped : List Path} {judged : Except Fault (List Verdict)}
    (hs : ∀ fault, policy.suppression = .error fault → fault.isInput = false)
    (h : conclude policy r dumped judged = .error fault) : fault.isInput = false := by
  cases judged with
  | error e => cases h
  | ok vs =>
    rw [conclude] at h
    dsimp only at h
    split at h
    · rcases bind_eq_error.1 h with hsuppression | ⟨_, -, hpure⟩
      · exact hs fault hsuppression
      · cases hpure
    · cases h

/-- Beside references that were read nothing is changed but the listings, and what
goes wrong there is no fault of the input. -/
theorem runDump_spec (hp : ∀ part ∈ r.declared.parts, Path.IsComponent part) {references : List Reference}
    (hreferences : Store.loadReferences w.disk r.declared = .ok references) (used : List String) :
    w.disk.SameBut (listingPlaces w.disk r) (runOn (runDump policy r used) w).2.disk ∧
      (policy.dump = false → (runOn (runDump policy r used) w).2.disk = w.disk) ∧
      ∀ fault, (runOn (runDump policy r used) w).1 = .error fault → fault.isInput = false := by
  rw [runDump]
  cases hdump : policy.dump with
  | false => exact ⟨.refl _ _, fun _ => rfl, fun fault h => by cases h⟩
  | true =>
    rw [if_pos rfl, runOn_onDisk]
    obtain ⟨bytes, t, hfile⟩ := Store.find?_of_loadReferences hreferences
    obtain ⟨loc, hoffers⟩ := Disk.exists_offers_parent hp hfile
    refine ⟨?_, fun h => absurd h.symm Bool.false_ne_true, fun fault h => ?_⟩
    · rw [listingPlaces_eq hoffers]
      exact Store.sameBut_dump hoffers used r.offered
    · exact Fault.isInput_eq_false_of_isRefusal
        (Store.refusedOnly_dump _ used r.offered w.disk fault _ (Prod.ext h rfl))

/-- So it is when the outcome has been told too. -/
theorem runDump_conclude_spec (hp : ∀ part ∈ r.declared.parts, Path.IsComponent part) {references : List Reference}
    (hreferences : Store.loadReferences w.disk r.declared = .ok references)
    (hs : ∀ fault, policy.suppression = .error fault → fault.isInput = false) (used : List String)
    (judged : Except Fault (List Verdict)) :
    let out := runOn (runDump policy r used >>= fun dumped => orFault (conclude policy r dumped judged)) w
    w.disk.SameBut (listingPlaces w.disk r) out.2.disk ∧ (policy.dump = false → out.2.disk = w.disk) ∧
      ∀ fault, out.1 = .error fault → fault.isInput = false := by
  intro out
  obtain ⟨hframe, hnone, hfault⟩ := runDump_spec hp hreferences used
  have hout : out = _ := runOn_bind _ _ w
  rw [hout]
  generalize runOn (runDump policy r used) w = dumpOut at hframe hnone hfault ⊢
  obtain ⟨result, v⟩ := dumpOut
  cases result with
  | error fault => exact ⟨hframe, hnone, fun fault' he => hfault fault' (by cases he; rfl)⟩
  | ok dumped =>
    dsimp only
    rw [runOn_orFault]
    exact ⟨hframe, hnone, fun fault he => isInput_eq_false_of_conclude hs he⟩

variable [DecidableEq ι]

/-- An analysis ends with the disk as it was, or has read all of its input by the time it writes anything. -/
theorem analyze_writes_cases (env : Environment ι) (policy : Policy) (w : Workspace ι)
    (h : r.compilerFailed = false) :
    (runOn (analyze env policy r) w).2.disk = w.disk ∨ ∃ references used resolved v,
      Store.loadReferences w.disk r.declared = .ok references ∧ v.disk = w.disk ∧
      runOn (analyze env policy r) w = runOn (runDump policy r used >>= fun dumped =>
        orFault (conclude policy r dumped (verdicts policy resolved references used))) v := by
  rw [analyze_eq_bind h, runOn_bind, runOn_look]
  cases hreferences : Store.loadReferences w.disk r.declared with
  | error fault => exact Or.inl rfl
  | ok references =>
    dsimp only
    rw [runOn_bind, runOn_look]
    cases usedModules w.disk r with
    | error fault => exact Or.inl rfl
    | ok used =>
      dsimp only
      rw [runOn_bind]
      cases hresolve : runOn (resolvePackages env policy r) w with
      | mk result v =>
        have hdisk := disk_of_resolvePackages hresolve
        cases result with
        | error fault => exact Or.inl hdisk
        | ok resolved => exact Or.inr ⟨references, used, resolved, v, rfl, hdisk, rfl⟩

/-- **Failed analyses leave no trace.** An analysis that fails by its input leaves the
disk as it was, and so does one that is spared or asked for no listings. Whatever
comes of any other, all is as it was but at the listings' places. -/
theorem analyze_leaves_no_trace (env : Environment ι) (config : Config) (r : Request) (w : Workspace ι)
    (hp : ∀ part ∈ r.declared.parts, Path.IsComponent part) :
    let out := runOn (analyze env config.policy r) w
    (∀ fault, out.1 = .error fault → fault.isInput = true → out.2.disk = w.disk) ∧
      (r.compilerFailed = true ∨ config.policy.dump = false → out.2.disk = w.disk) ∧
      w.disk.SameBut (listingPlaces w.disk r) out.2.disk := by
  intro out
  have hunchanged (h : out.2.disk = w.disk) : (∀ fault, out.1 = .error fault → fault.isInput = true →
      out.2.disk = w.disk) ∧ (r.compilerFailed = true ∨ config.policy.dump = false → out.2.disk = w.disk) ∧
      w.disk.SameBut (listingPlaces w.disk r) out.2.disk :=
    ⟨fun _ _ _ => h, fun _ => h, h ▸ .refl _ _⟩
  by_cases hfailed : r.compilerFailed = true
  · exact hunchanged (congrArg (·.2.disk) (runOn_analyze_of_compilerFailed hfailed w))
  · rcases analyze_writes_cases env config.policy w (Bool.eq_false_of_not_eq_true hfailed) with
      hdisk | ⟨references, used, resolved, v, hreferences, hdisk, hout⟩
    · exact hunchanged hdisk
    · rw [← hdisk] at hreferences
      obtain ⟨hframe, hnone, hfault⟩ := runDump_conclude_spec hp hreferences
        (fun _ => Config.isInput_eq_false_of_suppression) used (verdicts config.policy resolved references used)
      rw [← hout, hdisk] at hframe hnone
      rw [← hout] at hfault
      refine ⟨fun fault he hinput => ?_, fun hno => hnone (hno.resolve_left hfailed), hframe⟩
      rw [hfault fault he] at hinput
      cases hinput

def goneRequest : Request := { loopRequest with manifest := some "gone" }

def listedRequest : Request := { loopRequest with manifest := none, used := some ["u"], offered := ["v", "U"] }

private theorem runOn_analyze_gone : ∃ fault, fault.isInput = true ∧
    runOn (analyze loopEnvironment listingConfig.policy goneRequest) ⟨loopDisk, none⟩ =
      (.error fault, ⟨loopDisk, none⟩) := by
  have hload : Manifest.load loopDisk (Path.ofString "gone") =
      .error (.inputMissing "Lock manifest" (some (Path.ofString "gone").text)) := by
    rw [Manifest.load, if_neg (by decide +kernel)]
  have hresolve : runOn (resolvePackages loopEnvironment listingConfig.policy goneRequest) ⟨loopDisk, none⟩ =
      (.error (.inputMissing "Lock manifest" (some (Path.ofString "gone").text)), ⟨loopDisk, none⟩) := by
    have hmanifest : goneRequest.manifest = some "gone" := rfl
    have htarget : goneRequest.target = some ⟨"t", none⟩ := rfl
    rw [resolvePackages, hmanifest, htarget]
    dsimp only
    rw [runOn_map, runOn_resolve]
    dsimp only
    rw [resolveAfresh, hload]
    rfl
  refine ⟨.inputMissing "Lock manifest" (some (Path.ofString "gone").text), rfl, ?_⟩
  rw [analyze_eq_bind rfl]
  refine runOn_bind_eq_error.2 (Or.inr ⟨_, _, (runOn_look _ _).trans (Prod.ext loadReferences_loop rfl), ?_⟩)
  refine runOn_bind_eq_error.2 (Or.inr ⟨_, _, runOn_look _ _, ?_⟩)
  exact runOn_bind_eq_error.2 (Or.inl hresolve)

private theorem runOn_dump_listed : ∃ dumped d',
    Effect.runOn (Store.dump (Path.ofString "r").parent ["u"] ["v", "U"]) loopDisk = (.ok dumped, d') ∧
      d'.entryAt? ["w", Store.usedFileName] = some (.file [117] 3) := by
  have hfile : loopDisk.find? (Path.ofString "r").text = some (.file (Text.Utf8.encode loopReferences) 2) := by
    decide +kernel
  obtain ⟨dumped, d', hrun⟩ := Store.exists_runOn_dump (fun _ => Path.isComponent_of_mem_ofString) hfile
    (by decide +kernel) ["u"] ["v", "U"]
  have hentry : (Effect.runOn (Store.dump (Path.ofString "r").parent ["u"] ["v", "U"]) loopDisk).2.entryAt?
      ["w", Store.usedFileName] = some (.file [117] 3) := by
    decide +kernel
  rw [hrun] at hentry
  exact ⟨dumped, d', hrun, hentry⟩

private theorem runOn_analyze_listed : ∃ o w',
    runOn (analyze loopEnvironment listingConfig.policy listedRequest) ⟨loopDisk, none⟩ = (.ok o, w') ∧
      w'.disk.entryAt? ["w", Store.usedFileName] = some (.file [117] 3) := by
  obtain ⟨dumped, d', hdump, hentry⟩ := runOn_dump_listed
  have hrun : runOn (runDump listingConfig.policy listedRequest ["u"]) (⟨loopDisk, none⟩ : Workspace Unit) =
      (.ok dumped, ⟨d', none⟩) := by
    have hasked : listingConfig.policy.dump = true := rfl
    have hoffered : listedRequest.offered = ["v", "U"] := rfl
    have hdeclared : listedRequest.declared = Path.ofString "r" := rfl
    rw [runDump, if_pos hasked, runOn_onDisk, hoffered, hdeclared, hdump]
  have htyped : listingConfig.Typed := ⟨⟨true, rfl⟩, ⟨true, rfl⟩, ⟨[], rfl⟩, ⟨[], rfl⟩, ⟨[], rfl⟩, ⟨[], rfl⟩⟩
  obtain ⟨s, hs⟩ := htyped.suppression_eq rfl
  obtain ⟨o, hconclude⟩ := exists_conclude_eq_ok hs listedRequest dumped
    (verdicts listingConfig.policy none [⟨"x.dll", .direct, "x"⟩] ["u"])
  have hused : usedModules loopDisk listedRequest = .ok ["u"] := rfl
  have hresolved : runOn (resolvePackages loopEnvironment listingConfig.policy listedRequest) ⟨loopDisk, none⟩ =
      (.ok none, ⟨loopDisk, none⟩) := rfl
  have hstages := (analyze_eq_ok_iff rfl).2 ⟨_, _, _, _, _, loadReferences_loop, hused, hresolved, hrun, hconclude⟩
  exact ⟨o, _, hstages, hentry⟩

/-- One analysis that is asked for listings and fails by its manifest, and one that writes them. -/
theorem gone_leaves_no_trace :
    (∃ fault, (runOn (analyze loopEnvironment listingConfig.policy goneRequest) ⟨loopDisk, none⟩).1 = .error fault ∧
      fault.isInput = true ∧
      (runOn (analyze loopEnvironment listingConfig.policy goneRequest) ⟨loopDisk, none⟩).2.disk = loopDisk) ∧
    listingPlaces loopDisk listedRequest = [["w", Store.usedFileName], ["w", Store.unusedFileName]] ∧
    ∃ o w', runOn (analyze loopEnvironment listingConfig.policy listedRequest) ⟨loopDisk, none⟩ = (.ok o, w') ∧
      w'.disk.entryAt? ["w", Store.usedFileName] = some (.file [117] 3) ∧
      loopDisk.SameBut (listingPlaces loopDisk listedRequest) w'.disk := by
  have hparts : ∀ part ∈ (Path.ofString "r").parts, Path.IsComponent part := fun _ =>
    Path.isComponent_of_mem_ofString
  obtain ⟨fault, hinput, hgone⟩ := runOn_analyze_gone
  obtain ⟨o, w', hlisted, hentry⟩ := runOn_analyze_listed
  have hfailed := analyze_leaves_no_trace loopEnvironment listingConfig goneRequest ⟨loopDisk, none⟩ hparts
  have hframe := (analyze_leaves_no_trace loopEnvironment listingConfig listedRequest ⟨loopDisk, none⟩ hparts).2.2
  rw [hlisted] at hframe
  refine ⟨⟨fault, by rw [hgone], hinput, hfailed.1 fault (by rw [hgone]) hinput⟩, by decide +kernel, ?_⟩
  exact ⟨o, w', hlisted, hentry, hframe⟩

end Analysis
end ReferenceAudit

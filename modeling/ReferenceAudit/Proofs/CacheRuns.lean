import Mathlib.Data.List.Infix
import ReferenceAudit.Analysis
import ReferenceAudit.Proofs.DiskTimes
import ReferenceAudit.Proofs.KeptManifests

/-!
# Runs of a cache

A cache is asked for manifests and targets, over and over, while files come, change and go. If each file that is
written or touched gets a time that it did not have before, whether later or earlier, a manifest that is kept
with the time of its file is the one that the file holds. Main statement: if the directories of packages stay as
they are and no manifest has two target names that differ in case only, every target is given as if it were read
and resolved at that moment; where reading the file or building the graph fails, the cache fails in the same
way, and later answers are as right as if it had not.
-/
namespace ReferenceAudit.ManifestCache
variable {ι : Type}

inductive Event (ι : Type)
  | change (c : Disk.Change)
  | clear
  | manifest (path : String)
  | resolve (path : String) (selector : Selector) (ignored : Except Fault (List String)) (naming : ι)

/-- A call for a target, with the disk that it found and what it gave. -/
structure Lookup (ι : Type) where
  disk : Disk
  path : Path
  selector : Selector
  ignored : Except Fault (List String)
  naming : ι
  answer : Except Fault Resolved

structure Trace (ι : Type) where
  disk : Disk
  cache : ManifestCache ι
  lookups : List (Lookup ι)

namespace Event

def change? : Event ι → Option Disk.Change
  | change c => some c
  | clear | manifest _ | resolve .. => none

/-- The manifest that the file of a path holds when the cache is asked about the path. -/
def manifest? (d : Disk) : Event ι → Option Manifest
  | manifest path | resolve path .. => (Manifest.load d (Path.ofString path)).toOption
  | change _ | clear => none

def apply [DecidableEq ι] (alloc : Allocation) (namings : ι → ModuleNaming) (t : Trace ι) : Event ι → Trace ι
  | change c => { t with disk := c.apply t.disk }
  | clear => { t with cache := t.cache.clear }
  | manifest path => { t with cache := (t.cache.manifest alloc t.disk (Path.ofString path)).2 }
  | resolve path selector ignored naming =>
    let out := t.cache.resolve alloc t.disk namings (Path.ofString path) selector ignored naming
    { t with
      cache := out.2
      lookups := t.lookups ++ [⟨t.disk, Path.ofString path, selector, ignored, naming, out.1⟩] }

end Event

def changes (es : List (Event ι)) : List Disk.Change := es.filterMap Event.change?

theorem changes_append (es es' : List (Event ι)) : changes (es ++ es') = changes es ++ changes es' :=
  List.filterMap_append

/-- The manifests that are there when a run asks for them. -/
def manifestsRead (d : Disk) : List (Event ι) → List Manifest
  | [] => []
  | e :: es => (e.manifest? d).toList ++ manifestsRead (d.after (changes [e])) es

theorem manifestsRead_concat (d : Disk) (es : List (Event ι)) (e : Event ι) :
    manifestsRead d (es ++ [e]) = manifestsRead d es ++ (e.manifest? (d.after (changes es))).toList := by
  induction es generalizing d with
  | nil => simp [manifestsRead, changes, Disk.after]
  | cons e' es ih =>
    have hdisk : (d.after (changes [e'])).after (changes es) = d.after (changes (e' :: es)) := by
      rw [← Disk.after_append, ← changes_append, List.singleton_append]
    rw [List.cons_append, manifestsRead, ih, hdisk, manifestsRead, List.append_assoc]

/-- No directory in which packages of the run's manifests are looked for comes or goes, and the names of each
manifest's targets are distinct without regard to case. -/
structure Undisturbed (d : Disk) (es : List (Event ι)) : Prop where
  names : ∀ m ∈ manifestsRead d es, m.HasDistinctTargets
  places : ∀ m ∈ manifestsRead d es, ∀ place ∈ m.packagePlaces, ∀ cs ∈ (changes es).inits,
    (d.after cs).isDirectory place = d.isDirectory place

/-- Whether a call gave what its disk has. A path that cannot be resolved is a fault of its own kind; no manifest is
there then, so reading it would fail too. -/
structure Lookup.Agrees (namings : ι → ModuleNaming) (l : Lookup ι) : Prop where
  answer : ∀ key, pathKey l.disk l.path = .ok key →
    l.answer = Analysis.resolveAfresh l.disk l.path l.selector l.ignored (namings l.naming)
  fault : ∀ fault, pathKey l.disk l.path = .error fault → l.answer = .error fault ∧
    Manifest.load l.disk l.path = .error (.inputMissing "Lock manifest" (some l.path.text))

/-- A manifest that a run has read, with a time that its file had. -/
def IsRead (d : Disk) (es : List (Event ι)) (loc : Location) (k : KeptManifest) : Prop :=
  k.manifest ∈ manifestsRead d es ∧ ∀ t, k.time = some t → Disk.WasOf d (changes es) loc t

variable {d : Disk} {es : List (Event ι)} {e : Event ι} {namings : ι → ModuleNaming} {c : ManifestCache ι}

theorem isComponent_ofString (path : String) : ∀ part ∈ (Path.ofString path).parts, Path.IsComponent part :=
  fun _ hm => Path.isComponent_of_mem_ofString hm

theorem Lookup.agrees_of_pathKey_eq_ok {l : Lookup ι} {key : String} (hkey : pathKey l.disk l.path = .ok key)
    (h : l.answer = Analysis.resolveAfresh l.disk l.path l.selector l.ignored (namings l.naming)) :
    l.Agrees namings := by
  refine ⟨fun _ _ => h, fun fault hfault => ?_⟩
  rw [hkey] at hfault
  cases hfault

theorem Lookup.agrees_of_pathKey_eq_error {l : Lookup ι} (hd : l.disk.Rooted)
    (hp : ∀ part ∈ l.path.parts, Path.IsComponent part) {fault : Fault}
    (hkey : pathKey l.disk l.path = .error fault) (h : l.answer = .error fault) : l.Agrees namings := by
  constructor
  · intro key hok
    rw [hkey] at hok
    cases hok
  · intro fault' hfault
    rw [hkey] at hfault
    cases hfault
    exact ⟨h, load_of_pathKey hd hp hkey⟩

theorem Undisturbed.of_concat (h : Undisturbed d (es ++ [e])) : Undisturbed d es := by
  have hread : ∀ m ∈ manifestsRead d es, m ∈ manifestsRead d (es ++ [e]) :=
    fun m hm => manifestsRead_concat d es e ▸ List.mem_append_left _ hm
  refine ⟨fun m hm => h.names m (hread m hm), fun m hm place hplace cs hcs => ?_⟩
  refine h.places m (hread m hm) place hplace cs ((List.mem_inits _ _).2 ?_)
  rw [changes_append]
  exact ((List.mem_inits _ _).1 hcs).trans (List.prefix_append _ _)

theorem IsRead.concat {loc : Location} {k : KeptManifest} (h : IsRead d es loc k) (e : Event ι) :
    IsRead d (es ++ [e]) loc k := by
  refine ⟨manifestsRead_concat d es e ▸ List.mem_append_left _ h.1, fun t ht => ?_⟩
  rw [changes_append]
  exact (h.2 t ht).append _

theorem isRead_of_load (hd : d.Rooted) {path : Path} (hp : ∀ part ∈ path.parts, Path.IsComponent part)
    {m : Manifest} (hm : e.manifest? (d.after (changes es)) = some m) (token : Nat) :
    IsRead d (es ++ [e]) ((d.after (changes es)).placeOf path)
      ⟨(d.after (changes es)).time? path.text, token, m⟩ := by
  constructor
  · rw [manifestsRead_concat]
    exact List.mem_append_right _ (Option.mem_toList.2 hm)
  · intro t ht
    obtain ⟨bytes, hfile⟩ := Disk.find?_of_time? ht
    have hplace := Disk.entryAt?_placeOf (hd.of_cwd_eq (Disk.cwd_after d _)) hp hfile
    rw [changes_append]
    exact (Disk.wasOf_of_after hplace).append _

/-- What is kept outlasts a change that gives its file a new time and leaves the directories of packages alone. -/
theorem Linked.change {change : Disk.Change} (hnew : Disk.NewTimes d (changes (es ++ [.change change])))
    (hcalm : Undisturbed d (es ++ [.change change]))
    (h : Linked (Keeps (IsRead d es) (d.after (changes es))) (Answers (d.after (changes es)) namings) c) :
    Linked (Keeps (IsRead d (es ++ [.change change])) (d.after (changes (es ++ [.change change]))))
      (Answers (d.after (changes (es ++ [.change change]))) namings) c := by
  have hchanges : changes (es ++ [.change change]) = changes es ++ [change] := changes_append _ _
  rw [hchanges] at hnew ⊢
  refine h.mono ?_ ?_
  · rintro key k ⟨loc, hparts, hkey, ⟨t, htime, hread⟩, hknown⟩
    refine ⟨loc, hparts, hkey, ⟨t, htime, fun bytes hfile => hread bytes ?_⟩, hknown.concat _⟩
    exact hnew.file_of_after (hknown.2 t htime) hfile
  · rintro key k ⟨loc, -, -, -, hknown⟩ target r ⟨selector, ignored, htarget, hignored, hresolve⟩
    refine ⟨selector, ignored, htarget, hignored, ?_⟩
    rw [← hresolve]
    refine resolveTarget_congr (fun place hplace => ?_) selector ignored _
    have hsame := hcalm.places k.manifest (hknown.concat _).1 place hplace
    rw [hchanges] at hsame
    have hnow := hsame (changes es) ((List.mem_inits _ _).2 (List.prefix_append _ _))
    have hnext := hsame (changes es ++ [change]) ((List.mem_inits _ _).2 (List.prefix_refl _))
    exact hnext.trans hnow.symm

variable [DecidableEq ι] {alloc : Allocation}

def run (alloc : Allocation) (namings : ι → ModuleNaming) (d : Disk) (es : List (Event ι)) : Trace ι :=
  es.foldl (Event.apply alloc namings) ⟨d, empty, []⟩

theorem run_concat (es : List (Event ι)) (e : Event ι) :
    run alloc namings d (es ++ [e]) = e.apply alloc namings (run alloc namings d es) := by
  rw [run, run, List.foldl_append]
  rfl

/-- What a run has come to is right: the cache keeps nothing that is out of date, and
its answers were what there was. -/
structure Trace.Sound (namings : ι → ModuleNaming) (d : Disk) (es : List (Event ι)) (t : Trace ι) : Prop where
  disk : t.disk = d.after (changes es)
  linked : Linked (Keeps (IsRead d es) t.disk) (Answers t.disk namings) t.cache
  lookups : ∀ l ∈ t.lookups, l.Agrees namings

theorem Trace.Sound.apply {t : Trace ι} (h : t.Sound namings d es) (alloc : Allocation) (hd : d.Rooted)
    (hnew : Disk.NewTimes d (changes (es ++ [e]))) (hcalm : Undisturbed d (es ++ [e])) :
    (e.apply alloc namings t).Sound namings d (es ++ [e]) := by
  obtain ⟨disk, cache, lookups⟩ := t
  obtain ⟨rfl, hlinked, hlookups⟩ := h
  dsimp only at hlinked hlookups
  have hrooted : (d.after (changes es)).Rooted := hd.of_cwd_eq (Disk.cwd_after d _)
  have hmore : Linked (Keeps (IsRead d (es ++ [e])) (d.after (changes es))) (Answers (d.after (changes es)) namings)
      cache := by
    refine hlinked.mono ?_ fun _ _ _ _ _ hr => hr
    rintro key k ⟨loc, hparts, hkey, hof, hknown⟩
    exact ⟨loc, hparts, hkey, hof, hknown.concat e⟩
  have hdisk (hnone : changes [e] = []) : d.after (changes es) = d.after (changes (es ++ [e])) := by
    rw [changes_append, hnone, List.append_nil]
  cases e with
  | change change =>
    have hafter : change.apply (d.after (changes es)) = d.after (changes (es ++ [.change change])) := by
      rw [changes_append, Disk.after_append]
      rfl
    refine ⟨hafter, ?_, hlookups⟩
    rw [Event.apply, hafter]
    exact hlinked.change hnew hcalm
  | clear => exact ⟨hdisk rfl, linked_clear cache, hlookups⟩
  | manifest path =>
    refine ⟨hdisk rfl, (hmore.manifest alloc fun key m token hkey hload => ?_).1, hlookups⟩
    exact keeps_of_load hrooted (isComponent_ofString path) hkey hload token
      (isRead_of_load hd (isComponent_ofString path) (by simp [Event.manifest?, hload, Except.toOption]) token)
  | resolve path selector ignored naming =>
    cases hkey : pathKey (d.after (changes es)) (Path.ofString path) with
    | error fault =>
      rw [Event.apply]
      dsimp only
      rw [resolve_of_pathKey_eq_error hkey]
      refine ⟨hdisk rfl, hmore, List.forall_mem_append.2 ⟨hlookups, List.forall_mem_singleton.2 ?_⟩⟩
      exact Lookup.agrees_of_pathKey_eq_error hrooted (isComponent_ofString path) hkey rfl
    | ok key =>
      obtain ⟨hsame, hkept⟩ := resolve_of_keeps alloc hrooted (isComponent_ofString path) hkey hmore
        (fun m token hload => isRead_of_load hd (isComponent_ofString path)
          (by simp [Event.manifest?, hload, Except.toOption]) token)
        (fun loc k hknown => hcalm.names _ hknown.1) selector ignored naming
      refine ⟨hdisk rfl, hkept, List.forall_mem_append.2 ⟨hlookups, List.forall_mem_singleton.2 ?_⟩⟩
      exact Lookup.agrees_of_pathKey_eq_ok hkey hsame

theorem sound_run (alloc : Allocation) (hd : d.Rooted) (hnew : Disk.NewTimes d (changes es))
    (hcalm : Undisturbed d es) : (run alloc namings d es).Sound namings d es := by
  -- the induction is on the events, the last one first
  induction es using List.reverseRecOn with
  | nil => exact ⟨rfl, linked_empty, List.forall_mem_nil _⟩
  | append_singleton es e ih =>
    have hbefore : Disk.NewTimes d (changes es) := Disk.NewTimes.of_append (changes_append es [e] ▸ hnew)
    rw [run_concat]
    exact (ih hbefore hcalm.of_concat).apply alloc hd hnew hcalm

def stockedDisk : Disk := (Disk.empty ["w"]).addDirectory ["p", "a", "1"]

def packageText : String :=
  "\x7b\"targets\": \x7b\"T\": \x7b\"a/1\": \x7b\x7d\x7d\x7d, \"packageFolders\": \x7b\"/p\": \x7b\x7d\x7d\x7d"

def bareText : String := "\x7b\"targets\": \x7b\"T\": \x7b\x7d\x7d\x7d"

/-- A manifest is read by two spellings of its path and by a target's name in another case, is written anew with an
earlier time, goes, has a loop in its place, and comes back. -/
def editedRun : List (Event Unit) :=
  [.change (.write ["w", "m"] (Text.Utf8.encode packageText) 5), .resolve "m" ⟨"T", none⟩ (.ok []) (),
    .resolve "../w/m" ⟨"t", none⟩ (.ok ["a"]) (), .change (.write ["w", "m"] (Text.Utf8.encode bareText) 2),
    .resolve "/w/m" ⟨"T", none⟩ (.ok []) (), .change (.remove ["w", "m"]), .resolve "m" ⟨"T", none⟩ (.ok []) (),
    .change (.makeLoop ["w", "m"]), .resolve "m" ⟨"T", none⟩ (.ok []) (), .change (.remove ["w", "m"]),
    .change (.write ["w", "m"] (Text.Utf8.encode packageText) 3), .manifest "m",
    .resolve "m" ⟨"T", none⟩ (.ok []) ()]

example : (run .successor (fun _ => .absolute ⟨.single, ["w"]⟩) stockedDisk editedRun).lookups.map (·.answer.isOk) =
    [true, true, true, false, false, true] := by
  decide +kernel

end ReferenceAudit.ManifestCache

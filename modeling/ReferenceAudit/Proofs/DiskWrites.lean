import ReferenceAudit.Proofs.Locations
import ReferenceAudit.Store.Write

/-!
# What a written file leaves on a disk

Where a path leads depends on the directories alone, and a file is never put in a directory's place. So a path leads
after a write where it led before, and what was written is found there. Main statement: after a text was written
unless it was there already, the file holds the bytes of the text.
-/
namespace ReferenceAudit

section
variable {σ ε α β : Type}

theorem run_bind (x : ExceptT ε (StateM σ) α) (f : α → ExceptT ε (StateM σ) β) (s : σ) :
    (x >>= f).run.run s = match x.run.run s with
      | (.ok a, t) => (f a).run.run t
      | (.error e, t) => (.error e, t) := by
  simp only [bind, ExceptT.run, ExceptT.bind, ExceptT.mk, StateT.run, StateT.bind, ExceptT.bindCont]
  cases x s with
  | mk result t => cases result <;> rfl

theorem run_tryCatch (x : ExceptT ε (StateM σ) α) (f : ε → ExceptT ε (StateM σ) α) (s : σ) :
    (tryCatch x f).run.run s = match x.run.run s with
      | (.ok a, t) => (.ok a, t)
      | (.error e, t) => (f e).run.run t := by
  simp only [tryCatch, tryCatchThe, MonadExceptOf.tryCatch, ExceptT.tryCatch, ExceptT.run, ExceptT.mk,
    StateT.run, bind, StateT.bind]
  cases x s with
  | mk result t => cases result <;> rfl

theorem run_bind_eq_ok {x : ExceptT ε (StateM σ) α} {f : α → ExceptT ε (StateM σ) β} {s s' : σ} {b : β} :
    (x >>= f).run.run s = (.ok b, s') ↔ ∃ a t, x.run.run s = (.ok a, t) ∧ (f a).run.run t = (.ok b, s') := by
  rw [run_bind]
  obtain ⟨result, t⟩ := x.run.run s
  constructor
  · intro h
    cases result with
    | error e => cases h
    | ok a => exact ⟨a, t, rfl, h⟩
  · rintro ⟨a, t', hpair, h⟩
    cases hpair
    exact h

theorem run_bind_eq_error {x : ExceptT ε (StateM σ) α} {f : α → ExceptT ε (StateM σ) β} {s s' : σ} {e : ε} :
    (x >>= f).run.run s = (.error e, s') ↔
      x.run.run s = (.error e, s') ∨ ∃ a t, x.run.run s = (.ok a, t) ∧ (f a).run.run t = (.error e, s') := by
  rw [run_bind]
  obtain ⟨result, t⟩ := x.run.run s
  constructor
  · intro h
    cases result with
    | error e' =>
      cases h
      exact Or.inl rfl
    | ok a => exact Or.inr ⟨a, t, rfl, h⟩
  · rintro (h | ⟨a, t', hpair, h⟩)
    · cases h
      rfl
    · cases hpair
      exact h

end

namespace Disk

variable {d d' : Disk} {loc next : Location} {path : String} {bytes : List UInt8}

/-- Every directory of the first disk is one of the second, and relative paths start at the same place. -/
structure KeepsDirectories (d d' : Disk) : Prop where
  cwd : d'.cwd = d.cwd
  directories : ∀ loc, d.entryAt? loc = some .directory → d'.entryAt? loc = some .directory

theorem entryAt?_of_step {component : String} (h : d.step loc component = .ok next) :
    d.entryAt? loc = some .directory := by
  rw [Disk.step] at h
  split at h
  · assumption
  · cases h
  · cases h

theorem KeepsDirectories.step (h : KeepsDirectories d d') {component : String}
    (hs : d.step loc component = .ok next) :
    d'.step loc component = .ok next := by
  have hdirectory := entryAt?_of_step hs
  rw [Disk.step, hdirectory] at hs
  rw [Disk.step, h.directories loc hdirectory]
  exact hs

theorem KeepsDirectories.foldlM_step (h : KeepsDirectories d d') {components : List String}
    (hs : components.foldlM d.step loc = .ok next) : components.foldlM d'.step loc = .ok next := by
  induction components generalizing loc with
  | nil => exact hs
  | cons c cs ih =>
    rw [List.foldlM_cons] at hs ⊢
    cases hc : d.step loc c with
    | error deadEnd =>
      rw [hc] at hs
      cases hs
    | ok mid =>
      rw [hc] at hs
      rw [h.step hc]
      exact ih hs

/-- A path leads where it led, as long as no directory on its way is lost. -/
theorem KeepsDirectories.locate (h : KeepsDirectories d d') (hp : d.locate path = .ok loc) :
    d'.locate path = .ok loc := by
  rw [locate_eq_ok_iff_foldlM] at hp ⊢
  obtain ⟨hempty, hnull, hfold⟩ := hp
  rw [h.cwd]
  exact ⟨hempty, hnull, h.foldlM_step hfold⟩

theorem isLooped_of_entryAt? {e : Entry} (h : d.entryAt? loc = some e) : d.isLooped loc = false := by
  rw [entryAt?] at h
  by_cases hroot : loc = []
  · simp [isLooped, hroot]
  · by_contra hloop
    simp [hroot, hloop] at h

theorem entryAt?_root (d : Disk) : d.entryAt? [] = some .directory := by
  rw [entryAt?, if_pos rfl]

theorem entryAt?_putFile (d : Disk) (loc l : Location) (bytes : List UInt8) :
    (d.putFile loc bytes).entryAt? l =
      if l = [] then some .directory
      else if l = loc ∧ d.isLooped loc = false then some (.file bytes (d.clock + 1)) else d.entryAt? l :=
  entryAt?_put d loc l _

theorem entryAt?_putFile_of_ne {l : Location} (h : l ≠ loc) (d : Disk) (bytes : List UInt8) :
    (d.putFile loc bytes).entryAt? l = d.entryAt? l := by
  have hother : ¬(l = loc ∧ d.isLooped loc = false) := fun hplace => h hplace.1
  rw [entryAt?_putFile, if_neg hother]
  split
  · rename_i hroot
    rw [hroot, entryAt?_root]
  · rfl

theorem keepsDirectories_putFile (h : d.entryAt? loc ≠ some .directory) (bytes : List UInt8) :
    KeepsDirectories d (d.putFile loc bytes) := by
  refine ⟨rfl, fun l hl => ?_⟩
  have hne : l ≠ loc := fun he => h (he ▸ hl)
  rw [entryAt?_putFile_of_ne hne, hl]

/-- A file can be put at a place. -/
structure IsFree (d : Disk) (loc : Location) : Prop where
  directory : d.entryAt? loc ≠ some .directory
  loop : d.isLooped loc = false

/-- Whether a loop is at the end of a path. -/
def isLoop (d : Disk) (path : String) : Bool := (d.locate path).toOption.any d.isLooped

theorem isFree_of_locate (hloc : d.locate path = .ok loc) (hdirectory : d.isDirectory path = false)
    (hloop : d.isLoop path = false) : d.IsFree loc := by
  constructor
  · intro hentry
    have hfound := find?_eq_some_iff.2 ⟨loc, hloc, hentry⟩
    simp [isDirectory, hfound] at hdirectory
  · simpa [isLoop, hloc, Except.toOption] using hloop

theorem IsFree.entryAt?_putFile (h : d.IsFree loc) (bytes : List UInt8) :
    (d.putFile loc bytes).entryAt? loc = some (.file bytes (d.clock + 1)) := by
  have hroot : loc ≠ [] := fun he => h.directory (by rw [he, entryAt?_root])
  rw [Disk.entryAt?_putFile, if_neg hroot, if_pos ⟨rfl, h.loop⟩]

theorem find?_putFile (hp : d.locate path = .ok loc) (h : d.IsFree loc) :
    (d.putFile loc bytes).find? path = some (.file bytes (d.clock + 1)) :=
  find?_eq_some_iff.2 ⟨loc, (keepsDirectories_putFile h.directory bytes).locate hp, h.entryAt?_putFile bytes⟩

theorem find?_of_read {path : Path} (h : d.read path = .ok bytes) :
    ∃ t, d.find? path.text = some (.file bytes t) := by
  rw [read] at h
  cases hp : d.locate path.text with
  | error deadEnd =>
    rw [hp] at h
    cases h
  | ok loc =>
    rw [hp] at h
    simp only [Except.mapError, bind, Except.bind] at h
    split at h
    · rename_i bytes' t hfile
      cases h
      exact ⟨t, find?_eq_some_iff.2 ⟨loc, hp, hfile⟩⟩
    · cases h
    · cases h

end Disk

namespace Effect

/-- What work on a disk gives, or the fault that it ends with, and the disk that it leaves. -/
def runOn {α : Type} (x : Effect α) (d : Disk) : Except Fault α × Disk := x.run.run d

theorem runOn_bind {α β : Type} (x : Effect α) (f : α → Effect β) (d : Disk) :
    runOn (x >>= f) d = match runOn x d with
      | (.ok a, d) => runOn (f a) d
      | (.error fault, d) => (.error fault, d) := by
  rw [runOn, run_bind, runOn]
  obtain ⟨result, d'⟩ := x.run.run d
  cases result <;> rfl

theorem runOn_bind_eq_ok {α β : Type} {x : Effect α} {f : α → Effect β} {d d' : Disk} {b : β} :
    runOn (x >>= f) d = (.ok b, d') ↔ ∃ a d₁, runOn x d = (.ok a, d₁) ∧ runOn (f a) d₁ = (.ok b, d') :=
  run_bind_eq_ok

@[simp] theorem runOn_look {α : Type} (f : Disk → Except Fault α) (d : Disk) : runOn (look f) d = (f d, d) := by
  have hlift : ∀ x : Except Fault α, runOn (look.liftExcept x) d = (x, d) := fun x => by cases x <;> rfl
  exact hlift (f d)

theorem runOn_get_bind {α : Type} (f : Disk → Effect α) (d : Disk) : runOn (get >>= f) d = runOn (f d) d := rfl

variable {d d' : Disk} {path : Path} {bytes : List UInt8}

theorem exists_of_runOn_writeFile (h : runOn (writeFile path bytes) d = (.ok (), d')) :
    ∃ loc, d.locate path.text = .ok loc ∧ d.IsFree loc ∧ d' = d.putFile loc bytes := by
  rw [writeFile, runOn_get_bind] at h
  split at h
  · cases h
  · rename_i loc hloc
    split_ifs at h with hdirectory hloop
    · cases h
    · cases h
    · cases h
      exact ⟨loc, hloc, ⟨hdirectory, Bool.eq_false_iff.2 hloop⟩, rfl⟩

theorem disk_of_runOn_writeFile {fault : Fault} (h : runOn (writeFile path bytes) d = (.error fault, d')) :
    d' = d := by
  rw [writeFile, runOn_get_bind] at h
  split at h
  · cases h
    rfl
  · split_ifs at h <;> cases h <;> rfl

theorem find?_of_writeFile (h : runOn (writeFile path bytes) d = (.ok (), d')) :
    ∃ t, d'.find? path.text = some (.file bytes t) := by
  obtain ⟨loc, hloc, hfree, rfl⟩ := exists_of_runOn_writeFile h
  exact ⟨_, Disk.find?_putFile hloc hfree⟩

theorem find?_of_save (h : runOn (save path bytes) d = (.ok (), d')) :
    ∃ t, d'.find? path.text = some (.file bytes t) := by
  obtain ⟨_, _, -, hwrite⟩ := runOn_bind_eq_ok.1 h
  exact find?_of_writeFile hwrite

end Effect

namespace Store

variable {d d' : Disk} {path : Path} {text : String} {ignoreCase wrote : Bool} {fault : Fault}

theorem runOn_writeIfChanged_eq_ok_iff : Effect.runOn (writeIfChanged path text ignoreCase) d = (.ok wrote, d') ↔
    (isUnchanged d path ignoreCase text = .ok true ∧ wrote = false ∧ d' = d) ∨
      (isUnchanged d path ignoreCase text = .ok false ∧ wrote = true ∧
        Effect.runOn (Effect.save path (Text.Utf8.encode text)) d = (.ok (), d')) := by
  constructor
  · intro h
    obtain ⟨unchanged, _, hlook, h⟩ := Effect.runOn_bind_eq_ok.1 h
    rw [Effect.runOn_look, Prod.mk.injEq] at hlook
    obtain ⟨hunchanged, rfl⟩ := hlook
    cases unchanged with
    | true =>
      cases h
      exact Or.inl ⟨hunchanged, rfl, rfl⟩
    | false =>
      obtain ⟨_, _, hsave, h⟩ := Effect.runOn_bind_eq_ok.1 h
      cases h
      exact Or.inr ⟨hunchanged, rfl, hsave⟩
  · have hlook {unchanged : Bool} (h : isUnchanged d path ignoreCase text = .ok unchanged) :
        Effect.runOn (Effect.look (isUnchanged · path ignoreCase text)) d = (.ok unchanged, d) := by
      rw [Effect.runOn_look, h]
    rintro (⟨hunchanged, rfl, rfl⟩ | ⟨hchanged, rfl, hsave⟩)
    · exact Effect.runOn_bind_eq_ok.2 ⟨true, d', hlook hunchanged, rfl⟩
    · exact Effect.runOn_bind_eq_ok.2 ⟨false, d, hlook hchanged, Effect.runOn_bind_eq_ok.2 ⟨(), d', hsave, rfl⟩⟩

theorem runOn_writeIfChanged_eq_error (h : Effect.runOn (writeIfChanged path text ignoreCase) d =
    (.error fault, d')) :
    (isUnchanged d path ignoreCase text = .error fault ∧ d' = d) ∨
      Effect.runOn (Effect.save path (Text.Utf8.encode text)) d = (.error fault, d') := by
  rcases run_bind_eq_error.1 h with hlook | ⟨unchanged, _, hlook, hrest⟩
  · rw [← Effect.runOn, Effect.runOn_look, Prod.mk.injEq] at hlook
    exact Or.inl ⟨hlook.1, hlook.2.symm⟩
  · rw [← Effect.runOn, Effect.runOn_look, Prod.mk.injEq] at hlook
    obtain ⟨-, rfl⟩ := hlook
    cases unchanged with
    | true => cases hrest
    | false =>
      rcases run_bind_eq_error.1 hrest with hsave | ⟨_, _, -, hpure⟩
      · exact Or.inr hsave
      · cases hpure

theorem isUnchanged_eq_true_iff : isUnchanged d path ignoreCase text = .ok true ↔
    ∃ bytes t, d.find? path.text = some (.file bytes t) ∧ holds ignoreCase bytes text = true := by
  constructor
  · intro h
    rw [isUnchanged] at h
    split at h
    · cases hread : d.read path with
      | error fault =>
        rw [hread] at h
        cases h
      | ok bytes =>
        rw [hread] at h
        obtain ⟨t, hfile⟩ := Disk.find?_of_read hread
        exact ⟨bytes, t, hfile, Except.ok.inj h⟩
    · cases h
  · rintro ⟨bytes, t, hfile, hholds⟩
    rw [isUnchanged, if_pos (Disk.isThere_of_find? hfile), Disk.read_of_find? hfile]
    simp [Except.map, hholds]

theorem find?_of_isUnchanged (h : isUnchanged d path false text = .ok true) :
    ∃ t, d.find? path.text = some (.file (Text.Utf8.encode text) t) := by
  obtain ⟨bytes, t, hfile, hholds⟩ := isUnchanged_eq_true_iff.1 h
  have heq : (bytes == Text.Utf8.encode text) = true := hholds
  exact ⟨t, beq_iff_eq.1 heq ▸ hfile⟩

theorem find?_of_writeIfChanged (h : Effect.runOn (writeIfChanged path text false) d = (.ok wrote, d')) :
    ∃ t, d'.find? path.text = some (.file (Text.Utf8.encode text) t) := by
  rcases runOn_writeIfChanged_eq_ok_iff.1 h with ⟨hunchanged, -, rfl⟩ | ⟨-, -, hsave⟩
  · exact find?_of_isUnchanged hunchanged
  · exact Effect.find?_of_save hsave

end Store
end ReferenceAudit

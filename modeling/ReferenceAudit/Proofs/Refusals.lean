import ReferenceAudit.Proofs.DiskWrites
import ReferenceAudit.Proofs.Lists

/-!
# What a disk refuses

Work on a disk fails because something is not there, or is there and of another kind. Such a fault is no fault of an
input, and none of the records that are to be written.
-/
namespace ReferenceAudit

namespace Fault

/-- Faults by which a disk refuses what is asked of it. -/
def isRefusal : Fault → Bool
  | fileMissing _ | isDirectory _ | notDirectory _ | fileExists _ | linkLoop _ | embeddedNull => true
  | _ => false

theorem isInput_eq_false_of_isRefusal {fault : Fault} (h : fault.isRefusal = true) : fault.isInput = false := by
  cases fault <;> first | rfl | cases h

end Fault

namespace Disk

theorem isRefusal_fault (deadEnd : DeadEnd) (path : String) : (deadEnd.fault path).isRefusal = true := by
  cases deadEnd <;> rfl

theorem isRefusal_of_read {d : Disk} {path : Path} {fault : Fault} (h : d.read path = .error fault) :
    fault.isRefusal = true := by
  rw [read] at h
  rcases bind_eq_error.1 h with hloc | ⟨loc, -, h⟩
  · cases hp : d.locate path.text with
    | ok loc =>
      rw [hp] at hloc
      cases hloc
    | error deadEnd =>
      rw [hp] at hloc
      cases hloc
      exact isRefusal_fault deadEnd path.text
  · split at h
    · cases h
    · cases h
      rfl
    · cases h
      exact isRefusal_fault _ path.text

end Disk

namespace Effect
variable {α β : Type}

/-- Work that fails, if at all, because the disk refuses it. -/
def RefusedOnly (x : Effect α) : Prop := ∀ d fault d', runOn x d = (.error fault, d') → fault.isRefusal = true

theorem RefusedOnly.bind {x : Effect α} {f : α → Effect β} (hx : RefusedOnly x) (hf : ∀ a, RefusedOnly (f a)) :
    RefusedOnly (x >>= f) := by
  intro d fault d' h
  rcases run_bind_eq_error.1 h with hfirst | ⟨a, d₁, -, hsecond⟩
  · exact hx d fault d' hfirst
  · exact hf a d₁ fault d' hsecond

theorem RefusedOnly.tryCatch {x : Effect α} {f : Fault → Effect α} (hx : RefusedOnly x)
    (hf : ∀ fault, fault.isRefusal = true → RefusedOnly (f fault)) : RefusedOnly (tryCatch x f) := by
  intro d fault d' h
  rw [runOn, run_tryCatch] at h
  cases hrun : x.run.run d with
  | mk result d₁ => cases result with
    | ok a =>
      rw [hrun] at h
      cases h
    | error first =>
      rw [hrun] at h
      exact hf first (hx d first d₁ hrun) d₁ fault d' h

theorem refusedOnly_pure (a : α) : RefusedOnly (pure a) := by
  intro d fault d' h
  cases h

theorem refusedOnly_throw {fault : Fault} (h : fault.isRefusal = true) : RefusedOnly (throw fault : Effect α) := by
  intro d fault' d' hrun
  cases hrun
  exact h

theorem refusedOnly_get : RefusedOnly (get : Effect Disk) := by
  intro d fault d' h
  cases h

theorem refusedOnly_set (d : Disk) : RefusedOnly (set d : Effect PUnit) := by
  intro d' fault d'' h
  cases h

theorem refusedOnly_look {f : Disk → Except Fault α} (hf : ∀ d fault, f d = .error fault → fault.isRefusal = true) :
    RefusedOnly (look f) := by
  intro d fault d' h
  rw [runOn_look, Prod.mk.injEq] at h
  exact hf d fault h.1

theorem refusedOnly_makeDirectory (path : Path) : RefusedOnly (makeDirectory path) := by
  refine refusedOnly_get.bind fun d => ?_
  split
  · exact refusedOnly_throw (Disk.isRefusal_fault _ _)
  · split
    · exact refusedOnly_pure ()
    · exact refusedOnly_throw rfl
    · split_ifs
      · exact refusedOnly_throw rfl
      · exact refusedOnly_set _

theorem refusedOnly_makeDirectories (root : Path.Root) (parts : List String) :
    RefusedOnly (makeDirectories root parts) := by
  induction parts with
  | nil => exact refusedOnly_pure ()
  | cons part above ih =>
    refine (refusedOnly_makeDirectory _).tryCatch fun fault hfault => ?_
    split
    · exact ih.bind fun _ => refusedOnly_makeDirectory _
    · exact refusedOnly_throw hfault

theorem refusedOnly_writeFile (path : Path) (bytes : List UInt8) : RefusedOnly (writeFile path bytes) := by
  refine refusedOnly_get.bind fun d => ?_
  split
  · exact refusedOnly_throw (Disk.isRefusal_fault _ _)
  · split_ifs
    · exact refusedOnly_throw rfl
    · exact refusedOnly_throw rfl
    · exact refusedOnly_set _

theorem refusedOnly_save (path : Path) (bytes : List UInt8) : RefusedOnly (save path bytes) :=
  (refusedOnly_makeDirectories _ _).bind fun _ => refusedOnly_writeFile path bytes

end Effect

namespace Store

theorem isRefusal_of_isUnchanged {d : Disk} {path : Path} {ignoreCase : Bool} {text : String} {fault : Fault}
    (h : isUnchanged d path ignoreCase text = .error fault) : fault.isRefusal = true := by
  rw [isUnchanged] at h
  split at h
  · exact Disk.isRefusal_of_read (map_eq_error.1 h)
  · cases h

theorem refusedOnly_writeIfChanged (path : Path) (text : String) (ignoreCase : Bool) :
    Effect.RefusedOnly (writeIfChanged path text ignoreCase) := by
  refine (Effect.refusedOnly_look fun d fault => isRefusal_of_isUnchanged).bind fun unchanged => ?_
  split
  · exact Effect.refusedOnly_pure _
  · exact (Effect.refusedOnly_save _ _).bind fun _ => Effect.refusedOnly_pure _

end Store
end ReferenceAudit

import ReferenceAudit.Proofs.Lists
import ReferenceAudit.Proofs.Locations

/-!
# Disks over time

Files are written, touched and removed, and directories and loops come beside them. Main statement: if a file is
never given a time that it had before, a file of a time that it had is the one that was there, with the bytes
that it had.
-/
namespace ReferenceAudit.Disk

/-- What happens to a disk. Times are as they are given, and need not increase. -/
inductive Change
  | write (place : Location) (bytes : List UInt8) (time : Nat)
  | touch (place : Location) (time : Nat)
  | makeDirectory (place : Location)
  | makeLoop (place : Location)
  | remove (place : Location)
  deriving DecidableEq

namespace Change

/-- Only a file that is there can be touched. -/
def apply (d : Disk) : Change → Disk
  | write place bytes time => (d.addDirectory place.dropLast).put place (.file bytes time)
  | touch place time => match d.entryAt? place with
    | some (.file bytes _) => d.put place (.file bytes time)
    | _ => d
  | makeDirectory place => d.addDirectory place
  | makeLoop place => d.addLoop place
  | remove place => d.erase place

/-- The place of the file that a change is about, with its new time. -/
def stamp? : Change → Option (Location × Nat)
  | write place _ time | touch place time => some (place, time)
  | makeDirectory _ | makeLoop _ | remove _ => none

end Change

variable {d : Disk} {loc place : Location} {bytes : List UInt8} {time : Nat} {c : Change} {cs cs' : List Change}

theorem ne_nil_of_entryAt?_eq_file (h : d.entryAt? loc = some (.file bytes time)) : loc ≠ [] := by
  rintro rfl
  cases h

theorem file_of_put {e : Entry} (h : (d.put place e).entryAt? loc = some (.file bytes time)) :
    (loc = place ∧ e = .file bytes time) ∨ d.entryAt? loc = some (.file bytes time) := by
  have hroot : loc ≠ [] := ne_nil_of_entryAt?_eq_file h
  rw [entryAt?_put, if_neg hroot] at h
  split at h
  · rename_i hplace
    exact Or.inl ⟨hplace.1, Option.some.inj h⟩
  · exact Or.inr h

theorem file_of_addDirectory (h : (d.addDirectory place).entryAt? loc = some (.file bytes time)) :
    d.entryAt? loc = some (.file bytes time) := by
  rw [addDirectory] at h
  generalize (List.range (place.length + 1)).map place.take = above at h
  induction above generalizing d with
  | nil => exact h
  | cons place above ih =>
    rw [List.foldl_cons] at h
    have hnext := ih h
    split at hnext
    · exact hnext
    · rcases file_of_put hnext with ⟨-, hdirectory⟩ | hold
      · cases hdirectory
      · exact hold

theorem isLooped_addLoop (d : Disk) (place loc : Location) :
    (d.addLoop place).isLooped loc = ((place != [] && place.isPrefixOf loc) || d.isLooped loc) := by
  rw [isLooped, addLoop, List.any_cons]
  rfl

theorem file_of_addLoop (h : (d.addLoop place).entryAt? loc = some (.file bytes time)) :
    d.entryAt? loc = some (.file bytes time) := by
  have hroot : loc ≠ [] := ne_nil_of_entryAt?_eq_file h
  rw [entryAt?, if_neg hroot, isLooped_addLoop] at h
  rw [entryAt?, if_neg hroot]
  split at h
  · cases h
  · rename_i hfree
    rw [if_neg fun hlooped => hfree (by rw [hlooped, Bool.or_true])]
    exact h

/-- What was hidden by a loop goes with it, so a file that is there afterwards was not hidden. -/
theorem file_of_erase (h : (d.erase place).entryAt? loc = some (.file bytes time)) :
    d.entryAt? loc = some (.file bytes time) := by
  have hroot : loc ≠ [] := ne_nil_of_entryAt?_eq_file h
  rw [entryAt?, if_neg hroot] at h
  rw [entryAt?, if_neg hroot]
  split at h
  · cases h
  · rename_i hfree
    have hlookup : (d.entries.filter fun e => !place.isPrefixOf e.1).lookup loc = some (.file bytes time) := h
    have hleft : (!place.isPrefixOf loc) = true := by
      obtain ⟨before, after, hentries, -⟩ := List.lookup_eq_some_iff.1 hlookup
      have hmem : (loc, Entry.file bytes time) ∈ d.entries.filter fun e => !place.isPrefixOf e.1 := by
        rw [hentries]
        exact List.mem_append_right _ List.mem_cons_self
      exact (List.mem_filter.1 hmem).2
    rw [Lists.lookup_filter (p := fun key => !place.isPrefixOf key) hleft] at hlookup
    rw [if_neg, hlookup]
    intro hlooped
    obtain ⟨l, hl, hcovers⟩ := List.any_eq_true.1 hlooped
    have hprefix : l <+: loc := List.isPrefixOf_iff_prefix.1 (Bool.and_eq_true _ _ ▸ hcovers).2
    refine hfree (List.any_eq_true.2 ⟨l, List.mem_filter.2 ⟨hl, ?_⟩, hcovers⟩)
    -- a loop that was at the place or below it was no part of the way to this file
    rw [Bool.not_eq_true', ← Bool.not_eq_true, List.isPrefixOf_iff_prefix] at hleft ⊢
    exact fun hbelow => hleft (hbelow.trans hprefix)

theorem Change.file_of_apply (h : (c.apply d).entryAt? loc = some (.file bytes time)) :
    c.stamp? = some (loc, time) ∨ d.entryAt? loc = some (.file bytes time) := by
  cases c with
  | write place new stamp =>
    rcases file_of_put h with ⟨rfl, hfile⟩ | hold
    · cases hfile
      exact Or.inl rfl
    · exact Or.inr (file_of_addDirectory hold)
  | touch place stamp =>
    rw [apply] at h
    split at h
    · rcases file_of_put h with ⟨rfl, hfile⟩ | hold
      · cases hfile
        exact Or.inl rfl
      · exact Or.inr hold
    · exact Or.inr h
  | makeDirectory place => exact Or.inr (file_of_addDirectory h)
  | makeLoop place => exact Or.inr (file_of_addLoop h)
  | remove place => exact Or.inr (file_of_erase h)

theorem cwd_addDirectory (d : Disk) (place : Location) : (d.addDirectory place).cwd = d.cwd := by
  rw [addDirectory]
  refine List.foldlRecOn (motive := fun d' : Disk => d'.cwd = d.cwd) _ _ rfl ?_
  intro d' hd' above _
  split <;> exact hd'

theorem Change.cwd_apply (d : Disk) (c : Change) : (c.apply d).cwd = d.cwd := by
  cases c with
  | write place bytes time => exact cwd_addDirectory d place.dropLast
  | touch place time =>
    rw [apply]
    split <;> rfl
  | makeDirectory place => exact cwd_addDirectory d place
  | makeLoop place => rfl
  | remove place => rfl

def after (d : Disk) (cs : List Change) : Disk := cs.foldl Change.apply d

theorem after_concat (d : Disk) (cs : List Change) (c : Change) : d.after (cs ++ [c]) = c.apply (d.after cs) := by
  rw [after, List.foldl_append]
  rfl

theorem after_append (d : Disk) (cs cs' : List Change) : d.after (cs ++ cs') = (d.after cs).after cs' :=
  List.foldl_append

theorem cwd_after (d : Disk) (cs : List Change) : (d.after cs).cwd = d.cwd :=
  List.foldlRecOn (motive := fun d' : Disk => d'.cwd = d.cwd) cs Change.apply rfl
    fun d' hd' c _ => (c.cwd_apply d').trans hd'

/-- The files that changes are about, each with the time that it is given. -/
def stamps (cs : List Change) : List (Location × Nat) := cs.filterMap Change.stamp?

theorem stamps_concat (cs : List Change) (c : Change) : stamps (cs ++ [c]) = stamps cs ++ c.stamp?.toList := by
  rw [stamps, stamps, List.filterMap_append]
  congr 1

theorem stamps_append (cs cs' : List Change) : stamps (cs ++ cs') = stamps cs ++ stamps cs' := List.filterMap_append

theorem file_of_after (h : (d.after cs).entryAt? loc = some (.file bytes time)) :
    (loc, time) ∈ stamps cs ∨ d.entryAt? loc = some (.file bytes time) := by
  induction cs using List.reverseRecOn with
  | nil => exact Or.inr h
  | append_singleton cs c ih =>
    rw [after_concat] at h
    rw [stamps_concat, List.mem_append]
    rcases Change.file_of_apply h with hstamp | hold
    · exact Or.inl (Or.inr (Option.mem_toList.2 hstamp))
    · exact (ih hold).imp_left Or.inl

/-- Whether a file had a time at the start, or was given it by a change. -/
def WasOf (d : Disk) (cs : List Change) (loc : Location) (time : Nat) : Prop :=
  (∃ bytes, d.entryAt? loc = some (.file bytes time)) ∨ (loc, time) ∈ stamps cs

theorem wasOf_of_after (h : (d.after cs).entryAt? loc = some (.file bytes time)) : WasOf d cs loc time :=
  (file_of_after h).symm.imp_left fun hstart => ⟨bytes, hstart⟩

theorem WasOf.append (h : WasOf d cs loc time) (cs' : List Change) : WasOf d (cs ++ cs') loc time :=
  h.imp_right fun hstamp => stamps_append cs cs' ▸ List.mem_append_left _ hstamp

/-- Each change of a file gives it a time that it did not have before. -/
structure NewTimes (d : Disk) (cs : List Change) : Prop where
  distinct : (stamps cs).Nodup
  unlike : ∀ stamp ∈ stamps cs, ∀ bytes, d.entryAt? stamp.1 ≠ some (.file bytes stamp.2)

theorem newTimes_of_missing (hdistinct : (stamps cs).Nodup)
    (hmissing : ∀ stamp ∈ stamps cs, d.entryAt? stamp.1 = none) : NewTimes d cs := by
  refine ⟨hdistinct, fun stamp hstamp bytes => ?_⟩
  rw [hmissing stamp hstamp]
  exact nofun

theorem NewTimes.of_append (h : NewTimes d (cs ++ cs')) : NewTimes d cs := by
  obtain ⟨hdistinct, hunlike⟩ := h
  rw [stamps_append] at hdistinct hunlike
  exact ⟨(List.nodup_append.1 hdistinct).1, fun stamp hstamp => hunlike stamp (List.mem_append_left _ hstamp)⟩

theorem NewTimes.not_mem_stamps (h : NewTimes d (cs ++ cs')) (hwas : WasOf d cs loc time) :
    (loc, time) ∉ stamps cs' := by
  obtain ⟨hdistinct, hunlike⟩ := h
  rw [stamps_append] at hdistinct hunlike
  intro hstamp
  rcases hwas with ⟨bytes, hstart⟩ | hearlier
  · exact hunlike _ (List.mem_append_right _ hstamp) bytes hstart
  · exact (List.nodup_append.1 hdistinct).2.2 _ hearlier _ hstamp rfl

/-- **No file comes back.** Where each change gives its file a new time, a file of a time that it had before some
changes is the file that was there before them. -/
theorem NewTimes.file_of_after (h : NewTimes d (cs ++ cs')) (hwas : WasOf d cs loc time)
    (hfile : (d.after (cs ++ cs')).entryAt? loc = some (.file bytes time)) :
    (d.after cs).entryAt? loc = some (.file bytes time) := by
  rw [after_append] at hfile
  exact (Disk.file_of_after hfile).resolve_left (h.not_mem_stamps hwas)

end ReferenceAudit.Disk

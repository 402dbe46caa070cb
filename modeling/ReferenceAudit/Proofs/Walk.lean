import Mathlib.Logic.Relation
import ReferenceAudit.Contributions
import ReferenceAudit.Proofs.Lists

/-!
# Walks meet what can be reached, each key once

The walk of `Contributions` runs in a list of candidates that it empties. It is compared with a walk that is
bounded by nothing and only remembers what it has met: on candidates that no edge leaves, both are the same,
so the unbounded walk comes to an end on every graph.
-/
namespace ReferenceAudit.Contributions
open Relation

/-- A breadth-first walk to its end: the keys met before, the pending ones, and the keys that it meets. -/
inductive Walks (next : String → List String) : List String → List String → List String → Prop
  | done {met} : Walks next met [] []
  | again {met key pending trail} (known : key ∈ met) (rest : Walks next met pending trail) :
      Walks next met (key :: pending) trail
  | visit {met key pending trail} (new : key ∉ met)
      (rest : Walks next (key :: met) (pending ++ next key) trail) :
      Walks next met (key :: pending) (key :: trail)

def Leads (next : String → List String) (a b : String) : Prop := b ∈ next a

namespace Walks
variable {next : String → List String} {met pending trail : List String}

theorem not_met (h : Walks next met pending trail) : ∀ k ∈ trail, k ∉ met := by
  induction h with
  | done => simp
  | again _ _ ih => exact ih
  | visit new _ ih =>
    intro k hk
    rcases List.mem_cons.1 hk with rfl | hk
    · exact new
    · exact fun hm => ih k hk (List.mem_cons_of_mem _ hm)

theorem nodup (h : Walks next met pending trail) : trail.Nodup := by
  induction h with
  | done => exact List.nodup_nil
  | again _ _ ih => exact ih
  | visit _ rest ih => exact List.nodup_cons.2 ⟨fun hk => rest.not_met _ hk List.mem_cons_self, ih⟩

theorem pending_subset (h : Walks next met pending trail) : ∀ k ∈ pending, k ∈ met ∨ k ∈ trail := by
  induction h with
  | done => simp
  | again known _ ih =>
    intro k hk
    rcases List.mem_cons.1 hk with rfl | hk
    · exact Or.inl known
    · exact ih k hk
  | visit _ _ ih =>
    intro k hk
    rcases List.mem_cons.1 hk with rfl | hk
    · exact Or.inr List.mem_cons_self
    · rcases ih k (List.mem_append_left _ hk) with hm | ht
      · rcases List.mem_cons.1 hm with rfl | hm
        · exact Or.inr List.mem_cons_self
        · exact Or.inl hm
      · exact Or.inr (List.mem_cons_of_mem _ ht)

theorem closed (h : Walks next met pending trail) : ∀ k ∈ trail, ∀ j ∈ next k, j ∈ met ∨ j ∈ trail := by
  induction h with
  | done => simp
  | again _ _ ih => exact ih
  | @visit met key pending trail _ rest ih =>
    intro k hk j hj
    have hmet : j ∈ key :: met ∨ j ∈ trail := by
      rcases List.mem_cons.1 hk with rfl | hk
      · exact rest.pending_subset j (List.mem_append_right _ hj)
      · exact ih k hk j hj
    rcases hmet with hm | ht
    · rcases List.mem_cons.1 hm with rfl | hm
      · exact Or.inr List.mem_cons_self
      · exact Or.inl hm
    · exact Or.inr (List.mem_cons_of_mem _ ht)

theorem sound (h : Walks next met pending trail) : ∀ k ∈ trail, ∃ p ∈ pending, ReflTransGen (Leads next) p k := by
  induction h with
  | done => simp
  | again _ _ ih =>
    intro k hk
    obtain ⟨p, hp, hr⟩ := ih k hk
    exact ⟨p, List.mem_cons_of_mem _ hp, hr⟩
  | @visit met key pending trail _ _ ih =>
    intro k hk
    rcases List.mem_cons.1 hk with rfl | hk
    · exact ⟨_, List.mem_cons_self, .refl⟩
    · obtain ⟨p, hp, hr⟩ := ih k hk
      rcases List.mem_append.1 hp with hp | hp
      · exact ⟨p, List.mem_cons_of_mem _ hp, hr⟩
      · exact ⟨key, List.mem_cons_self, .head hp hr⟩

/-- A walk from one key, with nothing met before, meets exactly what that key reaches. -/
theorem mem_iff {start : String} (h : Walks next [] [start] trail) {k : String} :
    k ∈ trail ↔ ReflTransGen (Leads next) start k := by
  constructor
  · intro hk
    obtain ⟨p, hp, hr⟩ := h.sound k hk
    rw [List.mem_singleton] at hp
    exact hp ▸ hr
  · intro hr
    induction hr with
    | refl => simpa using h.pending_subset start List.mem_cons_self
    | tail _ hs ih => simpa using h.closed _ ih _ hs

end Walks

theorem walks_walk (next : String → List String) (unseen pending met : List String)
    (hn : unseen.Nodup) (hm : ∀ k ∈ unseen, k ∉ met)
    (hp : ∀ k ∈ pending, k ∈ met ∨ k ∈ unseen) (hc : ∀ k ∈ unseen, ∀ j ∈ next k, j ∈ met ∨ j ∈ unseen) :
    Walks next met pending (walk next unseen pending) := by
  induction unseen, pending using walk.induct next generalizing met with
  | case1 unseen =>
    rw [walk]
    exact .done
  | case2 unseen key pending hk ih =>
    rw [walk, if_pos hk]
    -- the visited key moves from the candidates to what has been met
    have hmove : ∀ j, j ∈ met ∨ j ∈ unseen → j ∈ key :: met ∨ j ∈ unseen.erase key := by
      intro j hj
      by_cases he : j = key
      · exact Or.inl (he ▸ List.mem_cons_self)
      · rcases hj with hj | hj
        · exact Or.inl (List.mem_cons_of_mem _ hj)
        · exact Or.inr ((List.mem_erase_of_ne he).2 hj)
    refine .visit (hm key hk) (ih (key :: met) (hn.erase key) ?_ ?_ ?_)
    · intro k hk' hmem
      rw [hn.mem_erase_iff] at hk'
      rcases List.mem_cons.1 hmem with he | hmem
      · exact hk'.1 he
      · exact hm k hk'.2 hmem
    · intro k hk'
      rcases List.mem_append.1 hk' with hk' | hk'
      · exact hmove k (hp k (List.mem_cons_of_mem _ hk'))
      · exact hmove k (hc key hk k hk')
    · intro k hk' j hj
      exact hmove j (hc k (List.mem_of_mem_erase hk') j hj)
  | case3 unseen key pending hk ih =>
    rw [walk, if_neg hk]
    refine .again ?_ (ih met hn hm (fun k hk' => hp k (List.mem_cons_of_mem _ hk')) hc)
    exact (hp key List.mem_cons_self).resolve_right hk

end ReferenceAudit.Contributions

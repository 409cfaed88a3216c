import TorcScheduler.State.Basic

/-!
# Keyed tables

`TaskList` and `NodeList` both store records under a unique name, in insertion order.  Their
operations are instances of four list operations over a key function, specified here once by what
a lookup by name returns afterwards:

* `lookup_insert` — insertion replaces the record of the same name;
* `lookup_modify` — a name-preserving rewrite touches only the record it names;
* `lookup_erase` — erasure removes only the record it names;
* `nodup_insert` / `nodup_modify` / `nodup_erase` — names stay pairwise distinct, and then
  `lookup_eq_some_iff` reads membership back from a lookup, and `any_filter_eq` a filtered
  snapshot;
* `forall_tail_of_nodup` — a write to the first name of a list of distinct names leaves the rest
  of the list alone, which is how a loop over a snapshot keeps its records current.
-/

namespace TorcScheduler
namespace Table

variable {α : Type} (key : α → String)

/-- The record stored under `name`, if any. -/
def lookup (l : List α) (name : String) : Option α :=
  l.find? fun a => key a = name

/-- Store `a` under its name: a record of the same name is dropped and `a` goes last. -/
def insert (l : List α) (a : α) : List α :=
  l.filter (fun b => key b ≠ key a) ++ [a]

/-- Rewrite the record stored under `name` with `f`. -/
def modify (l : List α) (name : String) (f : α → α) : List α :=
  l.map fun b => if key b = name then f b else b

/-- Drop the record stored under `name`. -/
def erase (l : List α) (name : String) : List α :=
  l.filter fun b => key b ≠ name

variable {key}

/-- After an insertion, the name inserted reads back the new record and every other name reads
what it read before. -/
theorem lookup_insert (l : List α) (a : α) (n : String) :
    lookup key (insert key l a) n = if key a = n then some a else lookup key l n := by
  unfold lookup insert
  rw [List.find?_append, List.find?_filter]
  by_cases h : key a = n
  · subst h
    simp [List.find?_eq_none]
  · have hq : List.find? (fun b => decide (key b = n)) [a] = none := by simp [h]
    rw [if_neg h, hq, Option.or_none]
    congr 1
    funext b
    by_cases hb : key b = n <;> simp [hb, Ne.symm h]

/-- A name-preserving rewrite changes the lookup of the name it rewrites and of no other. -/
theorem lookup_modify (l : List α) (m n : String) {f : α → α} (hf : ∀ b, key (f b) = key b) :
    lookup key (modify key l m f) n = if m = n then (lookup key l n).map f else lookup key l n := by
  unfold lookup modify
  rw [List.find?_map]
  have : ((fun a => decide (key a = n)) ∘ fun b => if key b = m then f b else b) =
      fun b => decide (key b = n) := by
    funext b
    by_cases hb : key b = m <;> simp [hb, hf]
  rw [this]
  cases h : l.find? (fun b => key b = n) with
  | none => simp
  | some b =>
    have hb : key b = n := by simpa using List.find?_some h
    by_cases hm : m = n
    · simp [hb, hm]
    · simp [hb, hm, Ne.symm hm]

/-- After an erasure the erased name reads nothing and every other name is unchanged. -/
theorem lookup_erase (l : List α) (m n : String) :
    lookup key (erase key l m) n = if m = n then none else lookup key l n := by
  unfold lookup erase
  rw [List.find?_filter]
  by_cases h : m = n
  · subst h
    simp [List.find?_eq_none]
  · rw [if_neg h]
    congr 1
    funext b
    by_cases hb : key b = n <;> simp [hb, Ne.symm h]

/-- Insertion keeps names pairwise distinct. -/
theorem nodup_insert {l : List α} (hl : (l.map key).Nodup) (a : α) :
    ((insert key l a).map key).Nodup := by
  rw [insert, List.map_append, List.nodup_append]
  refine ⟨(hl.sublist ((List.filter_sublist l).map key)), List.nodup_singleton _, ?_⟩
  simp [List.disjoint_singleton]

/-- A name-preserving rewrite keeps names pairwise distinct. -/
theorem nodup_modify {l : List α} (hl : (l.map key).Nodup) (m : String) {f : α → α}
    (hf : ∀ b, key (f b) = key b) : ((modify key l m f).map key).Nodup := by
  have : (modify key l m f).map key = l.map key := by
    simp only [modify, List.map_map]
    congr 1
    funext b
    simp only [Function.comp]
    split <;> simp [hf]
  rwa [this]

/-- Erasure keeps names pairwise distinct. -/
theorem nodup_erase {l : List α} (hl : (l.map key).Nodup) (m : String) :
    ((erase key l m).map key).Nodup :=
  hl.sublist ((List.filter_sublist l).map key)

/-- With distinct names, a lookup finds exactly the member of that name. -/
theorem lookup_eq_some_iff {l : List α} (hl : (l.map key).Nodup) {n : String} {a : α} :
    lookup key l n = some a ↔ a ∈ l ∧ key a = n := by
  constructor
  · intro h
    exact ⟨List.mem_of_find?_eq_some h, by simpa using List.find?_some h⟩
  · rintro ⟨ha, rfl⟩
    cases h : lookup key l (key a) with
    | none => simp [lookup, List.find?_eq_none] at h; exact absurd ha (by simpa using h a)
    | some b =>
      have hb := List.mem_of_find?_eq_some h
      have hk : key b = key a := by simpa using List.find?_some h
      rw [List.inj_on_of_nodup_map hl hb ha hk]

/-- With distinct names, a filtered list names `n` exactly when the record of that name passes
the filter. -/
theorem any_filter_eq {l : List α} (hl : (l.map key).Nodup) (P : α → Bool) (n : String) :
    (l.filter P).any (key · = n) = (lookup key l n).any P := by
  apply Bool.eq_iff_iff.2
  simp only [List.any_eq_true, List.mem_filter, decide_eq_true_eq]
  cases h : lookup key l n with
  | none =>
    simp only [Option.any_none, Bool.false_eq_true, iff_false]
    rintro ⟨a, ⟨ha, -⟩, rfl⟩
    simp [(lookup_eq_some_iff hl).2 ⟨ha, rfl⟩] at h
  | some a =>
    obtain ⟨ha, rfl⟩ := (lookup_eq_some_iff hl).1 h
    refine ⟨fun ⟨b, ⟨hb, hp⟩, hk⟩ => ?_, fun hp => ⟨a, ⟨ha, hp⟩, rfl⟩⟩
    rwa [Option.some_injective _ (h.symm.trans ((lookup_eq_some_iff hl).2 ⟨hb, hk⟩))]

/-- The rest of a list with distinct names: what a write to the head's name keeps of each record
stays true of it. -/
theorem forall_tail_of_nodup {P P' : α → Prop} {a : α} {l : List α} (h : ∀ u ∈ a :: l, P u)
    (hnd : ((a :: l).map key).Nodup) (hP : ∀ u, key a ≠ key u → P u → P' u) :
    (∀ u ∈ l, P' u) ∧ (l.map key).Nodup := by
  rw [List.map_cons, List.nodup_cons] at hnd
  exact ⟨fun u hu => hP u (fun he => hnd.1 (he ▸ List.mem_map_of_mem _ hu))
    (h u (List.mem_cons_of_mem _ hu)), hnd.2⟩

end Table
end TorcScheduler

import Mathlib.Data.List.Nodup

/-! # Looking up keys

What is found in a list of keys with values when entries are left out or put in another order. -/

namespace PrintJob

variable {α β : Type} [BEq α] [LawfulBEq α]

theorem lookup_filter (removed : α → Bool) (entries : List (α × β)) (key : α) :
    (entries.filter fun entry => !removed entry.1).lookup key =
      if removed key then none else entries.lookup key := by
  induction entries with
  | nil => simp
  | cons entry rest ih =>
      obtain ⟨other, value⟩ := entry
      rw [List.filter_cons]
      by_cases hk : key = other
      · subst hk
        cases hr : removed key <;> simp [hr, ih]
      · have hb : (key == other) = false := beq_eq_false_iff_ne.mpr hk
        cases hr : removed other <;> simp [ih, List.lookup_cons, hb]

theorem mem_of_lookup_eq_some {entries : List (α × β)} {key : α} {value : β}
    (h : entries.lookup key = some value) : (key, value) ∈ entries := by
  obtain ⟨before, after, rfl, _⟩ := List.lookup_eq_some_iff.mp h
  simp

theorem lookup_eq_some_of_mem {entries : List (α × β)} {key : α} {value : β}
    (hn : (entries.map Prod.fst).Nodup) (h : (key, value) ∈ entries) :
    entries.lookup key = some value := by
  obtain ⟨before, after, rfl⟩ := List.append_of_mem h
  refine List.lookup_eq_some_iff.mpr ⟨before, after, rfl, ?_⟩
  intro entry hm
  simp only [List.map_append, List.map_cons, List.nodup_append] at hn
  have hne := hn.2.2 entry.1 (List.mem_map_of_mem hm) key (by simp)
  simpa using hne.symm

/-- Where no key is repeated the order of the entries does not matter. -/
theorem lookup_eq_of_perm {entries others : List (α × β)} (hp : entries.Perm others)
    (hn : (entries.map Prod.fst).Nodup) (key : α) : entries.lookup key = others.lookup key := by
  have hn' : (others.map Prod.fst).Nodup := (hp.map Prod.fst).nodup_iff.mp hn
  apply Option.ext
  intro value
  constructor
  · intro h
    exact lookup_eq_some_of_mem hn' (hp.mem_iff.mp (mem_of_lookup_eq_some h))
  · intro h
    exact lookup_eq_some_of_mem hn (hp.mem_iff.mpr (mem_of_lookup_eq_some h))

end PrintJob

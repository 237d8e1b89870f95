import Mathlib

/-!
# Go maps as lists of pairs

A Go map is modelled as the list of its entries, in the order `range` visits them, with
one entry per key where the map's owner keeps it so (`MemoryCommandRepository.nodup`, the
L1 bound of the cache).  `List.lookup` is the map's read.  The three facts below are what
the filters of the model (`Delete`, cleanups, invalidations) need of it.
-/

namespace AdQueue

/-- A filter that keeps every entry of a key does not change its lookup. -/
theorem lookup_filter {β : Type} {p : String × β → Bool} {key : String} :
    ∀ {l : List (String × β)}, (∀ e ∈ l, e.1 = key → p e = true) →
      (l.filter p).lookup key = l.lookup key
  | [], _ => rfl
  | (k, v) :: l, hp => by
    have ih := lookup_filter fun e he => hp e (List.mem_cons_of_mem _ he)
    by_cases hk : k = key
    · subst hk
      simp [List.filter_cons, hp (k, v) (List.mem_cons_self _ _) rfl]
    · have hne : (key == k) = false := beq_false_of_ne (Ne.symm hk)
      by_cases hpk : p (k, v) = true <;> simp [List.filter_cons, hpk, List.lookup, hne, ih]

/-- A filter that drops every entry of a key loses it. -/
theorem lookup_filter_eq_none {β : Type} {p : String × β → Bool} {key : String}
    {l : List (String × β)} (hp : ∀ e ∈ l, e.1 = key → p e = false) :
    (l.filter p).lookup key = none := by
  simp only [List.lookup_eq_none_iff, List.mem_filter, bne_iff_ne, ne_eq]
  rintro e ⟨he, hpe⟩ rfl
  simp [hp e he rfl] at hpe

/-- In a list of distinct keys, the lookup of a key finds its entry. -/
theorem lookup_of_mem {β : Type} {key : String} {v : β} :
    ∀ {l : List (String × β)}, (l.map Prod.fst).Nodup → (key, v) ∈ l → l.lookup key = some v
  | [], _, h => absurd h (List.not_mem_nil _)
  | (k, w) :: l, hnd, h => by
    rw [List.map_cons, List.nodup_cons] at hnd
    rcases List.mem_cons.mp h with h | h
    · cases h
      simp
    · have hk : k ≠ key := by
        rintro rfl
        exact hnd.1 (List.mem_map.mpr ⟨(k, v), h, rfl⟩)
      simp [List.lookup, beq_false_of_ne (Ne.symm hk), lookup_of_mem hnd.2 h]

/-- On distinct keys, a filter keeps a key's entry or loses the key. -/
theorem lookup_filter_of_nodup {β : Type} {p : String × β → Bool} {key : String}
    {l : List (String × β)} (hnd : (l.map Prod.fst).Nodup) :
    (l.filter p).lookup key = (l.lookup key).filter fun v => p (key, v) := by
  cases h : l.lookup key with
  | none =>
    rw [List.lookup_eq_none_iff] at h
    exact List.lookup_eq_none_iff.mpr fun e he => h e (List.mem_filter.mp he).1
  | some v =>
    obtain ⟨l₁, l₂, rfl, -⟩ := List.lookup_eq_some_iff.mp h
    have hmem : (key, v) ∈ l₁ ++ (key, v) :: l₂ := by simp
    have honly : ∀ e ∈ l₁ ++ (key, v) :: l₂, e.1 = key → e = (key, v) := fun e he hk =>
      List.inj_on_of_nodup_map hnd he hmem hk
    by_cases hp : p (key, v) = true
    · rw [lookup_filter fun e he hk => honly e he hk ▸ hp, h]
      simp [Option.filter, hp]
    · rw [lookup_filter_eq_none fun e he hk => by simpa [honly e he hk] using hp]
      simp [Option.filter, hp]

end AdQueue

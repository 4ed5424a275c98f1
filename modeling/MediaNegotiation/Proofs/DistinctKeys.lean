import Mathlib.Data.List.Induction
import Mathlib.Data.List.Nodup

/-!
# Lists with distinct keys

Codecs are told apart by their payload types, and header extensions by their URIs. Where the keys of
a list are distinct, each of them picks out one entry.

Results:
* `nodup_keys_concat`: the last entry is none of the others.
* `filter_of_nodup_keys`: the one entry with a given key.
* `find?_of_nodup_keys`, `find?_eq_some_iff_of_nodup_keys`: the entry that is found under a key.
* `eraseDups_concat`, `nodup_eraseDups`: the different entries of a list, in the order in which they
  first occur.
-/

namespace MediaNegotiation

variable {α β : Type} {key : α → β} {list : List α} {a : α}

/-- The keys of the other entries are distinct too, and the last entry is none of them. -/
theorem nodup_keys_concat (hd : ((list ++ [a]).map key).Nodup) :
    (list.map key).Nodup ∧ a ∉ list := by
  have hentries := hd.of_map
  rw [List.map_append] at hd
  rw [List.nodup_append] at hentries
  exact ⟨hd.of_append_left, fun ha => hentries.2.2 a ha a (List.mem_singleton_self a) rfl⟩

variable [DecidableEq β]

/-- An entry with a key is the only one with it. -/
theorem filter_of_nodup_keys (hd : (list.map key).Nodup) (ha : a ∈ list) :
    list.filter (fun b => key b == key a) = [a] := by
  induction list with
  | nil => simp at ha
  | cons b rest ih =>
    rw [List.map_cons, List.nodup_cons] at hd
    rcases List.mem_cons.1 ha with rfl | ha
    · have hrest : rest.filter (fun b => key b == key a) = [] := by
        rw [List.filter_eq_nil_iff]
        intro x hx he
        exact hd.1 (List.mem_map.2 ⟨x, hx, by simpa using he⟩)
      simp [hrest]
    · have hne : key b ≠ key a := fun he => hd.1 (he ▸ List.mem_map_of_mem ha)
      rw [List.filter_cons_of_neg (by simpa using hne)]
      exact ih hd.2 ha

/-- An entry is found under its key. -/
theorem find?_of_nodup_keys (hd : (list.map key).Nodup) (ha : a ∈ list) :
    list.find? (fun b => key b == key a) = some a := by
  rw [← List.head?_filter, filter_of_nodup_keys hd ha]
  rfl

/-- The entry that is found under a key is the only one with it. -/
theorem find?_eq_some_iff_of_nodup_keys (hd : (list.map key).Nodup) {k : β} :
    list.find? (fun b => key b == k) = some a ↔ list.filter (fun b => key b == k) = [a] := by
  constructor
  · intro hfind
    obtain rfl : key a = k := by simpa using List.find?_some hfind
    exact filter_of_nodup_keys hd (List.mem_of_find?_eq_some hfind)
  · intro hfilter
    rw [← List.head?_filter, hfilter]
    rfl

/-! ## Different entries -/

section

variable [BEq α] [LawfulBEq α]

theorem eraseDups_concat (list : List α) (a : α) :
    (list ++ [a]).eraseDups = if a ∈ list then list.eraseDups else list.eraseDups ++ [a] := by
  rw [List.eraseDups_append]
  split
  · rename_i hmem
    simp [List.removeAll, hmem]
  · rename_i hnew
    have hkept : [a].removeAll list = [a] := by simp [List.removeAll, hnew]
    rw [hkept]
    rfl

theorem nodup_eraseDups (list : List α) : list.eraseDups.Nodup := by
  induction list using List.reverseRecOn with
  | nil => exact List.nodup_nil
  | append_singleton front a ih =>
    rw [eraseDups_concat]
    split
    · exact ih
    · rename_i hnew
      have hlast : a ∉ front.eraseDups := by rwa [List.mem_eraseDups]
      refine List.nodup_append.2 ⟨ih, List.nodup_singleton a, ?_⟩
      rintro b hb c hc rfl
      exact hlast (List.mem_singleton.1 hc ▸ hb)

end

end MediaNegotiation

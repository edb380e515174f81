import Mathlib.Data.List.Nodup

/-!
# Ordered maps

Entries stay in the order in which their keys were first put in; `get?` finds exactly the entries.
-/

structure OrderedMap (κ ε : Type*) where
  entries : List (κ × ε) := []
  nodup : (entries.map Prod.fst).Nodup := by exact List.nodup_nil

namespace OrderedMap
open List
variable {κ ε : Type*} [DecidableEq κ]

def replace (key : κ) (value : ε) (entries : List (κ × ε)) : List (κ × ε) :=
  entries.map fun entry => if entry.1 = key then (key, value) else entry

lemma map_fst_replace (key : κ) (value : ε) (entries : List (κ × ε)) :
    (replace key value entries).map Prod.fst = entries.map Prod.fst := by
  rw [replace, map_map]
  refine map_congr_left fun entry _ => ?_
  rw [Function.comp_apply]
  split_ifs with hkey
  · exact hkey.symm
  · rfl

def put (map : OrderedMap κ ε) (key : κ) (value : ε) : OrderedMap κ ε :=
  if h : key ∈ map.entries.map Prod.fst then
    ⟨replace key value map.entries, by
      rw [map_fst_replace]
      exact map.nodup⟩
  else
    ⟨map.entries ++ [(key, value)], by
      rw [map_append, map_singleton]
      exact map.nodup.append (nodup_singleton key) (disjoint_singleton.2 h)⟩

def putAll (map : OrderedMap κ ε) (entries : List (κ × ε)) : OrderedMap κ ε :=
  entries.foldl (fun map entry => map.put entry.1 entry.2) map

lemma entries_putAll (map : OrderedMap κ ε) (entries : List (κ × ε))
    (h : ((map.entries ++ entries).map Prod.fst).Nodup) :
    (map.putAll entries).entries = map.entries ++ entries := by
  induction entries generalizing map with
  | nil => exact (append_nil _).symm
  | cons entry entries ih =>
    have hnew : entry.1 ∉ map.entries.map Prod.fst := by
      rw [map_append, map_cons] at h
      intro hmem
      exact disjoint_of_nodup_append h hmem mem_cons_self
    have hput : (map.put entry.1 entry.2).entries = map.entries ++ [entry] := by
      rw [put, dif_neg hnew]
    have hnodup : (((map.put entry.1 entry.2).entries ++ entries).map Prod.fst).Nodup := by
      rwa [hput, append_assoc, singleton_append]
    have hall : (map.putAll (entry :: entries)).entries =
        (map.put entry.1 entry.2).entries ++ entries := ih (map.put entry.1 entry.2) hnodup
    rw [hall, hput, append_assoc, singleton_append]

def get? (map : OrderedMap κ ε) (key : κ) : Option ε :=
  (map.entries.find? fun entry => entry.1 = key).map Prod.snd

def erase (map : OrderedMap κ ε) (key : κ) : OrderedMap κ ε where
  entries := map.entries.filter fun entry => entry.1 ≠ key
  nodup := map.nodup.sublist (filter_sublist.map Prod.fst)

variable {map : OrderedMap κ ε} {key key' : κ} {value value' : ε}

lemma get?_eq_some_iff : map.get? key = some value ↔ (key, value) ∈ map.entries := by
  constructor
  · intro h
    obtain ⟨entry, hfind, rfl⟩ := Option.map_eq_some_iff.1 h
    have hkey : entry.1 = key := by simpa using find?_some hfind
    rw [← hkey]
    exact mem_of_find?_eq_some hfind
  · intro h
    cases hfind : map.entries.find? fun entry => entry.1 = key with
    | none =>
      have hne := find?_eq_none.1 hfind _ h
      simp at hne
    | some entry =>
      have hkey : entry.1 = key := by simpa using find?_some hfind
      have hent := mem_of_find?_eq_some hfind
      have hsame : entry = (key, value) := inj_on_of_nodup_map map.nodup hent h hkey
      rw [get?, hfind, hsame]
      rfl

lemma get?_empty : ({} : OrderedMap κ ε).get? key = none := rfl

lemma get?_erase : (map.erase key).get? key' = if key' = key then none else map.get? key' := by
  ext value
  rw [get?_eq_some_iff, erase, mem_filter]
  split_ifs with hkey
  · simp [hkey]
  · simp [hkey, get?_eq_some_iff]

lemma get?_foldl_erase (keys : List κ) :
    (keys.foldl erase map).get? key' = if key' ∈ keys then none else map.get? key' := by
  induction keys generalizing map with
  | nil => simp
  | cons key keys ih =>
    rw [foldl_cons, ih, get?_erase]
    by_cases hkey : key' = key <;> by_cases hkeys : key' ∈ keys <;> simp [hkey, hkeys]

lemma get?_put :
    (map.put key value).get? key' = if key' = key then some value else map.get? key' := by
  ext value'
  rw [get?_eq_some_iff]
  by_cases hmem : key ∈ map.entries.map Prod.fst
  · rw [put, dif_pos hmem]
    unfold replace
    rw [mem_map]
    obtain ⟨old, hold, hkey⟩ := mem_map.1 hmem
    constructor
    · rintro ⟨entry, hent, heq⟩
      split_ifs at heq with hfst
      · obtain ⟨rfl, rfl⟩ := Prod.mk.injEq .. ▸ heq
        rw [if_pos rfl]
      · rw [heq] at hent hfst
        rw [if_neg hfst, get?_eq_some_iff]
        exact hent
    · intro h
      split_ifs at h with hkey'
      · exact ⟨old, hold, by rw [if_pos hkey, hkey', Option.some.inj h]⟩
      · exact ⟨(key', value'), get?_eq_some_iff.1 h, if_neg hkey'⟩
  · rw [put, dif_neg hmem, mem_append, mem_singleton]
    split_ifs with hkey'
    · have hnot : (key', value') ∉ map.entries := fun h =>
        hmem (mem_map.2 ⟨_, h, hkey'⟩)
      rw [or_iff_right hnot, Prod.mk.injEq, Option.some.injEq, and_iff_right hkey', eq_comm]
    · simp [hkey', get?_eq_some_iff]

end OrderedMap

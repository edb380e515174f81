import SingBox.Resolved.Invariant

/-!
# What a network update leaves as it is

An update takes every link out of the sequence of default routes and closes the servers of every
link.
-/

namespace SingBox.Resolved.State
open List OrderedMap
variable {s : State} {byIndex : ℤ → Option Interface} {id : ℕ}

def Stays (s : State) (byIndex : ℤ → Option Interface) (id : ℕ) : Prop :=
  (∃ i, s.links.get? i = some id) ∧
    ∀ i, s.links.get? i = some id → s.disappeared byIndex (i, id) = false

/-- The links that stay keep everything that they have. -/
structure Framed (s : State) (byIndex : ℤ → Option Interface) : Prop where
  /-- Exactly the links whose interfaces have changed are removed. -/
  links : ∀ i id, (s.onNetworkUpdate byIndex).links.get? i = some id ↔
    s.links.get? i = some id ∧ s.disappeared byIndex (i, id) = false
  objects : (s.onNetworkUpdate byIndex).objects = s.objects
  servers : ∀ link ∈ s.links.entries, s.disappeared byIndex link = false →
    (s.onNetworkUpdate byIndex).linkServers.get? link.2 = s.linkServers.get? link.2
  /-- The connections that are closed were closed before. -/
  connections : ∀ link ∈ s.links.entries, s.disappeared byIndex link = false →
    ∀ servers, s.linkServers.get? link.2 = some servers → ∀ server ∈ servers,
      server.id ∈ (s.onNetworkUpdate byIndex).closed → server.id ∈ s.closed
  /-- The removed links leave the default routes, the others stay. -/
  routes : (s.onNetworkUpdate byIndex).defaultRouteSequence =
    s.defaultRouteSequence.filter
      (· ∉ (s.links.entries.filter (s.disappeared byIndex)).map Prod.fst)
  /-- A query goes to the same link, in the same order. -/
  queries : ∀ accept order name id, order.Perm s.links.entries → s.Stays byIndex id →
    s.selectLink accept order name = .ok (some id) →
      (s.onNetworkUpdate byIndex).selectLink accept
          (order.filter fun link => !s.disappeared byIndex link) name = .ok (some id) ∧
        (s.onNetworkUpdate byIndex).linkServers.get? id = s.linkServers.get? id

variable {accept : Bool} {order : List (ℤ × ℕ)} {name : List Char} {link : ℤ × ℕ}

lemma selectByDomain_filter (h : s.selectByDomain accept order name = some id) {p : ℤ × ℕ → Bool}
    (hp : ∀ i, (i, id) ∈ order → p (i, id)) :
    s.selectByDomain accept (order.filter p) name = some id := by
  rw [selectByDomain_eq, Option.map_eq_some_iff] at h ⊢
  obtain ⟨⟨i, id'⟩, hlast, rfl⟩ := h
  have hmem := (mem_filter.1 (mem_of_getLast? hlast)).1
  obtain ⟨before, hbef⟩ := getLast?_eq_some_iff.1 hlast
  refine ⟨(i, id'), ?_, rfl⟩
  rw [filter_comm, hbef, filter_append, filter_singleton, hp i hmem]
  exact getLast?_concat

lemma exists_of_selectByRoute {routes : List ℤ} (h : s.selectByRoute routes none = .ok (some id)) :
    ∃ i ∈ routes, s.links.get? i = some id := by
  suffices hroutes : ∀ selected, s.selectByRoute routes selected = .ok (some id) →
      selected = some id ∨ ∃ i ∈ routes, s.links.get? i = some id from
    (hroutes none h).resolve_left (Option.some_ne_none id).symm
  clear h
  induction routes with
  | nil => exact fun selected h => .inl (Except.ok.inj h)
  | cons i routes ih =>
    intro selected h
    rw [selectByRoute] at h
    cases hi : s.links.get? i with
    | none =>
      rw [hi] at h
      cases h
    | some id' =>
      have hself : id' = id → ∃ j ∈ i :: routes, s.links.get? j = some id := fun hid =>
        ⟨i, mem_cons_self, hid ▸ hi⟩
      rw [hi] at h
      dsimp only at h
      split_ifs at h
      · exact .inr (hself (Option.some.inj (Except.ok.inj h)))
      · obtain hid | ⟨j, hj, hid⟩ := ih _ h
        · exact .inr (hself (Option.some.inj hid))
        · exact .inr ⟨j, mem_cons_of_mem i hj, hid⟩

lemma selectByDomain_onNetworkUpdate :
    (s.onNetworkUpdate byIndex).selectByDomain accept order name =
    s.selectByDomain accept order name := by
  rw [selectByDomain_eq, selectByDomain_eq, objects_onNetworkUpdate]

lemma mem_removed_iff (hlink : link ∈ s.links.entries) :
    link.1 ∈ (s.links.entries.filter (s.disappeared byIndex)).map Prod.fst ↔
    s.disappeared byIndex link := by
  constructor
  · intro hremoved
    obtain ⟨link', hmem, hidx⟩ := mem_map.1 hremoved
    obtain ⟨hlink', hgone⟩ := mem_filter.1 hmem
    have hsame : link' = link := by
      refine Prod.ext hidx (Option.some.inj ?_)
      rw [← get?_eq_some_iff.2 hlink', ← get?_eq_some_iff.2 hlink, hidx]
    exact hsame ▸ hgone
  · exact fun h => mem_map_of_mem (mem_filter.2 ⟨hlink, h⟩)

lemma servers_eq_none_onNetworkUpdate (hlink : link ∈ s.links.entries) :
    (s.onNetworkUpdate byIndex).linkServers.get? link.2 = none := by
  rw [servers_onNetworkUpdate, if_pos (mem_map_of_mem hlink)]

lemma selectLink_onNetworkUpdate
    (hroutes : ∀ link ∈ s.links.entries, s.disappeared byIndex link = false →
      link.1 ∉ s.defaultRouteSequence) (horder : order.Perm s.links.entries)
    (hstays : s.Stays byIndex id) (hselect : s.selectLink accept order name = .ok (some id)) :
    (s.onNetworkUpdate byIndex).selectLink accept
    (order.filter fun link => !s.disappeared byIndex link) name = .ok (some id) := by
  rw [selectLink] at hselect
  cases hdom : s.selectByDomain accept order name with
  | some id' =>
    rw [hdom] at hselect
    cases hselect
    have hkept : ∀ i, (i, id) ∈ order → (!s.disappeared byIndex (i, id)) := by
      intro i hi
      rw [hstays.2 i (get?_eq_some_iff.2 (horder.mem_iff.1 hi))]
      rfl
    rw [selectLink, selectByDomain_onNetworkUpdate,
      selectByDomain_filter (p := fun link => !s.disappeared byIndex link) hdom hkept]
  | none =>
    -- The link would be a default route.
    rw [hdom] at hselect
    split_ifs at hselect
    · obtain ⟨i, hi, hlink⟩ := exists_of_selectByRoute hselect
      exact (hroutes (i, id) (get?_eq_some_iff.1 hlink) (hstays.2 i hlink)
        (mem_reverse.1 hi)).elim
    · cases hselect

end SingBox.Resolved.State

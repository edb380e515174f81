import SingBox.Lib.Specificity
import SingBox.Resolved.NetworkUpdate
import SingBox.Tailscale.DNSTransport

/-!
# Routing questions by the suffixes of their names

Both transports compare texts: they use the first or the last entry whose text is a suffix of the
name, in the unknown order of a map. What they should do is said with labels: of the entries that
are the name or a parent domain of it, the most specific one decides. `Specificity` has the general
argument; here the texts and labels of names are put in.
-/

namespace SingBox.SuffixRouting
open Specificity List Tailscale.DNSTransport Resolved.State

def splitDots : List Char → List Char → List (List Char)
  | label, [] => [label.reverse]
  | label, '\\' :: c :: rest => splitDots (c :: '\\' :: label) rest
  | label, '.' :: rest => label.reverse :: splitDots [] rest
  | label, c :: rest => splitDots (c :: label) rest

/-- A dot at the end does not count, and the root has no labels. Capital letters are read as small
ones, as names are compared in DNS. -/
def labels (name : String) : List (List Char) :=
  (splitDots [] (name.toList.map Char.toLower)).filter (· ≠ [])

/-- The domain is the name or a parent domain of it. -/
def Covers (name domain : String) : Prop := labels domain <:+ labels name

instance (name domain : String) : Decidable (Covers name domain) :=
  inferInstanceAs (Decidable (_ <:+ _))

def rank (domain : String) : ℕ := (labels domain).length

def HasSuffix (name domain : String) : Prop := domain.toList <:+ name.toList

instance (name : String) : DecidablePred (HasSuffix name) := fun domain =>
  inferInstanceAs (Decidable (domain.toList <:+ name.toList))

variable {ε σ α β ι : Type} {name : String} {entries : List (String × β)} {lookup : ι → Option β}
  {preferred routed : Prop}

/-- What is asked of a table of entries, of a lookup in any order, and of `PreferredDomain`. -/
structure Right (name : String) (entries : List (String × β)) (lookup : ι → Option β)
    (preferred routed : Prop) : Prop where
  /-- The servers are those of the most specific domain in every order, and there are none if no
  entry is a domain of the name. -/
  determined : Determined (Covers name) rank entries lookup
  /-- The names that are preferred are those that go to an entry. -/
  preferred : preferred ↔ routed

/-- Texts and labels lead to the same servers: a domain of the name is found by a text if and only
if there is one by labels, and all that are found by their texts have the same servers. -/
structure Unambiguous (name : String) (entries : List (String × β)) : Prop where
  found : (∃ e ∈ entries, Covers name e.1) ↔ ∃ e ∈ entries, HasSuffix name e.1
  same : ∀ e ∈ entries, HasSuffix name e.1 →
    ∀ m, MostSpecific (Covers name) rank entries m → e.2 = m.2

lemma right_iff [Nonempty ι] (h : AnyMatch (HasSuffix name) entries lookup) :
    Right name entries lookup preferred routed ↔
    Unambiguous name entries ∧ (preferred ↔ routed) := by
  constructor
  · rintro ⟨hdet, hpreferred⟩
    obtain ⟨hfound, hsame⟩ := h.determined_iff.1 hdet
    exact ⟨⟨hfound, hsame⟩, hpreferred⟩
  · rintro ⟨⟨hfound, hsame⟩, hpreferred⟩
    exact ⟨h.determined_iff.2 ⟨hfound, hsame⟩, hpreferred⟩

instance nonemptyOrder (table : List α) : Nonempty {order : List α // order.Perm table} :=
  ⟨⟨table, List.Perm.refl _⟩⟩

section Tailscale
variable {t : Tailscale.DNSTransport ε σ}

def routeLookup (t : Tailscale.DNSTransport ε σ) (name : String)
    (order : {order : List (String × List σ) // order.Perm t.routes.entries}) : Option (List σ) :=
  Tailscale.DNSTransport.lookup order.1 name

def Routes (t : Tailscale.DNSTransport ε σ) (name : String) : Prop :=
  name ∈ t.names name ∧ ∃ order question allowDefaultResolvers, question.name = name ∧
    (t.target (routeLookup t name order) question allowDefaultResolvers).isEntry

lemma anyMatch_routeLookup (t : Tailscale.DNSTransport ε σ) (name : String) :
    AnyMatch (HasSuffix name) t.routes.entries (routeLookup t name) :=
  anyMatch_find?

lemma exists_hostAddresses_iff :
    (∃ question, question.name = name ∧ t.hostAddresses question ≠ []) ↔
    ∃ addresses, t.hosts.get? name = some addresses ∧ addresses ≠ [] := by
  constructor
  · rintro ⟨question, rfl, haddrs⟩
    cases hhost : t.hosts.get? question.name with
    | none =>
      rw [hostAddresses, hhost] at haddrs
      simp at haddrs
    | some addresses =>
      refine ⟨addresses, rfl, ?_⟩
      rintro rfl
      rw [hostAddresses, hhost] at haddrs
      simp at haddrs
  · rintro ⟨addresses, hhost, hne⟩
    obtain ⟨address, haddr⟩ := exists_mem_of_ne_nil addresses hne
    cases hfam : address.is4 with
    | true =>
      refine ⟨⟨name, dnsTypeA, 0⟩, rfl, ne_nil_of_mem (a := address) ?_⟩
      rw [hostAddresses, hhost]
      exact mem_filter.2 ⟨haddr, hfam⟩
    | false =>
      refine ⟨⟨name, dnsTypeAAAA, 0⟩, rfl, ne_nil_of_mem (a := address) ?_⟩
      rw [hostAddresses, hhost]
      exact mem_filter.2 ⟨haddr, by rw [Addr.is6, hfam]; rfl⟩

lemma isEntry_target_iff {transports : Option (List σ)} {question : Question} {allow : Bool} :
    (t.target transports question allow).isEntry ↔
    t.hostAddresses question ≠ [] ∨ transports.isSome := by
  unfold target
  by_cases hhost : t.hostAddresses question ≠ []
  · rw [if_pos hhost]
    exact iff_of_true rfl (.inl hhost)
  · rw [if_neg hhost]
    cases transports with
    | some transports => exact iff_of_true rfl (.inr rfl)
    | none => cases allow <;> simp [Tailscale.Target.isEntry, hhost]

lemma exists_isSome_iff (h : AnyMatch (HasSuffix name) entries lookup) :
    (∃ order, (lookup order).isSome) ↔ ∃ e ∈ entries, HasSuffix name e.1 := by
  constructor
  · rintro ⟨order, hsome⟩
    obtain ⟨value, hval⟩ := Option.isSome_iff_exists.1 hsome
    obtain ⟨e, he, hsuf, -⟩ := h.found order value hval
    exact ⟨e, he, hsuf⟩
  · rintro ⟨e, he, hsuf⟩
    obtain ⟨order, horder⟩ := h.reached e he hsuf
    exact ⟨order, Option.isSome_iff_exists.2 ⟨_, horder⟩⟩

lemma routes_iff : Routes t name ↔ name ∈ t.names name ∧
    ((∃ addresses, t.hosts.get? name = some addresses ∧ addresses ≠ []) ∨
      ∃ route ∈ t.routes.entries, HasSuffix name route.1) := by
  refine and_congr_right fun _ => ?_
  rw [← exists_hostAddresses_iff, ← exists_isSome_iff (anyMatch_routeLookup t name)]
  simp only [isEntry_target_iff]
  constructor
  · rintro ⟨order, question, allow, hname, hhost | hroute⟩
    · exact .inl ⟨question, hname, hhost⟩
    · exact .inr ⟨order, hroute⟩
  · rintro (⟨question, hname, hhost⟩ | ⟨order, hroute⟩)
    · exact ⟨⟨_, List.Perm.refl _⟩, question, false, hname, .inl hhost⟩
    · exact ⟨order, ⟨name, 0, 0⟩, false, rfl, .inr hroute⟩

lemma preferredDomain_iff : t.preferredDomain name ↔
    (t.hosts.get? name).isSome ∨ ∃ route ∈ t.routes.entries, HasSuffix name route.1 := by
  simp [preferredDomain, HasSuffix]

end Tailscale

section Resolved
variable {s : Resolved.State} {accept : Bool}

/-- The root counts only if default resolvers are accepted. -/
def linkDomains (acceptDefaultResolvers : Bool) (link : Resolved.TransportLink) : List String :=
  (link.domain.filter fun domain =>
    !(domain.domain = "." && domain.routingOnly && !acceptDefaultResolvers)).map
      Resolved.LinkDomain.domain

def linkEntries (s : Resolved.State) (acceptDefaultResolvers : Bool) :
    List (String × Option (List Resolved.Server)) :=
  s.links.entries.flatMap fun link =>
    (linkDomains acceptDefaultResolvers (s.objects link.2)).map fun domain =>
      (domain, s.linkServers.get? link.2)

def linkLookup (s : Resolved.State) (acceptDefaultResolvers : Bool) (name : String)
    (order : {order : List (ℤ × ℕ) // order.Perm s.links.entries}) :
    Option (Option (List Resolved.Server)) :=
  (s.selectByDomain acceptDefaultResolvers order.1 name.toList).map s.linkServers.get?

def preferredDomain (s : Resolved.State) (name : String) : Bool :=
  s.links.entries.any fun link => (s.objects link.2).domain.any fun domain =>
    !(domain.domain = ".") && domain.domain.toList <:+ name.toList

variable {link : Resolved.TransportLink}

lemma mem_linkDomains_iff {domain : String} :
    domain ∈ linkDomains accept link ↔ ∃ d ∈ link.domain,
    (d.domain = "." → d.routingOnly → accept) ∧ d.domain = domain := by
  simp only [linkDomains, mem_map, mem_filter, and_assoc]
  refine exists_congr fun d => and_congr_right fun _ => and_congr_left fun _ => ?_
  cases d.routingOnly <;> cases accept <;> simp

lemma matchesName_iff :
    matchesName accept name.toList link ↔
    ∃ domain ∈ linkDomains accept link, HasSuffix name domain := by
  simp only [matchesName, linkDomains, any_eq_true, mem_map,
    mem_filter, HasSuffix]
  constructor
  · rintro ⟨d, hd, hm⟩
    obtain ⟨hacc, hsuf⟩ := Bool.and_eq_true_iff.1 hm
    exact ⟨d.domain, ⟨d, ⟨hd, hacc⟩, rfl⟩, of_decide_eq_true hsuf⟩
  · rintro ⟨_, ⟨d, ⟨hd, hacc⟩, rfl⟩, hsuf⟩
    exact ⟨d, hd, Bool.and_eq_true_iff.2 ⟨hacc, decide_eq_true hsuf⟩⟩

lemma anyMatch_linkLookup (s : Resolved.State) (accept : Bool) (name : String) :
    AnyMatch (HasSuffix name) (linkEntries s accept) (linkLookup s accept name) := by
  have hlookup : linkLookup s accept name = fun order =>
      (order.1.filter fun link =>
        matchesName accept name.toList (s.objects link.2)).getLast?.map
          fun link => s.linkServers.get? link.2 := by
    funext order
    rw [linkLookup, selectByDomain_eq, Option.map_map]
    rfl
  rw [hlookup]
  exact anyMatch_getLast? fun link => matchesName_iff

lemma preferredDomain_eq_true_iff (accept : Bool) : preferredDomain s name ↔
    ∃ e ∈ linkEntries s accept, HasSuffix name e.1 ∧ e.1 ≠ "." := by
  simp only [preferredDomain, linkEntries, any_eq_true, mem_flatMap, mem_map,
    Bool.and_eq_true, Bool.not_eq_true', decide_eq_false_iff_not, decide_eq_true_eq]
  constructor
  · rintro ⟨link, hlink, d, hd, hroot, hsuf⟩
    refine ⟨(d.domain, _), ⟨link, hlink, d.domain, ?_, rfl⟩, hsuf, hroot⟩
    exact mem_linkDomains_iff.2 ⟨d, hd, fun h => absurd h hroot, rfl⟩
  · rintro ⟨_, ⟨link, hlink, domain, hdom, rfl⟩, hsuf, hroot⟩
    obtain ⟨d, hd, -, rfl⟩ := mem_linkDomains_iff.1 hdom
    exact ⟨link, hlink, d, hd, hroot, hsuf⟩

end Resolved

inductive Transport (ε σ : Type) where
  | tailscale (t : Tailscale.DNSTransport ε σ)
  | resolved (s : Resolved.State) (acceptDefaultResolvers : Bool)

def Transport.Right (name : String) : Transport ε σ → Prop
  | .tailscale t =>
    SuffixRouting.Right name t.routes.entries (routeLookup t name) (t.preferredDomain name)
      (Routes t name)
  | .resolved s accept =>
    SuffixRouting.Right name (linkEntries s accept) (linkLookup s accept name)
      (preferredDomain s name) (∃ order, (linkLookup s accept name order).isSome)

def Transport.Benign (name : String) : Transport ε σ → Prop
  | .tailscale t =>
    Unambiguous name t.routes.entries ∧
      ((t.hosts.get? name).isSome ∨ (∃ route ∈ t.routes.entries, HasSuffix name route.1) →
        name ∈ t.names name ∧
          ((∃ route ∈ t.routes.entries, HasSuffix name route.1) ∨ t.hosts.get? name ≠ some []))
  | .resolved s accept =>
    Unambiguous name (linkEntries s accept) ∧
      ((∃ e ∈ linkEntries s accept, HasSuffix name e.1) →
        ∃ e ∈ linkEntries s accept, HasSuffix name e.1 ∧ e.1 ≠ ".")

def corp : Tailscale.DNSTransport String ℕ where
  acceptDefaultResolvers := false
  acceptSearchDomain := false
  routes := ⟨[("example.com.", [0]), ("corp.example.com.", [1])], by decide⟩
  hosts := {}
  searchDomains := []
  defaultResolvers := []
  countLabel _ := 0
  answers _ _ := ⟨none, none⟩
  errInvalid := "invalid argument"
  errNameError := "NXDOMAIN"

def linkWith (domain : String) : Resolved.State :=
  [.set 2 (some wired) (.dns [⟨2, [192, 0, 2, 1]⟩]),
    .set 2 none (.domains [⟨domain, false⟩])].foldl step {}

end SingBox.SuffixRouting

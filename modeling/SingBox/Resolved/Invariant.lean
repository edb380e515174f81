import SingBox.Resolved.Service

/-!
# The tables of the resolved service agree

Three tables in two objects are changed by D-Bus calls and network updates, each under the lock of
the service. They agree under conditions on the interfaces, the addresses and the updates.

A query takes two locks, one after the other: under the lock of the service it selects a link, and
under the lock of the transport it reads the servers of this link. Calls and updates may come in
between.
-/

namespace SingBox.Resolved
open List Option Function OrderedMap

/-! ### Calls and runs -/

inductive Setting where
  | dns (addresses : List LinkDNS)
  | dnsEx (addresses : List LinkDNSEx)
  | domains (domains : List LinkDomain)
  | defaultRoute (defaultRoute : Bool)
  | dnsOverTLS (dotMode : String)

inductive Action where
  | set (ifIndex : ℤ) (iif : Option Interface) (setting : Setting)
  | revertLink (ifIndex : ℤ) (iif : Option Interface)
  | resolve (ifIndex : ℤ) (iif : Option Interface)
  | networkUpdate (byIndex : ℤ → Option Interface)

namespace State

def run (s : State) : Action → State
  | .set ifIndex iif (.dns addresses) => s.setLinkDNS ifIndex iif addresses
  | .set ifIndex iif (.dnsEx addresses) => s.setLinkDNSEx ifIndex iif addresses
  | .set ifIndex iif (.domains domains) => s.setLinkDomains ifIndex iif domains
  | .set ifIndex iif (.defaultRoute defaultRoute) => s.setLinkDefaultRoute ifIndex iif defaultRoute
  | .set ifIndex iif (.dnsOverTLS dotMode) => s.setLinkDNSOverTLS ifIndex iif dotMode
  | .revertLink ifIndex iif => s.revertLink ifIndex iif
  | .resolve ifIndex iif => s.resolve ifIndex iif
  | .networkUpdate byIndex => s.onNetworkUpdate byIndex

/-- Nothing happens after a crash, or while the lock is held. -/
def step (s : State) (a : Action) : State := if s.locked || s.crashed then s else s.run a

end State

def Setting.apply (link : TransportLink) : Setting → TransportLink
  | .dns addresses => { link with address := addresses }
  | .dnsEx addresses => { link with addressEx := addresses }
  | .domains domain => { link with domain }
  | .defaultRoute isDefault => { link with defaultRoute := isDefault }
  | .dnsOverTLS dotMode =>
    if dotMode = "yes" then { link with dnsOverTLS := true }
    else if dotMode = "" ∨ dotMode = "opportunistic" ∨ dotMode = "no" then
      { link with dnsOverTLS := false }
    else link

def Setting.sequence (ifIndex : ℤ) (routes : List ℤ) : Setting → List ℤ
  | .defaultRoute true => routes.filter (· ≠ ifIndex) ++ [ifIndex]
  | .defaultRoute false => routes.filter (· ≠ ifIndex)
  | _ => routes

namespace State
variable (s : State) (ifIndex : ℤ)

def configure (id : ℕ) (setting : Setting) : State :=
  { s.setObject id { setting.apply (s.objects id) with configured := true } with
    defaultRouteSequence := setting.sequence ifIndex s.defaultRouteSequence }.postUpdate id

variable (iif : Option Interface)

lemma run_set (setting : Setting) : s.run (.set ifIndex iif setting) =
      match s.getLink ifIndex iif with
      | (s, none) => s
      | (s, some id) => s.configure ifIndex id setting := by
  cases setting with
  | defaultRoute defaultRoute => cases defaultRoute <;> rfl
  | _ => rfl

/-- Every query finds a link, or none, and the link has an entry at that moment. -/
def Selects : Prop := ∀ acceptDefaultResolvers order name, order.Perm s.links.entries →
    ∃ selected, s.selectLink acceptDefaultResolvers order name = .ok selected ∧
      ∀ id, selected = some id → (s.linkServers.get? id).isSome

/-- The tables agree. -/
structure Safe (s : State) : Prop where
  iif : ∀ i id, s.links.get? i = some id → (s.objects id).iif.isSome
  route : ∀ i ∈ s.defaultRouteSequence, ∃ id, s.links.get? i = some id ∧ (s.objects id).defaultRoute
  nodup : s.defaultRouteSequence.Nodup
  servers : ∀ id, (s.linkServers.get? id).isSome ↔
    (∃ i, s.links.get? i = some id) ∧ (s.objects id).configured

def Known : Prop := (s.links.get? ifIndex).isSome ∨ iif.isSome

def linkAt : TransportLink := (s.links.get? ifIndex).elim {} s.objects

def Careful : Action → Prop
  | .set ifIndex iif setting =>
    s.Known ifIndex iif ∧ (setting.apply (s.linkAt ifIndex)).valid
  | .revertLink _ _ => False
  | .resolve ifIndex iif => s.Known ifIndex iif
  | .networkUpdate byIndex =>
    ∀ link ∈ s.links.entries, s.disappeared byIndex link = false → s.linkServers.get? link.2 = none

instance (s : State) (ifIndex : ℤ) (iif : Option Interface) : Decidable (s.Known ifIndex iif) :=
  inferInstanceAs (Decidable (_ ∨ _))

instance (s : State) : ∀ a, Decidable (s.Careful a)
  | .set _ _ _ => inferInstanceAs (Decidable (_ ∧ _))
  | .revertLink _ _ => inferInstanceAs (Decidable False)
  | .resolve ifIndex iif => inferInstanceAs (Decidable (s.Known ifIndex iif))
  | .networkUpdate byIndex =>
    inferInstanceAs (Decidable (∀ link ∈ s.links.entries, s.disappeared byIndex link = false →
      s.linkServers.get? link.2 = none))

structure Inv (s : State) : Prop where
  running : (s.locked || s.crashed) = false
  made : ∀ i id, s.links.get? i = some id → id < s.made
  inj : ∀ i j id, s.links.get? i = some id → s.links.get? j = some id → i = j
  iif : ∀ i id, s.links.get? i = some id → (s.objects id).iif.isSome
  route : ∀ i ∈ s.defaultRouteSequence, ∃ id, s.links.get? i = some id ∧ (s.objects id).defaultRoute
  nodup : s.defaultRouteSequence.Nodup
  servers : ∀ id, (s.linkServers.get? id).isSome ↔
    (∃ i, s.links.get? i = some id) ∧ (s.objects id).configured
  /-- A link of which nothing was set is blank. -/
  blank : ∀ i id, s.links.get? i = some id → (s.objects id).configured = false →
    (s.objects id).domain = [] ∧ (s.objects id).defaultRoute = false

lemma inv_start : Inv {} where
  running := rfl
  made _ _ h := by cases h
  inj _ _ _ h := by cases h
  iif _ _ h := by cases h
  route _ h := absurd h not_mem_nil
  nodup := nodup_nil
  servers id := by simp [get?_empty]
  blank _ _ h := by cases h

end State

lemma Setting.iif_apply (setting : Setting) (link : TransportLink) :
    (setting.apply link).iif = link.iif := by
  fun_cases Setting.apply <;> rfl

lemma Setting.valid_apply_iif (setting : Setting) (link : TransportLink) (iif : Option Interface) :
    (setting.apply { link with iif }).valid = (setting.apply link).valid := by
  fun_cases Setting.apply link setting <;> simp_all [Setting.apply, TransportLink.valid]

/-! ### New links -/

namespace State
variable {s : State} {i : ℤ} {id : ℕ} {setting : Setting}

def addLink (s : State) (ifIndex : ℤ) (link : TransportLink) : State := { s with
    objects := update s.objects s.made link
    made := s.made + 1
    links := s.links.put ifIndex s.made }

lemma getLink_new (hi : s.links.get? i = none) (iif : Interface) :
    s.getLink i (some iif) = (s.addLink i { iif := some iif }, some s.made) := by
  simp [getLink, hi, setObject, addLink]

lemma getLink_old (hi : s.links.get? i = some id) (iif : Option Interface) :
    s.getLink i iif = (s, some id) := by
  simp [getLink, hi]

lemma Inv.addLink (hinv : Inv s) (hi : s.links.get? i = none) (iif : Interface) :
    Inv (s.addLink i { iif := some iif }) := by
  -- The links that were there have other pointers.
  have hold : ∀ j id, s.links.get? j = some id →
      (s.addLink i { iif := some iif }).objects id = s.objects id := fun j id hj =>
    update_of_ne (hinv.made j id hj).ne _ _
  have hself : (s.addLink i { iif := some iif }).objects s.made = { iif := some iif } :=
    update_self _ _ _
  have hlinks : ∀ j id, (s.addLink i { iif := some iif }).links.get? j = some id ↔
      (j = i ∧ id = s.made) ∨ (j ≠ i ∧ s.links.get? j = some id) := by
    intro j id
    rw [State.addLink, get?_put]
    split_ifs with hj <;> simp [hj, eq_comm]
  constructor
  case running => exact hinv.running
  case made =>
    intro j id hj
    rcases (hlinks j id).1 hj with ⟨-, rfl⟩ | ⟨-, hj⟩
    · exact Nat.lt_succ_self _
    · exact Nat.lt_succ_of_lt (hinv.made j id hj)
  case inj =>
    intro j k id hj hk
    rcases (hlinks j id).1 hj with ⟨rfl, rfl⟩ | ⟨-, hjold⟩
    · rcases (hlinks k s.made).1 hk with ⟨rfl, -⟩ | ⟨-, hkold⟩
      · rfl
      · exact absurd (hinv.made k _ hkold) (lt_irrefl _)
    · rcases (hlinks k id).1 hk with ⟨rfl, rfl⟩ | ⟨-, hkold⟩
      · exact absurd (hinv.made j _ hjold) (lt_irrefl _)
      · exact hinv.inj j k id hjold hkold
  case iif =>
    intro j id hj
    rcases (hlinks j id).1 hj with ⟨-, rfl⟩ | ⟨-, hj⟩
    · rw [hself]
      rfl
    · rw [hold j id hj]
      exact hinv.iif j id hj
  case route =>
    intro j hj
    obtain ⟨id, hid, hroute⟩ := hinv.route j hj
    refine ⟨id, (hlinks j id).2 (.inr ⟨?_, hid⟩), ?_⟩
    · rintro rfl
      exact some_ne_none id (hid.symm.trans hi)
    · rw [hold j id hid]
      exact hroute
  case nodup => exact hinv.nodup
  case servers =>
    intro id
    refine (hinv.servers id).trans ?_
    constructor
    · rintro ⟨⟨j, hj⟩, hconf⟩
      refine ⟨⟨j, (hlinks j id).2 (.inr ⟨?_, hj⟩)⟩, ?_⟩
      · rintro rfl
        exact some_ne_none id (hj.symm.trans hi)
      · rw [hold j id hj]
        exact hconf
    · rintro ⟨⟨j, hj⟩, hconf⟩
      rcases (hlinks j id).1 hj with ⟨-, rfl⟩ | ⟨-, hj⟩
      · rw [hself] at hconf
        exact absurd hconf Bool.false_ne_true
      · rw [hold j id hj] at hconf
        exact ⟨⟨j, hj⟩, hconf⟩
  case blank =>
    intro j id hj hconf
    rcases (hlinks j id).1 hj with ⟨-, rfl⟩ | ⟨-, hj⟩
    · rw [hself]
      exact ⟨rfl, rfl⟩
    · rw [hold j id hj] at hconf ⊢
      exact hinv.blank j id hj hconf

lemma Inv.getLink (hinv : Inv s) {iif : Option Interface} (hknown : s.Known i iif) :
    ∃ s' id, s.getLink i iif = (s', some id) ∧ Inv s' ∧ s'.links.get? i = some id ∧
    ∀ setting : Setting,
    (setting.apply (s'.objects id)).valid = (setting.apply (s.linkAt i)).valid := by
  cases hi : s.links.get? i with
  | some id =>
    refine ⟨s, id, getLink_old hi iif, hinv, hi, fun setting => ?_⟩
    rw [linkAt, hi, elim_some]
  | none =>
    obtain ⟨iif, rfl⟩ : ∃ found, iif = some found := by
      rcases hknown with hknown | hfound
      · rw [hi] at hknown
        exact absurd hknown Bool.false_ne_true
      · exact isSome_iff_exists.1 hfound
    refine ⟨_, _, getLink_new hi iif, hinv.addLink hi iif, ?_, fun setting => ?_⟩
    · rw [State.addLink, get?_put, if_pos rfl]
    · have hobject : (s.addLink i { iif := some iif }).objects s.made = { iif := some iif } :=
        update_self _ _ _
      rw [linkAt, hi, elim_none, hobject]
      exact setting.valid_apply_iif {} (some iif)

/-! ### Settings -/

def setTo (s : State) (id : ℕ) (setting : Setting) : TransportLink :=
  { setting.apply (s.objects id) with configured := true }

structure Configured (s : State) (i : ℤ) (id : ℕ) (setting : Setting) (s' : State) : Prop where
  running : (s'.locked || s'.crashed) = (s.locked || s.crashed)
  made : s'.made = s.made
  links : s'.links = s.links
  objects : s'.objects = update s.objects id (s.setTo id setting)
  routes : s'.defaultRouteSequence = setting.sequence i s.defaultRouteSequence
  servers : ∀ id', (s'.linkServers.get? id').isSome ↔ id' = id ∨ (s.linkServers.get? id').isSome

lemma postUpdate_eq (h : (s.objects id).iif.isSome) : s.postUpdate id = s.updateTransports id := by
  obtain ⟨iif, hiif⟩ := isSome_iff_exists.1 h
  rw [postUpdate, hiif]

lemma updateTransports_eq (h : (s.objects id).valid) : s.updateTransports id =
      { s.closeServers id with
        linkServers := s.linkServers.put id ((s.objects id).servers s.servers)
        servers := s.servers + ((s.objects id).servers s.servers).length } :=
  if_pos h

lemma configured_configure (hiif : (s.objects id).iif.isSome)
    (hvalid : (setting.apply (s.objects id)).valid) :
    Configured s i id setting (s.configure i id setting) := by
  have hlink : update s.objects id (s.setTo id setting) id = s.setTo id setting := update_self _ _ _
  have hset : s.configure i id setting = { s.setObject id (s.setTo id setting) with
        defaultRouteSequence := setting.sequence i s.defaultRouteSequence }.postUpdate id := rfl
  rw [hset, postUpdate_eq, updateTransports_eq]
  · refine ⟨rfl, rfl, rfl, rfl, rfl, fun id' => ?_⟩
    rw [get?_put]
    split_ifs with hid <;> simp [hid, setObject]
  · change (update s.objects id (s.setTo id setting) id).valid
    rw [hlink]
    exact hvalid
  · change (update s.objects id (s.setTo id setting) id).iif.isSome
    rw [hlink, setTo, Setting.iif_apply]
    exact hiif

end State

lemma Setting.nodup_sequence {i : ℤ} {routes : List ℤ} (h : routes.Nodup) (setting : Setting) :
    (setting.sequence i routes).Nodup := by
  fun_cases Setting.sequence i routes setting
  · refine (h.filter _).append (nodup_singleton i) (disjoint_singleton.2 fun hi => ?_)
    simpa using (mem_filter.1 hi).2
  · exact h.filter _
  · exact h

lemma Setting.mem_sequence {i k : ℤ} {routes : List ℤ} {setting : Setting}
    (hk : k ∈ setting.sequence i routes) (link : TransportLink) :
    (k = i ∧ (setting.apply link).defaultRoute) ∨
    (k ∈ routes ∧ (k = i → (setting.apply link).defaultRoute = link.defaultRoute)) := by
  cases setting with
  | defaultRoute isDefault =>
    cases isDefault with
    | true =>
      rcases mem_append.1 hk with hk | hk
      · have hmem := mem_filter.1 hk
        exact .inr ⟨hmem.1, fun hki => absurd hki (by simpa using hmem.2)⟩
      · exact .inl ⟨mem_singleton.1 hk, rfl⟩
    | false =>
      have hmem := mem_filter.1 hk
      exact .inr ⟨hmem.1, fun hki => absurd hki (by simpa using hmem.2)⟩
  | dnsOverTLS dotMode =>
    refine .inr ⟨hk, fun _ => ?_⟩
    rw [Setting.apply]
    split_ifs <;> rfl
  | dns | dnsEx | domains => exact .inr ⟨hk, fun _ => rfl⟩

namespace State
variable {s : State} {i : ℤ} {id : ℕ} {setting : Setting}

lemma Inv.configure (hinv : Inv s) (hi : s.links.get? i = some id)
    (hvalid : (setting.apply (s.objects id)).valid) : Inv (s.configure i id setting) := by
  have hspec : Configured s i id setting (s.configure i id setting) :=
    configured_configure (hinv.iif i id hi) hvalid
  have hself : (s.configure i id setting).objects id = s.setTo id setting := by
    rw [hspec.objects, update_self]
  have hoth : ∀ id', id' ≠ id → (s.configure i id setting).objects id' = s.objects id' := by
    intro id' hne
    rw [hspec.objects, update_of_ne hne]
  constructor
  case running =>
    rw [hspec.running]
    exact hinv.running
  case made =>
    rw [hspec.made, hspec.links]
    exact hinv.made
  case inj =>
    rw [hspec.links]
    exact hinv.inj
  case iif =>
    rw [hspec.links]
    intro j id' hj
    by_cases hid : id' = id
    · rw [hid, hself, setTo, Setting.iif_apply]
      exact hinv.iif i id hi
    · rw [hoth id' hid]
      exact hinv.iif j id' hj
  case route =>
    rw [hspec.links, hspec.routes]
    intro k hk
    rcases Setting.mem_sequence hk (s.objects id) with ⟨rfl, hroute⟩ | ⟨hk, hroute⟩
    · exact ⟨id, hi, hself ▸ hroute⟩
    · obtain ⟨id', hid', hdef⟩ := hinv.route k hk
      refine ⟨id', hid', ?_⟩
      by_cases hid : id' = id
      · subst hid
        rw [hself]
        exact (hroute (hinv.inj k i id' hid' hi)).trans hdef
      · rw [hoth id' hid]
        exact hdef
  case nodup =>
    rw [hspec.routes]
    exact setting.nodup_sequence hinv.nodup
  case servers =>
    intro id'
    rw [hspec.servers, hspec.links]
    by_cases hid : id' = id
    · subst hid
      rw [hself]
      exact iff_of_true (.inl rfl) ⟨⟨i, hi⟩, rfl⟩
    · rw [hoth id' hid, or_iff_right hid]
      exact hinv.servers id'
  case blank =>
    rw [hspec.links]
    intro j id' hj hconf
    by_cases hid : id' = id
    · rw [hid, hself] at hconf
      exact absurd hconf.symm Bool.false_ne_true
    · rw [hoth id' hid] at hconf ⊢
      exact hinv.blank j id' hj hconf

/-! ### Links that go away -/

def dropLink (s : State) (link : ℤ × ℕ) : State :=
  { s with defaultRouteSequence := s.defaultRouteSequence.filter (· ≠ link.1)
    }.deleteTransport link.2

structure Dropped (s : State) (some : List (ℤ × ℕ)) (s' : State) : Prop where
  running : (s'.locked || s'.crashed) = (s.locked || s.crashed)
  made : s'.made = s.made
  links : s'.links = s.links
  objects : s'.objects = s.objects
  routes : s'.defaultRouteSequence = s.defaultRouteSequence.filter (· ∉ some.map Prod.fst)
  servers : ∀ id, s'.linkServers.get? id =
    if id ∈ some.map Prod.snd then none else s.linkServers.get? id

lemma dropped_foldl (s : State) (links : List (ℤ × ℕ)) :
    Dropped s links (links.foldl dropLink s) := by
  induction links generalizing s with
  | nil => exact ⟨rfl, rfl, rfl, rfl, by simp, fun id => by simp⟩
  | cons link links ih =>
    have hrest := ih (s.dropLink link)
    refine ⟨hrest.running, hrest.made, hrest.links, hrest.objects, ?_, fun id => ?_⟩
    · have hroutes : (s.dropLink link).defaultRouteSequence =
          s.defaultRouteSequence.filter (· ≠ link.1) := rfl
      rw [foldl_cons, hrest.routes, hroutes, List.filter_filter]
      refine filter_congr fun i _ => ?_
      rw [map_cons]
      simp only [mem_cons, not_or, Bool.decide_and, Bool.and_comm]
    · have hsrvs : (s.dropLink link).linkServers = s.linkServers.erase link.2 := rfl
      rw [foldl_cons, hrest.servers, hsrvs, get?_erase, map_cons]
      by_cases hid : id = link.2
      · simp [hid]
      · simp only [mem_cons, hid, false_or, if_false]

variable (byIndex : ℤ → Option Interface)

lemma onNetworkUpdate_eq : s.onNetworkUpdate byIndex =
      { s.links.entries.foldl dropLink s with
        links := ((s.links.entries.filter (s.disappeared byIndex)).map Prod.fst).foldl
          erase (s.links.entries.foldl dropLink s).links } := rfl

variable {byIndex}

lemma get?_links_onNetworkUpdate :
    (s.onNetworkUpdate byIndex).links.get? i = some id ↔
    s.links.get? i = some id ∧ s.disappeared byIndex (i, id) = false := by
  have hremoved : i ∈ (s.links.entries.filter (s.disappeared byIndex)).map Prod.fst ↔
      ∃ id, s.links.get? i = some id ∧ s.disappeared byIndex (i, id) := by
    simp only [List.mem_map, mem_filter, get?_eq_some_iff]
    constructor
    · rintro ⟨⟨j, id⟩, hmem, rfl⟩
      exact ⟨id, hmem⟩
    · rintro ⟨id, hmem⟩
      exact ⟨(i, id), hmem, rfl⟩
  rw [onNetworkUpdate_eq]
  simp only [get?_foldl_erase, (dropped_foldl s s.links.entries).links]
  split_ifs with h
  · obtain ⟨id', hid', hgone⟩ := hremoved.1 h
    refine iff_of_false not_false ?_
    rintro ⟨hid, hkept⟩
    cases hid'.symm.trans hid
    exact Bool.false_ne_true (hkept.symm.trans hgone)
  · refine ⟨fun hid => ⟨hid, ?_⟩, fun hid => hid.1⟩
    by_contra hgone
    exact h (hremoved.2 ⟨id, hid, eq_true_of_ne_false hgone⟩)

lemma objects_onNetworkUpdate (s : State) (byIndex : ℤ → Option Interface) :
    (s.onNetworkUpdate byIndex).objects = s.objects :=
  (dropped_foldl s s.links.entries).objects

lemma routes_onNetworkUpdate :
    (s.onNetworkUpdate byIndex).defaultRouteSequence =
    s.defaultRouteSequence.filter (· ∉ s.links.entries.map Prod.fst) :=
  (dropped_foldl s s.links.entries).routes

lemma servers_onNetworkUpdate :
    (s.onNetworkUpdate byIndex).linkServers.get? id =
    if id ∈ s.links.entries.map Prod.snd then none else s.linkServers.get? id :=
  (dropped_foldl s s.links.entries).servers id

lemma mem_links_iff : i ∈ s.links.entries.map Prod.fst ↔ ∃ id, s.links.get? i = some id := by
  simp [get?_eq_some_iff]

lemma mem_ids_iff : id ∈ s.links.entries.map Prod.snd ↔ ∃ i, s.links.get? i = some id := by
  simp [get?_eq_some_iff]

lemma Inv.onNetworkUpdate (hinv : Inv s)
    (hkept : ∀ link ∈ s.links.entries, s.disappeared byIndex link = false →
      s.linkServers.get? link.2 = none) : Inv (s.onNetworkUpdate byIndex) := by
  have hold : ∀ j id, (s.onNetworkUpdate byIndex).links.get? j = some id →
      s.links.get? j = some id := fun j id h => (get?_links_onNetworkUpdate.1 h).1
  have hroutes : (s.onNetworkUpdate byIndex).defaultRouteSequence = [] := by
    rw [routes_onNetworkUpdate, filter_eq_nil_iff]
    intro j hj
    obtain ⟨id, hid, -⟩ := hinv.route j hj
    simpa using mem_links_iff.2 ⟨id, hid⟩
  have hsrvs : ∀ id, (s.onNetworkUpdate byIndex).linkServers.get? id = none := by
    intro id
    rw [servers_onNetworkUpdate]
    split_ifs with hid
    · rfl
    · rw [← not_isSome_iff_eq_none, hinv.servers]
      exact fun h => hid (mem_ids_iff.2 h.1)
  constructor
  case running =>
    exact (dropped_foldl s s.links.entries).running.trans hinv.running
  case made =>
    intro j id hj
    exact (hinv.made j id (hold j id hj)).trans_eq (dropped_foldl s s.links.entries).made.symm
  case inj => exact fun j k id hj hk => hinv.inj j k id (hold j id hj) (hold k id hk)
  case iif =>
    rw [objects_onNetworkUpdate]
    exact fun j id hj => hinv.iif j id (hold j id hj)
  case route =>
    rw [hroutes]
    exact fun j hj => absurd hj not_mem_nil
  case nodup =>
    rw [hroutes]
    exact nodup_nil
  case servers =>
    intro id
    rw [hsrvs, objects_onNetworkUpdate]
    refine iff_of_false Bool.false_ne_true ?_
    rintro ⟨⟨j, hj⟩, hconf⟩
    obtain ⟨hj, hgone⟩ := get?_links_onNetworkUpdate.1 hj
    have hnone := hkept (j, id) (get?_eq_some_iff.1 hj) hgone
    have hsome := (hinv.servers id).2 ⟨⟨j, hj⟩, hconf⟩
    rw [hnone] at hsome
    exact Bool.false_ne_true hsome
  case blank =>
    rw [objects_onNetworkUpdate]
    exact fun j id hj => hinv.blank j id (hold j id hj)

lemma Inv.step (hinv : Inv s) {a : Action} (hcare : s.Careful a) : Inv (s.step a) := by
  have hstep : s.step a = s.run a := if_neg (by rw [hinv.running]; exact Bool.false_ne_true)
  rw [hstep]
  cases a with
  | set ifIndex iif setting =>
    obtain ⟨s', id, hlink, hinv', hid, hvalid⟩ := hinv.getLink hcare.1
    rw [run_set, hlink]
    exact hinv'.configure hid ((hvalid setting).trans hcare.2)
  | revertLink ifIndex iif => exact hcare.elim
  | resolve ifIndex iif =>
    obtain ⟨s', id, hlink, hinv', hid, -⟩ := hinv.getLink hcare
    obtain ⟨found, hfound⟩ := isSome_iff_exists.1 (hinv'.iif ifIndex id hid)
    rw [run, resolve, hlink]
    dsimp only
    rw [hfound]
    exact hinv'
  | networkUpdate byIndex => exact hinv.onNetworkUpdate hcare

/-! ### Selecting servers -/

lemma selectByDomain_eq (accept : Bool) (order : List (ℤ × ℕ)) (name : List Char) :
    s.selectByDomain accept order name =
    (order.filter fun link => matchesName accept name (s.objects link.2)).getLast?.map
    Prod.snd := by
  induction order using List.reverseRecOn with
  | nil => rfl
  | append_singleton order link ih =>
    rw [selectByDomain, foldl_append, ← selectByDomain, ih, filter_append]
    cases hm : matchesName accept name (s.objects link.2) <;> simp [hm]

lemma exists_of_selectByDomain {accept : Bool} {name : List Char} {order : List (ℤ × ℕ)}
    (h : s.selectByDomain accept order name = some id) :
    ∃ i, (i, id) ∈ order ∧ (s.objects id).domain ≠ [] := by
  rw [selectByDomain_eq, map_eq_some_iff] at h
  obtain ⟨⟨i, id'⟩, hlast, rfl⟩ := h
  obtain ⟨hmem, hm⟩ := mem_filter.1 (mem_of_getLast? hlast)
  refine ⟨i, hmem, fun hnil => ?_⟩
  rw [matchesName, hnil] at hm
  exact Bool.false_ne_true hm

lemma exists_selectByRoute {P : ℕ → Prop} {routes : List ℤ}
    (hroutes : ∀ i ∈ routes, ∃ id, s.links.get? i = some id ∧ P id) {selected : Option ℕ}
    (hsel : ∀ id, selected = some id → P id) :
    ∃ selected', s.selectByRoute routes selected = .ok selected' ∧
    ∀ id, selected' = some id → P id := by
  induction routes generalizing selected with
  | nil => exact ⟨selected, rfl, hsel⟩
  | cons i routes ih =>
    obtain ⟨id, hid, hP⟩ := hroutes i mem_cons_self
    have hsome : ∀ id', some id = some id' → P id' := fun id' h => Option.some.inj h ▸ hP
    rw [selectByRoute, hid]
    dsimp only
    split_ifs
    · exact ⟨some id, rfl, hsome⟩
    · exact ih (fun j hj => hroutes j (mem_cons_of_mem i hj)) hsome

lemma Inv.selects (hinv : Inv s) : s.Selects := by
  intro accept order name horder
  have hent : ∀ i id, s.links.get? i = some id →
      ((s.objects id).domain ≠ [] ∨ (s.objects id).defaultRoute) →
      (s.linkServers.get? id).isSome := by
    intro i id hi hset
    refine (hinv.servers id).2 ⟨⟨i, hi⟩, eq_true_of_ne_false fun hblank => ?_⟩
    obtain ⟨hdom, hroute⟩ := hinv.blank i id hi hblank
    exact hset.elim (· hdom) fun h => Bool.false_ne_true (hroute.symm.trans h)
  rw [selectLink]
  cases hdom : s.selectByDomain accept order name with
  | some id =>
    refine ⟨some id, rfl, fun id' hid' => ?_⟩
    cases hid'
    obtain ⟨i, hmem, hne⟩ := exists_of_selectByDomain hdom
    exact hent i id (get?_eq_some_iff.2 (horder.mem_iff.1 hmem)) (.inl hne)
  | none =>
    split_ifs
    · refine exists_selectByRoute (fun i hi => ?_) fun id hid =>
        (some_ne_none id hid.symm).elim
      obtain ⟨id, hid, hroute⟩ := hinv.route i (mem_reverse.1 hi)
      exact ⟨id, hid, hent i id hid (.inr hroute)⟩
    · exact ⟨none, rfl, fun id hid => (some_ne_none id hid.symm).elim⟩

lemma Inv.safe (hinv : Inv s) : Safe s := ⟨hinv.iif, hinv.route, hinv.nodup, hinv.servers⟩

lemma linkServers_getLink (s : State) (i : ℤ) (iif : Option Interface) :
    (s.getLink i iif).1.linkServers = s.linkServers := by
  unfold getLink
  cases s.links.get? i with
  | some id => rfl
  | none => cases iif <;> rfl

end State

/-! ### Queries between the two locks -/

def Action.isNetworkUpdate : Action → Bool
  | .networkUpdate _ => true
  | _ => false

/-- Only a network update takes entries out of the server table. -/
lemma State.Inv.isSome_servers {s : State} {id : ℕ} (hinv : s.Inv) {a : Action}
    (hcare : s.Careful a) (ha : a.isNetworkUpdate = false) (h : (s.linkServers.get? id).isSome) :
    ((s.step a).linkServers.get? id).isSome := by
  have hstep : s.step a = s.run a := if_neg (by rw [hinv.running]; exact Bool.false_ne_true)
  rw [hstep]
  cases a with
  | set ifIndex iif setting =>
    obtain ⟨s', id', hlink, hinv', hid, hvalid⟩ := hinv.getLink hcare.1
    have hservers : s'.linkServers = s.linkServers := by
      rw [← linkServers_getLink s ifIndex iif, hlink]
    have hconfigured := configured_configure (i := ifIndex) (hinv'.iif ifIndex id' hid)
      ((hvalid setting).trans hcare.2)
    rw [run_set, hlink]
    exact (hconfigured.servers id).2 (.inr (hservers ▸ h))
  | revertLink ifIndex iif => exact hcare.elim
  | resolve ifIndex iif =>
    have hservers : (s.resolve ifIndex iif).linkServers = s.linkServers := by
      rw [← linkServers_getLink s ifIndex iif, State.resolve]
      split
      · rename_i heq
        rw [heq]
      · rename_i heq
        rw [heq]
        dsimp only
        split <;> rfl
    rw [run, hservers]
    exact h
  | networkUpdate byIndex => cases ha

/-- The service, and the queries that have selected a link and not yet read its servers. -/
structure Serving where
  tables : State := {}
  selected : List ℕ := []
  /-- A query has dereferenced a missing link or a missing entry. -/
  failed : Bool := false

inductive Event where
  | action (a : Action)
  /-- A query selects a link under the lock of the service. -/
  | select (acceptDefaultResolvers : Bool) (order : List (ℤ × ℕ)) (name : List Char)
  /-- A query reads the servers of its link under the lock of the transport. -/
  | readServers (index : ℕ)

namespace Serving

def step (s : Serving) : Event → Serving
  | .action a => { s with tables := s.tables.step a }
  | .select acceptDefaultResolvers order name =>
    if s.tables.locked || s.tables.crashed then s
    else
      match s.tables.selectLink acceptDefaultResolvers order name with
      | .error _ => { s with failed := true }
      | .ok none => s
      | .ok (some id) => { s with selected := s.selected ++ [id] }
  | .readServers index =>
    match s.selected[index]? with
    | none => s
    | some id => { s with
        selected := s.selected.eraseIdx index
        failed := s.failed || (s.tables.linkServers.get? id).isNone }

/-- A network update does not come while a query is between the two locks. The order in which a
query goes through the links is any order. -/
def Careful (s : Serving) : Event → Prop
  | .action a => s.tables.Careful a ∧ (a.isNetworkUpdate → s.selected = [])
  | .select _ order _ => order.Perm s.tables.links.entries
  | .readServers _ => True

instance (s : Serving) : ∀ e, Decidable (s.Careful e)
  | .action _ => inferInstanceAs (Decidable (_ ∧ _))
  | .select _ _ _ => inferInstanceAs (Decidable (List.Perm _ _))
  | .readServers _ => inferInstanceAs (Decidable True)

/-- The tables agree, and no query has dereferenced what is missing. -/
structure Safe (s : Serving) : Prop where
  tables : s.tables.Safe
  answered : s.failed = false

structure Inv (s : Serving) : Prop where
  tables : s.tables.Inv
  selected : ∀ id ∈ s.selected, (s.tables.linkServers.get? id).isSome
  answered : s.failed = false

variable {s : Serving}

lemma Inv.step (hinv : s.Inv) {e : Event} (hcare : s.Careful e) : (s.step e).Inv := by
  obtain ⟨htables, hselected, hanswered⟩ := hinv
  cases e with
  | action a =>
    refine ⟨htables.step hcare.1, fun id hid => ?_, hanswered⟩
    cases ha : a.isNetworkUpdate with
    | false => exact htables.isSome_servers hcare.1 ha (hselected id hid)
    | true =>
      rw [Serving.step] at hid
      dsimp only at hid
      rw [hcare.2 ha] at hid
      cases hid
  | select accept order name =>
    obtain ⟨selected, hselect, hentry⟩ := htables.selects accept order name hcare
    rw [Serving.step, htables.running, hselect]
    cases selected with
    | none => exact ⟨htables, hselected, hanswered⟩
    | some id =>
      refine ⟨htables, forall_mem_append.2 ⟨hselected, ?_⟩, hanswered⟩
      exact forall_mem_singleton.2 (hentry id rfl)
  | readServers index =>
    unfold Serving.step
    dsimp only
    cases hid : s.selected[index]? with
    | none => exact ⟨htables, hselected, hanswered⟩
    | some id =>
      refine ⟨htables, fun id' hid' => hselected id' (mem_of_mem_eraseIdx hid'), ?_⟩
      have hentry := hselected id (mem_of_getElem? hid)
      simpa [hanswered] using hentry

end Serving

namespace State

def wired : Interface := ⟨7, "eth0"⟩

/-- Two queries select the link and a call comes before they read its servers. -/
def carefulSteps : List Event :=
  [.action (.set 2 (some wired) (.dns [⟨2, [192, 0, 2, 1]⟩])),
    .action (.set 2 none (.defaultRoute true)), .select true [(2, 0)] "lan.".toList,
    .select true [(2, 0)] "org.".toList, .action (.set 2 none (.domains [⟨"lan.", false⟩])),
    .readServers 1, .readServers 0, .action (.resolve 2 none),
    .action (.networkUpdate fun _ => none),
    .action (.set 2 (some wired) (.domains [⟨"lan.", false⟩]))]

/-- The tables agree and no query fails, in every state that is reached by careful steps. -/
theorem safe_of_careful_run {s : Serving} (h : Run Serving.step Serving.Careful {} s) :
    s.Safe := by
  have hinv : s.Inv := h.invariant ⟨inv_start, nofun, rfl⟩ fun s e hinv hcare => hinv.step hcare
  exact ⟨hinv.tables.safe, hinv.answered⟩

theorem safe_carefulSteps : (carefulSteps.foldl Serving.step {}).Safe :=
  safe_of_careful_run (Run.start.foldl (by decide +kernel))

/-- An interface is not found; an address has three bytes; the default route is reverted; a link
with servers is kept; an update comes between the two locks of a query. -/
theorem not_safe_steps : ¬([.action (.set 2 none (.dns []))].foldl Serving.step {}).Safe ∧
    ¬([.action (.set 2 (some wired) (.dns [⟨2, [192, 0, 2]⟩]))].foldl Serving.step {}).Safe ∧
    ¬([.action (.set 2 (some wired) (.defaultRoute true)), .action (.revertLink 2 none),
      .select true [] "lan.".toList].foldl Serving.step {}).Safe ∧
    ¬([.action (.set 2 (some wired) (.domains [⟨"lan.", false⟩])),
      .action (.networkUpdate fun _ => some wired), .select true [(2, 0)] "lan.".toList,
      .readServers 0].foldl Serving.step {}).Safe ∧
    ¬([.action (.set 2 (some wired) (.domains [⟨"lan.", false⟩])),
      .select true [(2, 0)] "lan.".toList, .action (.networkUpdate fun _ => none),
      .readServers 0].foldl Serving.step {}).Safe := by
  refine ⟨fun h => ?_, fun h => ?_, fun h => ?_, fun h => ?_, fun h => ?_⟩
  · exact Bool.false_ne_true (h.tables.iif 2 0 rfl)
  · exact Bool.false_ne_true ((h.tables.servers 0).2 ⟨⟨2, rfl⟩, rfl⟩)
  · exact absurd h.answered (by decide +kernel)
  · exact absurd h.answered (by decide +kernel)
  · exact absurd h.answered (by decide +kernel)

end State

end SingBox.Resolved

import SingBox.FakeIP.Contract
import SingBox.FakeIP.Store

/-!
# Domains and addresses in memory

The maps of a family are inverse if the addresses it hands out are of the family, which may fail.
-/

namespace SingBox.FakeIP
open FakeIPStorage Table

/-! ### The storage -/

namespace MemoryStorage

def addressesOf (s : MemoryStorage) (isIPv6 : Bool) : Table (Option Addr) String :=
  fun address => if storedAsIPv6 address = isIPv6 then s.addressCache address else none

lemma addressesOf_apply (s : MemoryStorage) (isIPv6 : Bool) (address : Option Addr) :
    s.addressesOf isIPv6 address =
    if storedAsIPv6 address = isIPv6 then s.addressCache address else none := rfl

variable {s : MemoryStorage} {isIPv6 : Bool} {address : Option Addr} {domain : String}

lemma addressesOf_eq_some_iff : s.addressesOf isIPv6 address = some domain ↔
    storedAsIPv6 address = isIPv6 ∧ s.addressCache address = some domain := by
  rw [addressesOf_apply]
  by_cases hfam : storedAsIPv6 address = isIPv6
  · rw [if_pos hfam]
    exact ⟨fun h => ⟨hfam, h⟩, fun h => h.2⟩
  · rw [if_neg hfam]
    refine iff_of_false (by simp) ?_
    rintro ⟨hsame, -⟩
    exact hfam hsame

def Consistent (s : MemoryStorage) : Prop :=
  ∀ isIPv6, (s.addressesOf isIPv6).Inverse (s.domainCache isIPv6)

lemma consistent_empty : ({} : MemoryStorage).Consistent := by
  intro isIPv6 address domain
  rw [domainCache_empty, addressesOf_eq_some_iff]
  simp [Table.empty]

lemma Consistent.addressCache (h : s.Consistent)
    (hbd : s.domainCache isIPv6 domain = some address) :
    storedAsIPv6 address = isIPv6 ∧ s.addressCache address = some domain :=
  addressesOf_eq_some_iff.1 ((h isIPv6 address domain).2 hbd)

lemma addressesOf_fakeIPStore :
    (s.fakeIPStore address domain).addressesOf isIPv6 =
    if isIPv6 = storedAsIPv6 address then (s.addressesOf isIPv6).insert address domain
    else s.addressesOf isIPv6 := by
  funext address'
  rw [addressesOf_apply, addressCache_fakeIPStore]
  by_cases hfam : isIPv6 = storedAsIPv6 address
  · rw [if_pos hfam]
    by_cases haddr : address' = address
    · subst haddr
      rw [if_pos hfam.symm, insert_self, insert_self]
    · rw [insert_of_ne _ _ haddr, insert_of_ne _ _ haddr, addressesOf_apply]
  · rw [if_neg hfam, addressesOf_apply]
    by_cases haddr : address' = address
    · subst haddr
      have hoth : ¬storedAsIPv6 address' = isIPv6 := fun h => hfam h.symm
      rw [if_neg hoth, if_neg hoth]
    · rw [insert_of_ne _ _ haddr]

lemma freed_eq :
    s.freed address = (s.addressesOf (storedAsIPv6 address)).free
    (s.domainCache (storedAsIPv6 address)) address := by
  simp [freed, Table.free, addressesOf_apply]

lemma Consistent.fakeIPStore (h : s.Consistent)
    (hunused : s.domainCache (storedAsIPv6 address) domain = none) :
    (s.fakeIPStore address domain).Consistent := by
  intro isIPv6
  rw [addressesOf_fakeIPStore, domainCache_fakeIPStore]
  by_cases hfam : isIPv6 = storedAsIPv6 address
  · subst hfam
    rw [if_pos rfl, if_pos rfl, freed_eq]
    exact (h _).rebind hunused
  · rw [if_neg hfam, if_neg hfam]
    exact h isIPv6

lemma Consistent.domainCache_fakeIPStore_of_ne (h : s.Consistent)
    {address' : Option Addr} {domain' : String}
    (hbd : s.domainCache isIPv6 domain' = some address') (haddr : address' ≠ address)
    (hdom : isIPv6 = storedAsIPv6 address → domain' ≠ domain) :
    (s.fakeIPStore address domain).domainCache isIPv6 domain' = some address' := by
  rw [MemoryStorage.domainCache_fakeIPStore]
  split_ifs with hfam
  · rw [insert_of_ne _ _ (hdom hfam), freed_eq, (h _).free_of_ne haddr, ← hfam]
    exact hbd
  · exact hbd

end MemoryStorage

/-! ### The store -/

open MemoryStorage

def Storable (isIPv6 : Bool) (p : IPPrefix) : Prop := p.addr.next = none ∨
    p.addr.is6 = isIPv6 ∧ storedAsIPv6 (p.addr.next.bind Addr.next) = isIPv6

def Store.Storable (s : Store) : Prop := ∀ isIPv6, ∀ c ∈ s.current isIPv6, ∃ p ∈ s.range isIPv6,
    p.addr.is6 = isIPv6 ∧ storedAsIPv6 (p.addr.next.bind Addr.next) = isIPv6

variable {s : Store} {isIPv6 : Bool} {c : Addr} {domain : String} {a : Option Addr}

lemma Store.Storable.next (h : s.Storable) (hc : s.current isIPv6 = some c) :
    storedAsIPv6 (nextAddress (s.range isIPv6) (s.last isIPv6) c) = isIPv6 := by
  obtain ⟨p, hp, hfam, hstored⟩ := h isIPv6 c hc
  have hrange : s.range isIPv6 = some p := hp
  rw [hrange, nextAddress]
  split_ifs with hwrap
  · exact hstored
  · -- the next address is in the prefix, so that it has its family
    obtain ⟨b, hb, hcont⟩ : ∃ b, c.next = some b ∧ p.contains b := by
      rw [not_or, not_not] at hwrap
      simpa [Option.any_eq_true] using hwrap.2
    have hsame := ((IPPrefix.contains_iff p b).1 hcont).1
    rw [hb, storedAsIPv6_some, ← hfam, Addr.is6, Addr.is6, hsame]

lemma Store.Storable.setCurrent (h : s.Storable)
    (hc : s.current isIPv6 = some c) (address : Option Addr) :
    (s.setCurrent isIPv6 address).Storable := by
  intro isIPv6' c' hc'
  rw [Store.current_setCurrent] at hc'
  rw [Store.range_setCurrent]
  split_ifs at hc' with hsame
  · subst hsame
    exact h _ c hc
  · exact h isIPv6' c' hc'

structure MapsInv (s : Store) (storage : MemoryStorage) : Prop where
  maps : storage.Consistent
  store : s.Storable

lemma create_memory_cases (domain : String) (isIPv6 : Bool) (s : Store)
    (storage : MemoryStorage) (h : MapsInv s storage) :
    (∃ a, storage.domainCache isIPv6 domain = some a ∧
        create domain isIPv6 s storage = (.ok a, s, storage)) ∨
    (storage.domainCache isIPv6 domain = none ∧
        create domain isIPv6 s storage = (.error (missingRange isIPv6), s, storage)) ∨
    (∃ a, storage.domainCache isIPv6 domain = none ∧ storedAsIPv6 a = isIPv6 ∧
        (s.setCurrent isIPv6 a).Storable ∧
        create domain isIPv6 s storage =
          (.ok a, s.setCurrent isIPv6 a, storage.fakeIPStore a domain)) := by
  obtain ⟨a, hload, heq⟩ | ⟨hload, -, heq⟩ | ⟨c, a, hload, hc, rfl, heq⟩ :=
    create_cases domain isIPv6 s storage
  · exact .inl ⟨a, hload, heq⟩
  · exact .inr (.inl ⟨hload, heq⟩)
  · exact .inr (.inr ⟨_, hload, h.store.next hc, h.store.setCurrent hc _, heq⟩)

variable {storage : MemoryStorage}

lemma MapsInv.create (h : MapsInv s storage) (domain : String) (isIPv6 : Bool) :
    MapsInv (create domain isIPv6 s storage).2.1 (create domain isIPv6 s storage).2.2 := by
  obtain ⟨a, -, heq⟩ | ⟨-, heq⟩ | ⟨a, hload, hfam, hstore, heq⟩ :=
    create_memory_cases domain isIPv6 s storage h
  · rw [heq]
    exact h
  · rw [heq]
    exact h
  · rw [heq]
    refine ⟨h.maps.fakeIPStore ?_, hstore⟩
    rw [hfam]
    exact hload

lemma MapsInv.create_bound (h : MapsInv s storage)
    (hcr : (FakeIP.create domain isIPv6 s storage).1 = .ok a) :
    (FakeIP.create domain isIPv6 s storage).2.2.domainCache isIPv6 domain = some a := by
  obtain ⟨b, hload, heq⟩ | ⟨-, heq⟩ | ⟨b, -, hfam, -, heq⟩ :=
    create_memory_cases domain isIPv6 s storage h
  · rw [heq] at hcr ⊢
    cases hcr
    exact hload
  · rw [heq] at hcr
    cases hcr
  · rw [heq] at hcr ⊢
    cases hcr
    rw [MemoryStorage.domainCache_fakeIPStore, if_pos hfam.symm, insert_self]

lemma MapsInv.create_keeps (h : MapsInv s storage) {domain' : String} {isIPv6' : Bool}
    (hbd : storage.domainCache isIPv6 domain = some a)
    (hoth : domain' ≠ domain → (FakeIP.create domain' isIPv6' s storage).1 ≠ .ok a) :
    (FakeIP.create domain' isIPv6' s storage).2.2.domainCache isIPv6 domain = some a := by
  obtain ⟨b, -, heq⟩ | ⟨-, heq⟩ | ⟨b, hload, hfam, -, heq⟩ :=
    create_memory_cases domain' isIPv6' s storage h
  · rw [heq]
    exact hbd
  · rw [heq]
    exact hbd
  · have hdom : isIPv6 = storedAsIPv6 b → domain ≠ domain' := by
      rintro hsame rfl
      rw [hsame, hfam, hload] at hbd
      cases hbd
    have hstored : storedAsIPv6 a = isIPv6 := (h.maps.addressCache hbd).1
    have hne : a ≠ b := by
      rintro rfl
      rw [heq] at hoth
      exact hoth (hdom hstored.symm).symm rfl
    rw [heq]
    exact h.maps.domainCache_fakeIPStore_of_ne hbd hne hdom

/-! ### Runs -/

/-- Starts have ranges with addresses stored under their family. -/
def MapOk (_ : System MemoryStorage) : Step → Prop
  | .start inet4Range inet6Range =>
    (∀ p ∈ inet4Range, Storable false p) ∧ ∀ p ∈ inet6Range, Storable true p
  | _ => True

/-- No restart or reset, and the address is not handed out anew. -/
def Undisturbed (domain : String) (address : Option Addr) (s : System MemoryStorage) : Step → Prop
  | .start _ _ => False
  | .reset => False
  | .create domain' isIPv6 => domain' ≠ domain →
      ∀ store ∈ s.store, (create domain' isIPv6 store s.storage).1 ≠ .ok address
  | .close => True
  | .fire => True

def System.MapsInv (s : System MemoryStorage) : Prop :=
  ∀ store ∈ s.store, FakeIP.MapsInv store s.storage

lemma start_mapsInv {inet4Range inet6Range : Option IPPrefix}
    (h4 : ∀ p ∈ inet4Range, Storable false p) (h6 : ∀ p ∈ inet6Range, Storable true p)
    (storage : MemoryStorage) :
    MapsInv (start (newStore inet4Range inet6Range) (reopen storage)).1
    (start (newStore inet4Range inet6Range) (reopen storage)).2 := by
  have hfst : ∀ (range : Option IPPrefix) (isIPv6 : Bool), (∀ p ∈ range, Storable isIPv6 p) →
      ∀ c ∈ (if range.isSome then range.bind fun p => p.addr.next else none), ∃ p ∈ range,
        p.addr.is6 = isIPv6 ∧ storedAsIPv6 (p.addr.next.bind Addr.next) = isIPv6 := by
    intro range isIPv6 h c hc
    cases range with
    | none => cases hc
    | some p =>
      have hnext : p.addr.next = some c := hc
      rcases h p rfl with hnone | hstored
      · rw [hnone] at hnext
        cases hnext
      · exact ⟨p, rfl, hstored⟩
  refine ⟨consistent_empty, ?_⟩
  rintro (_ | _)
  · exact hfst inet4Range false h4
  · exact hfst inet6Range true h6

lemma step_mapsInv (s : System MemoryStorage) (a : Step) (h : s.MapsInv) (hok : MapOk s a) :
    (step s a).MapsInv := by
  cases a with
  | start inet4Range inet6Range =>
    rintro store ⟨⟩
    exact start_mapsInv hok.1 hok.2 s.storage
  | create domain isIPv6 =>
    obtain ⟨_ | store, storage⟩ := s
    · exact h
    · rintro store' ⟨⟩
      exact (h store rfl).create domain isIPv6
  | reset =>
    obtain ⟨_ | store, storage⟩ := s
    · exact h
    · rintro store' ⟨⟩
      exact ⟨consistent_empty, (h store rfl).store⟩
  | close =>
    obtain ⟨_ | store, storage⟩ := s
    · exact h
    · exact h
  | fire => exact h

lemma step_keeps {address : Option Addr} (s : System MemoryStorage) (a : Step)
    (h : s.MapsInv ∧ s.storage.domainCache isIPv6 domain = some address)
    (hok : MapOk s a ∧ Undisturbed domain address s a) :
    (step s a).MapsInv ∧ (step s a).storage.domainCache isIPv6 domain = some address := by
  refine ⟨step_mapsInv s a h.1 hok.1, ?_⟩
  cases a with
  | start inet4Range inet6Range | reset => exact hok.2.elim
  | create domain' isIPv6' =>
    obtain ⟨_ | store, storage⟩ := s
    · exact h.2
    · exact (h.1 store rfl).create_keeps h.2 fun hne => hok.2 hne store rfl
  | close =>
    obtain ⟨_ | store, storage⟩ := s
    · exact h.2
    · exact h.2
  | fire => exact h.2

/-- If the ranges hand out addresses of their family, the maps are inverse, and `create` and
`lookup` agree until the address is handed out anew or reset. -/
theorem maps_consistent {storage : MemoryStorage} {s : System MemoryStorage}
    (hrun : Run step MapOk ⟨none, storage⟩ s) {store : Store} (hstore : s.store = some store) :
    s.storage.Consistent ∧
      ∀ domain isIPv6 address, (create domain isIPv6 store s.storage).1 = .ok address →
        lookup address (create domain isIPv6 store s.storage).2.2 = some domain ∧
          ∀ t, Run step (fun t a => MapOk t a ∧ Undisturbed domain address t a)
              (step s (.create domain isIPv6)) t →
            ∀ store' ∈ t.store, (create domain isIPv6 store' t.storage).1 = .ok address := by
  have hinv : s.MapsInv := by
    refine hrun.invariant ?_ step_mapsInv
    rintro store' ⟨⟩
  have hmaps := hinv store hstore
  refine ⟨hmaps.maps, ?_⟩
  intro domain isIPv6 address hcr
  have hbd := hmaps.create_bound hcr
  obtain ⟨-, hlookup⟩ := (hmaps.create domain isIPv6).maps.addressCache hbd
  refine ⟨hlookup, ?_⟩
  intro t ht store' hstore'
  have hafter : (step s (.create domain isIPv6)).MapsInv ∧
      (step s (.create domain isIPv6)).storage.domainCache isIPv6 domain = some address := by
    refine ⟨step_mapsInv s _ hinv trivial, ?_⟩
    simpa [step, hstore] using hbd
  obtain ⟨-, hkept⟩ := ht.invariant hafter step_keeps
  obtain ⟨a, hload, heq⟩ | ⟨hload, -, -⟩ | ⟨c, a, hload, -⟩ :=
    create_cases domain isIPv6 store' t.storage
  · rw [heq]
    have hsame : some a = some address := hload.symm.trans hkept
    rw [Option.some.inj hsame]
  all_goals exact absurd (hload.symm.trans hkept) (by simp)

/-- The single address of `10.0.0.0/30` is handed out twice. -/
def wrappedSteps : List Step :=
  [.start (some ⟨.v4 0x0a000000#32, 30⟩) none, .create "a" false, .create "b" false]

@[inherit_doc wrappedSteps]
def wrapped : System MemoryStorage := wrappedSteps.foldl step ⟨none, {}⟩

@[inherit_doc wrappedSteps]
def wrappedStore : Store :=
  { newStore (some ⟨.v4 0x0a000000#32, 30⟩) none with inet4Current := some (.v4 0x0a000002#32) }

lemma wrappedSteps_allowed :
    Run.Allowed step MapOk (⟨none, {}⟩ : System MemoryStorage) wrappedSteps := by
  refine ⟨⟨?_, ?_⟩, trivial, trivial, trivial⟩
  · rintro p ⟨⟩
    exact .inr ⟨rfl, by decide⟩
  · rintro p ⟨⟩

theorem maps_consistent_wrapped : wrapped.storage.Consistent ∧
      lookup (some (.v4 0x0a000002#32)) (create "b" false wrappedStore wrapped.storage).2.2 =
        some "b" ∧
      ∀ t, Run step (fun t a => MapOk t a ∧ Undisturbed "b" (some (.v4 0x0a000002#32)) t a)
          (step wrapped (.create "b" false)) t →
        ∀ store' ∈ t.store,
          (create "b" false store' t.storage).1 = .ok (some (.v4 0x0a000002#32)) := by
  have hstore : wrapped.store = some wrappedStore := by decide +kernel
  have hcr : (create "b" false wrappedStore wrapped.storage).1 =
      .ok (some (.v4 0x0a000002#32)) := eq_ok_of_toOption (by decide +kernel)
  have hrun : Run step MapOk ⟨none, {}⟩ wrapped := Run.start.foldl wrappedSteps_allowed
  exact ⟨(maps_consistent hrun hstore).1, (maps_consistent hrun hstore).2 "b" false _ hcr⟩

def asked (inet4Range : IPPrefix) (times : ℕ) : System MemoryStorage :=
  (List.replicate times (Step.create "a" false)).foldl step
    (step ⟨none, {}⟩ (.start (some inet4Range) none))

def answer (s : System MemoryStorage) : Option (Option Addr) :=
  s.store.bind fun store => (create "a" false store s.storage).1.toOption

/-- The first address of `255.255.255.254/31` is invalid; with the other family each address is new.
-/
theorem create_not_repeated : (answer (asked ⟨.v4 0xfffffffe#32, 31⟩ 0) = some none ∧
        answer (asked ⟨.v4 0xfffffffe#32, 31⟩ 1) = none) ∧
      answer (asked ⟨.v6 0xfc000000000000000000000000000000#128, 120⟩ 0) =
          some (some (.v6 0xfc000000000000000000000000000002#128)) ∧
        answer (asked ⟨.v6 0xfc000000000000000000000000000000#128, 120⟩ 1) =
          some (some (.v6 0xfc000000000000000000000000000003#128)) ∧
        lookup (some (.v6 0xfc000000000000000000000000000002#128))
          (asked ⟨.v6 0xfc000000000000000000000000000000#128, 120⟩ 2).storage = some "a" ∧
        lookup (some (.v6 0xfc000000000000000000000000000003#128))
          (asked ⟨.v6 0xfc000000000000000000000000000000#128, 120⟩ 2).storage = some "a" := by
  decide +kernel

end SingBox.FakeIP

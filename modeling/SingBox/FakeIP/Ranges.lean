import SingBox.FakeIP.Contract
import SingBox.FakeIP.Store

/-!
# The addresses that are handed out

From the second address after that of the prefix to the last but one; then the second again,
wherever that lies.
-/

namespace SingBox.FakeIP
open FakeIPStorage LawfulFakeIPStorage Addr

/-! ### Addresses of a range -/

/-- Neither the network address nor the first or last host address. -/
def InHostRange (p : IPPrefix) (a : Addr) : Prop :=
  p.contains a ∧ a ≠ p.network ∧ p.network.next ≠ some a ∧ a ≠ p.broadcastAddress

def HasRoom (p : IPPrefix) : Prop := p.addr.toNat + 2 < p.broadcastAddress.toNat

structure Current (p : IPPrefix) (c : Addr) : Prop where
  family : c.is4 = p.addr.is4
  after : p.addr.toNat + 1 ≤ c.toNat
  before : c.toNat < p.broadcastAddress.toNat

lemma block_bounds (p : IPPrefix) : p.network.toNat ≤ p.addr.toNat ∧
    p.broadcastAddress.toNat = p.network.toNat + (2 ^ p.hostBits - 1) ∧
    0 < 2 ^ p.hostBits := by
  have hnet := p.network_spec.2
  have hlast := p.broadcastAddress_spec.2
  have hle : p.addr.toNat / 2 ^ p.hostBits * 2 ^ p.hostBits ≤ p.addr.toNat :=
    Nat.div_mul_le_self _ _
  refine ⟨?_, ?_, Nat.two_pow_pos _⟩
  · rw [hnet]
    exact hle
  · rw [hlast, hnet]

lemma contains_iff_between (p : IPPrefix) (a : Addr) :
    p.contains a ↔ a.is4 = p.addr.is4 ∧ p.network.toNat ≤ a.toNat ∧
    a.toNat ≤ p.broadcastAddress.toNat := by
  obtain ⟨-, hlast, hpos⟩ := block_bounds p
  have hnet := p.network_spec.2
  rw [IPPrefix.contains_iff]
  refine and_congr_right fun _ => ?_
  rw [hlast, hnet, Nat.div_eq_iff hpos]
  constructor
  all_goals
    rintro ⟨hlow, hhigh⟩
    exact ⟨hlow, by omega⟩

variable {p : IPPrefix} {c : Addr}

lemma inHostRange_of_between {a : Addr} (hfam : a.is4 = p.addr.is4)
    (hlow : p.addr.toNat + 2 ≤ a.toNat) (hhigh : a.toNat < p.broadcastAddress.toNat) :
    InHostRange p a := by
  obtain ⟨hle, -, -⟩ := block_bounds p
  refine ⟨?_, ?_, ?_, ?_⟩
  · rw [contains_iff_between]
    exact ⟨hfam, by omega, by omega⟩
  · rintro rfl
    omega
  · intro hnext
    have hnum := (next_eq_some hnext).2
    omega
  · rintro rfl
    omega

lemma exists_next (hfam : c.is4 = p.addr.is4)
    (hbef : c.toNat < p.broadcastAddress.toNat) : ∃ b, c.next = some b := by
  cases hnext : c.next with
  | some b => exact ⟨b, rfl⟩
  | none =>
    have hlast := p.broadcastAddress.toNat_lt
    have hend := c.next_eq_none_iff.1 hnext
    have hlen : p.broadcastAddress.bitLen = c.bitLen :=
      bitLen_eq (p.broadcastAddress_spec.1.trans hfam.symm)
    rw [hlen] at hlast
    omega

lemma nextAddress_spec (hroom : HasRoom p) (hc : Current p c) :
    ∃ a, nextAddress (some p) (some p.broadcastAddress) c = some a ∧ InHostRange p a ∧
    Current p a := by
  unfold HasRoom at hroom
  obtain ⟨hle, -, -⟩ := block_bounds p
  have hafter := hc.after
  have hbef := hc.before
  have hwithin : ∀ a : Addr, a.is4 = p.addr.is4 → p.addr.toNat + 2 ≤ a.toNat →
      a.toNat < p.broadcastAddress.toNat → InHostRange p a ∧ Current p a :=
    fun a hfam hlow hhigh =>
      ⟨inHostRange_of_between hfam hlow hhigh, ⟨hfam, by omega, hhigh⟩⟩
  obtain ⟨b, hb⟩ := exists_next hc.family hbef
  obtain ⟨hbfamily, hbnumber⟩ := next_eq_some hb
  have hbfamily' : b.is4 = p.addr.is4 := hbfamily.trans hc.family
  have hcont : p.contains b := by
    rw [contains_iff_between]
    exact ⟨hbfamily', by omega, by omega⟩
  by_cases hlast : b = p.broadcastAddress
  · -- the end of the range: start again two addresses after the address of the prefix
    obtain ⟨first, hfst⟩ := exists_next (p := p) (c := p.addr) rfl (by omega)
    obtain ⟨hffamily, hfnumber⟩ := next_eq_some hfst
    obtain ⟨second, hsnd⟩ := exists_next (p := p) (c := first) hffamily (by omega)
    obtain ⟨hsfamily, hsnumber⟩ := next_eq_some hsnd
    refine ⟨second, ?_, hwithin second (hsfamily.trans hffamily) (by omega) (by omega)⟩
    simp [nextAddress, hb, hlast, hfst, hsnd]
  · have hne : b.toNat ≠ p.broadcastAddress.toNat := by
      intro heq
      exact hlast (eq_of_toNat (hbfamily'.trans p.broadcastAddress_spec.1.symm) heq)
    refine ⟨b, ?_, hwithin b hbfamily' (by omega) (by omega)⟩
    simp [nextAddress, hb, hlast, hcont]

/-! ### Stores -/

def Usable (isIPv6 : Bool) (p : IPPrefix) : Prop :=
  p.IsValid ∧ p.addr.is6 = isIPv6 ∧ (HasRoom p ∨ p.addr.next = none)

def CurrentOf (range : Option IPPrefix) (current : Option Addr) : Prop :=
  ∀ c ∈ current, ∃ p ∈ range, HasRoom p ∧ Current p c

structure Store.InRange (s : Store) : Prop where
  last (isIPv6 : Bool) : s.last isIPv6 = (s.range isIPv6).map IPPrefix.broadcastAddress
  usable (isIPv6 : Bool) : ∀ p ∈ s.range isIPv6, Usable isIPv6 p
  current (isIPv6 : Bool) : CurrentOf (s.range isIPv6) (s.current isIPv6)

structure Store.Fits (s : Store) (m : FakeIPMetadata) : Prop where
  inet4Range : m.inet4Range = s.inet4Range
  inet6Range : m.inet6Range = s.inet6Range
  inet4Current : CurrentOf s.inet4Range m.inet4Current
  inet6Current : CurrentOf s.inet6Range m.inet6Current

def HandedOut (range : Option IPPrefix) (isIPv6 : Bool) (address : Option Addr) : Prop :=
  ∃ p a, range = some p ∧ address = some a ∧ a.is6 = isIPv6 ∧ InHostRange p a

section
variable {σ : Type} [FakeIPStorage σ] [LawfulFakeIPStorage σ]

structure Healthy (s : Store) (storage : σ) : Prop where
  store : s.InRange
  bound {domain : String} {isIPv6 : Bool} {a : Option Addr} :
    fakeIPLoadDomain domain isIPv6 storage = some a → HandedOut (s.range isIPv6) isIPv6 a
  remembered {m : FakeIPMetadata} : Remembers storage m → s.Fits m

structure Unused (storage : σ) : Prop where
  bound (domain : String) (isIPv6 : Bool) : fakeIPLoadDomain domain isIPv6 storage = none
  remembered (m : FakeIPMetadata) : ¬Remembers storage m

variable {s : Store}

lemma Store.InRange.metadata_valid (h : s.InRange) : s.metadata.Valid :=
  ⟨fun p hp => (h.usable false p hp).1, fun p hp => (h.usable true p hp).1⟩

lemma Store.InRange.fits (h : s.InRange) : s.Fits s.metadata :=
  ⟨rfl, rfl, h.current false, h.current true⟩

variable {m : FakeIPMetadata} {isIPv6 : Bool}

lemma Store.Fits.setCurrent (h : s.Fits m) (isIPv6 : Bool)
    (address : Option Addr) : (s.setCurrent isIPv6 address).Fits m := by
  obtain ⟨h1, h2, h3, h4⟩ := h
  cases isIPv6 <;> exact ⟨h1, h2, h3, h4⟩

lemma is6_of_inHostRange {a : Addr} (hus : Usable isIPv6 p)
    (h : InHostRange p a) : a.is6 = isIPv6 := by
  have hfam := ((contains_iff_between p a).1 h.1).1
  rw [← hus.2.1, Addr.is6, Addr.is6, hfam]

lemma Store.InRange.next (h : s.InRange) (hc : s.current isIPv6 = some c) :
    ∃ a, nextAddress (s.range isIPv6) (s.last isIPv6) c = some a ∧
    HandedOut (s.range isIPv6) isIPv6 (some a) ∧ (s.setCurrent isIPv6 (some a)).InRange := by
  obtain ⟨p, hp, hroom, hcur⟩ := h.current isIPv6 c hc
  have hrange : s.range isIPv6 = some p := hp
  have hlast : s.last isIPv6 = some p.broadcastAddress := by rw [h.last, hrange, Option.map_some]
  obtain ⟨a, ha, hin, hcur'⟩ := nextAddress_spec hroom hcur
  have hfam : a.is6 = isIPv6 := is6_of_inHostRange (h.usable isIPv6 p hp) hin
  refine ⟨a, by rw [hrange, hlast, ha], ⟨p, a, hrange, rfl, hfam, hin⟩, ?_⟩
  refine ⟨?_, ?_, ?_⟩
  · intro isIPv6'
    rw [last_setCurrent, range_setCurrent, h.last]
  · intro isIPv6'
    rw [range_setCurrent]
    exact h.usable isIPv6'
  · intro isIPv6'
    rw [range_setCurrent, current_setCurrent]
    split_ifs with hsame
    · subst hsame
      rintro c' hc'
      cases hc'
      exact ⟨p, hp, hroom, hcur'⟩
    · exact h.current isIPv6'

variable {storage : σ}

lemma Healthy.create (h : Healthy s storage) (domain : String) (isIPv6 : Bool) :
    (∀ a, (create domain isIPv6 s storage).1 = .ok a → HandedOut (s.range isIPv6) isIPv6 a) ∧
    Healthy (create domain isIPv6 s storage).2.1 (create domain isIPv6 s storage).2.2 := by
  obtain ⟨a, hload, heq⟩ | ⟨-, -, heq⟩ | ⟨c, a, -, hc, hnext, heq⟩ :=
    create_cases domain isIPv6 s storage
  · rw [heq]
    refine ⟨fun b hb => ?_, h⟩
    cases hb
    exact h.bound hload
  · rw [heq]
    refine ⟨fun b hb => ?_, h⟩
    cases hb
  · obtain ⟨b, hb, hout, hrange⟩ := h.store.next hc
    obtain rfl : a = some b := hnext.trans hb
    rw [heq]
    refine ⟨fun a ha => ?_, hrange, ?_, ?_⟩
    · cases ha
      exact hout
    · intro domain' isIPv6' a' hbinds
      rw [Store.range_setCurrent]
      obtain ⟨rfl, rfl⟩ | hbef := store_binds (saveAsync_binds hbinds)
      · obtain ⟨p, b', hp, hb', hfam, hin⟩ := hout
        cases hb'
        rw [hfam]
        exact ⟨p, b, hp, rfl, hfam, hin⟩
      · exact h.bound hbef
    · intro m hm
      obtain rfl | hbef := saveAsync_remembers hrange.metadata_valid hm
      · exact hrange.fits
      · exact (h.remembered (store_remembers hbef)).setCurrent isIPv6 (some b)

lemma Healthy.reset (h : Healthy s storage) : Healthy s (reset storage).2 :=
  ⟨h.store, fun hbinds => h.bound (reset_binds hbinds), fun hm => h.remembered (reset_remembers hm)⟩

lemma Healthy.fire (h : Healthy s storage) : Healthy s (saveMetadataFires storage) :=
  ⟨h.store, fun hbinds => h.bound (fires_binds hbinds), fun hm => h.remembered (fires_remembers hm)⟩

lemma Healthy.close (h : Healthy s storage) : Healthy s (close s storage) := by
  refine ⟨h.store, fun hbinds => h.bound (save_binds hbinds), fun hm => ?_⟩
  obtain rfl | hbef := save_remembers h.store.metadata_valid hm
  · exact h.store.fits
  · exact h.remembered hbef

lemma Unused.fire (h : Unused storage) : Unused (saveMetadataFires storage) := by
  refine ⟨fun domain isIPv6 => ?_, fun m hm => h.remembered m (fires_remembers hm)⟩
  cases hload : fakeIPLoadDomain domain isIPv6 (saveMetadataFires storage) with
  | none => rfl
  | some a => exact absurd ((h.bound domain isIPv6).symm.trans (fires_binds hload)) (by simp)

/-! ### Starting -/

def Resumes (storage : σ) (inet4Range inet6Range : Option IPPrefix) : Prop :=
  ∃ m, (fakeIPMetadata (reopen storage)).1 = some m ∧ m.inet4Range = inet4Range ∧
    m.inet6Range = inet6Range

/-- It goes on from the metadata, or resets, or there are no addresses. -/
structure StartOk (storage : σ) (inet4Range inet6Range : Option IPPrefix) : Prop where
  usable4 : ∀ p ∈ inet4Range, Usable false p
  usable6 : ∀ p ∈ inet6Range, Usable true p
  noStale : Resumes storage inet4Range inet6Range ∨
    (fakeIPReset (fakeIPMetadata (reopen storage)).2).1 = .ok () ∨
    ∀ domain isIPv6 a, fakeIPLoadDomain domain isIPv6 storage = some a →
      HandedOut ((newStore inet4Range inet6Range).range isIPv6) isIPv6 a

def StepOk (s : System σ) : Step → Prop
  | .start inet4Range inet6Range => StartOk s.storage inet4Range inet6Range
  | _ => True

def System.InRange (s : System σ) : Prop :=
  match s.store with
  | none => Unused s.storage
  | some store => Healthy store s.storage

lemma currentOf_next {range : Option IPPrefix}
    (h : ∀ p ∈ range, Usable isIPv6 p) : CurrentOf range (range.bind fun p => p.addr.next) := by
  intro c hc
  obtain ⟨p, hp, hnext⟩ := Option.bind_eq_some_iff.1 hc
  refine ⟨p, hp, ?_⟩
  obtain ⟨hfam, hnum⟩ := next_eq_some hnext
  rcases (h p hp).2.2 with hroom | hnone
  · refine ⟨hroom, hfam, by omega, ?_⟩
    unfold HasRoom at hroom
    omega
  · rw [hnone] at hnext
    cases hnext

variable {inet4Range inet6Range : Option IPPrefix}

lemma newStore_inRange
    (h4 : ∀ p ∈ inet4Range, Usable false p) (h6 : ∀ p ∈ inet6Range, Usable true p)
    {inet4Current inet6Current : Option Addr} (hc4 : CurrentOf inet4Range inet4Current)
    (hc6 : CurrentOf inet6Range inet6Current) :
    ({ newStore inet4Range inet6Range with
        inet4Current := inet4Current, inet6Current := inet6Current } : Store).InRange := by
  refine ⟨?_, ?_, ?_⟩
  · rintro (_ | _) <;> rfl
  · rintro (_ | _)
    · exact h4
    · exact h6
  · rintro (_ | _)
    · exact hc4
    · exact hc6

lemma Store.range_congr {s t : Store} (h4 : s.inet4Range = t.inet4Range)
    (h6 : s.inet6Range = t.inet6Range) (isIPv6 : Bool) : s.range isIPv6 = t.range isIPv6 := by
  cases isIPv6
  · exact h4
  · exact h6

lemma resume_healthy {s : System σ} (h : s.InRange) (h4 : ∀ p ∈ inet4Range, Usable false p)
    (h6 : ∀ p ∈ inet6Range, Usable true p)
    (hm : (fakeIPMetadata (reopen s.storage)).1 = some m) (hm4 : m.inet4Range = inet4Range)
    (hm6 : m.inet6Range = inet6Range) :
    Healthy ({ newStore inet4Range inet6Range with
        inet4Current := m.inet4Current, inet6Current := m.inet6Current } : Store)
      (fakeIPMetadata (reopen s.storage)).2 := by
  have hremembered := metadata_remembered hm
  unfold System.InRange at h
  cases hstore : s.store with
  | none =>
    rw [hstore] at h
    exact absurd hremembered (h.remembered m)
  | some old =>
    rw [hstore] at h
    have hfits : old.Fits m := h.remembered hremembered
    have hold4 : old.inet4Range = inet4Range := hfits.inet4Range.symm.trans hm4
    have hold6 : old.inet6Range = inet6Range := hfits.inet6Range.symm.trans hm6
    refine ⟨newStore_inRange h4 h6 (hold4 ▸ hfits.inet4Current) (hold6 ▸ hfits.inet6Current), ?_,
      fun hm' => absurd hm' (taken_forgotten _ _)⟩
    intro domain isIPv6 a hbinds
    have hout := h.bound (taken_binds hbinds)
    rwa [Store.range_congr hold4 hold6 (t := { newStore inet4Range inet6Range with
      inet4Current := m.inet4Current, inet6Current := m.inet6Current })] at hout

lemma start_healthy {s : System σ} (h : s.InRange) (hok : StartOk s.storage inet4Range inet6Range) :
    Healthy (start (newStore inet4Range inet6Range) (reopen s.storage)).1
    (start (newStore inet4Range inet6Range) (reopen s.storage)).2 := by
  obtain ⟨h4, h6, hstale⟩ := hok
  obtain ⟨m, hm, hm4, hm6, heq⟩ | ⟨hoth, heq⟩ :=
    start_cases (newStore inet4Range inet6Range) (reopen s.storage)
  · rw [heq]
    exact resume_healthy h h4 h6 hm hm4 hm6
  · rw [heq]
    have hcur : ∀ (range : Option IPPrefix) (isIPv6 : Bool), (∀ p ∈ range, Usable isIPv6 p) →
        CurrentOf range (if range.isSome then range.bind fun p => p.addr.next else none) := by
      intro range isIPv6 hus
      cases range with
      | none => rintro c ⟨⟩
      | some p => exact currentOf_next hus
    refine ⟨newStore_inRange h4 h6 (hcur inet4Range false h4) (hcur inet6Range true h6),
      ?_, fun hm' => absurd (reset_remembers hm') (taken_forgotten _ _)⟩
    intro domain isIPv6 a hbinds
    have hrange : ∀ (c4 c6 : Option Addr), ({ newStore inet4Range inet6Range with
        inet4Current := c4, inet6Current := c6 } : Store).range isIPv6 =
          (newStore inet4Range inet6Range).range isIPv6 := fun _ _ => rfl
    rcases hstale with ⟨m, hm, hm4, hm6⟩ | hreset | hstored
    · exact absurd ⟨hm4, hm6⟩ (hoth m hm)
    · rw [reset_ok domain isIPv6 hreset] at hbinds
      cases hbinds
    · rw [hrange]
      exact hstored domain isIPv6 a (taken_binds (reset_binds hbinds))

lemma step_inRange (s : System σ) (a : Step) (h : s.InRange) (hok : StepOk s a) :
    (step s a).InRange := by
  cases a with
  | start inet4Range inet6Range => exact start_healthy h hok
  | create domain isIPv6 =>
    obtain ⟨_ | store, storage⟩ := s
    · exact h
    · exact (Healthy.create h domain isIPv6).2
  | reset =>
    obtain ⟨_ | store, storage⟩ := s
    · exact h
    · exact .reset h
  | close =>
    obtain ⟨_ | store, storage⟩ := s
    · exact h
    · exact .close h
  | fire =>
    obtain ⟨_ | store, storage⟩ := s
    · exact .fire h
    · exact .fire h

/-- In every run of such starts, every address from `create` is in the range of its family. -/
theorem create_inHostRange {storage : σ} (hunused : Unused storage) {s : System σ}
    (hrun : Run step StepOk ⟨none, storage⟩ s) {store : Store} (hstore : s.store = some store)
    {domain : String} {isIPv6 : Bool} {address : Option Addr}
    (hcreate : (create domain isIPv6 store s.storage).1 = .ok address) :
    ∃ p a, store.range isIPv6 = some p ∧ address = some a ∧ a.is6 = isIPv6 ∧ InHostRange p a := by
  have hinv : s.InRange := hrun.invariant hunused step_inRange
  unfold System.InRange at hinv
  rw [hstore] at hinv
  exact (hinv.create domain isIPv6).1 address hcreate

end

lemma unused_cacheFile : Unused ({} : CacheFile) := by
  refine ⟨fun domain isIPv6 => ?_, fun m => ?_⟩
  · cases isIPv6 <;> rfl
  · rintro (h | ⟨timer, hmem, -⟩)
    · cases h
    · cases hmem

instance (p : IPPrefix) : Decidable (HasRoom p) :=
  inferInstanceAs (Decidable (p.addr.toNat + 2 < p.broadcastAddress.toNat))

/-! ### The usual ranges -/

def usualInet4Range : IPPrefix := ⟨.v4 0xc6120000#32, 15⟩

def usualInet6Range : IPPrefix := ⟨.v6 0xfc000000000000000000000000000000#128, 18⟩

lemma usable_usualInet4Range : Usable false usualInet4Range := ⟨by decide, rfl, .inl (by decide)⟩

lemma usable_usualInet6Range : Usable true usualInet6Range :=
  ⟨by decide, rfl, .inl (by decide +kernel)⟩

def restartSteps : List Step :=
  [.start (some usualInet4Range) (some usualInet6Range), .create "a" false, .create "a" true, .fire,
    .start (some usualInet4Range) (some usualInet6Range)]

lemma restartSteps_allowed :
    Run.Allowed step StepOk (⟨none, {}⟩ : System CacheFile) restartSteps := by
  have husable4 : ∀ p ∈ some usualInet4Range, Usable false p := by
    rintro p ⟨⟩
    exact usable_usualInet4Range
  have husable6 : ∀ p ∈ some usualInet6Range, Usable true p := by
    rintro p ⟨⟩
    exact usable_usualInet6Range
  refine ⟨⟨husable4, husable6, .inr (.inr ?_)⟩, trivial, trivial, trivial,
    ⟨husable4, husable6, .inl ?_⟩, trivial⟩
  · intro domain isIPv6 a h
    rw [unused_cacheFile.bound] at h
    cases h
  · exact ⟨⟨some usualInet4Range, some usualInet6Range, some (.v4 0xc6120002#32),
      usualInet6Range.addr.next⟩, by decide +kernel, rfl, rfl⟩

def restarted : System CacheFile := restartSteps.foldl step ⟨none, {}⟩

def restartedStore : Store := { newStore (some usualInet4Range) (some usualInet6Range) with
    inet4Current := some (.v4 0xc6120002#32)
    inet6Current := usualInet6Range.addr.next }

theorem create_inHostRange_restarted :
    ∃ p a, restartedStore.range false = some p ∧ some (.v4 0xc6120003#32) = some a ∧
      a.is6 = false ∧ InHostRange p a := by
  have hstore : restarted.store = some restartedStore := by decide +kernel
  have hcr : (create "b" false restartedStore restarted.storage).1 =
      .ok (some (.v4 0xc6120003#32)) := eq_ok_of_toOption (by decide +kernel)
  exact create_inHostRange unused_cacheFile (Run.start.foldl restartSteps_allowed) hstore hcr

def startedInMemory (inet4Range : IPPrefix) : Store × MemoryStorage :=
  start (newStore (some inet4Range) none) {}

instance (p : IPPrefix) (a : Addr) : Decidable (InHostRange p a) :=
  inferInstanceAs (Decidable (_ ∧ _ ∧ _ ∧ _))

/-- The first addresses from `10.0.0.0/31` and `10.0.0.1/30`. -/
theorem create_outside_range : ((create "a" false (startedInMemory ⟨.v4 0x0a000000#32, 31⟩).1
          (startedInMemory ⟨.v4 0x0a000000#32, 31⟩).2).1 = .ok (some (.v4 0x0a000002#32)) ∧
        ¬InHostRange ⟨.v4 0x0a000000#32, 31⟩ (.v4 0x0a000002#32)) ∧
      (create "a" false (startedInMemory ⟨.v4 0x0a000001#32, 30⟩).1
          (startedInMemory ⟨.v4 0x0a000001#32, 30⟩).2).1 = .ok (some (.v4 0x0a000003#32)) ∧
        ¬InHostRange ⟨.v4 0x0a000001#32, 30⟩ (.v4 0x0a000003#32) :=
  ⟨⟨eq_ok_of_toOption (by decide +kernel), by decide⟩, eq_ok_of_toOption (by decide +kernel),
    by decide⟩

end SingBox.FakeIP

import SingBox.FakeIP.Contract
import SingBox.FakeIP.Store

/-!
# Restarts with the cache file

The reset for other ranges is undone if one of three buckets is not there. The timer saves the first
metadata.
-/

namespace SingBox.FakeIP
open FakeIPStorage Option List

/-! ### Other ranges -/

namespace CacheFile

/-- No mapping readable in the first file is in the second. -/
structure NothingRemains (before after : CacheFile) : Prop where
  domain_of_address (address : Option Addr) (domain : String) :
    before.fakeIPLoad address = some domain → after.fakeIPLoad address ≠ some domain
  address_of_domain (domain : String) (isIPv6 : Bool) (address : Option Addr) :
    before.fakeIPLoadDomain domain isIPv6 = some address →
      after.fakeIPLoadDomain domain isIPv6 ≠ some address

def Unreadable (file : CacheFile) : Prop := (∀ address, file.fakeIPLoad address = none) ∧
    ∀ domain isIPv6, file.fakeIPLoadDomain domain isIPv6 = none

def AllBuckets (file : CacheFile) : Prop :=
  file.bucketFakeIP.isSome ∧ file.bucketFakeIPDomain4.isSome ∧ file.bucketFakeIPDomain6.isSome

def TruncatedMetadata (file : CacheFile) : Prop :=
  ∃ data, file.storedMetadata = some data ∧ data ≠ [] ∧ unmarshalBinary data = .error .panic

lemma unreadable_resetDB (file : CacheFile) : file.resetDB.Unreadable :=
  ⟨fun address => by cases address <;> rfl, fun _ _ => file.fakeIPLoadDomain_resetDB⟩

variable {before after file : CacheFile}

lemma Unreadable.nothingRemains (h : after.Unreadable) : NothingRemains before after := by
  refine ⟨fun address domain _ => ?_, fun domain isIPv6 address _ => ?_⟩
  · rw [h.1]
    simp
  · rw [h.2]
    simp

lemma nothingRemains_iff_of_eq
    (hload : ∀ address, after.fakeIPLoad address = before.fakeIPLoad address)
    (hdom : ∀ domain isIPv6,
      after.fakeIPLoadDomain domain isIPv6 = before.fakeIPLoadDomain domain isIPv6) :
    NothingRemains before after ↔ before.Unreadable := by
  constructor
  · rintro ⟨haddr, hname⟩
    refine ⟨fun address => ?_, fun domain isIPv6 => ?_⟩
    · cases hbef : before.fakeIPLoad address with
      | none => rfl
      | some domain =>
        exact absurd ((hload address).trans hbef) (haddr address domain hbef)
    · cases hbef : before.fakeIPLoadDomain domain isIPv6 with
      | none => rfl
      | some address =>
        exact absurd ((hdom domain isIPv6).trans hbef) (hname domain isIPv6 address hbef)
  · rintro ⟨haddr, hname⟩
    refine Unreadable.nothingRemains ⟨fun address => ?_, fun domain isIPv6 => ?_⟩
    · rw [hload, haddr]
    · rw [hdom, hname]

lemma fakeIPMetadata_keeps (h : ¬file.TruncatedMetadata) :
    (file.fakeIPMetadata.2.AllBuckets ↔ file.AllBuckets) ∧
    (∀ address, file.fakeIPMetadata.2.fakeIPLoad address = file.fakeIPLoad address) ∧
    ∀ domain isIPv6, file.fakeIPMetadata.2.fakeIPLoadDomain domain isIPv6 =
    file.fakeIPLoadDomain domain isIPv6 := by
  obtain ⟨m, bucket, -, hbucket, heq⟩ | ⟨-, heq⟩ | ⟨-, htruncated, -⟩ := file.fakeIPMetadata_cases
  · rw [heq]
    refine ⟨?_, fun address => ?_, fun domain isIPv6 => rfl⟩
    · simp [AllBuckets, hbucket]
    · cases address <;> simp [fakeIPLoad, hbucket]
  · rw [heq]
    exact ⟨Iff.rfl, fun _ => rfl, fun _ _ => rfl⟩
  · exact absurd htruncated h

lemma fakeIPMetadata_of_truncated (h : file.TruncatedMetadata) :
    file.fakeIPMetadata.2 = file.resetDB := by
  obtain ⟨data, hstored, hne, hread⟩ := h
  obtain ⟨bucket, hbucket, hdata⟩ := bind_eq_some_iff.1 hstored
  cases data with
  | nil => exact absurd rfl hne
  | cons byte bytes => simp [fakeIPMetadata, batch, hbucket, hdata, hread]

/-- After a start with other ranges, no mapping is readable exactly if all buckets were there, the
metadata was cut off, or nothing was readable. -/
theorem start_nothingRemains_iff (file : CacheFile) (inet4Range inet6Range : Option IPPrefix)
    (hother : ∀ m, file.savedMetadata = some m →
      ¬(m.inet4Range = inet4Range ∧ m.inet6Range = inet6Range)) :
    NothingRemains file (start (newStore inet4Range inet6Range) file).2 ↔
      file.AllBuckets ∨ file.TruncatedMetadata ∨ file.Unreadable := by
  have hreset : (start (newStore inet4Range inet6Range) file).2 =
      file.fakeIPMetadata.2.fakeIPReset.2 := by
    obtain ⟨m, hm, hm4, hm6, -⟩ | ⟨-, heq⟩ := start_cases (newStore inet4Range inet6Range) file
    · have hsaved : file.savedMetadata = some m := file.fakeIPMetadata_fst.symm.trans hm
      exact absurd ⟨hm4, hm6⟩ (hother m hsaved)
    · rw [heq]
      rfl
  rw [hreset]
  by_cases htruncated : file.TruncatedMetadata
  · refine iff_of_true ?_ (.inr (.inl htruncated))
    rw [fakeIPMetadata_of_truncated htruncated]
    exact (unreadable_resetDB file).nothingRemains
  · obtain ⟨hbuckets, hload, hdom⟩ := fakeIPMetadata_keeps htruncated
    obtain ⟨h1, h2, h3, heq⟩ | ⟨hmissing, heq⟩ := file.fakeIPMetadata.2.fakeIPReset_cases
    · refine iff_of_true ?_ (.inl (hbuckets.1 ⟨h1, h2, h3⟩))
      rw [heq]
      exact (unreadable_resetDB _).nothingRemains
    · have hnot : ¬file.AllBuckets := fun hall => hmissing (hbuckets.2 hall)
      rw [heq, nothingRemains_iff_of_eq hload hdom]
      simp [hnot, htruncated]

def usedWithInet4 : CacheFile :=
  ([Step.start (some ⟨.v4 0xc6120000#32, 15⟩) none, .create "a" false, .close].foldl step
    (⟨none, {}⟩ : System CacheFile)).storage

def usedWithBoth : CacheFile := ([Step.start (some ⟨.v4 0xc6120000#32, 15⟩)
      (some ⟨.v6 0xfc000000000000000000000000000000#128, 18⟩),
    .create "a" false, .create "a" true, .close].foldl step (⟨none, {}⟩ : System CacheFile)).storage

theorem start_nothingRemains_both : NothingRemains usedWithBoth
        (start (newStore (some ⟨.v4 0x0a000000#32, 8⟩) none) usedWithBoth).2 ↔
      usedWithBoth.AllBuckets ∨ usedWithBoth.TruncatedMetadata ∨ usedWithBoth.Unreadable := by
  refine start_nothingRemains_iff _ _ _ ?_
  intro m hm hsame
  have hsaved : usedWithBoth.savedMetadata.map FakeIPMetadata.inet4Range =
      some (some ⟨.v4 0xc6120000#32, 15⟩) := by decide +kernel
  rw [hm, map_some, hsame.1] at hsaved
  revert hsaved
  decide

/-- `create` still returns `198.18.0.2`. -/
theorem stale_mapping_remains :
    ((start (newStore (some ⟨.v4 0x0a000000#32, 8⟩) none) usedWithInet4).2.fakeIPLoad
        (some (.v4 0xc6120002#32)) = some "a") ∧
      (start (newStore (some ⟨.v4 0x0a000000#32, 8⟩) none) usedWithInet4).2.fakeIPLoadDomain "a"
        false = some (some (.v4 0xc6120002#32)) ∧
      usedWithInet4.savedMetadata.map FakeIPMetadata.inet4Range =
        some (some ⟨.v4 0xc6120000#32, 15⟩) := by
  decide +kernel

end CacheFile

/-! ### The timer -/

def passedBy (s : System CacheFile) : Step → Option FakeIPMetadata
  | .create domain isIPv6 =>
    s.store.bind fun store =>
      if fakeIPLoadDomain domain isIPv6 s.storage = none ∧ (store.current isIPv6).isSome then
        some (create domain isIPv6 store s.storage).2.1.metadata
      else none
  | _ => none

structure Traced where
  system : System CacheFile
  passed : List FakeIPMetadata

def tracedStep (t : Traced) (a : Step) : Traced :=
  ⟨step t.system a, t.passed ++ (passedBy t.system a).toList⟩

def CreatesAndFires (_ : Traced) : Step → Prop
  | .create _ _ => True
  | .fire => True
  | _ => False

def storeWith (inet4Range inet6Range : Option IPPrefix) (inet4Current inet6Current : Option Addr) :
    Store :=
  { newStore inet4Range inet6Range with
    inet4Current := inet4Current, inet6Current := inet6Current }

/-- Timer and file hold the first metadata, the allocator the last. -/
structure TimerInv (inet4Range inet6Range : Option IPPrefix) (t : Traced) : Prop where
  store : ∃ c4 c6, t.system.store = some (storeWith inet4Range inet6Range c4 c6) ∧
    ∀ m ∈ t.passed.getLast?, m = ⟨inet4Range, inet6Range, c4, c6⟩
  ranges : ∀ m ∈ t.passed, m.inet4Range = inet4Range ∧ m.inet6Range = inet6Range
  timer : t.system.storage.saveMetadataTimer.map MetadataTimer.metadata = t.passed.head?
  fired : ∀ timer ∈ t.system.storage.saveMetadataTimer, timer.armed = false →
    t.system.storage.savedMetadata = some timer.metadata

section
variable {inet4Range inet6Range : Option IPPrefix}

lemma setCurrent_storeWith (c4 c6 a : Option Addr) (isIPv6 : Bool) :
    (storeWith inet4Range inet6Range c4 c6).setCurrent isIPv6 a =
    storeWith inet4Range inet6Range (if isIPv6 then c4 else a) (if isIPv6 then a else c6) := by
  cases isIPv6 <;> rfl

lemma start_timerInv (s : System CacheFile) :
    TimerInv inet4Range inet6Range ⟨step s (.start inet4Range inet6Range), []⟩ := by
  have htimer : (step s (.start inet4Range inet6Range)).storage.saveMetadataTimer = none := by
    have htaken : s.storage.reopen.fakeIPMetadata.2.saveMetadataTimer = none := by
      obtain ⟨m, bucket, -, -, heq⟩ | ⟨-, heq⟩ | ⟨-, -, heq⟩ :=
        s.storage.reopen.fakeIPMetadata_cases
      all_goals
        rw [heq]
        rfl
    obtain ⟨m, -, -, -, heq⟩ | ⟨-, heq⟩ :=
      start_cases (newStore inet4Range inet6Range) s.storage.reopen
    · have hstep : (step s (.start inet4Range inet6Range)).storage =
          s.storage.reopen.fakeIPMetadata.2 := congrArg Prod.snd heq
      rw [hstep, htaken]
    · have hstep : (step s (.start inet4Range inet6Range)).storage =
          s.storage.reopen.fakeIPMetadata.2.fakeIPReset.2 := congrArg Prod.snd heq
      rw [hstep]
      obtain ⟨-, -, -, hreset⟩ | ⟨-, hreset⟩ := s.storage.reopen.fakeIPMetadata.2.fakeIPReset_cases
      · rw [hreset]
        exact htaken
      · rw [hreset]
        exact htaken
  refine ⟨?_, by simp, by rw [htimer]; rfl, by simp [htimer]⟩
  obtain ⟨m, -, -, -, heq⟩ | ⟨-, heq⟩ :=
    start_cases (newStore inet4Range inet6Range) s.storage.reopen
  all_goals exact ⟨_, _, congrArg some (congrArg Prod.fst heq), by simp⟩

variable {m : FakeIPMetadata} {t : Traced}
section
variable (h4 : ∀ p ∈ inet4Range, p.IsValid)
include h4
section
variable (h6 : ∀ p ∈ inet6Range, p.IsValid)
include h6

lemma valid_of_ranges
    (hm4 : m.inet4Range = inet4Range) (hm6 : m.inet6Range = inet6Range) : m.Valid := by
  refine ⟨?_, ?_⟩
  · rw [hm4]
    exact h4
  · rw [hm6]
    exact h6

lemma TimerInv.valid (h : TimerInv inet4Range inet6Range t)
    {timer : MetadataTimer} (htimer : t.system.storage.saveMetadataTimer = some timer) :
    timer.metadata.Valid := by
  have hhead : t.passed.head? = some timer.metadata := by
    rw [← h.timer, htimer, map_some]
  obtain ⟨hm4, hm6⟩ := h.ranges _ (mem_of_head? hhead)
  exact valid_of_ranges h4 h6 hm4 hm6

lemma TimerInv.fire (h : TimerInv inet4Range inet6Range t) :
    TimerInv inet4Range inet6Range (tracedStep t .fire) := by
  have hpassed : (tracedStep t .fire).passed = t.passed := append_nil t.passed
  have hafter : (tracedStep t .fire).system.storage.saveMetadataTimer =
      t.system.storage.saveMetadataTimer.map fun timer => { timer with armed := false } :=
    t.system.storage.saveMetadataTimer_saveMetadataFires
  refine ⟨?_, ?_, ?_, ?_⟩
  · rw [hpassed]
    exact h.store
  · rw [hpassed]
    exact h.ranges
  · rw [hpassed, ← h.timer, hafter, Option.map_map]
    rfl
  · intro timer' htimer' _
    obtain ⟨timer, htimer, rfl⟩ := map_eq_some_iff.1 (hafter.symm.trans htimer')
    have hsaved := CacheFile.savedMetadata_saveMetadataFires htimer (h.valid h4 h6 htimer)
      (h.fired timer htimer)
    exact hsaved

end

end

lemma create_cacheFile (domain : String) (isIPv6 : Bool) (store : Store) (storage : CacheFile) :
    (passedBy ⟨some store, storage⟩ (.create domain isIPv6) = none ∧
        step ⟨some store, storage⟩ (.create domain isIPv6) = ⟨some store, storage⟩) ∨
    ∃ a storage', passedBy ⟨some store, storage⟩ (.create domain isIPv6) =
    some (store.setCurrent isIPv6 a).metadata ∧
    step ⟨some store, storage⟩ (.create domain isIPv6) = ⟨some (store.setCurrent isIPv6 a),
            .fakeIPSaveMetadataAsync (store.setCurrent isIPv6 a).metadata storage'⟩ ∧
    storage'.savedMetadata = storage.savedMetadata ∧
    storage'.saveMetadataTimer = storage.saveMetadataTimer := by
  obtain ⟨a, hload, heq⟩ | ⟨hload, hcur, heq⟩ | ⟨c, a, hload, hcur, -, heq⟩ :=
    create_cases domain isIPv6 store storage
  · refine .inl ⟨?_, ?_⟩
    · simp [passedBy, hload]
    · simp [step, heq]
  · refine .inl ⟨?_, ?_⟩
    · simp [passedBy, hcur]
    · simp [step, heq]
  · refine .inr ⟨a, (storage.fakeIPStore a domain).2, ?_, ?_, storage.fakeIPStore_metadata a domain⟩
    · simp [passedBy, hload, hcur, heq]
    · simp only [step, heq]
      rfl

lemma TimerInv.create (h : TimerInv inet4Range inet6Range t) (domain : String)
    (isIPv6 : Bool) : TimerInv inet4Range inet6Range (tracedStep t (.create domain isIPv6)) := by
  obtain ⟨⟨store, storage⟩, passed⟩ := t
  obtain ⟨⟨c4, c6, rfl, hlast⟩, hranges, htimer, hfired⟩ := h
  obtain ⟨hpassed, hstep⟩ | ⟨a, storage', hpassed, hstep, hsaved, hsame⟩ :=
    create_cacheFile domain isIPv6 (storeWith inet4Range inet6Range c4 c6) storage
  · have heq : tracedStep ⟨⟨some (storeWith inet4Range inet6Range c4 c6), storage⟩, passed⟩
        (.create domain isIPv6) =
          ⟨⟨some (storeWith inet4Range inet6Range c4 c6), storage⟩, passed⟩ := by
      rw [tracedStep, hstep, hpassed, toList_none, append_nil]
    rw [heq]
    exact ⟨⟨c4, c6, rfl, hlast⟩, hranges, htimer, hfired⟩
  · rw [tracedStep, hstep, hpassed, setCurrent_storeWith, toList_some]
    refine ⟨⟨_, _, rfl, ?_⟩, ?_, ?_, ?_⟩
    · intro m hm
      rw [getLast?_concat, mem_some_iff] at hm
      exact hm.symm
    · intro m hm
      rcases mem_append.1 hm with hm | hm
      · exact hranges m hm
      · rw [mem_singleton.1 hm]
        exact ⟨rfl, rfl⟩
    · rw [hsame.symm] at htimer
      cases hown : storage'.saveMetadataTimer with
      | none =>
        -- nothing has been passed so far
        rw [hown, map_none, eq_comm, head?_eq_none_iff] at htimer
        subst htimer
        simp [CacheFile.fakeIPSaveMetadataAsync, hown]
      | some timer =>
        rw [hown, map_some] at htimer
        simp only [CacheFile.fakeIPSaveMetadataAsync, hown, map_some]
        rw [head?_append, ← htimer, some_or]
    · intro timer hmem harmed
      cases hown : storage'.saveMetadataTimer with
      | none | some old =>
        simp only [CacheFile.fakeIPSaveMetadataAsync, hown, mem_some_iff] at hmem
        rw [← hmem] at harmed
        cases harmed

lemma tracedStep_timerInv (h4 : ∀ p ∈ inet4Range, p.IsValid)
    (h6 : ∀ p ∈ inet6Range, p.IsValid) (t : Traced) (a : Step)
    (h : TimerInv inet4Range inet6Range t) (hok : CreatesAndFires t a) :
    TimerInv inet4Range inet6Range (tracedStep t a) := by
  cases a with
  | create domain isIPv6 => exact h.create domain isIPv6
  | fire => exact h.fire h4 h6
  | start inet4Range inet6Range | reset | close => exact hok.elim

lemma TimerInv.savedMetadata_fires (h : TimerInv inet4Range inet6Range t)
    (h4 : ∀ p ∈ inet4Range, p.IsValid) (h6 : ∀ p ∈ inet6Range, p.IsValid)
    {first : FakeIPMetadata} (hfst : t.passed.head? = some first) :
    t.system.storage.saveMetadataFires.savedMetadata = some first := by
  obtain ⟨timer, htimer, rfl⟩ : ∃ timer, t.system.storage.saveMetadataTimer = some timer ∧
      timer.metadata = first := by
    have hmap := h.timer.trans hfst
    simpa using hmap
  exact CacheFile.savedMetadata_saveMetadataFires htimer (h.valid h4 h6 htimer)
    (h.fired timer htimer)

lemma restart_store {storage : CacheFile}
    (hsaved : storage.savedMetadata = some m) (hm4 : m.inet4Range = inet4Range)
    (hm6 : m.inet6Range = inet6Range) (store : Option Store) :
    (step ⟨store, storage⟩ (.start inet4Range inet6Range)).store =
    some (storeWith inet4Range inet6Range m.inet4Current m.inet6Current) := by
  have hread : (fakeIPMetadata (reopen storage)).1 = some m :=
    storage.reopen.fakeIPMetadata_fst.trans hsaved
  obtain ⟨m', hm', -, -, heq⟩ | ⟨hoth, -⟩ :=
    start_cases (newStore inet4Range inet6Range) (reopen storage)
  · obtain rfl : m' = m := Option.some.inj (hm'.symm.trans hread)
    exact congrArg some (congrArg Prod.fst heq)
  · exact absurd ⟨hm4, hm6⟩ (hoth m hread)

/-- Once the timer has fired, the file holds the last metadata exactly if that is the first. -/
theorem savedMetadata_eq_last_iff (h4 : ∀ p ∈ inet4Range, p.IsValid)
    (h6 : ∀ p ∈ inet6Range, p.IsValid) {s : System CacheFile} {t : Traced}
    (hrun : Run tracedStep CreatesAndFires ⟨step s (.start inet4Range inet6Range), []⟩ t)
    {first last : FakeIPMetadata} (hfirst : t.passed.head? = some first)
    (hlast : t.passed.getLast? = some last) :
    (t.system.storage.saveMetadataFires.savedMetadata = some last ↔ first = last) ∧
      ((step (step t.system .fire) (.start inet4Range inet6Range)).store = t.system.store ↔
        first = last) := by
  have hinv : TimerInv inet4Range inet6Range t :=
    hrun.invariant (start_timerInv s) (tracedStep_timerInv h4 h6)
  have hsaved := hinv.savedMetadata_fires h4 h6 hfirst
  obtain ⟨hm4, hm6⟩ := hinv.ranges first (mem_of_head? hfirst)
  obtain ⟨c4, c6, hstore, hmetadata⟩ := hinv.store
  obtain rfl : last = ⟨inet4Range, inet6Range, c4, c6⟩ := hmetadata last hlast
  have hrestart : (step (step t.system .fire) (.start inet4Range inet6Range)).store =
      some (storeWith inet4Range inet6Range first.inet4Current first.inet6Current) :=
    restart_store hsaved hm4 hm6 _
  refine ⟨?_, ?_⟩
  · rw [hsaved, Option.some.injEq]
  · rw [hrestart, hstore, Option.some.injEq]
    constructor
    · intro hsame
      have h4' : first.inet4Current = c4 := congrArg Store.inet4Current hsame
      have h6' : first.inet6Current = c6 := congrArg Store.inet6Current hsame
      obtain ⟨r4, r6, f4, f6⟩ := first
      simp_all
    · rintro rfl
      rfl

end

def startedTraced : Traced := ⟨step ⟨none, {}⟩ (.start (some ⟨.v4 0xc6120000#32, 15⟩) none), []⟩

def metadataAt (current : BitVec 32) : FakeIPMetadata :=
  ⟨some ⟨.v4 0xc6120000#32, 15⟩, none, some (.v4 current), none⟩

/-- There is one address in 10.0.0.0/30, so the second metadata is the first once more. -/
theorem savedMetadata_eq_last_two :
    let range : Option IPPrefix := some ⟨.v4 0x0a000000#32, 30⟩
    let only : FakeIPMetadata := ⟨range, none, some (.v4 0x0a000002#32), none⟩
    let t := [Step.create "a" false, .create "b" false].foldl tracedStep
      ⟨step ⟨none, {}⟩ (.start range none), []⟩
    t.passed = [only, only] ∧ t.system.storage.saveMetadataFires.savedMetadata = some only ∧
      (step (step t.system .fire) (.start range none)).store = t.system.store := by
  intro range only t
  have h4 : ∀ p ∈ range, p.IsValid := by
    intro p hp
    obtain rfl := Option.some.inj hp
    decide
  have h6 : ∀ p ∈ (none : Option IPPrefix), p.IsValid := by
    rintro p ⟨⟩
  have hrun : Run tracedStep CreatesAndFires ⟨step ⟨none, {}⟩ (.start range none), []⟩ t :=
    .foldl .start ⟨trivial, trivial, trivial⟩
  have hpassed : t.passed = [only, only] := by decide +kernel
  obtain ⟨hsaved, hstore⟩ := savedMetadata_eq_last_iff h4 h6 hrun
    (congrArg head? hpassed) (congrArg getLast? hpassed)
  exact ⟨hpassed, hsaved.2 rfl, hstore.2 rfl⟩

def restartedAfterTwo : System CacheFile :=
  [Step.start (some ⟨.v4 0xc6120000#32, 15⟩) none, .create "a" false, .create "b" false, .fire,
    .start (some ⟨.v4 0xc6120000#32, 15⟩) none].foldl step ⟨none, {}⟩

/-- After a restart the address of `b` is handed out again. -/
theorem address_allocated_again : (([Step.create "a" false, .create "b" false].foldl tracedStep
          startedTraced).system.storage.saveMetadataFires.savedMetadata =
        some (metadataAt 0xc6120002#32) ∧
      ([Step.create "a" false, .create "b" false].foldl tracedStep startedTraced).passed.getLast? =
        some (metadataAt 0xc6120003#32)) ∧
      lookup (some (.v4 0xc6120003#32)) restartedAfterTwo.storage = some "b" ∧
        (restartedAfterTwo.store.bind fun store =>
          (create "c" false store restartedAfterTwo.storage).1.toOption) =
            some (some (.v4 0xc6120003#32)) := by
  decide +kernel

end SingBox.FakeIP

import SingBox.CacheFile.Interleaving
import SingBox.Dns.Cache

/-!
# The cache in memory and the cache in the file

The file has no class in its keys, keeps only what can be packed and has whole seconds; the memory
keeps only what is not evicted.
-/

namespace SingBox
open Table

/-! ### The file -/

variable (c : ClientConfig)

def saveCacheKey (transportTag : String) (question : Question) : SaveCacheKey :=
  ⟨transportTag, question.name, question.qtype⟩

def storePersistent (now : ℕ) (transportTag : String) (question : Question) (message : Msg)
    (timeToLive : ℕ) (file : DNSCacheFile) : DNSCacheFile :=
  if timeToLive = 0 then file
  else
    match c.pack message with
    | some packed =>
      saveDNSCacheAsync (saveCacheKey transportTag question) packed (now + timeToLive * second) file
    | none => file

def loadPersistentResponse (now : ℕ) (transportTag : String) (question : Question)
    (file : DNSCacheFile) : Option (Msg × Bool) :=
  match loadDNSCache (saveCacheKey transportTag question) file with
  | none => none
  | some (rawMessage, expireAt) =>
    match c.unpack rawMessage with
    | none => none
    | some response =>
      if c.disableExpire then some (response, false)
      else if expireAt < now then
        if 0 < c.optimisticTimeout ∧ now < expireAt + c.optimisticTimeout then
          some (normalizeTTL response 1, true)
        else none
      else some (normalizeTTL response ((expireAt - now) / second), false)

def aged (now : ℕ) (stored : Msg × ℕ) : Option (Msg × Bool) :=
  if c.disableExpire then some (stored.1, false)
  else if stored.2 < now then
    if 0 < c.optimisticTimeout ∧ now < stored.2 + c.optimisticTimeout then
      some (normalizeTTL stored.1 1, true)
    else none
  else some (normalizeTTL stored.1 ((stored.2 - now) / second), false)

def Dead (now expireAt : ℕ) : Prop := c.disableExpire = false ∧ expireAt < now ∧
    ¬(0 < c.optimisticTimeout ∧ now < expireAt + c.optimisticTimeout)

variable {c} {expireAt : ℕ} {transportTag : String} {question : Question} {file : DNSCacheFile}
  {message : Msg}

lemma Dead.mono {now now' expireAt' : ℕ} (h : Dead c now expireAt)
    (hnow : now ≤ now') (hexpireAt : expireAt' ≤ expireAt) : Dead c now' expireAt' := by
  obtain ⟨hexpire, hlt, hwin⟩ := h
  exact ⟨hexpire, by omega, by omega⟩

lemma Dead.aged_eq_none {now : ℕ} (h : Dead c now expireAt) (message : Msg) :
    aged c now (message, expireAt) = none := by
  obtain ⟨hexpire, hlt, hwin⟩ := h
  simp [aged, hexpire, if_pos hlt, if_neg hwin]

variable {now : ℕ}

lemma loadPersistentResponse_of_loaded {rawMessage : List UInt8}
    (hload : loadDNSCache (saveCacheKey transportTag question) file = some (rawMessage, expireAt))
    (hunpack : c.unpack rawMessage = some message) :
    loadPersistentResponse c now transportTag question file = aged c now (message, expireAt) := by
  simp [loadPersistentResponse, hload, hunpack, aged]

lemma loadPersistentResponse_of_none
    (hload : loadDNSCache (saveCacheKey transportTag question) file = none) :
    loadPersistentResponse c now transportTag question file = none := by
  simp [loadPersistentResponse, hload]

lemma loadResponse_memory (hpers : c.persistent = false) (hcache : c.disableCache = false)
    (now : ℕ) {key : CacheKey} {state : ClientState}
    (hent : state.cache key = some ⟨.message message, expireAt⟩) :
    (loadResponse c now key state).1 = aged c now (message, expireAt) ∧
    ((loadResponse c now key state).2 = state ∨ Dead c now expireAt ∧
          (loadResponse c now key state).2 = { state with cache := state.cache.erase key }) := by
  simp only [loadResponse, hpers, hcache, Bool.and_false, Bool.false_eq_true, if_false,
    hent, ClientConfig.entryMessage, aged]
  by_cases hexpire : c.disableExpire
  · simp [hexpire]
  · simp only [hexpire, Bool.false_eq_true, if_false]
    by_cases hlt : expireAt < now
    · simp only [if_pos hlt]
      by_cases hwin : 0 < c.optimisticTimeout ∧ now < expireAt + c.optimisticTimeout
      · simp [hwin]
      · rw [if_neg hwin, if_neg hwin]
        exact ⟨rfl, .inr ⟨⟨by simpa using hexpire, hlt, hwin⟩, rfl⟩⟩
    · simp [if_neg hlt]

/-! ### Both at once -/

variable (c)

structure Backends where
  memory : ClientState := { cache := empty }
  file : DNSCacheFile := {}
  clock : ℕ := 0

inductive BackendStep where
  | store (now : ℕ) (transportTag : String) (question : Question) (message : Msg) (timeToLive : ℕ)
  /-- An expired response may be removed from the memory by it. -/
  | load (now : ℕ) (transportTag : String) (question : Question)
  | flush (key : SaveCacheKey) (index : ℕ)
  | cleanup (now : ℕ)
  | evict (key : CacheKey)

def backendStep (s : Backends) : BackendStep → Backends
  | .store now transportTag question message timeToLive =>
    { memory := storeCache c now (c.cacheKey transportTag question) message timeToLive s.memory
      file := storePersistent c now transportTag question message timeToLive s.file
      clock := now }
  | .load now transportTag question =>
    { s with
      memory := (loadResponse c now (c.cacheKey transportTag question) s.memory).2
      clock := now }
  | .flush key index => { s with file := flushPendingDNSCache key index true s.file }
  | .cleanup now =>
    { s with
      file := cleanupDNSCache c.disableExpire c.optimisticTimeout now s.file
      clock := now }
  | .evict key => { s with memory := { s.memory with cache := s.memory.cache.erase key } }

/-- Time goes on, responses have the same class, can be packed and are not evicted, and the numbers
fit into 64 bits. -/
def BackendStep.Comparable (transportTag : String) (question : Question) (s : Backends) :
    BackendStep → Prop
  | .store now transportTag' question' message timeToLive =>
    s.clock ≤ now ∧ (saveCacheKey transportTag' question' = saveCacheKey transportTag question →
        question'.qclass = question.qclass ∧ (c.pack message).isSome ∧
          (now + timeToLive * second) / second < 0x10000000000000000 ∧
          ∀ entry, s.file.saveDNSCache (saveCacheKey transportTag question) = some entry →
            entry.sequence + 1 < 0x10000000000000000)
  | .load now _ _ => s.clock ≤ now
  | .flush _ _ => True
  | .cleanup now => s.clock ≤ now
  | .evict key => key ≠ c.cacheKey transportTag question

/-- Equal, or fresh and equal up to times to live that differ by a second. -/
def SameWithinASecond (memory persistent : Option (Msg × Bool)) : Prop :=
  memory = persistent ∨ ∃ message timeToLive timeToLive',
    memory = some (normalizeTTL message timeToLive, false) ∧
      persistent = some (normalizeTTL message timeToLive', false) ∧
      timeToLive' ≤ timeToLive ∧ timeToLive ≤ timeToLive' + 1

def InExpirySecond (now expireAt : ℕ) : Prop := expireAt / second * second < now ∧ now ≤ expireAt ∨
    expireAt / second * second + c.optimisticTimeout ≤ now ∧ now < expireAt + c.optimisticTimeout

/-- Both are for one response, in the file in whole seconds. -/
def Interchangeable (now : ℕ) (memory persistent : Option (Msg × Bool)) : Prop :=
  ∃ stored : Option (Msg × ℕ), memory = stored.bind (aged c now) ∧
      (persistent = stored.bind (aged c now) ∨ persistent = stored.bind fun response =>
          aged c now (response.1, response.2 / second * second)) ∧
      ∀ response, stored = some response → ¬InExpirySecond c now response.2 →
        SameWithinASecond memory persistent

variable {c}

lemma aged_wholeSeconds (message : Msg) (h : ¬InExpirySecond c now expireAt) :
    SameWithinASecond (aged c now (message, expireAt))
    (aged c now (message, expireAt / second * second)) := by
  have hsnd : 0 < second := by decide
  have hle : expireAt / second * second ≤ expireAt := Nat.div_mul_le_self _ _
  unfold InExpirySecond at h
  unfold aged
  by_cases hexpire : c.disableExpire
  · simp only [hexpire, if_true]
    exact .inl rfl
  · simp only [hexpire, Bool.false_eq_true, if_false]
    by_cases hlt : expireAt < now
    · have hlt' : expireAt / second * second < now := by omega
      rw [if_pos hlt, if_pos hlt']
      have hwin : (0 < c.optimisticTimeout ∧ now < expireAt + c.optimisticTimeout) ↔
          0 < c.optimisticTimeout ∧ now < expireAt / second * second + c.optimisticTimeout := by
        omega
      rw [if_congr hwin rfl rfl]
      exact .inl rfl
    · have hge' : ¬expireAt / second * second < now := by omega
      rw [if_neg hlt, if_neg hge']
      refine .inr ⟨message, _, _, rfl, rfl, ?_, ?_⟩
      · exact Nat.div_le_div_right (by omega)
      · have hshort : expireAt - now ≤ expireAt / second * second - now + second := by
          have := Nat.lt_div_mul_add hsnd (a := expireAt)
          omega
        calc (expireAt - now) / second
            ≤ (expireAt / second * second - now + second) / second := Nat.div_le_div_right hshort
          _ = (expireAt / second * second - now) / second + 1 := Nat.add_div_right _ hsnd

/-! ### The invariant -/

section Invariant
variable {transportTag : String} {question : Question}
variable (c transportTag question) in
/-- What the two hold for a question; `last` was stored last. -/
structure BackendsAgree (s : Backends) (last : Option SavedResponse) : Prop where
  phase : InPhase (fun saved => Dead c s.clock saved.reread.2) (saveCacheKey transportTag question)
    (s.file, last)
  clearing : s.file.clearing = 0
  flushers : s.file.saveDNSCache (saveCacheKey transportTag question) = none →
    s.file.flushers (saveCacheKey transportTag question) = []
  missing : last = none → s.memory.cache (c.cacheKey transportTag question) = none
  /-- The memory holds the message until the response is dead. -/
  stored : ∀ saved, last = some saved → saved.2 / second < 0x10000000000000000 ∧
    ∃ message, c.pack message = some saved.1 ∧
      (s.memory.cache (c.cacheKey transportTag question) = some ⟨.message message, saved.2⟩ ∨
        s.memory.cache (c.cacheKey transportTag question) = none ∧ Dead c s.clock saved.2)

lemma BackendsAgree.initial : BackendsAgree c transportTag question {} none where
  phase := .start rfl
  clearing := rfl
  flushers := fun _ => rfl
  missing := fun _ => rfl
  stored := by
    intro saved h
    cases h

lemma reread_eq {saved : SavedResponse} (h : saved.2 / second < 0x10000000000000000) :
    saved.reread = (saved.1, saved.2 / second * second) := by
  simp [SavedResponse.reread, Nat.mod_eq_of_lt h]

variable {last : Option SavedResponse} {s : Backends}
section
variable (h : BackendsAgree c transportTag question s last)
include h

lemma BackendsAgree.advance (hnow : s.clock ≤ now) {memory : ClientState}
    (hmemory : memory.cache (c.cacheKey transportTag question) =
      s.memory.cache (c.cacheKey transportTag question)) :
    BackendsAgree c transportTag question ⟨memory, s.file, now⟩ last where
  phase := h.phase.mono fun _ hdead => hdead.mono hnow (Nat.le_refl _)
  clearing := h.clearing
  flushers := h.flushers
  missing := fun hlast => hmemory.trans (h.missing hlast)
  stored := by
    intro saved hlast
    obtain ⟨hfits, message, hpack, hent⟩ := h.stored saved hlast
    refine ⟨hfits, message, hpack, ?_⟩
    rw [hmemory]
    exact hent.imp_right fun ⟨hnone, hdead⟩ => ⟨hnone, hdead.mono hnow (le_refl _)⟩

lemma BackendsAgree.load (hpers : c.persistent = false) (hcache : c.disableCache = false)
    (hnow : s.clock ≤ now) :
    BackendsAgree c transportTag question
    ⟨(loadResponse c now (c.cacheKey transportTag question) s.memory).2, s.file, now⟩ last := by
  have hkept : BackendsAgree c transportTag question ⟨s.memory, s.file, now⟩ last :=
    h.advance hnow rfl
  cases last with
  | none =>
    have hnone := h.missing rfl
    rw [show (loadResponse c now (c.cacheKey transportTag question) s.memory).2 = s.memory by
      simp [loadResponse, hnone]]
    exact hkept
  | some saved =>
    obtain ⟨hfits, message, hpack, hent | ⟨hnone, _⟩⟩ := h.stored saved rfl
    · obtain ⟨_, hst | ⟨hdead, hst⟩⟩ := loadResponse_memory hpers hcache now hent
      · rw [hst]
        exact hkept
      · rw [hst]
        refine ⟨hkept.phase, hkept.clearing, hkept.flushers, by simp, ?_⟩
        rintro _ ⟨⟩
        exact ⟨hfits, message, hpack, .inr ⟨by simp [erase], hdead⟩⟩
    · rw [show (loadResponse c now (c.cacheKey transportTag question) s.memory).2 = s.memory by
        simp [loadResponse, hnone]]
      exact hkept

lemma BackendsAgree.storeOther (hnow : s.clock ≤ now)
    {transportTag' : String} {question' : Question}
    (hkey : saveCacheKey transportTag' question' ≠ saveCacheKey transportTag question)
    (message : Msg) (timeToLive : ℕ) :
    BackendsAgree c transportTag question
    (backendStep c s (.store now transportTag' question' message timeToLive)) last := by
  have hmemory : (storeCache c now (c.cacheKey transportTag' question') message timeToLive
      s.memory).cache (c.cacheKey transportTag question) =
      s.memory.cache (c.cacheKey transportTag question) := by
    have hne : c.cacheKey transportTag question ≠ c.cacheKey transportTag' question' := by
      intro heq
      simp only [ClientConfig.cacheKey, CacheKey.mk.injEq] at heq
      obtain ⟨htag, hname, htype, _⟩ := heq
      exact hkey (by simp [saveCacheKey, htag, hname, htype])
    unfold storeCache
    split_ifs
    · rfl
    · split
      · exact insert_of_ne _ _ hne
      · rfl
    · rfl
    · exact insert_of_ne _ _ hne
  have hkept := h.advance hnow hmemory
  have hfile : ∀ file, file = storePersistent c now transportTag' question' message timeToLive
      s.file → file.saveDNSCache (saveCacheKey transportTag question) =
        s.file.saveDNSCache (saveCacheKey transportTag question) ∧
      file.flushers (saveCacheKey transportTag question) =
        s.file.flushers (saveCacheKey transportTag question) ∧
      file.clearing = s.file.clearing ∧ file.bucketDNSCache = s.file.bucketDNSCache := by
    rintro _ rfl
    unfold storePersistent
    split_ifs
    · exact ⟨rfl, rfl, rfl, rfl⟩
    · split
      · rename_i packed _
        obtain ⟨hpend, hflush⟩ := saveDNSCacheAsync_of_ne hkey packed
          (now + timeToLive * second) s.file
        exact ⟨hpend, hflush, rfl, rfl⟩
      · exact ⟨rfl, rfl, rfl, rfl⟩
  obtain ⟨hpend, hflush, hclr, hbucket⟩ := hfile _ rfl
  refine ⟨?_, hclr.trans hkept.clearing, ?_, hkept.missing, hkept.stored⟩
  · have hph := hkept.phase
    unfold InPhase at hph ⊢
    simp only [backendStep, hpend, hflush, hclr, hbucket]
    exact hph
  · simp only [backendStep, hpend, hflush]
    exact hkept.flushers

lemma BackendsAgree.storeSame (hpers : c.persistent = false) (hcache : c.disableCache = false)
    (hnow : s.clock ≤ now)
    {packed : List UInt8} (hpack : c.pack message = some packed) {timeToLive : ℕ}
    (htime : timeToLive ≠ 0) (hfits : (now + timeToLive * second) / second < 0x10000000000000000)
    (hseq : ∀ entry, s.file.saveDNSCache (saveCacheKey transportTag question) = some entry →
      entry.sequence + 1 < 0x10000000000000000) :
    BackendsAgree c transportTag question
    (backendStep c s (.store now transportTag question message timeToLive))
    (some (packed, now + timeToLive * second)) := by
  have hkept : BackendsAgree c transportTag question ⟨s.memory, s.file, now⟩ last :=
    h.advance hnow rfl
  have hfile : storePersistent c now transportTag question message timeToLive s.file =
      saveDNSCacheAsync (saveCacheKey transportTag question) packed
        (now + timeToLive * second) s.file := by
    simp [storePersistent, if_neg htime, hpack]
  have hmemory : (storeCache c now (c.cacheKey transportTag question) message timeToLive
      s.memory).cache (c.cacheKey transportTag question) =
      some ⟨.message message, now + timeToLive * second⟩ := by
    simp [storeCache, if_neg htime, hpers, hcache, insert_self]
  refine ⟨?_, ?_, ?_, by simp, ?_⟩
  · simp only [backendStep, hfile]
    exact hkept.phase.save hkept.flushers hseq packed _
  · simp only [backendStep, hfile]
    exact hkept.clearing
  · simp only [backendStep, hfile, saveDNSCacheAsync, insert_self]
    simp
  · rintro _ ⟨⟩
    exact ⟨hfits, message, hpack, .inl hmemory⟩

lemma BackendsAgree.flush (key : SaveCacheKey) (index : ℕ) :
    BackendsAgree c transportTag question (backendStep c s (.flush key index)) last := by
  by_cases hkey : key = saveCacheKey transportTag question
  · subst hkey
    have hsafe : ∀ entry,
        (s.file.flushers (saveCacheKey transportTag question))[index]? = some (.save entry) →
          true ∧ (s.file.clearing = 0 ↔
            (s.file.saveDNSCache (saveCacheKey transportTag question)).isSome) := by
      intro entry hent
      refine ⟨rfl, fun _ => ?_, fun _ => h.clearing⟩
      -- A flusher is running, so its entry is pending.
      by_contra hnone
      rw [h.flushers (by simpa using hnone)] at hent
      simp at hent
    refine ⟨h.phase.flush hsafe, ?_, ?_, h.missing, h.stored⟩
    · simp only [backendStep]
      rw [flushPendingDNSCache_clearing]
      exact h.clearing
    · exact flushers_eq_nil_of_flush h.phase.length_flushers h.flushers
  · obtain ⟨hpend, hflush, hclr, hcontent⟩ := flushPendingDNSCache_of_ne hkey index true s.file
    refine ⟨?_, hclr.trans h.clearing, ?_, h.missing, h.stored⟩
    · have hph := h.phase
      unfold InPhase at hph ⊢
      simp only [backendStep, hpend, hflush, hclr, hcontent]
      exact hph
    · simp only [backendStep, hpend, hflush]
      exact h.flushers

lemma BackendsAgree.cleanup (hnow : s.clock ≤ now) :
    BackendsAgree c transportTag question (backendStep c s (.cleanup now)) last := by
  have hkept : BackendsAgree c transportTag question ⟨s.memory, s.file, now⟩ last :=
    h.advance hnow rfl
  refine ⟨hkept.phase.cleanup ?_, hkept.clearing, hkept.flushers, hkept.missing, hkept.stored⟩
  intro saved _ hexp
  have hread := readDNSCacheContent_dnsCacheContent saved.1 saved.2
  simp only [isExpiredContent, SavedResponse.content, hread, Bool.and_eq_true,
    Bool.not_eq_true', decide_eq_true_eq] at hexp
  obtain ⟨hexpire, hlt⟩ := hexp
  have hlt' : saved.reread.2 + c.optimisticTimeout < now := hlt
  have hdead : Dead c now saved.reread.2 := ⟨hexpire, by omega, by omega⟩
  exact hdead

lemma BackendsAgree.step (hpers : c.persistent = false) (hcache : c.disableCache = false)
    {step : BackendStep}
    (hstep : step.Comparable c transportTag question s) :
    ∃ last', BackendsAgree c transportTag question (backendStep c s step) last' := by
  cases step with
  | store now transportTag' question' message timeToLive =>
    obtain ⟨hnow, hsame⟩ := hstep
    by_cases hkey : saveCacheKey transportTag' question' = saveCacheKey transportTag question
    · obtain ⟨hc, hpack, hfits, hseq⟩ := hsame hkey
      obtain ⟨packed, hpacked⟩ := Option.isSome_iff_exists.1 hpack
      obtain ⟨rfl, rfl⟩ : transportTag' = transportTag ∧ question' = question := by
        simp only [saveCacheKey, SaveCacheKey.mk.injEq] at hkey
        obtain ⟨htag, hname, htype⟩ := hkey
        cases question
        cases question'
        simp_all
      by_cases htime : timeToLive = 0
      · refine ⟨last, ?_⟩
        simp only [backendStep, storeCache, storePersistent, htime, if_true]
        exact h.advance hnow rfl
      · exact ⟨_, h.storeSame hpers hcache hnow hpacked htime hfits hseq⟩
    · exact ⟨last, h.storeOther hnow hkey message timeToLive⟩
  | load now transportTag' question' =>
    by_cases hkey : c.cacheKey transportTag' question' = c.cacheKey transportTag question
    · refine ⟨last, ?_⟩
      simp only [backendStep, hkey]
      exact h.load hpers hcache hstep
    · refine ⟨last, h.advance hstep ?_⟩
      rcases loadResponse_state c now (c.cacheKey transportTag' question') s.memory with
        hst | ⟨_, hst⟩
      · rw [hst]
      · rw [hst]
        simp [erase, Ne.symm hkey]
  | flush key index => exact ⟨last, h.flush key index⟩
  | cleanup now => exact ⟨last, h.cleanup hstep⟩
  | evict key =>
    refine ⟨last, h.advance (le_refl _) ?_⟩
    simp [erase, Ne.symm hstep]

lemma BackendsAgree.interchangeable (hpers : c.persistent = false) (hcache : c.disableCache = false)
    (hcodec : ∀ message packed, c.pack message = some packed → c.unpack packed = some message)
    (hnow : s.clock ≤ now) :
    Interchangeable c now (loadResponse c now (c.cacheKey transportTag question) s.memory).1
    (loadPersistentResponse c now transportTag question s.file) := by
  have hloaded := h.phase.loadDNSCache (.inl h.clearing)
  cases last with
  | none =>
    have hnone : loadDNSCache (saveCacheKey transportTag question) s.file = none := by
      rcases hloaded with hload | hload | ⟨hload, _⟩
      · exact hload
      · exact hload
      · exact hload
    refine ⟨none, loadResponse_of_cache_none c (h.missing rfl),
      .inl (loadPersistentResponse_of_none hnone), ?_⟩
    intro response hresp
    cases hresp
  | some saved =>
    obtain ⟨hfits, message, hpack, hent⟩ := h.stored saved rfl
    have hunpack := hcodec message saved.1 hpack
    have hmemory : (loadResponse c now (c.cacheKey transportTag question) s.memory).1 =
        aged c now (message, saved.2) := by
      rcases hent with hent | ⟨hnone, hdead⟩
      · exact (loadResponse_memory hpers hcache now hent).1
      · rw [loadResponse_of_cache_none c hnone,
          (hdead.mono hnow (le_refl _)).aged_eq_none message]
    have hfile : loadPersistentResponse c now transportTag question s.file =
          aged c now (message, saved.2) ∨
        loadPersistentResponse c now transportTag question s.file =
          aged c now (message, saved.2 / second * second) := by
      rcases hloaded with hload | hload | ⟨hload, _, ⟨⟩, hdead⟩
      · exact .inl (loadPersistentResponse_of_loaded hload hunpack)
      · rw [Option.map_some, reread_eq hfits] at hload
        exact .inr (loadPersistentResponse_of_loaded hload hunpack)
      · rw [reread_eq hfits] at hdead
        right
        rw [loadPersistentResponse_of_none hload,
          (hdead.mono hnow (le_refl _)).aged_eq_none message]
    refine ⟨some (message, saved.2), hmemory, hfile, ?_⟩
    rintro _ ⟨⟩ hsnd
    rcases hfile with hfile | hfile
    · exact .inl (hmemory.trans hfile.symm)
    · rw [hmemory, hfile]
      exact aged_wholeSeconds message hsnd

end

end Invariant

/-- In every run of comparable steps both agree, up to seconds. -/
theorem backends_interchangeable {c : ClientConfig} (hpersistent : c.persistent = false)
    (hcache : c.disableCache = false)
    (hcodec : ∀ message packed, c.pack message = some packed → c.unpack packed = some message)
    {transportTag : String} {question : Question} {s : Backends}
    (hrun : Run (backendStep c) (fun s step => step.Comparable c transportTag question s) {} s)
    {now : ℕ} (hnow : s.clock ≤ now) :
    Interchangeable c now (loadResponse c now (c.cacheKey transportTag question) s.memory).1
      (loadPersistentResponse c now transportTag question s.file) := by
  have hagree : ∃ last, BackendsAgree c transportTag question s last := by
    refine hrun.invariant (I := fun s => ∃ last, BackendsAgree c transportTag question s last)
      ⟨none, .initial⟩ ?_
    rintro s step ⟨last, h⟩ hstep
    exact h.step hpersistent hcache hstep
  obtain ⟨last, hagree⟩ := hagree
  exact hagree.interchangeable hpersistent hcache hcodec hnow

def addressQuestion (qclass : ℕ) : Question := ⟨"a.", dnsTypeA, qclass⟩

def addressResponse (qclass : ℕ) : Msg where
  hdr := { response := true, recursionDesired := true, recursionAvailable := true }
  question := [addressQuestion qclass]
  answer := [⟨⟨"a.", dnsTypeA, qclass, 60⟩, .a [1, 2, 3, 4]⟩]
  ns := []
  extra := []

def addressResponseBytes (qclass : UInt8) : List UInt8 :=
  [0, 0, 0x81, 0x80, 0, 1, 0, 1, 0, 0, 0, 0, 1, 0x61, 0, 0, 1, 0, qclass,
    1, 0x61, 0, 0, 1, 0, qclass, 0, 0, 0, 60, 0, 4, 1, 2, 3, 4]

def addressConfig : ClientConfig where
  pack message := if message = addressResponse dnsClassINET then some (addressResponseBytes 1)
    else if message = addressResponse 3 then some (addressResponseBytes 3)
    else none
  unpack packed := if packed = addressResponseBytes 1 then some (addressResponse dnsClassINET)
    else if packed = addressResponseBytes 3 then some (addressResponse 3)
    else none

lemma addressConfig_codec (message : Msg) (packed : List UInt8)
    (h : addressConfig.pack message = some packed) :
    addressConfig.unpack packed = some message := by
  unfold addressConfig at h ⊢
  dsimp only at h ⊢
  split_ifs at h with hinet hchaos
  · cases h
    rw [hinet, if_pos rfl]
  · cases h
    rw [hchaos, if_neg (by decide), if_pos rfl]

theorem backends_interchangeable_written :
    let key := saveCacheKey "dns" (addressQuestion dnsClassINET)
    let steps : List BackendStep :=
      [.store 500000000 "dns" (addressQuestion dnsClassINET) (addressResponse dnsClassINET) 60,
        .flush key 0, .flush key 0, .flush key 0]
    let s := steps.foldl (backendStep addressConfig) {}
    Interchangeable addressConfig 10500000000 (loadResponse addressConfig 10500000000
        (addressConfig.cacheKey "dns" (addressQuestion dnsClassINET)) s.memory).1
      (loadPersistentResponse addressConfig 10500000000 "dns" (addressQuestion dnsClassINET)
        s.file) := by
  have hallowed : Run.Allowed (backendStep addressConfig)
      (fun s step => step.Comparable addressConfig "dns" (addressQuestion dnsClassINET) s) {}
      [.store 500000000 "dns" (addressQuestion dnsClassINET) (addressResponse dnsClassINET) 60,
        .flush (saveCacheKey "dns" (addressQuestion dnsClassINET)) 0,
        .flush (saveCacheKey "dns" (addressQuestion dnsClassINET)) 0,
        .flush (saveCacheKey "dns" (addressQuestion dnsClassINET)) 0] := by
    refine ⟨⟨by decide, fun _ => ⟨rfl, by decide, by decide, ?_⟩⟩, trivial, trivial, trivial,
      trivial⟩
    intro entry hent
    cases hent
  exact backends_interchangeable rfl rfl addressConfig_codec (Run.start.foldl hallowed) (by decide)

/-- The file answers with the response in the Chaos class. -/
theorem file_ignores_class :
    let s := backendStep addressConfig {}
      (.store 0 "dns" (addressQuestion 3) (addressResponse 3) 60)
    (loadResponse addressConfig 0
        (addressConfig.cacheKey "dns" (addressQuestion dnsClassINET)) s.memory).1 = none ∧
      loadPersistentResponse addressConfig 0 "dns" (addressQuestion dnsClassINET) s.file =
        some (addressResponse 3, false) := by
  decide

end SingBox

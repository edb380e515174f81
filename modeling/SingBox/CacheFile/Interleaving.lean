import SingBox.CacheFile.DNSCache
import SingBox.Lib.Run

/-!
# Interleavings of saving, flushing and clearing

`ClearDNSCache` takes the lock for the map only and deletes the bucket afterwards, so it is two
steps, and so are reading and writing of a flusher. Not safe are a response queued while a flusher
from before a clear is running, and a flusher that writes after the bucket was deleted. Between the
halves of a clear the database is what is loaded: it must not have an older response than the one
that was dropped from the map.

The argument is an invariant of one key: `Phase` says how the pending entry, the flusher and the
database belong together, `Between` what the database may have while a clear is under way.
-/

namespace SingBox
open Option Function DNSCacheFile Table

abbrev SavedResponse := List UInt8 × ℕ

def SavedResponse.content (saved : SavedResponse) : List UInt8 := dnsCacheContent saved.1 saved.2

def SaveDNSCacheEntry.saved (entry : SaveDNSCacheEntry) : SavedResponse :=
  (entry.rawMessage, entry.expireAt)

def lastSaved (key : SaveCacheKey) (last : Option SavedResponse) :
    DNSCacheStep → Option SavedResponse
  | .saveDNSCacheAsync key' rawMessage expireAt =>
    if key' = key then some (rawMessage, expireAt) else last
  | .clearPending => none
  | _ => last

def observedStep (key : SaveCacheKey) (s : DNSCacheFile × Option SavedResponse)
    (step : DNSCacheStep) : DNSCacheFile × Option SavedResponse :=
  (dnsCacheStep s.1 step, lastSaved key s.2 step)

section Phases

/- `gone` are the responses that may have been deleted because they have expired. -/

/-! ### Between a save and the file -/

variable {gone : SavedResponse → Prop} {key : SaveCacheKey}
variable (gone) in
def Written (content : Option (List UInt8)) (last : Option SavedResponse) : Prop :=
  content = last.map SavedResponse.content ∨
    content = none ∧ ∃ saved, last = some saved ∧ gone saved

variable (gone) in
inductive Phase (last : Option SavedResponse) :
    Option SaveDNSCacheEntry → List Flusher → ℕ → Option (List UInt8) → Prop
  /-- Nothing is pending. A flusher may be left from before a clear. -/
  | settled {flushers : List Flusher} {clearing : ℕ} {content : Option (List UInt8)} :
    flushers.length ≤ 1 → (clearing = 0 → Written gone content last) →
      (0 < clearing → last = none) → Phase last none flushers clearing content
  | queued {current : SaveDNSCacheEntry} {clearing : ℕ} {content : Option (List UInt8)} :
    current.saving → last = some current.saved →
      Phase last (some current) [.load] clearing content
  | read {current entry : SaveDNSCacheEntry} {clearing : ℕ} {content : Option (List UInt8)} :
    current.saving → last = some current.saved → entry.sequence ≤ current.sequence →
      (entry.sequence = current.sequence → entry = current) →
      Phase last (some current) [.save entry] clearing content
  /-- The flusher has written its entry, and no clear has come. -/
  | written {current entry : SaveDNSCacheEntry} {content : Option (List UInt8)} :
    current.saving → last = some current.saved → entry.sequence ≤ current.sequence →
      (entry.sequence = current.sequence → entry = current) →
      (entry = current → Written gone content last) →
      Phase last (some current) [.compare entry] 0 content

variable (gone key) in
def InPhase (s : DNSCacheFile × Option SavedResponse) : Prop :=
  Phase gone s.2 (s.1.saveDNSCache key) (s.1.flushers key) s.1.clearing (s.1.bucketDNSCache key)

variable (gone key) in
def DNSCacheStep.Safe (file : DNSCacheFile) : DNSCacheStep → Prop
  | .saveDNSCacheAsync key' _ _ =>
    key' = key →
      (file.saveDNSCache key = none → file.flushers key = []) ∧
        ∀ entry, file.saveDNSCache key = some entry → entry.sequence + 1 < 0x10000000000000000
  | .flush key' index saved =>
    key' = key → ∀ entry, (file.flushers key)[index]? = some (.save entry) →
      saved ∧ (file.clearing = 0 ↔ (file.saveDNSCache key).isSome)
  | .clearPending => True
  | .clearBucket deleted => deleted
  | .cleanup disableExpire optimisticTimeout now =>
    ∀ saved : SavedResponse, file.bucketDNSCache key = some saved.content →
      isExpiredContent disableExpire optimisticTimeout now saved.content → gone saved

lemma sequence_lt_queuedEntry {current : SaveDNSCacheEntry}
    (h : current.sequence + 1 < 0x10000000000000000) (rawMessage : List UInt8) (expireAt : ℕ) :
    current.sequence < (queuedEntry (some current) rawMessage expireAt).sequence := by
  have hmod : (current.sequence + 1) % 0x10000000000000000 = current.sequence + 1 :=
    Nat.mod_eq_of_lt h
  simp only [queuedEntry, map_some, getD_some, hmod]
  omega

variable {flushers : List Flusher}
  {index clearing : ℕ} {last : Option SavedResponse} {content : Option (List UInt8)}
  {key' : SaveCacheKey} {saved : Bool} {keep : List UInt8 → Bool} {gone' : SavedResponse → Prop}

lemma eq_singleton_of_getElem? {flusher : Flusher}
    (hlen : flushers.length ≤ 1) (h : flushers[index]? = some flusher) :
    flushers = [flusher] ∧ index = 0 := by
  match flushers, hlen with
  | [first], _ =>
    match index with
    | 0 => exact ⟨by simpa using h, rfl⟩
    | index + 1 => simp at h

variable {pending : Option SaveDNSCacheEntry}

lemma Phase.save
    (h : Phase gone last pending flushers clearing content) (hfree : pending = none → flushers = [])
    (hseq : ∀ entry, pending = some entry → entry.sequence + 1 < 0x10000000000000000)
    (rawMessage : List UInt8) (expireAt : ℕ) :
    Phase gone (some (rawMessage, expireAt)) (some (queuedEntry pending rawMessage expireAt))
    (if !(pending.map (·.saving)).getD false then .load :: flushers else flushers) clearing
    content := by
  cases h with
  | settled _ _ _ =>
    obtain rfl := hfree rfl
    exact .queued rfl rfl
  | queued hsaving _ =>
    simp only [map_some, getD_some, hsaving]
    exact .queued rfl rfl
  | @read current entry _ _ hsaving _ hle _ =>
    have hlt := sequence_lt_queuedEntry (hseq current rfl) rawMessage expireAt
    simp only [map_some, getD_some, hsaving]
    exact .read rfl rfl (by omega) (fun heq => absurd heq (by omega))
  | @written current entry _ hsaving _ hle _ _ =>
    have hlt := sequence_lt_queuedEntry (hseq current rfl) rawMessage expireAt
    have hne : entry.sequence ≠ (queuedEntry (some current) rawMessage expireAt).sequence := by
      omega
    simp only [map_some, getD_some, hsaving]
    refine .written rfl rfl (by omega) (fun heq => absurd heq hne) ?_
    rintro rfl
    exact absurd rfl hne

lemma flushPendingDNSCache_of_ne (hkey : key' ≠ key) (index : ℕ)
    (saved : Bool) (file : DNSCacheFile) :
    let file' := flushPendingDNSCache key' index saved file
    file'.saveDNSCache key = file.saveDNSCache key ∧ file'.flushers key = file.flushers key ∧
      file'.clearing = file.clearing ∧ file'.bucketDNSCache key = file.bucketDNSCache key := by
  have hne : key ≠ key' := fun h => hkey h.symm
  have hupdate : ∀ flushers : List Flusher,
      update file.flushers key' flushers key = file.flushers key :=
    fun flushers => update_of_ne hne _ _
  unfold flushPendingDNSCache
  dsimp only
  split
  · exact ⟨rfl, rfl, rfl, rfl⟩
  · split
    · exact ⟨rfl, hupdate _, rfl, rfl⟩
    · exact ⟨rfl, hupdate _, rfl, rfl⟩
  · refine ⟨rfl, hupdate _, rfl, ?_⟩
    cases saved
    · rfl
    · exact insert_of_ne _ _ hne
  · split
    · exact ⟨rfl, hupdate _, rfl, rfl⟩
    · split_ifs
      · exact ⟨rfl, hupdate _, rfl, rfl⟩
      · refine ⟨?_, hupdate _, rfl, rfl⟩
        simp [setFlushers, erase, hne]

lemma flushPendingDNSCache_clearing (file : DNSCacheFile) :
    (flushPendingDNSCache key index saved file).clearing = file.clearing := by
  unfold flushPendingDNSCache
  dsimp only
  split
  · rfl
  · split <;> rfl
  · rfl
  · split
    · rfl
    · split_ifs <;> rfl

lemma Phase.length_flushers
    (h : Phase gone last pending flushers clearing content) : flushers.length ≤ 1 := by
  cases h with
  | settled hlen _ _ => exact hlen
  | queued _ _ | read _ _ _ _ | written _ _ _ _ _ => simp

section Flusher
variable {last : Option SavedResponse} {clearing : ℕ} {content : Option (List UInt8)}

lemma Phase.finish {flusher : Flusher} (h : Phase gone last none [flusher] clearing content) :
    Phase gone last none [] clearing content := by
  cases h with
  | settled _ hwr hclr => exact .settled (by simp) hwr hclr

variable {current entry : SaveDNSCacheEntry}

lemma Phase.load (h : Phase gone last (some current) [.load] clearing content) :
    Phase gone last (some current) [.save current] clearing content := by
  cases h with
  | queued hsaving hlast => exact .read hsaving hlast (le_refl _) (fun _ => rfl)

lemma Phase.write (h : Phase gone last pending [.save entry] clearing content)
    (hsafe : clearing = 0 ↔ pending.isSome) :
    Phase gone last pending [.compare entry] clearing
    (some (dnsCacheContent entry.rawMessage entry.expireAt)) := by
  cases h with
  | settled _ _ hcleared =>
    have hclr : clearing ≠ 0 := fun h => by simpa using hsafe.1 h
    exact .settled (by simp) (fun h => absurd h hclr) hcleared
  | read hsaving hlast hle heq =>
    obtain rfl : clearing = 0 := hsafe.2 rfl
    refine .written hsaving hlast hle heq ?_
    rintro rfl
    exact .inl (by rw [hlast]; rfl)

lemma Phase.again (h : Phase gone last (some current) [.compare entry] clearing content) :
    Phase gone last (some current) [.load] clearing content := by
  cases h with
  | written hsaving hlast _ _ _ => exact .queued hsaving hlast

lemma Phase.remove (h : Phase gone last (some current) [.compare entry] clearing content)
    (hseq : current.sequence = entry.sequence) :
    Phase gone last none [] clearing content := by
  cases h with
  | written _ _ _ heq hwr =>
    have hent : entry = current := heq hseq.symm
    exact .settled (by simp) (fun _ => hwr hent) (fun h => absurd h (lt_irrefl 0))

end Flusher

variable {file : DNSCacheFile}

lemma InPhase.flush (h : InPhase gone key (file, last))
    (hsafe : ∀ entry, (file.flushers key)[index]? = some (.save entry) →
      saved ∧ (file.clearing = 0 ↔ (file.saveDNSCache key).isSome)) :
    InPhase gone key (flushPendingDNSCache key index saved file, last) := by
  unfold InPhase at h ⊢
  have hlen : (file.flushers key).length ≤ 1 := h.length_flushers
  unfold flushPendingDNSCache
  dsimp only
  split
  · exact h
  · rename_i hidx
    obtain ⟨hflush, rfl⟩ := eq_singleton_of_getElem? hlen hidx
    split
    · rename_i hpend
      simp only [hflush, hpend] at h
      simpa [setFlushers, hflush, hpend] using h.finish
    · rename_i entry hpend
      simp only [hflush, hpend] at h
      simpa [setFlushers, hflush, hpend] using h.load
  · rename_i entry hidx
    obtain ⟨rfl, hclr⟩ := hsafe entry hidx
    obtain ⟨hflush, rfl⟩ := eq_singleton_of_getElem? hlen hidx
    simp only [hflush] at h
    have hwr := h.write hclr
    simpa [setFlushers, hflush, insert_self] using hwr
  · rename_i entry hidx
    obtain ⟨hflush, rfl⟩ := eq_singleton_of_getElem? hlen hidx
    split
    · rename_i hpend
      simp only [hflush, hpend] at h
      simpa [setFlushers, hflush, hpend] using h.finish
    · rename_i current hpend
      simp only [hflush, hpend] at h
      split_ifs with hseq
      · simpa [setFlushers, hflush, hpend] using h.again
      · have hremoved := h.remove (by simpa using hseq)
        simpa [setFlushers, hflush, erase] using hremoved

lemma InPhase.clearPending
    (h : InPhase gone key (file, last)) : InPhase gone key (clearPendingDNSCache file, none) :=
  .settled h.length_flushers (fun hzero => absurd hzero (Nat.succ_ne_zero _)) (fun _ => rfl)

lemma Phase.clearBucket
    (h : Phase gone last pending flushers clearing content) (hclr : clearing ≠ 0) :
    Phase gone last pending flushers (clearing - 1) none := by
  cases h with
  | settled hlen _ hcleared =>
    obtain rfl := hcleared (pos_of_ne_zero hclr)
    exact .settled hlen (fun _ => .inl rfl) (fun _ => rfl)
  | queued hsaving hlast => exact .queued hsaving hlast
  | read hsaving hlast hle heq => exact .read hsaving hlast hle heq
  -- A flusher that has written before the clear is not the flusher of an entry queued after it.
  | written _ _ _ _ _ => exact absurd rfl hclr

lemma InPhase.clearBucket (h : InPhase gone key (file, last)) :
    InPhase gone key (clearDNSCacheBucket true file, last) := by
  unfold clearDNSCacheBucket
  by_cases hclr : file.clearing = 0
  · rw [if_pos hclr]
    exact h
  · rw [if_neg hclr]
    exact Phase.clearBucket h hclr

lemma Written.filter (h : Written gone content last)
    (hkeep : ∀ saved : SavedResponse, content = some saved.content → keep saved.content = false →
      gone saved) : Written gone (content.filter keep) last := by
  rcases h with rfl | ⟨rfl, hgone⟩
  · cases last with
    | none => exact .inl rfl
    | some saved =>
      by_cases hkept : keep saved.content
      · exact .inl (by simp [Option.filter, hkept])
      · have hgone : gone saved := hkeep saved rfl (by simpa using hkept)
        exact .inr ⟨by simp [Option.filter, hkept], saved, rfl, hgone⟩
  · exact .inr ⟨rfl, hgone⟩

lemma Phase.of_written (hwritten : Written gone content last → Written gone' content' last)
    (h : Phase gone last pending flushers clearing content) :
    Phase gone' last pending flushers clearing content' := by
  cases h with
  | settled hlen hwr hclr => exact .settled hlen (fun hzero => hwritten (hwr hzero)) hclr
  | queued hsaving hlast => exact .queued hsaving hlast
  | read hsaving hlast hle heq => exact .read hsaving hlast hle heq
  | written hsaving hlast hle heq hwr =>
    exact .written hsaving hlast hle heq fun hent => hwritten (hwr hent)

lemma InPhase.cleanup
    (h : InPhase gone key (file, last)) {disableExpire : Bool} {optimisticTimeout now : ℕ}
    (hsafe : ∀ saved : SavedResponse, file.bucketDNSCache key = some saved.content →
      isExpiredContent disableExpire optimisticTimeout now saved.content → gone saved) :
    InPhase gone key (cleanupDNSCache disableExpire optimisticTimeout now file, last) :=
  .of_written (.filter · fun saved hcontent hexp =>
    hsafe saved hcontent (by simpa using hexp)) h

lemma saveDNSCacheAsync_of_ne (hkey : key' ≠ key)
    (rawMessage : List UInt8) (expireAt : ℕ) (file : DNSCacheFile) :
    let file' := saveDNSCacheAsync key' rawMessage expireAt file
    file'.saveDNSCache key = file.saveDNSCache key ∧ file'.flushers key = file.flushers key := by
  have hne : key ≠ key' := fun h => hkey h.symm
  refine ⟨insert_of_ne _ _ hne, ?_⟩
  unfold saveDNSCacheAsync
  dsimp only
  split
  · exact update_of_ne hne _ _
  · rfl

lemma InPhase.save (h : InPhase gone key (file, last))
    (hfree : file.saveDNSCache key = none → file.flushers key = [])
    (hseq : ∀ entry, file.saveDNSCache key = some entry →
      entry.sequence + 1 < 0x10000000000000000) (rawMessage : List UInt8) (expireAt : ℕ) :
    InPhase gone key
    (saveDNSCacheAsync key rawMessage expireAt file, some (rawMessage, expireAt)) := by
  have hsaved := Phase.save h hfree hseq rawMessage expireAt
  unfold InPhase saveDNSCacheAsync
  dsimp only
  rw [insert_self]
  convert hsaved using 1
  split <;> simp

lemma InPhase.step {s : DNSCacheFile × Option SavedResponse} (h : InPhase gone key s)
    {step : DNSCacheStep} (hsafe : step.Safe gone key s.1) :
    InPhase gone key (observedStep key s step) := by
  obtain ⟨file, last⟩ := s
  cases step with
  | saveDNSCacheAsync key' rawMessage expireAt =>
    by_cases hkey : key' = key
    · subst hkey
      obtain ⟨hfree, hseq⟩ := hsafe rfl
      simpa [observedStep, dnsCacheStep, lastSaved] using h.save hfree hseq rawMessage expireAt
    · obtain ⟨hpend, hflush⟩ := saveDNSCacheAsync_of_ne hkey rawMessage expireAt file
      unfold InPhase at h ⊢
      simp only [observedStep, dnsCacheStep, lastSaved, if_neg hkey, hpend, hflush]
      exact h
  | flush key' index saved =>
    by_cases hkey : key' = key
    · subst hkey
      exact h.flush (hsafe rfl)
    · obtain ⟨hpend, hflush, hclr, hcontent⟩ := flushPendingDNSCache_of_ne hkey index saved file
      unfold InPhase at h ⊢
      simp only [observedStep, dnsCacheStep, lastSaved, hpend, hflush, hclr, hcontent]
      exact h
  | clearPending => exact h.clearPending
  | clearBucket deleted =>
    obtain rfl : deleted := hsafe
    exact h.clearBucket
  | cleanup disableExpire optimisticTimeout now => exact h.cleanup hsafe

lemma flushers_eq_nil_of_flush (hlen : (file.flushers key).length ≤ 1)
    (h : file.saveDNSCache key = none → file.flushers key = []) :
    let file' := flushPendingDNSCache key index saved file
    file'.saveDNSCache key = none → file'.flushers key = [] := by
  intro file'
  dsimp only [file']
  unfold flushPendingDNSCache
  dsimp only
  split
  · exact h
  · split
    · rename_i hpend
      intro _
      simp [setFlushers, h hpend]
    · rename_i entry hpend
      intro hnone
      rw [show (file.setFlushers key _).saveDNSCache key = file.saveDNSCache key from rfl,
        hpend] at hnone
      cases hnone
  · rename_i entry hidx
    intro hnone
    have hflush : file.flushers key = [] := h hnone
    simp [hflush] at hidx
  · rename_i entry hidx
    obtain ⟨hflush, rfl⟩ := eq_singleton_of_getElem? hlen hidx
    split
    · rename_i hpend
      intro _
      simp [setFlushers, hflush]
    · rename_i current hpend
      split_ifs with hseq
      · intro hnone
        rw [show (file.setFlushers key _).saveDNSCache key = file.saveDNSCache key from rfl,
          hpend] at hnone
        cases hnone
      · intro _
        simp [setFlushers, hflush]

def SavedResponse.reread (saved : SavedResponse) : SavedResponse :=
  (saved.1, saved.2 / second % 0x10000000000000000 * second)

lemma Phase.loaded (h : Phase gone last pending flushers clearing content)
    (hset : clearing = 0 ∨ last.isSome) :
    let load := (pending.map SaveDNSCacheEntry.saved).or (content.bind readDNSCacheContent)
    load = last ∨ load = last.map SavedResponse.reread ∨
      load = none ∧ ∃ saved, last = some saved ∧ gone saved := by
  cases h with
  | settled _ hwr hcleared =>
    have hzero : clearing = 0 := by
      rcases hset with hzero | hlast
      · exact hzero
      · by_contra hclr
        rw [hcleared (pos_of_ne_zero hclr)] at hlast
        simp at hlast
    rcases hwr hzero with rfl | ⟨rfl, hgone⟩
    · right; left
      cases last with
      | none => rfl
      | some saved => exact readDNSCacheContent_dnsCacheContent saved.1 saved.2
    · exact .inr (.inr ⟨rfl, hgone⟩)
  | queued _ hlast | read _ hlast _ _ | written _ hlast _ _ _ => exact .inl hlast.symm

lemma InPhase.loadDNSCache
    (h : InPhase gone key (file, last)) (hset : file.clearing = 0 ∨ last.isSome) :
    loadDNSCache key file = last ∨ loadDNSCache key file = last.map SavedResponse.reread ∨
    loadDNSCache key file = none ∧ ∃ saved, last = some saved ∧ gone saved := by
  have hload : SingBox.loadDNSCache key file =
      ((file.saveDNSCache key).map SaveDNSCacheEntry.saved).or
        ((file.bucketDNSCache key).bind readDNSCacheContent) := by
    unfold SingBox.loadDNSCache
    cases file.saveDNSCache key <;> rfl
  rw [hload]
  exact Phase.loaded h hset

lemma Written.mono (hgone : ∀ saved, gone saved → gone' saved) (h : Written gone content last) :
    Written gone' content last := by
  rcases h with h | ⟨hnone, saved, hlast, hsaved⟩
  · exact .inl h
  · exact .inr ⟨hnone, saved, hlast, hgone saved hsaved⟩

lemma Phase.mono (hgone : ∀ saved, gone saved → gone' saved) :
    Phase gone last pending flushers clearing content →
    Phase gone' last pending flushers clearing content :=
  .of_written (.mono hgone)

lemma InPhase.start {bucket : Table SaveCacheKey (List UInt8)}
    (h : bucket key = last.map SavedResponse.content) :
    InPhase gone key ({ bucketDNSCache := bucket }, last) :=
  .settled (Nat.zero_le 1) (fun _ => .inl h) (fun hpos => absurd hpos (Nat.lt_irrefl 0))

end Phases

/-! ### Between the halves of a clear -/

section Between
variable {key : SaveCacheKey}

/-- The response saved last since a clear ended: a clear that is under way does not count yet. -/
def lastEnded (key : SaveCacheKey)
    (s : (DNSCacheFile × Option SavedResponse) × Option SavedResponse) :
    DNSCacheStep → Option SavedResponse
  | .saveDNSCacheAsync key' rawMessage expireAt =>
    if key' = key then some (rawMessage, expireAt) else s.2
  | .clearBucket _ => if s.1.1.clearing = 0 then s.2 else s.1.2
  | _ => s.2

/-- A step with both records of what was saved last: since a clear began and since one ended. -/
def recordedStep (key : SaveCacheKey)
    (s : (DNSCacheFile × Option SavedResponse) × Option SavedResponse) (step : DNSCacheStep) :
    (DNSCacheFile × Option SavedResponse) × Option SavedResponse :=
  (observedStep key s.1 step, lastEnded key s step)

variable (key) in
/-- A clear drops a pending entry only if the database has no other response for the key, and a
flusher that writes between its halves writes the response saved last. -/
def DNSCacheStep.Whole (s : (DNSCacheFile × Option SavedResponse) × Option SavedResponse) :
    DNSCacheStep → Prop
  | .clearPending => ∀ entry content, s.1.1.saveDNSCache key = some entry →
      s.1.1.bucketDNSCache key = some content → content = entry.saved.content
  | .flush key' index _ => key' = key → ∀ entry,
      (s.1.1.flushers key)[index]? = some (.save entry) → s.1.1.saveDNSCache key = none →
      s.2 = some entry.saved
  | _ => True

variable (key) in
structure Between (s : (DNSCacheFile × Option SavedResponse) × Option SavedResponse) : Prop where
  phase : InPhase (fun _ => False) key s.1
  ended : (s.1.1.saveDNSCache key).isSome ∨ s.1.1.clearing = 0 → s.2 = s.1.2
  content : s.1.1.saveDNSCache key = none → 0 < s.1.1.clearing →
    s.1.1.bucketDNSCache key = none ∨ s.1.1.bucketDNSCache key = s.2.map SavedResponse.content

variable {file : DNSCacheFile} {last ended : Option SavedResponse} {index : ℕ} {saved : Bool}

/-- A flusher keeps the pending entry and the database, writes its entry, or removes the pending
entry after it has compared. -/
lemma flushPendingDNSCache_cases (key : SaveCacheKey) (index : ℕ) (saved : Bool)
    (file : DNSCacheFile) :
    let file' := flushPendingDNSCache key index saved file
    file'.saveDNSCache key = file.saveDNSCache key ∧
        (file'.bucketDNSCache key = file.bucketDNSCache key ∨
          ∃ entry, (file.flushers key)[index]? = some (.save entry) ∧
            file'.bucketDNSCache key = some entry.saved.content) ∨
      (file.saveDNSCache key).isSome ∧
        ∃ entry, (file.flushers key)[index]? = some (.compare entry) := by
  unfold flushPendingDNSCache
  dsimp only
  split
  · exact .inl ⟨rfl, .inl rfl⟩
  · split
    · exact .inl ⟨rfl, .inl rfl⟩
    · exact .inl ⟨rfl, .inl rfl⟩
  · rename_i entry hidx
    cases saved
    · exact .inl ⟨rfl, .inl rfl⟩
    · exact .inl ⟨rfl, .inr ⟨entry, hidx, insert_self _ _ _⟩⟩
  · rename_i entry hidx
    split
    · exact .inl ⟨rfl, .inl rfl⟩
    · rename_i current hpend
      exact .inr ⟨by simp [hpend], entry, hidx⟩

lemma Phase.clearing_eq_zero {gone : SavedResponse → Prop} {pending : Option SaveDNSCacheEntry}
    {flushers : List Flusher} {clearing : ℕ} {content : Option (List UInt8)}
    {entry : SaveDNSCacheEntry} (h : Phase gone last pending flushers clearing content)
    (hpending : pending.isSome) (hidx : flushers[index]? = some (.compare entry)) :
    clearing = 0 := by
  cases h with
  | settled _ _ _ => cases hpending
  | queued _ _ | read _ _ _ _ => rcases index with _ | index <;> simp at hidx
  | written _ _ _ _ _ => rfl

lemma Phase.last_of_pending {gone : SavedResponse → Prop} {pending : SaveDNSCacheEntry}
    {flushers : List Flusher} {clearing : ℕ} {content : Option (List UInt8)}
    (h : Phase gone last (some pending) flushers clearing content) : last = some pending.saved := by
  cases h with
  | queued _ hlast | read _ hlast _ _ | written _ hlast _ _ _ => exact hlast

lemma Phase.content_of_settled {flushers : List Flusher} {content : Option (List UInt8)}
    (h : Phase (fun _ => False) last none flushers 0 content) :
    content = last.map SavedResponse.content := by
  cases h with
  | settled _ hwritten _ =>
    rcases hwritten rfl with hcontent | ⟨_, _, _, hgone⟩
    · exact hcontent
    · exact hgone.elim

lemma Between.flush (h : Between key ((file, last), ended))
    (hsafe : DNSCacheStep.Safe (fun _ => False) key file (.flush key index saved))
    (hwhole : DNSCacheStep.Whole key ((file, last), ended) (.flush key index saved)) :
    Between key ((flushPendingDNSCache key index saved file, last), ended) := by
  have hphase : InPhase (fun _ => False) key (flushPendingDNSCache key index saved file, last) :=
    h.phase.flush (hsafe rfl)
  have hclearing : (flushPendingDNSCache key index saved file).clearing = file.clearing :=
    flushPendingDNSCache_clearing file
  rcases flushPendingDNSCache_cases key index saved file with
    ⟨hpending, hbucket⟩ | ⟨hpending, entry, hidx⟩
  · refine ⟨hphase, ?_, ?_⟩
    · simpa only [hpending, hclearing] using h.ended
    · intro hnone hpos
      simp only [hpending, hclearing] at hnone hpos
      rcases hbucket with hbucket | ⟨entry, hidx, hbucket⟩
      · simpa only [hbucket] using h.content hnone hpos
      · right
        have hended : ended = some entry.saved := hwhole rfl entry hidx hnone
        simpa [hended] using hbucket
  · have hzero : file.clearing = 0 := h.phase.clearing_eq_zero hpending hidx
    have hended : ended = last := h.ended (.inl hpending)
    refine ⟨hphase, fun _ => hended, fun _ hpos => ?_⟩
    simp only [hclearing, hzero, lt_irrefl] at hpos

lemma Between.clearPending (h : Between key ((file, last), ended))
    (hwhole : DNSCacheStep.Whole key ((file, last), ended) .clearPending) :
    Between key ((clearPendingDNSCache file, none), ended) := by
  refine ⟨h.phase.clearPending, ?_, fun _ _ => ?_⟩
  · rintro (hpending | hzero)
    · cases hpending
    · exact absurd hzero (Nat.succ_ne_zero _)
  · show file.bucketDNSCache key = none ∨ file.bucketDNSCache key = ended.map SavedResponse.content
    cases hpending : file.saveDNSCache key with
    | none =>
      rcases Nat.eq_zero_or_pos file.clearing with hzero | hpos
      · have hphase := h.phase
        unfold InPhase at hphase
        simp only [hpending, hzero] at hphase
        have hended : ended = last := h.ended (.inr hzero)
        exact .inr (hended ▸ hphase.content_of_settled)
      · exact h.content hpending hpos
    | some entry =>
      have hphase := h.phase
      unfold InPhase at hphase
      simp only [hpending] at hphase
      have hended : ended = some entry.saved :=
        (h.ended (.inl (by simp [hpending]))).trans hphase.last_of_pending
      cases hbucket : file.bucketDNSCache key with
      | none => exact .inl rfl
      | some content => simp [hended, hwhole entry content hpending hbucket]

lemma Between.clearBucket (h : Between key ((file, last), ended)) :
    Between key
      ((clearDNSCacheBucket true file, last), if file.clearing = 0 then ended else last) := by
  have hphase := h.phase.clearBucket
  unfold clearDNSCacheBucket at hphase ⊢
  by_cases hzero : file.clearing = 0
  · simpa only [if_pos hzero] using h
  · rw [if_neg hzero] at hphase
    simp only [if_neg hzero]
    exact ⟨hphase, fun _ => rfl, fun _ _ => .inl rfl⟩

lemma Between.save (h : Between key ((file, last), ended)) {rawMessage : List UInt8} {expireAt : ℕ}
    (hsafe : DNSCacheStep.Safe (fun _ => False) key file
      (.saveDNSCacheAsync key rawMessage expireAt)) :
    Between key ((saveDNSCacheAsync key rawMessage expireAt file, some (rawMessage, expireAt)),
      some (rawMessage, expireAt)) := by
  obtain ⟨hfree, hseq⟩ := hsafe rfl
  refine ⟨h.phase.save hfree hseq rawMessage expireAt, fun _ => rfl, fun hnone _ => ?_⟩
  simp [saveDNSCacheAsync, insert_self] at hnone

lemma Between.step {s : (DNSCacheFile × Option SavedResponse) × Option SavedResponse}
    (h : Between key s) {step : DNSCacheStep} (hsafe : step.Safe (fun _ => False) key s.1.1)
    (hwhole : step.Whole key s) : Between key (recordedStep key s step) := by
  obtain ⟨⟨file, last⟩, ended⟩ := s
  have hphase : InPhase (fun _ => False) key (observedStep key (file, last) step) :=
    h.phase.step hsafe
  cases step with
  | saveDNSCacheAsync key' rawMessage expireAt =>
    by_cases hkey : key' = key
    · subst hkey
      simpa [recordedStep, observedStep, dnsCacheStep, lastSaved, lastEnded] using h.save hsafe
    · obtain ⟨hpend, _⟩ := saveDNSCacheAsync_of_ne hkey rawMessage expireAt file
      have hended := h.ended
      have hcontent := h.content
      simp only [← hpend] at hended hcontent
      refine ⟨hphase, ?_, ?_⟩
      · simp only [recordedStep, observedStep, lastSaved, lastEnded, if_neg hkey]
        exact hended
      · simp only [recordedStep, lastEnded, if_neg hkey]
        exact hcontent
  | flush key' index saved =>
    by_cases hkey : key' = key
    · subst hkey
      exact h.flush hsafe hwhole
    · obtain ⟨hpend, _, hclr, hcontent⟩ := flushPendingDNSCache_of_ne hkey index saved file
      refine ⟨hphase, ?_, ?_⟩
      · simpa [recordedStep, observedStep, dnsCacheStep, lastSaved, lastEnded, hpend, hclr]
          using h.ended
      · simpa [recordedStep, observedStep, dnsCacheStep, lastEnded, hpend, hclr, hcontent]
          using h.content
  | clearPending => exact h.clearPending hwhole
  | clearBucket deleted =>
    obtain rfl : deleted := hsafe
    exact h.clearBucket
  | cleanup disableExpire optimisticTimeout now =>
    refine ⟨hphase, h.ended, fun hnone hpos => ?_⟩
    have hkept : ∀ keep, (file.bucketDNSCache key).filter keep = none ∨
        (file.bucketDNSCache key).filter keep = file.bucketDNSCache key := by
      intro keep
      cases file.bucketDNSCache key with
      | none => exact .inl rfl
      | some content => by_cases hkeep : keep content <;> simp [Option.filter, hkeep]
    rcases hkept _ with hkept | hkept
    · exact .inl hkept
    · exact (h.content hnone hpos).imp hkept.trans hkept.trans

lemma Between.loadDNSCache (h : Between key ((file, last), ended)) :
    (loadDNSCache key file).map Prod.fst = last.map Prod.fst ∨
      0 < file.clearing ∧ (loadDNSCache key file).map Prod.fst = ended.map Prod.fst := by
  by_cases hset : file.clearing = 0 ∨ last.isSome
  · left
    rcases h.phase.loadDNSCache hset with hload | hload | ⟨_, _, _, hgone⟩
    · rw [hload]
    · rw [hload, map_map]
      rfl
    · exact hgone.elim
  · obtain ⟨hclr, hlast⟩ := not_or.1 hset
    obtain rfl : last = none := by simpa using hlast
    have hpending : file.saveDNSCache key = none := by
      cases hpending : file.saveDNSCache key with
      | none => rfl
      | some entry =>
        have hphase := h.phase
        unfold InPhase at hphase
        simp only [hpending] at hphase
        cases hphase.last_of_pending
    have hpos : 0 < file.clearing := pos_of_ne_zero hclr
    have hload : SingBox.loadDNSCache key file =
        (file.bucketDNSCache key).bind readDNSCacheContent := by
      simp only [SingBox.loadDNSCache, hpending]
    rw [hload]
    rcases h.content hpending hpos with hbucket | hbucket <;> dsimp only at hbucket <;> rw [hbucket]
    · exact .inl rfl
    · refine .inr ⟨hpos, ?_⟩
      cases ended with
      | none => rfl
      | some saved =>
        simp [SavedResponse.content, readDNSCacheContent_dnsCacheContent]

end Between

/-- In every run of safe steps, the message loaded is at every moment the one saved last since the
last clear. A clear between its two halves counts as begun, or as not yet made. -/
theorem loadDNSCache_eq_lastSaved (key : SaveCacheKey) {bucket : Table SaveCacheKey (List UInt8)}
    {before last ended : Option SavedResponse} {file : DNSCacheFile}
    (hbucket : bucket key = before.map SavedResponse.content)
    (hrun : Run (recordedStep key)
      (fun s step => step.Safe (fun _ => False) key s.1.1 ∧ step.Whole key s)
      (({ bucketDNSCache := bucket }, before), before) ((file, last), ended)) :
    (loadDNSCache key file).map Prod.fst = last.map Prod.fst ∨
      0 < file.clearing ∧ (loadDNSCache key file).map Prod.fst = ended.map Prod.fst := by
  have hstart : Between key (({ bucketDNSCache := bucket }, before), before) :=
    ⟨.start hbucket, fun _ => rfl, fun _ hpos => absurd hpos (Nat.lt_irrefl 0)⟩
  have hbetween : Between key ((file, last), ended) :=
    hrun.invariant hstart fun s step h hstep => h.step hstep.1 hstep.2
  exact hbetween.loadDNSCache

def exampleKey : SaveCacheKey := ⟨"dns", "a.", dnsTypeA⟩

theorem loadDNSCache_eq_lastSaved_written :
    let written : List DNSCacheStep := [.saveDNSCacheAsync exampleKey [1] 60,
      .flush exampleKey 0 true, .flush exampleKey 0 true, .flush exampleKey 0 true]
    let saved := written ++
      [.clearPending, .clearBucket true, .saveDNSCacheAsync exampleKey [2] 60]
    (loadDNSCache exampleKey
      (saved.foldl (recordedStep exampleKey) (({}, none), none)).1.1).map Prod.fst = some [2] := by
  intro written saved
  have hsafe : Run.Allowed (recordedStep exampleKey)
      (fun s step => step.Safe (fun _ => False) exampleKey s.1.1 ∧ step.Whole exampleKey s)
      (({}, none), none) saved := by
    refine ⟨⟨fun _ => ⟨fun _ => rfl, fun entry hent => ?_⟩, trivial⟩,
      ⟨fun _ entry hent => ?_, fun _ entry hent => ?_⟩,
      ⟨fun _ _ _ => ⟨rfl, by decide⟩, fun _ _ _ hnone => ?_⟩,
      ⟨fun _ entry hent => ?_, fun _ entry hent => ?_⟩,
      ⟨trivial, fun entry content hent => ?_⟩, ⟨rfl, trivial⟩,
      ⟨fun _ => ⟨fun _ => by decide, fun entry hent => ?_⟩, trivial⟩, trivial⟩ <;>
      first | cases hent | cases hnone
  rcases loadDNSCache_eq_lastSaved exampleKey rfl (Run.start.foldl hsafe) with hload | ⟨hpos, _⟩
  · exact hload
  · exact absurd hpos (by decide)

def savedAfterClear : DNSCacheFile :=
  [.saveDNSCacheAsync exampleKey [1] 60, .flush exampleKey 0 true, .clearPending,
    .clearBucket true, .saveDNSCacheAsync exampleKey [2] 60].foldl dnsCacheStep {}

/-- The old flusher writes what is from before the clear and removes the new pending entry. -/
theorem cleared_response_reappears :
    let written := [.flush exampleKey 1 true, .flush exampleKey 1 true,
      .flush exampleKey 0 true].foldl dnsCacheStep savedAfterClear
    let cleared : DNSCacheFile := [.saveDNSCacheAsync exampleKey [1] 60, .flush exampleKey 0 true,
      .clearPending, .clearBucket true, .flush exampleKey 0 true].foldl dnsCacheStep {}
    written.flushers exampleKey = [] ∧ written.clearing = 0 ∧
      (loadDNSCache exampleKey savedAfterClear).map Prod.fst = some [2] ∧
      (loadDNSCache exampleKey written).map Prod.fst = some [1] ∧
      cleared.clearing = 0 ∧ (loadDNSCache exampleKey cleared).map Prod.fst = some [1] := by
  decide

end SingBox

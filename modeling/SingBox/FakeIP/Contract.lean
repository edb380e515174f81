import SingBox.FakeIP.Storage

/-!
# What both storages guarantee

A storage returns only addresses that were stored in it, and only metadata that was passed to it.
-/

namespace SingBox.FakeIP
open FakeIPStorage Option Table CacheFile MemoryStorage

lemma eq_ok_of_toOption {ε α : Type} {x : Except ε α} {a : α} (h : x.toOption = some a) :
    x = .ok a := by
  cases x with
  | error e => cases h
  | ok b =>
    cases h
    rfl

/-! ### What a storage is to keep -/

class LawfulFakeIPStorage (σ : Type) [FakeIPStorage σ] where
  /-- Metadata that the storage may return if nothing else is saved. -/
  Remembers : σ → FakeIPMetadata → Prop
  metadata_remembered {s : σ} {m : FakeIPMetadata} :
    (fakeIPMetadata (reopen s)).1 = some m → Remembers s m
  taken_forgotten (s : σ) (m : FakeIPMetadata) : ¬Remembers (fakeIPMetadata (reopen s)).2 m
  taken_binds {s : σ} {domain : String} {isIPv6 : Bool} {a : Option Addr} :
    fakeIPLoadDomain domain isIPv6 (fakeIPMetadata (reopen s)).2 = some a →
      fakeIPLoadDomain domain isIPv6 s = some a
  store_remembers {s : σ} {address : Option Addr} {domain : String} {m : FakeIPMetadata} :
    Remembers (fakeIPStore address domain s).2 m → Remembers s m
  /-- A binding is the one that was stored now, or an older one. -/
  store_binds {s : σ} {address : Addr} {domain domain' : String} {isIPv6 : Bool} {a : Option Addr} :
    fakeIPLoadDomain domain' isIPv6 (fakeIPStore (some address) domain s).2 = some a →
      a = some address ∧ isIPv6 = address.is6 ∨ fakeIPLoadDomain domain' isIPv6 s = some a
  save_remembers {s : σ} {m m' : FakeIPMetadata} :
    m.Valid → Remembers (fakeIPSaveMetadata m s).2 m' → m' = m ∨ Remembers s m'
  save_binds {s : σ} {m : FakeIPMetadata} {domain : String} {isIPv6 : Bool} {a : Option Addr} :
    fakeIPLoadDomain domain isIPv6 (fakeIPSaveMetadata m s).2 = some a →
      fakeIPLoadDomain domain isIPv6 s = some a
  saveAsync_remembers {s : σ} {m m' : FakeIPMetadata} :
    m.Valid → Remembers (fakeIPSaveMetadataAsync m s) m' → m' = m ∨ Remembers s m'
  saveAsync_binds {s : σ} {m : FakeIPMetadata} {domain : String} {isIPv6 : Bool} {a : Option Addr} :
    fakeIPLoadDomain domain isIPv6 (fakeIPSaveMetadataAsync m s) = some a →
      fakeIPLoadDomain domain isIPv6 s = some a
  fires_remembers {s : σ} {m : FakeIPMetadata} : Remembers (saveMetadataFires s) m → Remembers s m
  fires_binds {s : σ} {domain : String} {isIPv6 : Bool} {a : Option Addr} :
    fakeIPLoadDomain domain isIPv6 (saveMetadataFires s) = some a →
      fakeIPLoadDomain domain isIPv6 s = some a
  reset_remembers {s : σ} {m : FakeIPMetadata} : Remembers (fakeIPReset s).2 m → Remembers s m
  reset_binds {s : σ} {domain : String} {isIPv6 : Bool} {a : Option Addr} :
    fakeIPLoadDomain domain isIPv6 (fakeIPReset s).2 = some a →
      fakeIPLoadDomain domain isIPv6 s = some a
  reset_ok {s : σ} (domain : String) (isIPv6 : Bool) :
    (fakeIPReset s).1 = .ok () → fakeIPLoadDomain domain isIPv6 (fakeIPReset s).2 = none

namespace MemoryStorage
variable (s : MemoryStorage) (isIPv6 : Bool)

variable (cache : Table String (Option Addr))

@[simp] lemma domainCache_setDomainCache (isIPv6' : Bool) :
    (s.setDomainCache isIPv6 cache).domainCache isIPv6' =
    if isIPv6' = isIPv6 then cache else s.domainCache isIPv6' := by
  cases isIPv6 <;> cases isIPv6' <;> rfl

@[simp] lemma addressCache_setDomainCache :
    (s.setDomainCache isIPv6 cache).addressCache = s.addressCache := by
  cases isIPv6 <;> rfl

@[simp] lemma storedAsIPv6_some (a : Addr) : storedAsIPv6 (some a) = a.is6 := rfl

variable (address : Option Addr)

def freed : Table String (Option Addr) :=
  s.addressCache.free (s.domainCache (storedAsIPv6 address)) address

variable (domain : String)

lemma addressCache_fakeIPStore :
    (s.fakeIPStore address domain).addressCache = s.addressCache.insert address domain := by
  unfold fakeIPStore
  cases s.addressCache address <;> simp

lemma domainCache_fakeIPStore : (s.fakeIPStore address domain).domainCache isIPv6 =
    if isIPv6 = storedAsIPv6 address then (s.freed address).insert domain address
    else s.domainCache isIPv6 := by
  have hsame : ∀ (t : MemoryStorage) (cache : Table (Option Addr) String) (f : Bool),
      ({ t with addressCache := cache } : MemoryStorage).domainCache f = t.domainCache f :=
    fun _ _ _ => rfl
  unfold fakeIPStore freed Table.free
  cases s.addressCache address with
  | none => simp only [domainCache_setDomainCache, hsame]
  | some oldDomain =>
    simp only [domainCache_setDomainCache, hsame, if_true]
    split <;> rfl

lemma fakeIPStore_binds {s : MemoryStorage} {address : Addr} {domain domain' : String}
    {isIPv6 : Bool} {a : Option Addr}
    (h : (s.fakeIPStore (some address) domain).domainCache isIPv6 domain' = some a) :
    a = some address ∧ isIPv6 = address.is6 ∨ s.domainCache isIPv6 domain' = some a := by
  rw [domainCache_fakeIPStore, storedAsIPv6_some] at h
  split_ifs at h with hfam
  · by_cases hdom : domain' = domain
    · rw [hdom, insert_self, Option.some.injEq] at h
      exact .inl ⟨h.symm, hfam⟩
    · rw [insert_of_ne _ _ hdom] at h
      have hbef := ((free_eq_some_iff _).1 h).2
      rw [storedAsIPv6_some, ← hfam] at hbef
      exact .inr hbef
  · exact .inr h

lemma domainCache_empty : ({} : MemoryStorage).domainCache isIPv6 domain = none := by
  cases isIPv6 <;> rfl

end MemoryStorage

instance : LawfulFakeIPStorage MemoryStorage where
  Remembers _ _ := False
  metadata_remembered h := nomatch h
  taken_forgotten _ _ h := h
  taken_binds h := by
    have hnone := domainCache_empty
    exact absurd (h.symm.trans (hnone _ _)) (by simp)
  store_remembers h := h
  store_binds h := fakeIPStore_binds h
  save_remembers _ h := .inr h
  save_binds h := h
  saveAsync_remembers _ h := .inr h
  saveAsync_binds h := h
  fires_remembers h := h
  fires_binds h := h
  reset_remembers h := h
  reset_binds h := by
    have hnone := domainCache_empty
    exact absurd (h.symm.trans (hnone _ _)) (by simp)
  reset_ok domain isIPv6 _ := domainCache_empty isIPv6 domain

/-! ### The cache file -/

namespace CacheFile

def storedMetadata (file : CacheFile) : Option (List UInt8) :=
  file.bucketFakeIP.bind AddressBucket.metadata

def savedMetadata (file : CacheFile) : Option FakeIPMetadata :=
  file.storedMetadata.bind fun data => (unmarshalBinary data).toOption

variable (file : CacheFile)

lemma fakeIPMetadata_cases :
    (∃ m bucket, file.savedMetadata = some m ∧ file.bucketFakeIP = some bucket ∧
        file.fakeIPMetadata =
          (some m, { file with bucketFakeIP := some { bucket with metadata := none } })) ∨
    (file.savedMetadata = none ∧ file.fakeIPMetadata = (none, file)) ∨
    (file.savedMetadata = none ∧ (∃ data, file.storedMetadata = some data ∧ data ≠ [] ∧
          unmarshalBinary data = .error .panic) ∧
        file.fakeIPMetadata = (none, file.resetDB)) := by
  cases hbucket : file.bucketFakeIP with
  | none =>
    refine .inr (.inl ⟨?_, ?_⟩)
    · simp [savedMetadata, storedMetadata, hbucket]
    · simp [fakeIPMetadata, batch, hbucket, Except.toOption]
  | some bucket =>
    have hstored : file.storedMetadata = bucket.metadata := by simp [storedMetadata, hbucket]
    match hdata : bucket.metadata with
    | none =>
      refine .inr (.inl ⟨?_, ?_⟩)
      · simp [savedMetadata, hstored, hdata]
      · simp [fakeIPMetadata, batch, hbucket, hdata, Except.toOption]
    | some [] =>
      refine .inr (.inl ⟨?_, ?_⟩)
      · simp [savedMetadata, hstored, hdata]
        rfl
      · simp [fakeIPMetadata, batch, hbucket, hdata, Except.toOption]
    | some (byte :: bytes) =>
      match hread : unmarshalBinary (byte :: bytes) with
      | .ok m =>
        refine .inl ⟨m, bucket, ?_, rfl, ?_⟩
        · simp [savedMetadata, hstored, hdata, hread, Except.toOption]
        · simp [fakeIPMetadata, batch, hbucket, hdata, hread, Except.toOption]
      | .error .error =>
        refine .inr (.inl ⟨?_, ?_⟩)
        · simp [savedMetadata, hstored, hdata, hread, Except.toOption]
        · simp [fakeIPMetadata, batch, hbucket, hdata, hread, Except.toOption]
      | .error .panic =>
        refine .inr (.inr ⟨?_, ⟨byte :: bytes, ?_, by simp, hread⟩, ?_⟩)
        · simp [savedMetadata, hstored, hdata, hread, Except.toOption]
        · rw [hstored, hdata]
        · simp [fakeIPMetadata, batch, hbucket, hdata, hread, Except.toOption]

lemma fakeIPReset_cases :
    (file.bucketFakeIP.isSome ∧ file.bucketFakeIPDomain4.isSome ∧ file.bucketFakeIPDomain6.isSome ∧
        file.fakeIPReset = (.ok (), file.resetDB)) ∨
    (¬(file.bucketFakeIP.isSome ∧ file.bucketFakeIPDomain4.isSome ∧
          file.bucketFakeIPDomain6.isSome) ∧
        file.fakeIPReset = (.error .bucketNotFound, file)) := by
  obtain ⟨address, domain4, domain6, timer⟩ := file
  cases address with
  | none => exact .inr ⟨by simp, rfl⟩
  | some address =>
    cases domain4 with
    | none => exact .inr ⟨by simp, rfl⟩
    | some domain4 =>
      cases domain6 with
      | none => exact .inr ⟨by simp, rfl⟩
      | some domain6 => exact .inl ⟨rfl, rfl, rfl, rfl⟩

lemma fakeIPSaveMetadata_eq (m : FakeIPMetadata) :
    file.fakeIPSaveMetadata m = (.ok (), { file with
      bucketFakeIP :=
        some { file.bucketFakeIP.getD {} with metadata := some (marshalBinary m) } }) := rfl

variable {m : FakeIPMetadata}

lemma savedMetadata_fakeIPSaveMetadata (h : m.Valid) (file : CacheFile) :
    (file.fakeIPSaveMetadata m).2.savedMetadata = some m := by
  simp [fakeIPSaveMetadata_eq, savedMetadata, storedMetadata, unmarshalBinary_marshalBinary h,
    Except.toOption]

variable {file' : CacheFile} {isIPv6 : Bool} {domain : String} {a : Option Addr} {address : Addr}
  {m' : FakeIPMetadata}

lemma fakeIPLoadDomain_congr {file : CacheFile}
    (h : file'.domainBucket isIPv6 = file.domainBucket isIPv6) (domain : String) :
    file'.fakeIPLoadDomain domain isIPv6 = file.fakeIPLoadDomain domain isIPv6 := by
  rw [fakeIPLoadDomain, fakeIPLoadDomain, h]

lemma fakeIPLoadDomain_resetDB : file.resetDB.fakeIPLoadDomain domain isIPv6 = none := by
  cases isIPv6 <;> rfl

lemma fakeIPLoadDomain_fakeIPMetadata
    (h : file.fakeIPMetadata.2.fakeIPLoadDomain domain isIPv6 = some a) :
    file.fakeIPLoadDomain domain isIPv6 = some a := by
  obtain ⟨m, bucket, -, -, heq⟩ | ⟨-, heq⟩ | ⟨-, -, heq⟩ := file.fakeIPMetadata_cases
  · rw [heq] at h
    exact h
  · rw [heq] at h
    exact h
  · rw [heq, fakeIPLoadDomain_resetDB] at h
    cases h

variable (bucket : Table String Addr)

@[simp] lemma domainBucket_setDomainBucket (isIPv6 isIPv6' : Bool) :
    (file.setDomainBucket isIPv6 bucket).domainBucket isIPv6' =
    if isIPv6' = isIPv6 then some bucket else file.domainBucket isIPv6' := by
  cases isIPv6 <;> cases isIPv6' <;> rfl

@[simp] lemma bucketFakeIP_setDomainBucket :
    (file.setDomainBucket isIPv6 bucket).bucketFakeIP = file.bucketFakeIP := by
  cases isIPv6 <;> rfl

@[simp] lemma saveMetadataTimer_setDomainBucket :
    (file.setDomainBucket isIPv6 bucket).saveMetadataTimer = file.saveMetadataTimer := by
  cases isIPv6 <;> rfl

def freed (file : CacheFile) (address : Addr) : Table String Addr :=
  (file.bucketFakeIP.getD {}).domains.free ((file.domainBucket address.is6).getD .empty) address

lemma fakeIPStore_cases (address : Addr) (domain : String) :
    (domain = "" ∧ file.fakeIPStore (some address) domain = (.error .keyRequired, file)) ∨
      (domain ≠ "" ∧ file.fakeIPStore (some address) domain = (.ok (), ({ file with
            bucketFakeIP := some { file.bucketFakeIP.getD {} with
              domains := (file.bucketFakeIP.getD {}).domains.insert address domain } } :
            CacheFile).setDomainBucket address.is6
              ((file.freed address).insert domain address))) := by
  have hsame : ∀ (bucket : Option AddressBucket) (f : Bool),
      ({ file with bucketFakeIP := bucket } : CacheFile).domainBucket f = file.domainBucket f :=
    fun _ _ => rfl
  by_cases hdom : domain = ""
  · refine .inl ⟨hdom, ?_⟩
    simp [fakeIPStore, batch, hdom]
  · refine .inr ⟨hdom, ?_⟩
    simp only [fakeIPStore, batch, hdom, if_false, freed, Table.free, hsame]
    cases (file.bucketFakeIP.getD {}).domains address <;> rfl

variable {file : CacheFile}

lemma freed_binds {a : Addr} (h : file.freed address domain = some a) :
    ∃ bucket, file.domainBucket address.is6 = some bucket ∧ bucket domain = some a := by
  have hbef : (file.domainBucket address.is6).getD .empty domain = some a :=
    ((free_eq_some_iff _).1 h).2
  cases hbucket : file.domainBucket address.is6 with
  | none =>
    rw [hbucket] at hbef
    cases hbef
  | some bucket =>
    rw [hbucket] at hbef
    exact ⟨bucket, rfl, hbef⟩

lemma fakeIPStore_binds {domain' : String}
    (h : (file.fakeIPStore (some address) domain).2.fakeIPLoadDomain domain' isIPv6 = some a) :
    a = some address ∧ isIPv6 = address.is6 ∨ file.fakeIPLoadDomain domain' isIPv6 = some a := by
  obtain ⟨-, heq⟩ | ⟨-, heq⟩ := file.fakeIPStore_cases address domain
  · rw [heq] at h
    exact .inr h
  · rw [heq, fakeIPLoadDomain, domainBucket_setDomainBucket] at h
    split_ifs at h with hfam
    · subst hfam
      by_cases hdom : domain' = domain
      · rw [hdom, bind_some, insert_self] at h
        exact .inl ⟨(Option.some.inj h).symm, rfl⟩
      · rw [bind_some, insert_of_ne _ _ hdom] at h
        obtain ⟨b, hb, rfl⟩ := map_eq_some_iff.1 h
        obtain ⟨bucket, hbucket, hbind⟩ := freed_binds hb
        refine .inr ?_
        rw [fakeIPLoadDomain, hbucket, bind_some, hbind, map_some]
    · exact .inr h

lemma fakeIPStore_metadata (address : Option Addr) (domain : String) :
    (file.fakeIPStore address domain).2.savedMetadata = file.savedMetadata ∧
    (file.fakeIPStore address domain).2.saveMetadataTimer = file.saveMetadataTimer := by
  cases address with
  | none => exact ⟨rfl, rfl⟩
  | some address =>
    obtain ⟨-, heq⟩ | ⟨-, heq⟩ := file.fakeIPStore_cases address domain
    · rw [heq]
      exact ⟨rfl, rfl⟩
    · rw [heq]
      refine ⟨?_, by simp⟩
      rw [savedMetadata, savedMetadata, storedMetadata, storedMetadata,
        bucketFakeIP_setDomainBucket]
      cases file.bucketFakeIP <;> rfl

/-- Metadata in the file, or that its timer was created with. -/
def Remembers (file : CacheFile) (m : FakeIPMetadata) : Prop := file.savedMetadata = some m ∨
    ∃ timer ∈ file.saveMetadataTimer, unmarshalBinary (marshalBinary timer.metadata) = .ok m

lemma Remembers.of_eq (h : file'.Remembers m) (hsaved : file'.savedMetadata = file.savedMetadata)
    (htimer : file'.saveMetadataTimer = file.saveMetadataTimer) : file.Remembers m := by
  rwa [Remembers, hsaved, htimer] at h

lemma not_remembers_resetDB (htimer : file.saveMetadataTimer = none)
    (m : FakeIPMetadata) : ¬file.resetDB.Remembers m := by
  rintro (h | ⟨timer, hmem, -⟩)
  · cases h
  · rw [resetDB, htimer] at hmem
    cases hmem

lemma not_remembers_taken (htimer : file.saveMetadataTimer = none)
    (m : FakeIPMetadata) : ¬file.fakeIPMetadata.2.Remembers m := by
  obtain ⟨m', bucket, -, -, heq⟩ | ⟨hsaved, heq⟩ | ⟨-, -, heq⟩ := file.fakeIPMetadata_cases
  · rw [heq]
    rintro (h | ⟨timer, hmem, -⟩)
    · cases h
    · rw [htimer] at hmem
      cases hmem
  · rw [heq]
    rintro (h | ⟨timer, hmem, -⟩)
    · rw [hsaved] at h
      cases h
    · rw [htimer] at hmem
      cases hmem
  · rw [heq]
    exact not_remembers_resetDB htimer m

lemma fakeIPMetadata_fst : file.fakeIPMetadata.1 = file.savedMetadata := by
  obtain ⟨m, bucket, hsaved, -, heq⟩ | ⟨hsaved, heq⟩ | ⟨hsaved, -, heq⟩ := file.fakeIPMetadata_cases
  all_goals rw [heq, hsaved]

lemma savedMetadata_save (m : FakeIPMetadata) (file : CacheFile) :
    (file.fakeIPSaveMetadata m).2.savedMetadata =
    (unmarshalBinary (marshalBinary m)).toOption := rfl

lemma save_remembers (hvalid : m.Valid)
    (h : (file.fakeIPSaveMetadata m).2.Remembers m') : m' = m ∨ file.Remembers m' := by
  rcases h with h | h
  · rw [savedMetadata_fakeIPSaveMetadata hvalid] at h
    exact .inl (Option.some.inj h).symm
  · exact .inr (.inr h)

lemma saveAsync_remembers (hvalid : m.Valid)
    (h : (file.fakeIPSaveMetadataAsync m).Remembers m') : m' = m ∨ file.Remembers m' := by
  rcases h with h | ⟨timer, hmem, hread⟩
  · exact .inr (.inl h)
  · cases htimer : file.saveMetadataTimer with
    | none =>
      simp only [fakeIPSaveMetadataAsync, htimer, mem_some_iff] at hmem
      rw [← hmem, unmarshalBinary_marshalBinary hvalid] at hread
      exact .inl (Except.ok.inj hread).symm
    | some old =>
      -- the old timer is started again, with the metadata it was created with
      simp only [fakeIPSaveMetadataAsync, htimer, mem_some_iff] at hmem
      rw [← hmem] at hread
      exact .inr (.inr ⟨old, htimer, hread⟩)

lemma fires_remembers (h : file.saveMetadataFires.Remembers m) : file.Remembers m := by
  cases htimer : file.saveMetadataTimer with
  | none => simpa [saveMetadataFires, htimer] using h
  | some timer =>
    simp only [saveMetadataFires, htimer] at h
    split_ifs at h with harmed
    · rcases h with h | ⟨timer', hmem, hread⟩
      · have hread := eq_ok_of_toOption ((savedMetadata_save timer.metadata file).symm.trans h)
        exact .inr ⟨timer, htimer, hread⟩
      · rw [mem_some_iff] at hmem
        rw [← hmem] at hread
        exact .inr ⟨timer, htimer, hread⟩
    · exact h

lemma saveMetadataTimer_saveMetadataFires :
    file.saveMetadataFires.saveMetadataTimer =
    file.saveMetadataTimer.map fun timer => { timer with armed := false } := by
  cases htimer : file.saveMetadataTimer with
  | none => simp only [saveMetadataFires, htimer, map_none]
  | some timer =>
    simp only [saveMetadataFires, htimer, map_some]
    split_ifs with harmed
    · rfl
    · have hfalse : timer.armed = false := by simpa using harmed
      rw [htimer, ← hfalse]

lemma savedMetadata_saveMetadataFires {timer : MetadataTimer}
    (htimer : file.saveMetadataTimer = some timer) (hvalid : timer.metadata.Valid)
    (hfired : timer.armed = false → file.savedMetadata = some timer.metadata) :
    file.saveMetadataFires.savedMetadata = some timer.metadata := by
  simp only [saveMetadataFires, htimer]
  split_ifs with harmed
  · exact savedMetadata_fakeIPSaveMetadata hvalid file
  · exact hfired (by simpa using harmed)

lemma domainBucket_saveMetadataFires (isIPv6 : Bool) :
    file.saveMetadataFires.domainBucket isIPv6 = file.domainBucket isIPv6 := by
  unfold saveMetadataFires
  cases file.saveMetadataTimer with
  | none => rfl
  | some timer =>
    dsimp only
    split_ifs <;> rfl

lemma reset_remembers (h : file.fakeIPReset.2.Remembers m) : file.Remembers m := by
  obtain ⟨-, -, -, heq⟩ | ⟨-, heq⟩ := file.fakeIPReset_cases
  · rw [heq] at h
    rcases h with h | h
    · cases h
    · exact .inr h
  · rw [heq] at h
    exact h

lemma reset_binds (h : file.fakeIPReset.2.fakeIPLoadDomain domain isIPv6 = some a) :
    file.fakeIPLoadDomain domain isIPv6 = some a := by
  obtain ⟨-, -, -, heq⟩ | ⟨-, heq⟩ := file.fakeIPReset_cases
  · rw [heq, fakeIPLoadDomain_resetDB] at h
    cases h
  · rw [heq] at h
    exact h

lemma reset_ok (domain : String) (isIPv6 : Bool) (h : file.fakeIPReset.1 = .ok ()) :
    file.fakeIPReset.2.fakeIPLoadDomain domain isIPv6 = none := by
  obtain ⟨-, -, -, heq⟩ | ⟨-, heq⟩ := file.fakeIPReset_cases
  · rw [heq, fakeIPLoadDomain_resetDB]
  · rw [heq] at h
    cases h

end CacheFile

instance : LawfulFakeIPStorage CacheFile where
  Remembers := CacheFile.Remembers
  metadata_remembered {s _} h := .inl (s.reopen.fakeIPMetadata_fst.symm.trans h)
  taken_forgotten _ m := not_remembers_taken rfl m
  taken_binds {s _ _ _} h := s.reopen.fakeIPLoadDomain_fakeIPMetadata h
  store_remembers {s address domain _} h := .of_eq h (s.fakeIPStore_metadata address domain).1
      (s.fakeIPStore_metadata address domain).2
  store_binds h := fakeIPStore_binds h
  save_remembers hvalid h := save_remembers hvalid h
  save_binds h := h
  saveAsync_remembers hvalid h := saveAsync_remembers hvalid h
  saveAsync_binds h := h
  fires_remembers h := fires_remembers h
  fires_binds {s domain isIPv6 _} h :=
    (fakeIPLoadDomain_congr (s.domainBucket_saveMetadataFires isIPv6) domain).symm.trans h
  reset_remembers h := reset_remembers h
  reset_binds h := reset_binds h
  reset_ok domain isIPv6 h := reset_ok domain isIPv6 h

end SingBox.FakeIP

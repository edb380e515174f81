import SingBox.FakeIP.Metadata
import SingBox.Lib.Table

/-!
# The storages of fake addresses

In memory or in buckets of the cache file. An invalid address is `none`. The saves of
`FakeIPStoreAsync`, which the allocator does not use, are left out.
-/

namespace SingBox.FakeIP

inductive StorageError where
  | bucketNotFound
  | keyRequired
  | notExist
  | invalid
  | unmarshal
  | databaseCorrupted
deriving DecidableEq

/-- `fakeIPLoadDomain` may return an address that is not valid. -/
class FakeIPStorage (σ : Type) where
  fakeIPMetadata : σ → Option FakeIPMetadata × σ
  fakeIPSaveMetadata : FakeIPMetadata → σ → Except StorageError Unit × σ
  fakeIPSaveMetadataAsync : FakeIPMetadata → σ → σ
  fakeIPStore : Option Addr → String → σ → Except StorageError Unit × σ
  fakeIPLoad : Option Addr → σ → Option String
  fakeIPLoadDomain : String → Bool → σ → Option (Option Addr)
  fakeIPReset : σ → Except StorageError Unit × σ
  saveMetadataFires : σ → σ
  reopen : σ → σ

structure MemoryStorage where
  addressCache : Table (Option Addr) String := .empty
  domainCache4 : Table String (Option Addr) := .empty
  domainCache6 : Table String (Option Addr) := .empty

namespace MemoryStorage
variable (s : MemoryStorage) (isIPv6 : Bool)

def domainCache : Table String (Option Addr) := if isIPv6 then s.domainCache6 else s.domainCache4

def setDomainCache (cache : Table String (Option Addr)) : MemoryStorage :=
  if isIPv6 then { s with domainCache6 := cache } else { s with domainCache4 := cache }

variable (address : Option Addr)

def storedAsIPv6 : Bool := !address.any Addr.is4

def fakeIPStore (domain : String) (s : MemoryStorage) : MemoryStorage :=
  let isIPv6 := storedAsIPv6 address
  let s := match s.addressCache address with
    | some oldDomain => s.setDomainCache isIPv6 ((s.domainCache isIPv6).erase oldDomain)
    | none => s
  let s := { s with addressCache := s.addressCache.insert address domain }
  s.setDomainCache isIPv6 ((s.domainCache isIPv6).insert domain address)

end MemoryStorage

instance : FakeIPStorage MemoryStorage where
  fakeIPMetadata s := (none, s)
  fakeIPSaveMetadata _ s := (.ok (), s)
  fakeIPSaveMetadataAsync _ s := s
  fakeIPStore address domain s := (.ok (), s.fakeIPStore address domain)
  fakeIPLoad address s := s.addressCache address
  fakeIPLoadDomain domain isIPv6 s := s.domainCache isIPv6 domain
  fakeIPReset _ := (.ok (), {})
  saveMetadataFires s := s
  reopen _ := {}

/-- The bucket of the addresses, and the metadata as written. -/
structure AddressBucket where
  domains : Table Addr String := .empty
  metadata : Option (List UInt8) := none

structure MetadataTimer where
  metadata : FakeIPMetadata
  armed : Bool
deriving DecidableEq

structure CacheFile where
  bucketFakeIP : Option AddressBucket := none
  bucketFakeIPDomain4 : Option (Table String Addr) := none
  bucketFakeIPDomain6 : Option (Table String Addr) := none
  saveMetadataTimer : Option MetadataTimer := none

inductive TxFault where
  | error (error : StorageError)
  | panic

namespace CacheFile
variable (file : CacheFile)

def resetDB : CacheFile := { saveMetadataTimer := file.saveMetadataTimer }

/-- An error changes nothing, and a panic leaves a corrupted file. -/
def batch {α : Type} (fn : CacheFile → Except TxFault (α × CacheFile)) (file : CacheFile) :
    Except StorageError α × CacheFile :=
  match fn file with
  | .ok (result, file') => (.ok result, file')
  | .error (.error error) => (.error error, file)
  | .error .panic => (.error .databaseCorrupted, file.resetDB)

variable (address : Option Addr) (domain : String) (isIPv6 : Bool)

def domainBucket : Option (Table String Addr) :=
  if isIPv6 then file.bucketFakeIPDomain6 else file.bucketFakeIPDomain4

def setDomainBucket (bucket : Table String Addr) : CacheFile :=
  if isIPv6 then { file with bucketFakeIPDomain6 := some bucket }
  else { file with bucketFakeIPDomain4 := some bucket }

def fakeIPMetadata : Option FakeIPMetadata × CacheFile :=
  let (metadata, file) := file.batch fun file =>
    match file.bucketFakeIP with
    | none => .error (.error .notExist)
    | some bucket =>
      match bucket.metadata with
      | none | some [] => .error (.error .invalid)
      | some (byte :: bytes) =>
        match unmarshalBinary (byte :: bytes) with
        | .ok metadata =>
          .ok (metadata, { file with bucketFakeIP := some { bucket with metadata := none } })
        | .error .error => .error (.error .unmarshal)
        | .error .panic => .error .panic
  (metadata.toOption, file)

variable (metadata : FakeIPMetadata)

def fakeIPSaveMetadata (file : CacheFile) : Except StorageError Unit × CacheFile :=
  file.batch fun file =>
    let bucket := file.bucketFakeIP.getD {}
    .ok ((), { file with
      bucketFakeIP := some { bucket with metadata := some (marshalBinary metadata) } })

/-- A timer that exists already is only started again. -/
def fakeIPSaveMetadataAsync (file : CacheFile) : CacheFile := { file with
    saveMetadataTimer := match file.saveMetadataTimer with
      | none => some ⟨metadata, true⟩
      | some timer => some { timer with armed := true } }

def saveMetadataFires : CacheFile :=
  match file.saveMetadataTimer with
  | none => file
  | some timer =>
    if timer.armed then
      { (fakeIPSaveMetadata timer.metadata file).2 with
        saveMetadataTimer := some { timer with armed := false } }
    else file

def fakeIPStore (file : CacheFile) : Except StorageError Unit × CacheFile := file.batch fun file =>
    match address with
    | none => .error (.error .keyRequired)
    | some address =>
      let bucket := file.bucketFakeIP.getD {}
      let oldDomain := bucket.domains address
      let file := { file with
          bucketFakeIP := some { bucket with domains := bucket.domains.insert address domain } }
      let domains := (file.domainBucket address.is6).getD .empty
      let domains := match oldDomain with
        | some oldDomain => domains.erase oldDomain
        | none => domains
      if domain = "" then .error (.error .keyRequired)
      else .ok ((), file.setDomainBucket address.is6 (domains.insert domain address))

def fakeIPLoad (file : CacheFile) : Option String :=
  let domain := do (← file.bucketFakeIP).domains (← address)
  domain.filter (· ≠ "")

def fakeIPLoadDomain (file : CacheFile) : Option (Option Addr) :=
  (file.domainBucket isIPv6).bind fun bucket => (bucket domain).map some

def fakeIPReset : Except StorageError Unit × CacheFile := file.batch fun file =>
    if file.bucketFakeIP.isNone then .error (.error .bucketNotFound)
    else if file.bucketFakeIPDomain4.isNone then .error (.error .bucketNotFound)
    else if file.bucketFakeIPDomain6.isNone then .error (.error .bucketNotFound)
    else .ok ((), { saveMetadataTimer := file.saveMetadataTimer })

def reopen : CacheFile := { file with saveMetadataTimer := none }

end CacheFile

open CacheFile

instance : FakeIPStorage CacheFile where
  fakeIPMetadata := fakeIPMetadata
  fakeIPSaveMetadata := fakeIPSaveMetadata
  fakeIPSaveMetadataAsync := fakeIPSaveMetadataAsync
  fakeIPStore := fakeIPStore
  fakeIPLoad := fakeIPLoad
  fakeIPLoadDomain := fakeIPLoadDomain
  fakeIPReset := fakeIPReset
  saveMetadataFires := saveMetadataFires
  reopen := reopen

end SingBox.FakeIP

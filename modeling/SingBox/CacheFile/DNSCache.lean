import SingBox.Adapter.Bytes
import SingBox.Dns.Client

/-!
# The DNS cache of the cache file

`SaveDNSCacheAsync` puts a response into a map and starts a flusher for its key, unless one is
running. Other steps can come in between.
-/

namespace SingBox

structure SaveCacheKey where
  transportName : String
  questionName : String
  qType : ℕ
deriving DecidableEq

structure SaveDNSCacheEntry where
  rawMessage : List UInt8
  expireAt : ℕ
  sequence : ℕ
  saving : Bool
deriving DecidableEq

inductive Flusher where
  | load
  | save (entry : SaveDNSCacheEntry)
  | compare (entry : SaveDNSCacheEntry)
deriving DecidableEq

structure DNSCacheFile where
  saveDNSCache : Table SaveCacheKey SaveDNSCacheEntry := Table.empty
  bucketDNSCache : Table SaveCacheKey (List UInt8) := Table.empty
  flushers : SaveCacheKey → List Flusher := fun _ => []
  /-- The calls of `ClearDNSCache` that have only cleared the map. -/
  clearing : ℕ := 0

variable (rawMessage : List UInt8) (expireAt : ℕ)

def dnsCacheContent : List UInt8 := bytesOfNat 8 (expireAt / second) ++ rawMessage

def readDNSCacheContent (content : List UInt8) : Option (List UInt8 × ℕ) :=
  if content.length < 8 then none
  else some (content.drop 8, Addr.natOfBytes (content.take 8) * second)

variable (file : DNSCacheFile) (key : SaveCacheKey)

def loadDNSCache (file : DNSCacheFile) : Option (List UInt8 × ℕ) :=
  match file.saveDNSCache key with
  | some entry => some (entry.rawMessage, entry.expireAt)
  | none => (file.bucketDNSCache key).bind readDNSCacheContent

def queuedEntry (pending : Option SaveDNSCacheEntry) (rawMessage : List UInt8) (expireAt : ℕ) :
    SaveDNSCacheEntry where
  rawMessage := rawMessage
  expireAt := expireAt
  sequence := ((pending.map (·.sequence)).getD 0 + 1) % 0x10000000000000000
  saving := true

def saveDNSCacheAsync (rawMessage : List UInt8) (expireAt : ℕ)
    (file : DNSCacheFile) : DNSCacheFile :=
  let pending := file.saveDNSCache key
  let startFlush := !(pending.map (·.saving)).getD false
  { file with
    saveDNSCache := file.saveDNSCache.insert key (queuedEntry pending rawMessage expireAt)
    flushers := if startFlush then Function.update file.flushers key (.load :: file.flushers key)
      else file.flushers }

def DNSCacheFile.setFlushers (flushers : List Flusher) : DNSCacheFile :=
  { file with flushers := Function.update file.flushers key flushers }

/-- One step of a flusher; `saved` tells whether a write is accepted. -/
def flushPendingDNSCache (index : ℕ) (saved : Bool) (file : DNSCacheFile) : DNSCacheFile :=
  let flushers := file.flushers key
  match flushers[index]? with
  | none => file
  | some .load =>
    match file.saveDNSCache key with
    | none => file.setFlushers key (flushers.eraseIdx index)
    | some entry => file.setFlushers key (flushers.set index (.save entry))
  | some (.save entry) =>
    let bucket := if saved then
        file.bucketDNSCache.insert key (dnsCacheContent entry.rawMessage entry.expireAt)
      else file.bucketDNSCache
    { file with bucketDNSCache := bucket }.setFlushers key (flushers.set index (.compare entry))
  | some (.compare entry) =>
    match file.saveDNSCache key with
    | none => file.setFlushers key (flushers.eraseIdx index)
    | some currentEntry =>
      if currentEntry.sequence ≠ entry.sequence then
        file.setFlushers key (flushers.set index .load)
      else
        { file with saveDNSCache := file.saveDNSCache.erase key }.setFlushers key
          (flushers.eraseIdx index)

def clearPendingDNSCache : DNSCacheFile :=
  { file with saveDNSCache := Table.empty, clearing := file.clearing + 1 }

def clearDNSCacheBucket (deleted : Bool) (file : DNSCacheFile) : DNSCacheFile :=
  if file.clearing = 0 then file
  else
    { file with
      bucketDNSCache := if deleted then Table.empty else file.bucketDNSCache
      clearing := file.clearing - 1 }

variable (disableExpire : Bool)

def isExpiredContent (optimisticTimeout now : ℕ) (content : List UInt8) : Bool :=
  match readDNSCacheContent content with
  | none => true
  | some (_, expireAt) => !disableExpire && expireAt + optimisticTimeout < now

def cleanupDNSCache (optimisticTimeout now : ℕ) (file : DNSCacheFile) : DNSCacheFile := { file with
    bucketDNSCache := fun key =>
      (file.bucketDNSCache key).filter fun content =>
        !isExpiredContent disableExpire optimisticTimeout now content }

inductive DNSCacheStep where
  | saveDNSCacheAsync (key : SaveCacheKey) (rawMessage : List UInt8) (expireAt : ℕ)
  | flush (key : SaveCacheKey) (index : ℕ) (saved : Bool)
  | clearPending
  | clearBucket (deleted : Bool)
  | cleanup (disableExpire : Bool) (optimisticTimeout now : ℕ)

def dnsCacheStep : DNSCacheStep → DNSCacheFile
  | .saveDNSCacheAsync key rawMessage expireAt => saveDNSCacheAsync key rawMessage expireAt file
  | .flush key index saved => flushPendingDNSCache key index saved file
  | .clearPending => clearPendingDNSCache file
  | .clearBucket deleted => clearDNSCacheBucket deleted file
  | .cleanup disableExpire optimisticTimeout now =>
    cleanupDNSCache disableExpire optimisticTimeout now file

lemma length_dnsCacheContent : ¬(dnsCacheContent rawMessage expireAt).length < 8 := by
  simp [dnsCacheContent]

lemma readDNSCacheContent_dnsCacheContent :
    readDNSCacheContent (dnsCacheContent rawMessage expireAt) =
    some (rawMessage, expireAt / second % 0x10000000000000000 * second) := by
  have hdrop : (dnsCacheContent rawMessage expireAt).drop 8 = rawMessage := by
    simp [dnsCacheContent]
  have htake : (dnsCacheContent rawMessage expireAt).take 8 = bytesOfNat 8 (expireAt / second) := by
    simp [dnsCacheContent]
  rw [readDNSCacheContent, if_neg (length_dnsCacheContent rawMessage expireAt), hdrop, htake,
    natOfBytes_bytesOfNat]
  norm_num

end SingBox

import SingBox.Lib.Run
import SingBox.Srs.Items

/-!
# Remote rule-sets

The ETag is that of the content, as long as the server never sends content without one while an
older one is known.
-/

namespace SingBox.RemoteRuleSet
open Codec Srs

/-! ### The saved content -/

/-- A byte slice or string, which has less than `2 ^ 63` bytes. -/
@[ext]
structure GoBytes where
  bytes : List UInt8
  length_lt : bytes.length < 2 ^ 63
deriving DecidableEq

open GoBytes

def GoBytes.empty : GoBytes := ⟨[], by decide⟩

/-- The time is the Unix time in seconds, an `int64`. -/
structure SavedBinary where
  content : GoBytes
  lastUpdated : BitVec 64
  lastEtag : GoBytes
deriving DecidableEq

/-- A slice that is too long cannot be made. -/
def readGoBytes : Reader GoBytes := do
  let bytes ← readBytes
  if h : bytes.length < 2 ^ 63 then pure ⟨bytes, h⟩
  else fail "makeslice: len out of range"

variable (saved : SavedBinary)

def SavedBinary.marshalBinary : List UInt8 := [1] ++ (writeBytes saved.content.bytes ++
    (bytesOfNat 8 saved.lastUpdated.toNat ++ writeBytes saved.lastEtag.bytes))

/-- The version is not looked at. -/
def SavedBinary.unmarshalBinary : Reader SavedBinary := do
  let _ ← readByte
  let content ← readGoBytes
  let lastUpdated ← readUint64
  let lastEtag ← readGoBytes
  pure ⟨content, BitVec.ofNat 64 lastUpdated, lastEtag⟩

lemma decodes_readGoBytes (b : GoBytes) : Decodes readGoBytes (writeBytes b.bytes) b := by
  intro rest
  have hread := decodes_readBytes (lt_uint64 b.length_lt) rest
  show (readBytes (writeBytes b.bytes ++ rest)).bind _ = _
  rw [hread]
  show (if h : b.bytes.length < 2 ^ 63 then (pure ⟨b.bytes, h⟩ : Reader GoBytes)
    else fail "makeslice: len out of range") rest = _
  rw [dif_pos b.length_lt]
  rfl

lemma SavedBinary.decodes_unmarshalBinary : Decodes unmarshalBinary saved.marshalBinary saved := by
  refine (decodes_readByte 1).bind ((decodes_readGoBytes saved.content).bind
    ((decodes_readUint64 saved.lastUpdated.isLt).bind ?_))
  rw [BitVec.ofNat_toNat, BitVec.setWidth_eq]
  exact (decodes_readGoBytes saved.lastEtag).bind_pure fun lastEtag =>
    (⟨saved.content, saved.lastUpdated, lastEtag⟩ : SavedBinary)

/-- Content and the ETag header with which it was sent, empty if there was none. -/
abbrev Served := GoBytes × GoBytes

def zeroTime : BitVec 64 := BitVec.ofInt 64 (-62135596800)

/-! ### Fetching -/

structure Process where
  /-- The content loaded last. The source keeps the rules made of it, and not the header. -/
  served : Option Served := none
  lastUpdated : BitVec 64 := zeroTime
  lastEtag : GoBytes := empty

structure Entry where
  data : Option (List UInt8) := none
  /-- The content saved last, which is only part of the data. -/
  served : Option Served := none

structure State where
  process : Process := {}
  entry : Entry := {}
  unsaved : Bool := false

inductive Response where
  | invalid (error : String)
  | failed (error : String)
  | ok (etag : GoBytes) (body : Except String GoBytes)
  | notModified
  | other (status : String)

structure Outcome where
  response : Response
  load : Option String := none
  now : BitVec 64
  unreadable : Bool := false
  save : Option String := none

structure StartOutcome where
  transport : Option String := none
  unreadable : Bool := false
  load : Option String := none
  fetch : Outcome

def loadRuleSet (entry : Entry) (unreadable : Bool) : Option SavedBinary := if unreadable then none
  else entry.data.bind fun data => ((SavedBinary.unmarshalBinary data).toOption).map Prod.fst

def ifNoneMatch (p : Process) : Option GoBytes :=
  if p.lastEtag.bytes ≠ [] then some p.lastEtag else none

variable (cacheFile : Bool) (s : State) (o : Outcome)

def touch : State :=
  let s := { s with process := { s.process with lastUpdated := o.now } }
  if cacheFile ∧ o.save = none then
    match loadRuleSet s.entry o.unreadable with
    | some saved =>
      { s with entry := { s.entry with
          data := some ({ saved with lastUpdated := o.now } : SavedBinary).marshalBinary } }
    | none => s
  else s

def replace (etag content : GoBytes) (o : Outcome) : State :=
  let lastEtag := if etag.bytes ≠ [] then etag else s.process.lastEtag
  let process : Process := ⟨some (content, etag), o.now, lastEtag⟩
  if cacheFile then
    if o.save = none then
      ⟨process, ⟨some (SavedBinary.marshalBinary ⟨content, o.now, lastEtag⟩),
        some (content, etag)⟩, false⟩
    else ⟨process, s.entry, true⟩
  else ⟨process, s.entry, s.unsaved⟩

def fetch : State × Option String :=
  match o.response with
  | .invalid error => (s, some error)
  | .failed error => (s, some error)
  | .notModified => (touch cacheFile s o, none)
  | .other status => (s, some ("unexpected status: " ++ status))
  | .ok _ (.error error) => (s, some error)
  | .ok etag (.ok content) =>
    match o.load with
    | some error => (s, some error)
    | none => (replace cacheFile s etag content o, none)

def restore (unreadable : Bool) (load : Option String) : State :=
  let fresh : State := ⟨{}, s.entry, false⟩
  if cacheFile ∧ load = none then
    match loadRuleSet s.entry unreadable with
    | some saved =>
      let header := (s.entry.served.map Prod.snd).getD empty
      { fresh with process := ⟨some (saved.content, header), saved.lastUpdated, saved.lastEtag⟩ }
    | none => fresh
  else fresh

def startContext (tag : String) (o : StartOutcome) : State × Option String :=
  match o.transport with
  | some error => (⟨{}, s.entry, false⟩, some ("create rule-set http client: " ++ error))
  | none =>
    let restored := restore cacheFile s o.unreadable o.load
    if restored.process.lastUpdated = zeroTime then
      match fetch cacheFile restored o.fetch with
      | (s, some error) => (s, some ("initial rule-set: " ++ tag ++ ": " ++ error))
      | (s, none) => (s, none)
    else (restored, none)

inductive Action where
  | start (tag : String) (o : StartOutcome)
  | update (o : Outcome)

def step : Action → State
  | .start tag o => (startContext cacheFile s tag o).1
  | .update o => (fetch cacheFile s o).1

/-! ### The invariant -/

/-- `If-None-Match` is the ETag of the content loaded and saved. -/
structure Identified (cacheFile : Bool) (s : State) : Prop where
  sent : ∀ etag, ifNoneMatch s.process = some etag →
    ∃ content, s.process.served = some (content, etag) ∧ (cacheFile → s.unsaved = false →
        ∃ time, loadRuleSet s.entry false = some ⟨content, time, etag⟩) ∧
      ∀ o, o.response = .notModified → (fetch cacheFile s o).1.process.served = some (content, etag)
  silent : ∀ content, s.process.served = some (content, empty) → ifNoneMatch s.process = none

/-- Content without an ETag is only loaded if no ETag is known. -/
def CarefulFetch (s : State) (o : Outcome) : Prop :=
  ∀ etag content, o.response = .ok etag (.ok content) → o.load = none →
    etag.bytes = [] → s.process.lastEtag.bytes = []

def Careful (cacheFile : Bool) (s : State) : Action → Prop
  | .start _ o => o.transport = none →
      (restore cacheFile s o.unreadable o.load).process.lastUpdated = zeroTime →
        CarefulFetch (restore cacheFile s o.unreadable o.load) o.fetch
  | .update o => CarefulFetch s o

structure Good (cacheFile : Bool) (s : State) : Prop where
  loaded : s.process.lastEtag = (s.process.served.map Prod.snd).getD empty
  entry : (s.entry.data = none ∧ s.entry.served = none) ∨ ∃ content time etag,
    s.entry.data = some (SavedBinary.marshalBinary ⟨content, time, etag⟩) ∧
      s.entry.served = some (content, etag)
  saved : cacheFile → s.unsaved = false → s.process.served ≠ none →
    s.entry.served = s.process.served

variable {cacheFile s}

lemma loadRuleSet_marshalBinary {entry : Entry} {saved : SavedBinary}
    (h : entry.data = some saved.marshalBinary) : loadRuleSet entry false = some saved := by
  have hread := saved.decodes_unmarshalBinary []
  rw [List.append_nil] at hread
  rw [loadRuleSet, if_neg Bool.false_ne_true, h, Option.bind_some, hread]
  rfl

lemma Good.loadRuleSet_cases (h : Good cacheFile s) (unreadable : Bool) :
    loadRuleSet s.entry unreadable = none ∨ ∃ content time etag,
    loadRuleSet s.entry unreadable = some ⟨content, time, etag⟩ ∧
    s.entry.served = some (content, etag) := by
  obtain ⟨hnone, -⟩ | ⟨content, time, etag, hdata, hserved⟩ := h.entry
  · exact Or.inl (by simp [loadRuleSet, hnone])
  · by_cases hread : unreadable
    · exact Or.inl (by simp [loadRuleSet, hread])
    · rw [Bool.not_eq_true] at hread
      rw [hread]
      exact Or.inr ⟨content, time, etag, loadRuleSet_marshalBinary hdata, hserved⟩

lemma touch_served : (touch cacheFile s o).process.served = s.process.served := by
  unfold touch
  dsimp only
  split_ifs
  · split <;> rfl
  · rfl

namespace Good
section
variable (h : Good cacheFile s)
include h
variable (o : Outcome)

lemma touch : Good cacheFile (touch cacheFile s o) := by
  unfold RemoteRuleSet.touch
  split_ifs
  · obtain hnone | ⟨content, time, etag, hload, hserved⟩ := h.loadRuleSet_cases o.unreadable
    · simp only [hnone]
      exact ⟨h.loaded, h.entry, h.saved⟩
    · simp only [hload]
      exact ⟨h.loaded, Or.inr ⟨content, o.now, etag, rfl, hserved⟩, h.saved⟩
  · exact ⟨h.loaded, h.entry, h.saved⟩

lemma replace {etag content : GoBytes} (hcare : etag.bytes = [] → s.process.lastEtag.bytes = []) :
    Good cacheFile (replace cacheFile s etag content o) := by
  have hetag : (if etag.bytes ≠ [] then etag else s.process.lastEtag) = etag := by
    split_ifs with hemp
    · rfl
    · rw [not_not] at hemp
      exact GoBytes.ext ((hcare hemp).trans hemp.symm)
  unfold RemoteRuleSet.replace
  rw [hetag]
  split_ifs with hcacheFile hsave
  · exact ⟨rfl, Or.inr ⟨content, o.now, etag, rfl, rfl⟩, fun _ _ _ => rfl⟩
  · exact ⟨rfl, h.entry, fun _ hsaved => by cases hsaved⟩
  · exact ⟨rfl, h.entry, fun hfile => absurd hfile hcacheFile⟩

lemma fetch {o : Outcome} (hcare : CarefulFetch s o) : Good cacheFile (fetch cacheFile s o).1 := by
  unfold RemoteRuleSet.fetch
  cases hresp : o.response with
  | invalid error | failed error => exact h
  | notModified => exact h.touch o
  | other status => exact h
  | ok etag body =>
    cases body with
    | error error => exact h
    | ok content =>
      cases hload : o.load with
      | some error => exact h
      | none => exact h.replace o (hcare etag content hresp hload)

lemma fresh : Good cacheFile ⟨{}, s.entry, false⟩ := ⟨rfl, h.entry, fun _ _ hne => absurd rfl hne⟩

lemma restore (unreadable : Bool) (load : Option String) :
    Good cacheFile (restore cacheFile s unreadable load) := by
  unfold RemoteRuleSet.restore
  split_ifs
  · obtain hnone | ⟨content, time, etag, hload, hserved⟩ := h.loadRuleSet_cases unreadable
    · rw [hnone]
      exact h.fresh
    · rw [hload, hserved]
      exact ⟨rfl, h.entry, fun _ _ _ => hserved⟩
  · exact h.fresh

lemma startContext {tag : String} {o : StartOutcome} (hcare : Careful cacheFile s (.start tag o)) :
    Good cacheFile (startContext cacheFile s tag o).1 := by
  have hrestored := h.restore o.unreadable o.load
  unfold RemoteRuleSet.startContext
  cases htr : o.transport with
  | some error => exact h.fresh
  | none =>
    dsimp only
    split_ifs with hzero
    · have hfetch := hrestored.fetch (hcare htr hzero)
      split <;> rename_i hres <;> rw [hres] at hfetch <;> exact hfetch
    · exact hrestored

lemma identified : Identified cacheFile s where
  sent etag hsent := by
    rw [ifNoneMatch] at hsent
    split_ifs at hsent with hne
    obtain rfl := Option.some.inj hsent
    cases hserved : s.process.served with
    | none =>
      have hloaded := h.loaded
      rw [hserved] at hloaded
      rw [hloaded] at hne
      exact absurd rfl hne
    | some served =>
      obtain ⟨content, header⟩ := served
      have hheader : s.process.lastEtag = header := by
        rw [h.loaded, hserved]
        rfl
      rw [hheader]
      refine ⟨content, rfl, fun hfile hunsaved => ?_, fun o ho => ?_⟩
      · have hent := h.saved hfile hunsaved (by simp [hserved])
        rw [hserved] at hent
        obtain ⟨-, hnone⟩ | ⟨content', time, etag', hdata, hserved'⟩ := h.entry
        · rw [hnone] at hent
          cases hent
        · rw [hent] at hserved'
          cases hserved'
          exact ⟨time, loadRuleSet_marshalBinary hdata⟩
      · unfold RemoteRuleSet.fetch
        rw [ho]
        exact (touch_served o).trans hserved
  silent content hserved := by
    have hemp : s.process.lastEtag = empty := by
      rw [h.loaded, hserved]
      rfl
    rw [ifNoneMatch, hemp]
    rfl

end

end Good

/-- In careful runs the value of `If-None-Match` identifies the content. -/
theorem identified_of_careful {s : State}
    (h : Run (step cacheFile) (Careful cacheFile) {} s) : Identified cacheFile s := by
  have hgood : Good cacheFile s := by
    refine h.invariant ⟨rfl, Or.inl ⟨rfl, rfl⟩, fun _ _ hne => absurd rfl hne⟩
      fun s a hs hcare => ?_
    cases a with
    | start tag o => exact hs.startContext hcare
    | update o => exact hs.fetch hcare
  exact hgood.identified

theorem identified_of_careful_restart : let etag : GoBytes := ⟨[65], by decide⟩
    let content : GoBytes := ⟨[1, 2], by decide⟩
    let fetched : Outcome := { response := .ok etag (.ok content), now := 7 }
    let unasked : Outcome := { response := .notModified, now := 8 }
    let s := [Action.start "geoip" { fetch := fetched }, .start "geoip" { fetch := unasked },
      .update unasked].foldl (step true) {}
    Identified true s ∧ ifNoneMatch s.process = some etag ∧
      loadRuleSet s.entry false = some ⟨content, 8, etag⟩ := by
  intro etag content fetched unasked s
  have hcare : Run.Allowed (step true) (Careful true) {}
      [Action.start "geoip" { fetch := fetched }, .start "geoip" { fetch := unasked },
        .update unasked] := by
    refine ⟨fun _ _ => ?_, fun _ _ => ?_, ?_, trivial⟩
    · intro etag' content' hresp _ hemp
      cases hresp
      cases hemp
    all_goals
      intro etag' content' hresp
      cases hresp
  exact ⟨identified_of_careful (Run.start.foldl hcare), by decide +kernel, by decide +kernel⟩

/-- Other content without an ETag is kept by the old one. -/
theorem not_identified_without_etag : let etag : GoBytes := ⟨[65], by decide⟩
    let old : GoBytes := ⟨[1], by decide⟩
    let new : GoBytes := ⟨[2], by decide⟩
    let s := [Action.start "geoip" { fetch := { response := .ok etag (.ok old), now := 7 } },
      .update { response := .ok empty (.ok new), now := 8 }].foldl (step true) {}
    ¬Identified true s ∧ ifNoneMatch s.process = some etag ∧ s.process.served = some (new, empty) ∧
      loadRuleSet s.entry false = some ⟨new, 8, etag⟩ := by
  intro etag old new s
  have hsent : ifNoneMatch s.process = some etag := by decide +kernel
  have hserved : s.process.served = some (new, empty) := by decide +kernel
  refine ⟨fun h => ?_, hsent, hserved, by decide +kernel⟩
  have hsilent := h.silent new hserved
  rw [hsent] at hsilent
  cases hsilent

end SingBox.RemoteRuleSet

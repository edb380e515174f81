import SingBox.FakeIP.Storage
import SingBox.Lib.Run

/-!
# The allocator of fake addresses

`create` gives a domain the address it has, or the next one. When calls come one after the other,
the second look finds the same as the first.
-/

namespace SingBox.FakeIP

structure Store where
  inet4Range : Option IPPrefix
  inet6Range : Option IPPrefix
  inet4Last : Option Addr
  inet6Last : Option Addr
  inet4Current : Option Addr := none
  inet6Current : Option Addr := none
deriving DecidableEq

namespace Store
variable (s : Store) (isIPv6 : Bool)

def range : Option IPPrefix := if isIPv6 then s.inet6Range else s.inet4Range

def last : Option Addr := if isIPv6 then s.inet6Last else s.inet4Last

def current : Option Addr := if isIPv6 then s.inet6Current else s.inet4Current

def setCurrent (address : Option Addr) : Store :=
  if isIPv6 then { s with inet6Current := address } else { s with inet4Current := address }

def metadata : FakeIPMetadata := ⟨s.inet4Range, s.inet6Range, s.inet4Current, s.inet6Current⟩

variable (address : Option Addr) (isIPv6' : Bool)

@[simp] lemma range_setCurrent : (s.setCurrent isIPv6 address).range isIPv6' = s.range isIPv6' := by
  cases isIPv6 <;> rfl

@[simp] lemma last_setCurrent : (s.setCurrent isIPv6 address).last isIPv6' = s.last isIPv6' := by
  cases isIPv6 <;> rfl

@[simp] lemma current_setCurrent :
    (s.setCurrent isIPv6 address).current isIPv6' =
    if isIPv6' = isIPv6 then address else s.current isIPv6' := by
  cases isIPv6 <;> cases isIPv6' <;> rfl

end Store

def newStore (inet4Range inet6Range : Option IPPrefix) : Store where
  inet4Range := inet4Range
  inet6Range := inet6Range
  inet4Last := inet4Range.map IPPrefix.broadcastAddress
  inet6Last := inet6Range.map IPPrefix.broadcastAddress

variable {σ : Type} [FakeIPStorage σ]
open FakeIPStorage
variable (s : Store) (storage : σ)

/-- Go on from metadata for the same ranges, or reset the storage. -/
def start : Store × σ :=
  let (metadata, storage) := fakeIPMetadata storage
  match metadata.filter fun metadata =>
      metadata.inet4Range = s.inet4Range ∧ metadata.inet6Range = s.inet6Range with
  | some metadata =>
    ({ s with inet4Current := metadata.inet4Current, inet6Current := metadata.inet6Current },
      storage)
  | none =>
    ({ s with
        inet4Current :=
          if s.inet4Range.isSome then s.inet4Range.bind fun p => p.addr.next else s.inet4Current
        inet6Current :=
          if s.inet6Range.isSome then s.inet6Range.bind fun p => p.addr.next else s.inet6Current },
      (fakeIPReset storage).2)

def close : σ := (fakeIPSaveMetadata s.metadata storage).2

def nextAddress (range : Option IPPrefix) (last : Option Addr) (current : Addr) : Option Addr :=
  let next := current.next
  if next = last ∨ ¬(range.any fun p => next.any p.contains) then
    range.bind fun p => p.addr.next.bind Addr.next
  else next

variable (domain : String) (isIPv6 : Bool)

def missingRange : String :=
  if isIPv6 then "missing IPv6 fakeip address range" else "missing IPv4 fakeip address range"

def create (s : Store) (storage : σ) : Except String (Option Addr) × Store × σ :=
  match fakeIPLoadDomain domain isIPv6 storage with
  | some address => (.ok address, s, storage)
  | none =>
    match s.current isIPv6 with
    | none => (.error (missingRange isIPv6), s, storage)
    | some current =>
      let address := nextAddress (s.range isIPv6) (s.last isIPv6) current
      let s := s.setCurrent isIPv6 address
      let storage := (fakeIPStore address domain storage).2
      (.ok address, s, fakeIPSaveMetadataAsync s.metadata storage)

lemma start_cases : (∃ m, (fakeIPMetadata storage).1 = some m ∧ m.inet4Range = s.inet4Range ∧
        m.inet6Range = s.inet6Range ∧
        start s storage =
          ({ s with inet4Current := m.inet4Current, inet6Current := m.inet6Current },
            (fakeIPMetadata storage).2)) ∨
      ((∀ m, (fakeIPMetadata storage).1 = some m →
          ¬(m.inet4Range = s.inet4Range ∧ m.inet6Range = s.inet6Range)) ∧
        start s storage = ({ s with
              inet4Current := if s.inet4Range.isSome then s.inet4Range.bind fun p => p.addr.next
                else s.inet4Current
              inet6Current := if s.inet6Range.isSome then s.inet6Range.bind fun p => p.addr.next
                else s.inet6Current },
            (fakeIPReset (fakeIPMetadata storage).2).2)) := by
  cases hread : (fakeIPMetadata storage).1 with
  | none =>
    refine .inr ⟨fun m hm => by simp at hm, ?_⟩
    simp [start, hread, Option.filter_none]
  | some m =>
    by_cases hsame : m.inet4Range = s.inet4Range ∧ m.inet6Range = s.inet6Range
    · refine .inl ⟨m, rfl, hsame.1, hsame.2, ?_⟩
      simp [start, hread, Option.filter_some, hsame]
    · refine .inr ⟨fun m' hm' => ?_, ?_⟩
      · cases hm'
        exact hsame
      · simp only [start, hread, Option.filter_some, hsame, decide_false, Bool.false_eq_true,
          if_false]

lemma create_cases (s : Store) (storage : σ) :
    (∃ a, fakeIPLoadDomain domain isIPv6 storage = some a ∧
        create domain isIPv6 s storage = (.ok a, s, storage)) ∨
    (fakeIPLoadDomain domain isIPv6 storage = none ∧ s.current isIPv6 = none ∧
        create domain isIPv6 s storage = (.error (missingRange isIPv6), s, storage)) ∨
    (∃ current a, fakeIPLoadDomain domain isIPv6 storage = none ∧
        s.current isIPv6 = some current ∧
        a = nextAddress (s.range isIPv6) (s.last isIPv6) current ∧
        create domain isIPv6 s storage = (.ok a, s.setCurrent isIPv6 a,
          fakeIPSaveMetadataAsync (s.setCurrent isIPv6 a).metadata
            (fakeIPStore a domain storage).2)) := by
  cases hload : fakeIPLoadDomain domain isIPv6 storage with
  | some a =>
    refine .inl ⟨a, rfl, ?_⟩
    simp [create, hload]
  | none =>
    cases hcur : s.current isIPv6 with
    | none =>
      refine .inr (.inl ⟨rfl, rfl, ?_⟩)
      simp [create, hload, hcur]
    | some current =>
      refine .inr (.inr ⟨current, _, rfl, rfl, rfl, ?_⟩)
      simp [create, hload, hcur]

def lookup (address : Option Addr) (storage : σ) : Option String := fakeIPLoad address storage

def reset : Except StorageError Unit × σ := fakeIPReset storage

structure System (σ : Type) where
  store : Option Store
  storage : σ

inductive Step where
  /-- A new process starts, after a clean or an unclean exit. -/
  | start (inet4Range inet6Range : Option IPPrefix)
  | create (domain : String) (isIPv6 : Bool)
  | reset
  | close
  | fire

def step (s : System σ) : Step → System σ
  | .start inet4Range inet6Range =>
    let (store, storage) := start (newStore inet4Range inet6Range) (reopen s.storage)
    ⟨some store, storage⟩
  | .create domain isIPv6 =>
    match s.store with
    | none => s
    | some store =>
      let (_, store, storage) := create domain isIPv6 store s.storage
      ⟨some store, storage⟩
  | .reset => if s.store.isSome then { s with storage := (reset s.storage).2 } else s
  | .close =>
    match s.store with
    | none => s
    | some store => { s with storage := close store s.storage }
  | .fire => { s with storage := saveMetadataFires s.storage }

end SingBox.FakeIP

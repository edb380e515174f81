import SingBox.Adapter.Message
import Mathlib.Tactic.Ring

/-!
# Operations on DNS messages

The parts of the DNS client that only look at messages.
-/

namespace SingBox
open RR

inductive DomainStrategy where
  | asIS
  | preferIPv4
  | preferIPv6
  | ipv4Only
  | ipv6Only
deriving DecidableEq

structure DNSQueryOptions where
  strategy : DomainStrategy := .asIS
  lookupStrategy : DomainStrategy := .asIS
  disableCache : Bool := false
  disableOptimisticCache : Bool := false
  rewriteTTL : Option ℕ := none
  timeout : ℕ := 0
  clientSubnet : Option IPPrefix := none
deriving DecidableEq

variable (response : Msg)

/-- The time to live of a negative answer: that of the first `SOA` record, or its smaller minimum.-/
def extractNegativeTTL : Option ℕ := response.ns.findSome? fun record =>
    match record.data with
    | .soa minttl _ => some (if record.hdr.ttl < minttl then record.hdr.ttl else minttl)
    | _ => none

variable (timeToLive : ℕ) (record : RR)

def minTTL : ℕ := if record.hdr.rrtype = dnsTypeOPT then timeToLive
  else if timeToLive = 0 ∨ 0 < record.hdr.ttl ∧ record.hdr.ttl < timeToLive then record.hdr.ttl
  else timeToLive

def computeTimeToLive : ℕ :=
  match if response.answer.isEmpty then extractNegativeTTL response else none with
  | some soaTTL => soaTTL
  | none => (response.answer ++ response.ns ++ response.extra).foldl minTTL 0

def RR.setTTL : RR := if record.hdr.rrtype = dnsTypeOPT then record
  else { record with hdr := { record.hdr with ttl := timeToLive } }

def normalizeTTL : Msg := { response with
    answer := response.answer.map (setTTL timeToLive)
    ns := response.ns.map (setTTL timeToLive)
    extra := response.extra.map (setTTL timeToLive) }

def Msg.withoutTTL : Msg := normalizeTTL response 0

def DomainStrategy.filtersHints : DomainStrategy → Bool
  | .ipv4Only | .ipv6Only => true
  | _ => false

variable (strategy : DomainStrategy)

def DomainStrategy.keepsHint (value : SVCBKeyValue) : Bool :=
  if strategy = .ipv4Only then value.key ≠ svcbIPv6Hint else value.key ≠ svcbIPv4Hint

def RR.filterHints (record : RR) : RR :=
  match record.data with
  | .https priority target value =>
    { record with data := .https priority target (value.filter strategy.keepsHint) }
  | _ => record

def filterHints (question : Question) (options : DNSQueryOptions) (response : Msg) : Msg :=
  if question.qtype = dnsTypeHTTPS && options.strategy.filtersHints then
    { response with answer := response.answer.map (RR.filterHints options.strategy) }
  else response

variable (question : Question)

/-- The options of a query applied: the response and its time to live. -/
def applyResponseOptions (response : Msg) (options : DNSQueryOptions) : Msg × ℕ :=
  let response := filterHints question options response
  let timeToLive := match options.rewriteTTL with
    | some rewriteTTL => rewriteTTL
    | none => computeTimeToLive response
  (normalizeTTL response timeToLive, timeToLive)

def RR.stripPadding : RR :=
  match record.data with
  | .opt option =>
    { record with data := .opt (option.filter fun it => it.option ≠ edns0PaddingCode) }
  | _ => record

def stripDNSPadding : Msg := { response with extra := response.extra.map stripPadding }

variable (message : Msg)

def Msg.isEdns0 : Option RR :=
  message.extra.reverse.find? fun record => record.hdr.rrtype = dnsTypeOPT

def RR.ednsVersion : ℕ := record.hdr.ttl / 0x10000 % 0x100

def RR.ednsDo : Bool := record.hdr.ttl / 0x8000 % 2 = 1

def Msg.setEdns0 (udpSize : ℕ) (isDo : Bool) : Msg := { message with
    extra := message.extra ++ [⟨⟨".", dnsTypeOPT, udpSize, if isDo then 0x8000 else 0⟩, .opt []⟩] }

def Msg.withoutOPT : Msg :=
  { message with extra := message.extra.filter fun it => it.hdr.rrtype ≠ dnsTypeOPT }

variable (request : Msg)

def adaptEdns0 (response : Msg) : Msg :=
  match response.isEdns0 with
  | none => response
  | some responseOPT =>
    match request.isEdns0 with
    | none => response.withoutOPT
    | some requestOPT =>
      if requestOPT.ednsVersion < responseOPT.ednsVersion then
        response.withoutOPT.setEdns0 responseOPT.hdr.rrclass responseOPT.ednsDo
      else response

def bytesOfNat : ℕ → ℕ → List UInt8
  | 0, _ => []
  | width + 1, n => UInt8.ofNat (n / 256 ^ width % 256) :: bytesOfNat width n

def Addr.asSlice : Addr → List UInt8
  | .v4 bits => bytesOfNat 4 bits.toNat
  | .v6 bits => bytesOfNat 16 bits.toNat

def EDNS0.isSubnet : EDNS0 → Bool
  | .subnet .. => true
  | _ => false

/-- The search for the subnet option. A later record of another type hides an earlier one. -/
def findSubnet : List RR → ℕ → Option (ℕ × Option ℕ) → Option (ℕ × Option ℕ)
  | [], _, found => found
  | record :: records, index, _ =>
    match record.data with
    | .opt option =>
      match option.findIdx? EDNS0.isSubnet with
      | some subnet => some (index, some subnet)
      | none => findSubnet records (index + 1) (some (index, none))
    | _ => findSubnet records (index + 1) none

def Addr.family (address : Addr) : ℕ := if address.is4 then 1 else 2

variable (clientSubnet : IPPrefix)

def EDNS0.withSubnet : EDNS0 → EDNS0
  | .subnet _ _ sourceScope _ =>
    .subnet clientSubnet.addr.family clientSubnet.bits sourceScope clientSubnet.addr.asSlice
  | option => option

def newSubnet : EDNS0 :=
  .subnet clientSubnet.addr.family clientSubnet.bits 0 clientSubnet.addr.asSlice

def RR.modifyOptions (f : List EDNS0 → List EDNS0) (record : RR) : RR :=
  match record.data with
  | .opt option => { record with data := .opt (f option) }
  | _ => record

def setClientSubnet : Msg := { message with
    extra := match findSubnet message.extra 0 none with
      | none => message.extra ++ [⟨⟨".", dnsTypeOPT, 0, 0⟩, .opt [newSubnet clientSubnet]⟩]
      | some (index, none) =>
        message.extra.modify index (modifyOptions fun option =>
          option ++ [newSubnet clientSubnet])
      | some (index, some subnet) =>
        message.extra.modify index (modifyOptions fun option =>
          option.modify subnet (EDNS0.withSubnet clientSubnet)) }

def fixedResponseStatus (rcode : ℕ) : Msg where
  hdr :=
    { id := message.hdr.id
      response := true
      authoritative := true
      recursionDesired := true
      recursionAvailable := true
      rcode := rcode }
  question := message.question
  answer := []
  ns := []
  extra := []

def answerHeader (rrtype timeToLive : ℕ) : RRHeader where
  name := question.name
  rrtype := rrtype
  rrclass := dnsClassINET
  ttl := timeToLive

def addressRecord (timeToLive : ℕ) (address : Addr) : Option RR :=
  if address.is4 && question.qtype = dnsTypeA then
    some ⟨answerHeader question dnsTypeA timeToLive, .a address.asSlice⟩
  else if address.is6 && question.qtype = dnsTypeAAAA then
    some ⟨answerHeader question dnsTypeAAAA timeToLive, .aaaa address.asSlice⟩
  else none

def fixedResponse (id : ℕ) (question : Question) (addresses : List Addr) (timeToLive : ℕ) :
    Msg where
  hdr :=
    { id := id
      response := true
      authoritative := true
      recursionDesired := true
      recursionAvailable := true
      rcode := rcodeSuccess }
  question := [question]
  answer := addresses.filterMap (addressRecord question timeToLive)
  ns := []
  extra := []

def messageToAddresses : List Addr := dnsResponseAddresses (some response)

def Msg.withId (id : ℕ) : Msg := { message with hdr := { message.hdr with id := id } }

lemma RR.responseAddresses_setTTL :
    (record.setTTL timeToLive).responseAddresses = record.responseAddresses := by
  unfold setTTL
  split_ifs <;> rfl

lemma messageToAddresses_normalizeTTL :
    messageToAddresses (normalizeTTL response timeToLive) = messageToAddresses response := by
  simp only [messageToAddresses, dnsResponseAddresses, normalizeTTL, List.flatMap_map,
    responseAddresses_setTTL]

lemma messageToAddresses_adaptEdns0 :
    messageToAddresses (adaptEdns0 request response) = messageToAddresses response := by
  unfold adaptEdns0
  split
  · rfl
  · split
    · rfl
    · split_ifs <;> rfl

@[simp] lemma RR.setTTL_setTTL (timeToLive' : ℕ) :
    (record.setTTL timeToLive').setTTL timeToLive = record.setTTL timeToLive := by
  unfold setTTL
  split_ifs <;> simp_all

lemma withoutTTL_normalizeTTL :
    (normalizeTTL response timeToLive).withoutTTL = response.withoutTTL := by
  simp [Msg.withoutTTL, normalizeTTL, Function.comp_def]

lemma isEdns0_eq_none_iff :
    message.isEdns0 = none ↔ ∀ record ∈ message.extra, record.hdr.rrtype ≠ dnsTypeOPT := by
  simp [Msg.isEdns0]

variable {response : Msg}

lemma adaptEdns0_of_isEdns0_none
    (h : response.isEdns0 = none) : adaptEdns0 request response = response := by
  simp [adaptEdns0, h]

lemma RR.setTTL_rrtype : (record.setTTL timeToLive).hdr.rrtype = record.hdr.rrtype := by
  unfold setTTL
  split_ifs <;> rfl

lemma RR.stripPadding_hdr : record.stripPadding.hdr = record.hdr := by
  unfold stripPadding
  split <;> rfl

lemma isEdns0_stripDNSPadding (h : response.isEdns0 = none) :
    (stripDNSPadding response).isEdns0 = none := by
  rw [isEdns0_eq_none_iff] at h ⊢
  intro record hrec
  obtain ⟨original, horig, rfl⟩ := List.mem_map.1 hrec
  rw [stripPadding_hdr]
  exact h original horig

variable (options : DNSQueryOptions)

lemma filterHints_extra : (filterHints question options response).extra = response.extra := by
  unfold filterHints
  split_ifs <;> rfl

lemma isEdns0_applyResponseOptions (h : response.isEdns0 = none) :
    (applyResponseOptions question response options).1.isEdns0 = none := by
  rw [isEdns0_eq_none_iff] at h ⊢
  intro record hrec
  simp only [applyResponseOptions, normalizeTTL, filterHints_extra, List.mem_map] at hrec
  obtain ⟨original, horig, rfl⟩ := hrec
  rw [setTTL_rrtype]
  exact h original horig

lemma withoutTTL_applyResponseOptions :
    (applyResponseOptions question response options).1.withoutTTL =
    (filterHints question options response).withoutTTL :=
  withoutTTL_normalizeTTL _ _

end SingBox

import Mathlib.Data.List.Basic

/-!
# Addresses and DNS messages

One constructor of `RData` for each record type the program looks into. Nothing depends on the width
of codes and TTLs.
-/

namespace SingBox

/-- A valid IP address; the zero `netip.Addr` is `none` of `Option Addr`. -/
inductive Addr where
  | v4 (bits : BitVec 32)
  | v6 (bits : BitVec 128)
deriving DecidableEq

namespace Addr

def natOfBytes (bytes : List UInt8) : ℕ := bytes.foldl (fun n b => n * 256 + b.toNat) 0

def addrFromIP (ip : List UInt8) : Option Addr :=
  if ip.length = 4 then some (.v4 (BitVec.ofNat 32 (natOfBytes ip)))
  else if ip.length = 16 then some (.v6 (BitVec.ofNat 128 (natOfBytes ip)))
  else none

def unmap : Addr → Addr
  | .v4 a => .v4 a
  | .v6 a => if a >>> 32 = 0xffff#128 then .v4 (a.setWidth 32) else .v6 a

def is4 : Addr → Bool
  | .v4 _ => true
  | .v6 _ => false

def is6 (a : Addr) : Bool := !a.is4

end Addr

/-- A valid IP prefix; the zero value is `none` of `Option IPPrefix`. -/
structure IPPrefix where
  addr : Addr
  bits : ℕ
deriving DecidableEq

def dnsTypeA : ℕ := 1

def dnsTypeAAAA : ℕ := 28

def dnsTypeOPT : ℕ := 41

def dnsTypeHTTPS : ℕ := 65

def dnsClassINET : ℕ := 1

def rcodeSuccess : ℕ := 0

def rcodeFormatError : ℕ := 1

def rcodeNameError : ℕ := 3

def rcodeRefused : ℕ := 5

structure Question where
  name : String
  qtype : ℕ
  qclass : ℕ
deriving DecidableEq

inductive EDNS0 where
  | subnet (family sourceNetmask sourceScope : ℕ) (address : List UInt8)
  | padding (data : List UInt8)
  | other (code : ℕ) (data : List UInt8)
deriving DecidableEq

def edns0SubnetCode : ℕ := 8

def edns0PaddingCode : ℕ := 12

def EDNS0.option : EDNS0 → ℕ
  | .subnet .. => edns0SubnetCode
  | .padding _ => edns0PaddingCode
  | .other code _ => code

inductive SVCBKeyValue where
  | ipv4Hint (hint : List (List UInt8))
  | ipv6Hint (hint : List (List UInt8))
  | other (key : ℕ) (data : List UInt8)
deriving DecidableEq

def svcbIPv4Hint : ℕ := 4

def svcbIPv6Hint : ℕ := 6

def SVCBKeyValue.key : SVCBKeyValue → ℕ
  | .ipv4Hint _ => svcbIPv4Hint
  | .ipv6Hint _ => svcbIPv6Hint
  | .other key _ => key

inductive RData where
  | a (ip : List UInt8)
  | aaaa (ip : List UInt8)
  | https (priority : ℕ) (target : String) (value : List SVCBKeyValue)
  | soa (minttl : ℕ) (rest : List UInt8)
  | opt (option : List EDNS0)
  | other (data : List UInt8)
deriving DecidableEq

structure RRHeader where
  name : String
  rrtype : ℕ
  rrclass : ℕ
  ttl : ℕ
deriving DecidableEq

structure RR where
  hdr : RRHeader
  data : RData
deriving DecidableEq

structure MsgHdr where
  id : ℕ := 0
  response : Bool := false
  opcode : ℕ := 0
  authoritative : Bool := false
  truncated : Bool := false
  recursionDesired : Bool := false
  recursionAvailable : Bool := false
  zero : Bool := false
  authenticatedData : Bool := false
  checkingDisabled : Bool := false
  rcode : ℕ := rcodeSuccess
deriving DecidableEq

structure Msg where
  hdr : MsgHdr
  question : List Question
  answer : List RR
  ns : List RR
  extra : List RR
deriving DecidableEq

def RR.responseAddresses (record : RR) : List Addr :=
  match record.data with
  | .a ip => (Addr.addrFromIP ip).toList
  | .aaaa ip => (Addr.addrFromIP ip).toList
  | .https _ _ value =>
    value.flatMap fun
      | .ipv4Hint hint => hint.filterMap fun ip => (Addr.addrFromIP ip).map Addr.unmap
      | .ipv6Hint hint => hint.filterMap Addr.addrFromIP
      | .other _ _ => []
  | _ => []

def dnsResponseAddresses (response : Option Msg) : List Addr :=
  match response with
  | none => []
  | some response =>
    if response.hdr.rcode ≠ rcodeSuccess then []
    else response.answer.flatMap RR.responseAddresses

end SingBox

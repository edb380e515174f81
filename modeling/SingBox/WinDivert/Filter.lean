import SingBox.Adapter.Bytes

/-!
# Packet filters of WinDivert

The instructions of a filter test a field of the packet and jump.
-/

namespace SingBox.WinDivert
open List

@[match_pattern] abbrev fieldZero := 0
@[match_pattern] abbrev fieldOutbound := 2
@[match_pattern] abbrev fieldIP := 5
@[match_pattern] abbrev fieldIPv6 := 6
@[match_pattern] abbrev fieldTCP := 8
@[match_pattern] abbrev fieldIPSrcAddr := 21
@[match_pattern] abbrev fieldIPDstAddr := 22
@[match_pattern] abbrev fieldIPv6SrcAddr := 28
@[match_pattern] abbrev fieldIPv6DstAddr := 29
@[match_pattern] abbrev fieldTCPSrcPort := 38
@[match_pattern] abbrev fieldTCPDstPort := 39

def testEQ := 0

def resultAccept := 0x7FFE

def resultReject := 0x7FFF

abbrev Word := BitVec 32

abbrev Words := Word × Word × Word × Word

structure FilterInst where
  field : ℕ
  test : ℕ := testEQ
  success : ℕ := 0
  failure : ℕ := 0
  neg : Bool := false
  arg : Words := (0, 0, 0, 0)

structure Filter where
  insts : List FilterInst := []
  flags : ℕ := 0

structure AddrPort where
  addr : Option Addr
  port : BitVec 16

def argUint32 (v : Word) : Words := (v, 0, 0, 0)

def uint32 (b : List UInt8) : Word := .ofNat 32 (Addr.natOfBytes b)

def argIPv4 (addr : Addr) : Words := (uint32 addr.asSlice, 0xFFFF, 0, 0)

def argIPv6 (addr : Addr) : Words :=
  let b := addr.asSlice
  (uint32 ((b.drop 12).take 4), uint32 ((b.drop 8).take 4), uint32 ((b.drop 4).take 4),
    uint32 (b.take 4))

def add (field : ℕ) (arg : Words) : FilterInst := { field, arg }

def outboundTCP (src dst : AddrPort) : Except String Filter :=
  match src.addr, dst.addr with
  | some a, some b =>
    if a.is4 ≠ b.is4 then .error "windivert: filter: mixed IPv4/IPv6"
    else .ok {
      insts := add fieldOutbound (argUint32 1) :: (if a.is4 then
          [add fieldIP (argUint32 1), add fieldTCP (argUint32 1),
            add fieldIPSrcAddr (argIPv4 a), add fieldIPDstAddr (argIPv4 b)]
        else
          [add fieldIPv6 (argUint32 1), add fieldTCP (argUint32 1),
            add fieldIPv6SrcAddr (argIPv6 a), add fieldIPv6DstAddr (argIPv6 b)]) ++
        [add fieldTCPSrcPort (argUint32 (src.port.setWidth 32)),
          add fieldTCPDstPort (argUint32 (dst.port.setWidth 32))]
      flags := 0x20 ||| if a.is4 then 0x40 else 0x80 }
  | _, _ => .error "windivert: filter: invalid address port"

def putUint32 (word : Word) : List UInt8 := (bytesOfNat 4 word.toNat).reverse

/-- The parts of the first two words do not overlap. -/
def encodeInst (inst : FilterInst) : List UInt8 :=
  [.ofNat 32 (inst.field % 2 ^ 11 + inst.test % 2 ^ 5 * 2 ^ 11 + inst.success % 2 ^ 16 * 2 ^ 16),
    .ofNat 32 (inst.failure % 2 ^ 16 + inst.neg.toNat * 2 ^ 16), inst.arg.1, inst.arg.2.1,
    inst.arg.2.2.1, inst.arg.2.2.2].flatMap putUint32

/-- Each test leads to the next one, and the last one to acceptance. -/
def chain (insts : List FilterInst) : List FilterInst :=
  insts.mapIdx fun i inst => { inst with
    success := if i = insts.length - 1 then resultAccept else i + 1, failure := resultReject }

def Filter.encode (f : Filter) : Except String (List UInt8 × ℕ) :=
  if f.insts = [] then
    .ok (encodeInst { field := fieldZero, success := resultReject, failure := resultReject }, 0)
  else if f.insts.length > 255 then .error "windivert: filter too long"
  else .ok ((chain f.insts).flatMap encodeInst, f.flags)

def readWords : List UInt8 → List Word
  | a :: b :: c :: d :: bytes => uint32 [d, c, b, a] :: readWords bytes
  | _ => []

def decode : List Word → List FilterInst
  | w :: w' :: a :: b :: c :: d :: words =>
    ⟨w.toNat % 2 ^ 11, w.toNat / 2 ^ 11 % 2 ^ 5, w.toNat / 2 ^ 16, w'.toNat % 2 ^ 16,
      w'.toNat / 2 ^ 16 % 2 = 1, a, b, c, d⟩ :: decode words
  | _ => []

/-- The ports are those of a TCP packet. -/
structure Packet where
  outbound : Bool
  src : Addr
  dst : Addr
  ports : Option (BitVec 16 × BitVec 16)

/-- The layouts that the comments of the source describe. -/
def addrWords : Addr → Words
  | .v4 bits => (bits, 0xFFFF, 0, 0)
  | .v6 bits => (bits.extractLsb' 0 32, bits.extractLsb' 32 32, bits.extractLsb' 64 32,
      bits.extractLsb' 96 32)

def flagWords (flag : Bool) : Words := argUint32 (if flag then 1 else 0)

/-- Some fields exist only in some packets. -/
def Packet.value (p : Packet) : ℕ → Option Words
  | fieldZero => some (argUint32 0)
  | fieldOutbound => some (flagWords p.outbound)
  | fieldIP => some (flagWords p.src.is4)
  | fieldIPv6 => some (flagWords p.src.is6)
  | fieldTCP => some (flagWords p.ports.isSome)
  | fieldIPSrcAddr => if p.src.is4 then some (addrWords p.src) else none
  | fieldIPDstAddr => if p.dst.is4 then some (addrWords p.dst) else none
  | fieldIPv6SrcAddr => if p.src.is6 then some (addrWords p.src) else none
  | fieldIPv6DstAddr => if p.dst.is6 then some (addrWords p.dst) else none
  | fieldTCPSrcPort => p.ports.map fun ports => argUint32 (ports.1.setWidth 32)
  | fieldTCPDstPort => p.ports.map fun ports => argUint32 (ports.2.setWidth 32)
  | _ => none

def FilterInst.holds (inst : FilterInst) (p : Packet) : Bool :=
  (inst.test = testEQ ∧ p.value inst.field = some inst.arg) != inst.neg

def run (insts : List FilterInst) (p : Packet) : ℕ → ℕ → Option Bool
  | 0, _ => none
  | fuel + 1, i =>
    if i = resultAccept then some true
    else if i = resultReject then some false
    else insts[i]?.bind fun inst =>
      run insts p fuel (if inst.holds p then inst.success else inst.failure)

/-- With enough fuel the program of the filter accepts exactly these packets. -/
def Filter.Accepts (f : Filter) (ok : Packet → Prop) : Prop :=
  ∃ bytes flags, f.encode = .ok (bytes, flags) ∧ ∀ p, ∃ accepts : Bool, (accepts ↔ ok p) ∧
    ∀ fuel, f.insts.length + 2 ≤ fuel → run (decode (readWords bytes)) p fuel 0 = some accepts

variable {inst : FilterInst} {insts : List FilterInst} {p : Packet}

lemma uint32_bytesOfNat (n : ℕ) : uint32 (bytesOfNat 4 n) = .ofNat 32 n := by
  simp [uint32, natOfBytes_bytesOfNat, BitVec.toNat_eq]

lemma readWords_append (word : Word) (bytes : List UInt8) :
    readWords (putUint32 word ++ bytes) = word :: readWords bytes :=
  congrArg (· :: _) ((uint32_bytesOfNat word.toNat).trans (by simp))

/-- The parts of the instruction have the widths that are used. -/
def FilterInst.Fits (inst : FilterInst) : Prop :=
  inst.field < 2 ^ 11 ∧ inst.test < 2 ^ 5 ∧ inst.success < 2 ^ 16 ∧ inst.failure < 2 ^ 16

lemma decode_append (h : inst.Fits) (bytes : List UInt8) :
    decode (readWords (encodeInst inst ++ bytes)) = inst :: decode (readWords bytes) := by
  obtain ⟨field, test, success, failure, neg, a, b, c, d⟩ := inst
  simp only [encodeInst, flatMap_cons, flatMap_nil, append_assoc, nil_append, readWords_append,
    decode, BitVec.toNat_ofNat, FilterInst.Fits] at *
  have hneg := neg.toNat_le
  congr 2 <;> try omega
  cases neg <;> simp <;> omega

lemma decode_flatMap (h : ∀ inst ∈ insts, inst.Fits) :
    decode (readWords (insts.flatMap encodeInst)) = insts := by
  induction insts with
  | nil => rfl
  | cons inst insts ih =>
    obtain ⟨hinst, h⟩ := forall_mem_cons.1 h
    rw [flatMap_cons, decode_append hinst, ih h]

/-- The tests are made one after the other, from the one at `i` on. -/
lemma run_chain (hlen : insts.length ≤ 255) {i fuel : ℕ} (hi : i < insts.length)
    (hfuel : insts.length + 2 ≤ fuel + i) :
    run (chain insts) p fuel i = some ((insts.drop i).all (·.holds p)) := by
  induction fuel generalizing i with
  | zero => omega
  | succ fuel ih =>
    obtain ⟨fuel, rfl⟩ := Nat.exists_eq_add_of_le' (show 1 ≤ fuel by omega)
    have hget : (chain insts)[i]? = some { insts[i] with
        success := if i = insts.length - 1 then resultAccept else i + 1
        failure := resultReject } := by simp [chain, hi]
    have haccept : i ≠ resultAccept := show i ≠ 0x7FFE by omega
    have hreject : i ≠ resultReject := show i ≠ 0x7FFF by omega
    rw [run, if_neg haccept, if_neg hreject, hget, drop_eq_getElem_cons hi, all_cons]
    show run (chain insts) p (fuel + 1) (if insts[i].holds p then
      if i = insts.length - 1 then resultAccept else i + 1 else resultReject) = _
    cases insts[i].holds p with
    | false => rfl
    | true =>
      rw [if_pos rfl, Bool.true_and]
      split_ifs with hlast
      · rw [drop_of_length_le (by omega)]
        rfl
      · exact ih (by omega) (by omega)

lemma Filter.accepts {f : Filter} {ok : Packet → Prop} (hne : f.insts ≠ [])
    (hlen : f.insts.length ≤ 255)
    (hfits : ∀ inst ∈ f.insts, inst.field < 2 ^ 11 ∧ inst.test < 2 ^ 5)
    (hok : ∀ p, (∀ inst ∈ f.insts, inst.holds p) ↔ ok p) : f.Accepts ok := by
  have hdecode : decode (readWords ((chain f.insts).flatMap encodeInst)) = chain f.insts := by
    refine decode_flatMap fun inst hinst => ?_
    obtain ⟨i, hi, rfl⟩ := mem_mapIdx.1 hinst
    obtain ⟨hfield, htest⟩ := hfits _ (getElem_mem hi)
    refine ⟨hfield, htest, ?_, show resultReject < 2 ^ 16 by decide⟩
    dsimp only [resultAccept]
    split_ifs <;> omega
  refine ⟨_, _, (if_neg hne).trans (if_neg (by omega)), fun p =>
    ⟨f.insts.all (·.holds p), by rw [all_eq_true, hok], fun fuel hfuel => ?_⟩⟩
  rw [hdecode, run_chain hlen (length_pos_iff.2 hne) hfuel, drop_zero]

lemma holds_add {field : ℕ} {arg : Words} :
    (add field arg).holds p ↔ p.value field = some arg := by simp [FilterInst.holds, add]

lemma flagWords_eq (flag : Bool) : flagWords flag = argUint32 1#32 ↔ flag := by
  cases flag <;> decide

lemma setWidth_eq {a b : BitVec 16} :
    argUint32 (a.setWidth 32) = argUint32 (b.setWidth 32) ↔ a = b := by
  simp only [argUint32, Prod.mk.injEq, and_true, BitVec.toNat_eq, BitVec.toNat_setWidth]
  omega

lemma addrWords_v4 {addr : Addr} {a : BitVec 32} :
    addr.is4 ∧ addrWords addr = argIPv4 (.v4 a) ↔ addr = .v4 a := by
  cases addr <;> simp [addrWords, argIPv4, Addr.asSlice, Addr.is4, uint32_bytesOfNat]

lemma bytesOfNat_add (width k n : ℕ) :
    bytesOfNat (width + k) n = bytesOfNat width (n / 256 ^ k) ++ bytesOfNat k n := by
  induction width with
  | zero => simp [bytesOfNat]
  | succ width ih =>
    rw [add_right_comm, bytesOfNat, ih, bytesOfNat, Nat.div_div_eq_div_mul, ← pow_add,
      add_comm k, cons_append]

lemma addrWords_v6 {addr : Addr} {a : BitVec 128} :
    addr.is6 ∧ addrWords addr = argIPv6 (.v6 a) ↔ addr = .v6 a := by
  have hbytes : bytesOfNat 16 a.toNat = bytesOfNat 4 (a.toNat / 256 ^ 12) ++
      (bytesOfNat 4 (a.toNat / 256 ^ 8) ++
        (bytesOfNat 4 (a.toNat / 256 ^ 4) ++ bytesOfNat 4 a.toNat)) := by
    rw [← bytesOfNat_add, ← bytesOfNat_add 4 8, ← bytesOfNat_add 4 12]
  have harg : argIPv6 (.v6 a) = addrWords (.v6 a) := by
    simp only [argIPv6, Addr.asSlice, hbytes, addrWords]
    simp [drop_append, drop_of_length_le, take_of_length_le, uint32_bytesOfNat, BitVec.toNat_eq,
      Nat.shiftRight_eq_div_pow]
  rw [harg]
  cases addr <;> simp [addrWords, Addr.is6, Addr.is4, BitVec.toNat_eq, Nat.shiftRight_eq_div_pow]
  omega

/-- The packet is an outbound one of a TCP connection with these endpoints. -/
def Packet.Outbound (p : Packet) (src dst : Addr) (ports : BitVec 16 × BitVec 16) : Prop :=
  p.outbound ∧ p.src = src ∧ p.dst = dst ∧ p.ports = some ports

/-- For every pair of IPv4 or of IPv6 endpoints. The empty filter accepts nothing. -/
theorem outboundTCP_accepts (srcPort dstPort : BitVec 16) :
    (∀ src dst, ∃ f, outboundTCP ⟨some (.v4 src), srcPort⟩ ⟨some (.v4 dst), dstPort⟩ = .ok f ∧
      f.Accepts (·.Outbound (.v4 src) (.v4 dst) (srcPort, dstPort))) ∧
    (∀ src dst, ∃ f, outboundTCP ⟨some (.v6 src), srcPort⟩ ⟨some (.v6 dst), dstPort⟩ = .ok f ∧
      f.Accepts (·.Outbound (.v6 src) (.v6 dst) (srcPort, dstPort))) ∧
    ({} : Filter).Accepts fun _ => False := by
  refine ⟨fun src dst => ⟨_, rfl, ?_⟩, fun src dst => ⟨_, rfl, ?_⟩, ?_⟩
  · have h4 : (Addr.v4 src).is4 := rfl
    refine Filter.accepts (by simp) (by simp [h4]) (by simp +decide [add, h4]) fun p => ?_
    simp [holds_add, h4, Packet.value, flagWords_eq, addrWords_v4, setWidth_eq, Packet.Outbound]
    grind
  · have h4 : (Addr.v6 src).is4 = false := rfl
    have h6 : (Addr.v6 src).is6 := rfl
    refine Filter.accepts (by simp) (by simp [h4]) (by simp +decide [add, h4]) fun p => ?_
    simp [holds_add, h4, Packet.value, flagWords_eq, addrWords_v6, setWidth_eq, Packet.Outbound]
    grind
  · refine ⟨_, _, rfl, fun p => ⟨false, by simp, fun fuel hfuel => ?_⟩⟩
    obtain ⟨fuel, rfl⟩ := Nat.exists_eq_add_of_le' hfuel
    rw [← append_nil (encodeInst _), decode_append (by unfold FilterInst.Fits; decide)]
    simp [run, resultAccept, resultReject]

end SingBox.WinDivert

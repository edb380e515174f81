import SingBox.Lib.Codec
import SingBox.Option.RuleSet

/-!
# The binary format of rule-sets

Magic bytes, a version, and the compressed rules. The compression and other libraries are
parameters. The readers of rules have the length of the input as fuel.
-/

namespace SingBox.Srs
open Codec Options

structure Library extends DomainLibrary, IPLibrary where
  writeMatcher : Matcher → Except String (List UInt8)
  readMatcher : Reader Matcher
  dump : Matcher → List GoString × List GoString
  writeAdGuardMatcher : AdGuardMatcher → Except String (List UInt8)
  readAdGuardMatcher : Reader AdGuardMatcher
  dumpAdGuard : AdGuardMatcher → List GoString
  compress : List UInt8 → List UInt8
  decompress : List UInt8 → Except String (List UInt8)
  prefixes : IPSet → List GoString

/-! ### Items -/

inductive RuleItemType where
  | queryType
  | network
  | domain
  | domainKeyword
  | domainRegex
  | sourceIPCIDR
  | ipCIDR
  | sourcePort
  | sourcePortRange
  | port
  | portRange
  | processName
  | processPath
  | packageName
  | wifiSSID
  | wifiBSSID
  | adGuardDomain
  | processPathRegex
  | networkType
  | networkIsExpensive
  | networkIsConstrained
  | networkInterfaceAddress
  | defaultInterfaceAddress
  | packageNameRegex
  | final
deriving DecidableEq

namespace RuleItemType

def toByte : RuleItemType → UInt8
  | queryType => 0
  | network => 1
  | domain => 2
  | domainKeyword => 3
  | domainRegex => 4
  | sourceIPCIDR => 5
  | ipCIDR => 6
  | sourcePort => 7
  | sourcePortRange => 8
  | port => 9
  | portRange => 10
  | processName => 11
  | processPath => 12
  | packageName => 13
  | wifiSSID => 14
  | wifiBSSID => 15
  | adGuardDomain => 16
  | processPathRegex => 17
  | networkType => 18
  | networkIsExpensive => 19
  | networkIsConstrained => 20
  | networkInterfaceAddress => 21
  | defaultInterfaceAddress => 22
  | packageNameRegex => 23
  | final => 0xFF

def all : List RuleItemType :=
  [queryType, network, domain, domainKeyword, domainRegex, sourceIPCIDR, ipCIDR, sourcePort,
    sourcePortRange, port, portRange, processName, processPath, packageName, wifiSSID, wifiBSSID,
    adGuardDomain, processPathRegex, networkType, networkIsExpensive, networkIsConstrained,
    networkInterfaceAddress, defaultInterfaceAddress, packageNameRegex, final]

def ofByte (byte : UInt8) : Option RuleItemType := all.find? (·.toByte = byte)

end RuleItemType

open RuleItemType
variable (lib : Library)

abbrev DefaultRule := DefaultHeadlessRule lib.Matcher lib.AdGuardMatcher

abbrev Rule := Options.HeadlessRule lib.Matcher lib.AdGuardMatcher

def unwrapped (_ : ℕ) (error : String) : String := error

def readRuleItemString : Reader (List GoString) := do
  let length ← readUvarint
  readMany unwrapped readBytes length 0

variable (itemType : RuleItemType) (name : String) (value : List GoString)

def writeRuleItemString : List UInt8 :=
  itemType.toByte :: (writeUvarint value.length ++ value.flatMap writeBytes)

def readRuleItemUint8 : Reader (List UInt8) := do
  let length ← readUvarint
  readFull length

def writeRuleItemUint8 (value : List UInt8) : List UInt8 :=
  itemType.toByte :: (writeUvarint value.length ++ value)

def uint16s : List UInt8 → List UInt16
  | high :: low :: rest => UInt16.ofNat (high.toNat * 256 + low.toNat) :: uint16s rest
  | _ => []

def uint16Bytes (n : UInt16) : List UInt8 := [UInt8.ofNat (n.toNat / 256), UInt8.ofNat n.toNat]

def readRuleItemUint16 : Reader (List UInt16) := do
  let length ← readUvarint
  let bytes ← readFull (2 * length)
  return uint16s bytes

def writeRuleItemUint16 (value : List UInt16) : List UInt8 :=
  itemType.toByte :: (writeUvarint value.length ++ value.flatMap uint16Bytes)

def asSlice : Option Addr → List UInt8
  | none => []
  | some address => address.asSlice

def readPrefix : Reader Prefixable := do
  let address ← readBytes
  let prefixBits ← readByte
  return Prefixable.prefixFrom (Addr.addrFromIP address) prefixBits.toNat

/-- The length of a prefix that is not valid is `-1`. -/
def bitsByte : Option ℕ → UInt8
  | none => 255
  | some bits => UInt8.ofNat bits

def writePrefix (p : Prefixable) : List UInt8 := writeBytes (asSlice p.addr) ++ [bitsByte p.bits]

def readPrefixes : Reader (List (Option Prefixable)) := do
  let prefixCount ← readUvarint
  let prefixes ← readMany unwrapped readPrefix prefixCount 0
  return prefixes.map some

def writePrefixes (value : List (Option Prefixable)) : List UInt8 :=
  writeUvarint value.length ++ value.flatMap fun p => writePrefix (.build p)

def readInterfaceAddress : Reader (UInt8 × List (Option Prefixable)) := do
  let key ← readByte
  let value ← readPrefixes
  return (key, value)

def writeInterfaceAddress (entry : UInt8 × List (Option Prefixable)) : List UInt8 :=
  entry.1 :: writePrefixes entry.2

def readInterfaceAddresses : Reader (OrderedMap UInt8 (List (Option Prefixable))) := do
  let size ← readUvarint
  let entries ← readMany unwrapped readInterfaceAddress size 0
  return .putAll {} entries

def writeInterfaceAddresses (entries : List (UInt8 × List (Option Prefixable))) : List UInt8 :=
  writeUvarint entries.length ++ entries.flatMap writeInterfaceAddress

def readUint64 : Reader ℕ := do
  let bytes ← readFull 8
  return Addr.natOfBytes bytes

def readIPRange : Reader (Option Addr × Option Addr) := do
  let fromBytes ← readBytes
  let toBytes ← readBytes
  return (Addr.addrFromIP fromBytes, Addr.addrFromIP toBytes)

def writeIPRange (range : Option Addr × Option Addr) : List UInt8 :=
  writeBytes (asSlice range.1) ++ writeBytes (asSlice range.2)

def readIPSet : Reader IPSet := do
  let version ← readByte
  if version ≠ 1 then fail "invalid argument"
  else
    let length ← readUint64
    readMany unwrapped readIPRange length 0

def writeIPSet (set : IPSet) : List UInt8 :=
  1 :: (bytesOfNat 8 set.length ++ set.flatMap writeIPRange)

def writeRuleItemCIDR : Except String (List UInt8) :=
  match lib.ipSetOf value with
  | .ok set => .ok (itemType.toByte :: writeIPSet set)
  | .error error => .error (name ++ ": " ++ error)

/-! ### Default rules -/

def optional (present : Bool) (write : Except String (List UInt8)) : Except String (List UInt8) :=
  if present then write else .ok []

/-- Write an item that older versions of the format do not have. -/
def since (minimum version : ℕ) (error : String) (bytes : Except String (List UInt8)) :
    Except String (List UInt8) :=
  if version < minimum then .error error else bytes

def unsupportedItem (minimum : ℕ) : String :=
  "`" ++ name ++ "` rule item is only supported in version " ++ toString minimum ++ " or later"

variable (recover : Bool) (rule : DefaultRule lib) (version : ℕ)

def ruleItems : List (Except String (List UInt8)) :=
  [optional (rule.queryType ≠ []) (.ok (writeRuleItemUint16 .queryType rule.queryType)),
    optional (rule.network ≠ []) (.ok (writeRuleItemString .network rule.network)),
    optional (rule.domain ≠ [] ∨ rule.domainSuffix ≠ [])
      ((lib.writeMatcher (lib.newMatcher rule.domain rule.domainSuffix
        (version = ruleSetVersion1))).map (domain.toByte :: ·)),
    optional (rule.domainKeyword ≠ [])
      (.ok (writeRuleItemString .domainKeyword rule.domainKeyword)),
    optional (rule.domainRegex ≠ []) (.ok (writeRuleItemString .domainRegex rule.domainRegex)),
    optional (rule.sourceIPCIDR ≠ [])
      (writeRuleItemCIDR lib .sourceIPCIDR "source_ip_cidr" rule.sourceIPCIDR),
    optional (rule.ipCIDR ≠ []) (writeRuleItemCIDR lib .ipCIDR "ipcidr" rule.ipCIDR),
    optional (rule.sourcePort ≠ []) (.ok (writeRuleItemUint16 .sourcePort rule.sourcePort)),
    optional (rule.sourcePortRange ≠ [])
      (.ok (writeRuleItemString .sourcePortRange rule.sourcePortRange)),
    optional (rule.port ≠ []) (.ok (writeRuleItemUint16 .port rule.port)),
    optional (rule.portRange ≠ []) (.ok (writeRuleItemString .portRange rule.portRange)),
    optional (rule.processName ≠ []) (.ok (writeRuleItemString .processName rule.processName)),
    optional (rule.processPath ≠ []) (.ok (writeRuleItemString .processPath rule.processPath)),
    optional (rule.processPathRegex ≠ [])
      (.ok (writeRuleItemString .processPathRegex rule.processPathRegex)),
    optional (rule.packageName ≠ []) (.ok (writeRuleItemString .packageName rule.packageName)),
    optional (rule.packageNameRegex ≠ [])
      (since ruleSetVersion5 version (unsupportedItem "package_name_regex" 5)
        (.ok (writeRuleItemString .packageNameRegex rule.packageNameRegex))),
    optional (rule.networkType ≠ [])
      (since ruleSetVersion3 version (unsupportedItem "network_type" 3)
        (.ok (writeRuleItemUint8 .networkType rule.networkType))),
    optional rule.networkIsExpensive
      (since ruleSetVersion3 version (unsupportedItem "network_is_expensive" 3)
        (.ok [networkIsExpensive.toByte])),
    optional rule.networkIsConstrained
      (since ruleSetVersion3 version (unsupportedItem "network_is_constrained" 3)
        (.ok [networkIsConstrained.toByte])),
    optional (entriesOf rule.networkInterfaceAddress ≠ [])
      (since ruleSetVersion4 version (unsupportedItem "network_interface_address" 4)
        (.ok (networkInterfaceAddress.toByte ::
          writeInterfaceAddresses (entriesOf rule.networkInterfaceAddress)))),
    optional (rule.defaultInterfaceAddress ≠ [])
      (since ruleSetVersion4 version (unsupportedItem "default_interface_address" 4)
        (.ok (defaultInterfaceAddress.toByte :: writePrefixes rule.defaultInterfaceAddress))),
    optional (rule.wifiSSID ≠ []) (.ok (writeRuleItemString .wifiSSID rule.wifiSSID)),
    optional (rule.wifiBSSID ≠ []) (.ok (writeRuleItemString .wifiBSSID rule.wifiBSSID)),
    optional (rule.adGuardDomain ≠ []) (since ruleSetVersion2 version
        "AdGuard rule items is only supported in version 2 or later"
        ((lib.writeAdGuardMatcher (lib.newAdGuardMatcher rule.adGuardDomain)).map
          (adGuardDomain.toByte :: ·)))]

def writeAll : List (Except String (List UInt8)) → Except String (List UInt8)
  | [] => .ok []
  | part :: parts => part.bind fun bytes => (writeAll parts).map (bytes ++ ·)

def writeDefaultRule : Except String (List UInt8) :=
  (writeAll (ruleItems lib rule version)).map fun items =>
    0 :: (items ++ [final.toByte, writeBool rule.invert])

def readItem : RuleItemType → Reader (DefaultRule lib)
  | .queryType => do return { rule with queryType := ← readRuleItemUint16 }
  | .network => do return { rule with network := ← readRuleItemString }
  | .domain => do
    let matcher ← lib.readMatcher
    return { rule with
      domainMatcher := some matcher
      domain := if recover then (lib.dump matcher).1 else rule.domain
      domainSuffix := if recover then (lib.dump matcher).2 else rule.domainSuffix }
  | .domainKeyword => do return { rule with domainKeyword := ← readRuleItemString }
  | .domainRegex => do return { rule with domainRegex := ← readRuleItemString }
  | .sourceIPCIDR => do
    let set ← readIPSet
    return { rule with
      sourceIPSet := some set
      sourceIPCIDR := if recover then lib.prefixes set else rule.sourceIPCIDR }
  | .ipCIDR => do
    let set ← readIPSet
    return { rule with
      ipSet := some set, ipCIDR := if recover then lib.prefixes set else rule.ipCIDR }
  | .sourcePort => do return { rule with sourcePort := ← readRuleItemUint16 }
  | .sourcePortRange => do return { rule with sourcePortRange := ← readRuleItemString }
  | .port => do return { rule with port := ← readRuleItemUint16 }
  | .portRange => do return { rule with portRange := ← readRuleItemString }
  | .processName => do return { rule with processName := ← readRuleItemString }
  | .processPath => do return { rule with processPath := ← readRuleItemString }
  | .processPathRegex => do return { rule with processPathRegex := ← readRuleItemString }
  | .packageName => do return { rule with packageName := ← readRuleItemString }
  | .packageNameRegex => do return { rule with packageNameRegex := ← readRuleItemString }
  | .wifiSSID => do return { rule with wifiSSID := ← readRuleItemString }
  | .wifiBSSID => do return { rule with wifiBSSID := ← readRuleItemString }
  | .adGuardDomain => do
    let matcher ← lib.readAdGuardMatcher
    return { rule with
      adGuardDomainMatcher := some matcher
      adGuardDomain := if recover then lib.dumpAdGuard matcher else rule.adGuardDomain }
  | .networkType => do return { rule with networkType := ← readRuleItemUint8 }
  | .networkIsExpensive => return { rule with networkIsExpensive := true }
  | .networkIsConstrained => return { rule with networkIsConstrained := true }
  | .networkInterfaceAddress => do
    let map ← readInterfaceAddresses
    return { rule with networkInterfaceAddress := some map }
  | .defaultInterfaceAddress => do return { rule with defaultInterfaceAddress := ← readPrefixes }
  | .final => return rule

def readItems (recover : Bool) : ℕ → DefaultRule lib → UInt8 → Reader (DefaultRule lib)
  | 0, _, _ => fail "EOF"
  | fuel + 1, rule, lastItemType => do
    let itemType ← readByte
    match ofByte itemType with
    | none =>
      fail ("unknown rule item type: " ++ toString itemType.toNat ++ ", last type: " ++
        toString lastItemType.toNat)
    | some .final => do return { rule with invert := ← readBool }
    | some item => do
      let rule ← readItem lib recover rule item
      readItems recover fuel rule itemType

def readDefaultRule : Reader (DefaultRule lib) := fun input =>
  readItems lib recover input.length {} 0 input

/-! ### All rules -/

def modeByte : LogicalMode → UInt8
  | .and => 0
  | .or => 1

def readMode : Reader LogicalMode := do
  let mode ← readByte
  if mode = 0 then return .and
  else if mode = 1 then return .or
  else fail ("unknown logical mode: " ++ toString mode.toNat)

mutual

def writeRule (version : ℕ) : Rule lib → Except String (List UInt8)
  | .default options => writeDefaultRule lib options version
  | .logical mode rules invert =>
    (writeRules version rules).map fun bytes =>
      1 :: modeByte mode :: (writeUvarint rules.length ++ (bytes ++ [writeBool invert]))

def writeRules (version : ℕ) : List (Rule lib) → Except String (List UInt8)
  | [] => .ok []
  | rule :: rules =>
    (writeRule version rule).bind fun bytes => (writeRules version rules).map (bytes ++ ·)

end

def readLogicalRule (readRule : Reader (Rule lib)) : Reader (Rule lib) := do
  let mode ← readMode
  let length ← readUvarint
  let rules ← readMany (fun i error => "read logical rule [" ++ toString i ++ "]: " ++ error)
    readRule length 0
  let invert ← readBool
  return .logical mode rules invert

def readRule (recover : Bool) : ℕ → Reader (Rule lib)
  | 0 => fail "EOF"
  | fuel + 1 => do
    let ruleType ← readByte
    if ruleType = 0 then return .default (← readDefaultRule lib recover)
    else if ruleType = 1 then readLogicalRule lib (readRule recover fuel)
    else fail ("unknown rule type: " ++ toString ruleType.toNat)

def readRules (fuel : ℕ) : Reader (List (Rule lib)) := do
  let length ← readUvarint
  readMany (fun i error => "read rule[" ++ toString i ++ "]: " ++ error)
    (readRule lib recover fuel) length 0

def magicBytes : List UInt8 := [0x53, 0x52, 0x53]

def write (ruleSet : PlainRuleSet lib.Matcher lib.AdGuardMatcher) (version : UInt8) :
    Except String (List UInt8) :=
  (writeRules lib version.toNat ruleSet.rules).map fun bytes =>
    magicBytes ++ version :: lib.compress (writeUvarint ruleSet.rules.length ++ bytes)

def read (input : List UInt8) :
    Except String (PlainRuleSetCompat lib.Matcher lib.AdGuardMatcher) := do
  let (magic, input) ← readFull 3 input
  if magic ≠ magicBytes then throw "invalid sing-box rule-set file"
  let (version, input) ← readByte input
  if ruleSetVersionCurrent < version.toNat then
    throw ("unsupported version: " ++ toString version.toNat)
  let content ← lib.decompress input
  let (rules, _) ← readRules lib recover content.length content
  return ⟨version.toNat, ⟨rules⟩⟩

end SingBox.Srs

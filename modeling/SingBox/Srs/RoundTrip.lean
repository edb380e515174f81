import SingBox.Srs.Items

/-!
# Rule-sets are read back

A rule without sub-rules is a sequence of chunks, each of which changes one part of the rule that is
read. So each kind of chunk is read back by itself, then the sequence, then trees of rules.
-/

namespace SingBox.Srs
open Codec Options RuleItemType

/-- The formats of the libraries are read back. An IP set is a list. -/
structure Library.RoundTrips (lib : Library) : Prop where
  decompress_compress : ∀ content, lib.decompress (lib.compress content) = .ok content
  decodes_readMatcher : ∀ matcher bytes,
    lib.writeMatcher matcher = .ok bytes → Decodes lib.readMatcher bytes matcher
  decodes_readAdGuardMatcher : ∀ matcher bytes,
    lib.writeAdGuardMatcher matcher = .ok bytes → Decodes lib.readAdGuardMatcher bytes matcher
  length_buildIPSet : ∀ elements set, lib.buildIPSet elements = .ok set → set.length < 2 ^ 63

/-! ### What is read back -/

variable (lib : Library)

def matcherOf (version : ℕ) (rule : DefaultRule lib) : Option lib.Matcher :=
  if rule.domain ≠ [] ∨ rule.domainSuffix ≠ [] then
    some (lib.newMatcher rule.domain rule.domainSuffix (version = ruleSetVersion1))
  else none

def adGuardMatcherOf (rule : DefaultRule lib) : Option lib.AdGuardMatcher :=
  if rule.adGuardDomain ≠ [] then some (lib.newAdGuardMatcher rule.adGuardDomain) else none

def setOf (value : List GoString) : Option IPSet :=
  if value = [] then none else (lib.ipSetOf value).toOption

def SameSet (value : List GoString) : Option IPSet → Prop
  | none => value = []
  | some set => value ≠ [] ∧ lib.ipSetOf value = .ok set

def recovered {α : Type} (recover : Bool) (decoded : Option α) (list : α → List GoString)
    (old : List GoString) : List GoString :=
  match decoded with
  | none => old
  | some a => if recover then list a else old

/-- Its matchers and IP sets, or the lists recovered from them. -/
structure SameDefaultRule (recover : Bool) (version : ℕ) (rule rule' : DefaultRule lib) : Prop where
  queryType : rule'.queryType = rule.queryType
  network : rule'.network = rule.network
  domainMatcher : rule'.domainMatcher = matcherOf lib version rule
  domain : rule'.domain = recovered recover rule'.domainMatcher (fun m => (lib.dump m).1) []
  domainSuffix :
    rule'.domainSuffix = recovered recover rule'.domainMatcher (fun m => (lib.dump m).2) []
  domainKeyword : rule'.domainKeyword = rule.domainKeyword
  domainRegex : rule'.domainRegex = rule.domainRegex
  sourceIPSet : SameSet lib rule.sourceIPCIDR rule'.sourceIPSet
  sourceIPCIDR : rule'.sourceIPCIDR = recovered recover rule'.sourceIPSet lib.prefixes []
  ipSet : SameSet lib rule.ipCIDR rule'.ipSet
  ipCIDR : rule'.ipCIDR = recovered recover rule'.ipSet lib.prefixes []
  sourcePort : rule'.sourcePort = rule.sourcePort
  sourcePortRange : rule'.sourcePortRange = rule.sourcePortRange
  port : rule'.port = rule.port
  portRange : rule'.portRange = rule.portRange
  processName : rule'.processName = rule.processName
  processPath : rule'.processPath = rule.processPath
  processPathRegex : rule'.processPathRegex = rule.processPathRegex
  packageName : rule'.packageName = rule.packageName
  packageNameRegex : rule'.packageNameRegex = rule.packageNameRegex
  networkType : rule'.networkType = rule.networkType
  networkIsExpensive : rule'.networkIsExpensive = rule.networkIsExpensive
  networkIsConstrained : rule'.networkIsConstrained = rule.networkIsConstrained
  networkInterfaceAddress :
    entriesOf rule'.networkInterfaceAddress = builtEntries (entriesOf rule.networkInterfaceAddress)
  defaultInterfaceAddress : rule'.defaultInterfaceAddress = built rule.defaultInterfaceAddress
  wifiSSID : rule'.wifiSSID = rule.wifiSSID
  wifiBSSID : rule'.wifiBSSID = rule.wifiBSSID
  adGuardDomainMatcher : rule'.adGuardDomainMatcher = adGuardMatcherOf lib rule
  adGuardDomain :
    rule'.adGuardDomain = recovered recover rule'.adGuardDomainMatcher lib.dumpAdGuard []
  invert : rule'.invert = rule.invert

/-- The same tree, with the same rules without sub-rules. -/
inductive SameRule (recover : Bool) (version : ℕ) : Rule lib → Rule lib → Prop where
  | default {rule rule' : DefaultRule lib} (h : SameDefaultRule lib recover version rule rule') :
      SameRule recover version (.default rule) (.default rule')
  | logical {rules rules' : List (Rule lib)} (mode : LogicalMode) (invert : Bool)
      (h : List.Forall₂ (SameRule recover version) rules rules') :
      SameRule recover version (.logical mode rules invert) (.logical mode rules' invert)

/-! ### Single items -/

variable {lib} {recover : Bool}

/-- It has no bytes and changes nothing, or it is an item. -/
def Reads (recover : Bool) (chunk : List UInt8) (f : DefaultRule lib → DefaultRule lib) : Prop :=
  (chunk = [] ∧ ∀ rule, f rule = rule) ∨
    ∃ item payload, chunk = toByte item :: payload ∧ item ≠ .final ∧
      ∀ rule, Decodes (readItem lib recover rule item) payload (f rule)

variable {item : RuleItemType}

lemma readItems_item (h : item ≠ .final) (fuel : ℕ)
    (rule : DefaultRule lib) (last : UInt8) (input : List UInt8) :
    readItems lib recover (fuel + 1) rule last (item.toByte :: input) =
    (readItem lib recover rule item >>= fun rule =>
        readItems lib recover fuel rule item.toByte) input := by
  cases item with
  | final => exact absurd rfl h
  | _ => rfl

lemma decodes_readItems {chunks : List (List UInt8)}
    {changes : List (DefaultRule lib → DefaultRule lib)}
    (h : List.Forall₂ (Reads recover) chunks changes) (invert : Bool) {fuel : ℕ}
    (hfuel : chunks.flatten.length < fuel) (rule : DefaultRule lib) (last : UInt8) :
    Decodes (readItems lib recover fuel rule last)
    (chunks.flatten ++ [final.toByte, writeBool invert])
    { changes.foldl (fun rule f => f rule) rule with invert := invert } := by
  induction h generalizing fuel rule last with
  | nil =>
    obtain ⟨fuel, rfl⟩ : ∃ k, fuel = k + 1 := ⟨fuel - 1, by omega⟩
    exact (decodes_readBool invert).bind_pure fun invert => { rule with invert := invert }
  | @cons chunk f chunks changes hchunk hrest ih =>
    rw [List.flatten_cons] at hfuel ⊢
    rcases hchunk with ⟨rfl, hsame⟩ | ⟨item, payload, rfl, hitem, hdec⟩
    · rw [List.foldl_cons, hsame]
      exact ih hfuel rule last
    · obtain ⟨fuel, rfl⟩ : ∃ k, fuel = k + 1 := ⟨fuel - 1, by omega⟩
      have hfuel' : chunks.flatten.length < fuel := by
        simp only [List.cons_append, List.length_cons, List.length_append] at hfuel
        omega
      have hnext : Decodes (readItem lib recover rule item >>= fun rule =>
            readItems lib recover fuel rule item.toByte)
          (payload ++ (chunks.flatten ++ [final.toByte, writeBool invert]))
          { (f :: changes).foldl (fun rule f => f rule) rule with invert := invert } :=
        (hdec rule).bind (ih hfuel' (f rule) item.toByte)
      intro rest
      rw [List.append_assoc, List.append_assoc, List.cons_append, readItems_item hitem,
        ← List.append_assoc chunks.flatten, ← List.append_assoc payload]
      exact hnext rest

variable {bytes : List UInt8} {α : Type} {minimum version : ℕ} {error name : String}
  {present : Bool}

lemma writeAll_eq_ok {parts : List (Except String (List UInt8))} (h : writeAll parts = .ok bytes) :
    ∃ chunks, parts = chunks.map .ok ∧ bytes = List.flatten chunks := by
  induction parts generalizing bytes with
  | nil =>
    cases h
    exact ⟨[], rfl, rfl⟩
  | cons part parts ih =>
    obtain ⟨chunk, rfl, h⟩ := bind_eq_ok h
    obtain ⟨bytes', hparts, rfl⟩ := map_eq_ok h
    obtain ⟨chunks, rfl, rfl⟩ := ih hparts
    exact ⟨chunk :: chunks, rfl, rfl⟩

def given {α : Type} (value : List α) : Option (List α) := if value = [] then none else some value

lemma getD_given (value : List α) : (given value).getD [] = value := by
  rw [given]
  split_ifs with h
  · exact h.symm
  · rfl

def mapOf (entries : List (UInt8 × List (Option Prefixable))) :
    Option (OrderedMap UInt8 (List (Option Prefixable))) :=
  if entries = [] then none else some (.putAll {} (builtEntries entries))

def itemChanges (recover : Bool) (version : ℕ) (rule : DefaultRule lib) :
    List (DefaultRule lib → DefaultRule lib) :=
  [fun r => { r with queryType := (given rule.queryType).getD r.queryType },
    fun r => { r with network := (given rule.network).getD r.network },
    fun r => { r with
      domainMatcher := (matcherOf lib version rule).or r.domainMatcher
      domain := recovered recover (matcherOf lib version rule) (fun m => (lib.dump m).1) r.domain
      domainSuffix :=
        recovered recover (matcherOf lib version rule) (fun m => (lib.dump m).2) r.domainSuffix },
    fun r => { r with domainKeyword := (given rule.domainKeyword).getD r.domainKeyword },
    fun r => { r with domainRegex := (given rule.domainRegex).getD r.domainRegex },
    fun r => { r with
      sourceIPSet := (setOf lib rule.sourceIPCIDR).or r.sourceIPSet
      sourceIPCIDR := recovered recover (setOf lib rule.sourceIPCIDR) lib.prefixes r.sourceIPCIDR },
    fun r => { r with
      ipSet := (setOf lib rule.ipCIDR).or r.ipSet
      ipCIDR := recovered recover (setOf lib rule.ipCIDR) lib.prefixes r.ipCIDR },
    fun r => { r with sourcePort := (given rule.sourcePort).getD r.sourcePort },
    fun r => { r with sourcePortRange := (given rule.sourcePortRange).getD r.sourcePortRange },
    fun r => { r with port := (given rule.port).getD r.port },
    fun r => { r with portRange := (given rule.portRange).getD r.portRange },
    fun r => { r with processName := (given rule.processName).getD r.processName },
    fun r => { r with processPath := (given rule.processPath).getD r.processPath },
    fun r => { r with processPathRegex := (given rule.processPathRegex).getD r.processPathRegex },
    fun r => { r with packageName := (given rule.packageName).getD r.packageName },
    fun r => { r with packageNameRegex := (given rule.packageNameRegex).getD r.packageNameRegex },
    fun r => { r with networkType := (given rule.networkType).getD r.networkType },
    fun r => { r with networkIsExpensive := rule.networkIsExpensive || r.networkIsExpensive },
    fun r => { r with networkIsConstrained := rule.networkIsConstrained || r.networkIsConstrained },
    fun r => { r with
      networkInterfaceAddress :=
        (mapOf (entriesOf rule.networkInterfaceAddress)).or r.networkInterfaceAddress },
    fun r => { r with
      defaultInterfaceAddress :=
        (given (built rule.defaultInterfaceAddress)).getD r.defaultInterfaceAddress },
    fun r => { r with wifiSSID := (given rule.wifiSSID).getD r.wifiSSID },
    fun r => { r with wifiBSSID := (given rule.wifiBSSID).getD r.wifiBSSID },
    fun r => { r with
      adGuardDomainMatcher := (adGuardMatcherOf lib rule).or r.adGuardDomainMatcher
      adGuardDomain :=
        recovered recover (adGuardMatcherOf lib rule) lib.dumpAdGuard r.adGuardDomain }]

variable {value : List GoString}

lemma length_ipSetOf (hlib : lib.RoundTrips) {set : IPSet}
    (h : lib.ipSetOf value = .ok set) : set.length < 2 ^ 63 := by
  obtain ⟨elements, -, hset⟩ := bind_eq_ok h
  exact hlib.length_buildIPSet elements set hset

variable {chunk : List UInt8} {part : Except String (List UInt8)}

lemma since_eq_ok (h : since minimum version error part = .ok chunk) : part = .ok chunk := by
  rw [since] at h
  split_ifs at h
  exact h

/-- What is written for a part reads as the change. -/
def ReadsBack (recover : Bool) (part : Except String (List UInt8))
    (f : DefaultRule lib → DefaultRule lib) : Prop :=
  ∀ chunk, part = .ok chunk → Reads recover chunk f

lemma ReadsBack.since {f : DefaultRule lib → DefaultRule lib}
    (h : ReadsBack recover (optional present part) f) :
    ReadsBack recover (optional present (since minimum version error part)) f := by
  refine fun chunk hchunk => h chunk ?_
  cases present with
  | false => exact hchunk
  | true => exact since_eq_ok hchunk

/-- `change` puts what `read` has read into the rule. -/
structure ReadWith (recover : Bool) (item : RuleItemType) (read : Reader α)
    (change : Option α → DefaultRule lib → DefaultRule lib) : Prop where
  none : ∀ rule, change none rule = rule
  read : ∀ rule, readItem lib recover rule item = read >>= fun a => pure (change (some a) rule)
  item : item ≠ .final

section Item
variable {read : Reader α} (change : Option α → DefaultRule lib → DefaultRule lib)

lemma reads_value {value : Option α} (item : RuleItemType)
    (habsent : present = false → value = none)
    (hpresent : ∀ chunk, present → part = .ok chunk →
      ∃ a payload, value = some a ∧ chunk = item.toByte :: payload ∧ Decodes read payload a)
    (hitem : ReadWith recover item read change := by exact ⟨fun _ => rfl, fun _ => rfl, nofun⟩) :
    ReadsBack recover (optional present part) (change value) := by
  intro chunk h
  cases present with
  | false =>
    cases h
    rw [habsent rfl]
    exact .inl ⟨rfl, hitem.none⟩
  | true =>
    obtain ⟨a, payload, rfl, rfl, hdec⟩ := hpresent chunk rfl h
    refine .inr ⟨item, payload, rfl, hitem.item, fun rule => ?_⟩
    rw [hitem.read]
    exact hdec.bind_pure fun a => change (some a) rule

lemma reads_matcher {matcher : α} {value : Option α} {present : Prop}
    [Decidable present] {write : α → Except String (List UInt8)}
    (hval : value = if present then some matcher else none)
    (hdec : ∀ matcher bytes, write matcher = .ok bytes → Decodes read bytes matcher)
    (hitem : ReadWith recover item read change := by exact ⟨fun _ => rfl, fun _ => rfl, nofun⟩) :
    ReadsBack recover (optional present ((write matcher).map (item.toByte :: ·)))
    (change value) := by
  refine reads_value change item (fun habsent => ?_) (fun chunk hpresent hchunk => ?_) hitem
  · rw [hval, if_neg (of_decide_eq_false habsent)]
  · rw [hval, if_pos (of_decide_eq_true hpresent)]
    obtain ⟨payload, hwrite, rfl⟩ := map_eq_ok hchunk
    exact ⟨matcher, payload, rfl, rfl, hdec matcher payload hwrite⟩

end Item

lemma reads_list {value : List α} {payload : List UInt8} {read : Reader (List α)}
    (change : Option (List α) → DefaultRule lib → DefaultRule lib)
    (hdec : Decodes read payload value)
    (hitem : ReadWith recover item read change := by exact ⟨fun _ => rfl, fun _ => rfl, nofun⟩) :
    ReadsBack recover (optional (value ≠ []) (.ok (item.toByte :: payload)))
    (change (given value)) := by
  refine reads_value change item (fun habsent => ?_) (fun chunk hpresent hchunk => ?_) hitem
  · exact if_pos (by simpa using habsent)
  · cases hchunk
    exact ⟨value, payload, if_neg (by simpa using hpresent), rfl, hdec⟩

lemma reads_flag {flag : Bool} (change : Bool → DefaultRule lib → DefaultRule lib)
    (hfalse : ∀ rule, change false rule = rule := by exact fun _ => rfl)
    (hread : ∀ rule, readItem lib recover rule item = pure (change true rule) := by
      exact fun _ => rfl)
    (hitem : item ≠ .final := by decide) :
    ReadsBack recover (optional flag (.ok [item.toByte])) (change flag) := by
  intro chunk h
  cases flag with
  | false =>
    cases h
    exact .inl ⟨rfl, hfalse⟩
  | true =>
    cases h
    refine .inr ⟨item, [], rfl, hitem, fun rule => ?_⟩
    rw [hread]
    exact .pure (change true rule)

lemma reads_cidr (hlib : lib.RoundTrips) (change : Option IPSet → DefaultRule lib → DefaultRule lib)
    (hitem : ReadWith recover item readIPSet change := by
      exact ⟨fun _ => rfl, fun _ => rfl, nofun⟩) :
    ReadsBack recover (optional (value ≠ []) (writeRuleItemCIDR lib item name value))
      (change (setOf lib value)) := by
  refine reads_value change item (fun habsent => ?_) (fun chunk hpresent hchunk => ?_) hitem
  · exact if_pos (by simpa using habsent)
  · rw [setOf, if_neg (by simpa using hpresent)]
    rw [writeRuleItemCIDR] at hchunk
    cases hset : lib.ipSetOf value with
    | error error =>
      rw [hset] at hchunk
      cases hchunk
    | ok set =>
      rw [hset] at hchunk
      cases hchunk
      have hlen : set.length < 2 ^ 63 := length_ipSetOf hlib hset
      exact ⟨set, writeIPSet set, rfl, rfl, decodes_readIPSet hlen⟩

lemma reads_map {entries : List (UInt8 × List (Option Prefixable))}
    (hlen : entries.length < 2 ^ 63) (hvalues : ∀ entry ∈ entries, entry.2.length < 2 ^ 63) :
    ReadsBack recover (optional (entries ≠ [])
        (.ok (networkInterfaceAddress.toByte :: writeInterfaceAddresses entries)))
    fun r : DefaultRule lib =>
    { r with networkInterfaceAddress := (mapOf entries).or r.networkInterfaceAddress } := by
  refine reads_value
    (fun map r => { r with networkInterfaceAddress := map.or r.networkInterfaceAddress })
    .networkInterfaceAddress (fun habsent => ?_) (fun chunk hpresent hchunk => ?_)
  · exact if_pos (by simpa using habsent)
  · cases hchunk
    exact ⟨_, _, if_neg (by simpa using hpresent), rfl, decodes_readInterfaceAddresses hlen hvalues⟩

lemma reads_prefixes {value : List (Option Prefixable)}
    (hlen : value.length < 2 ^ 63) : ReadsBack recover
      (optional (value ≠ []) (.ok (defaultInterfaceAddress.toByte :: writePrefixes value)))
      fun r : DefaultRule lib => { r with
        defaultInterfaceAddress := (given (built value)).getD r.defaultInterfaceAddress } := by
  refine reads_value
    (fun value r => { r with defaultInterfaceAddress := value.getD r.defaultInterfaceAddress })
    .defaultInterfaceAddress (fun habsent => ?_) (fun chunk hpresent hchunk => ?_)
  · exact if_pos (by simpa [built] using habsent)
  · cases hchunk
    exact ⟨_, _, if_neg (by simpa [built] using hpresent), rfl, decodes_readPrefixes hlen⟩

variable {rule : DefaultRule lib}

lemma reads_ruleItems (hlib : lib.RoundTrips) (hfits : rule.Fits) (version : ℕ) :
    List.Forall₂ (ReadsBack recover) (ruleItems lib rule version)
    (itemChanges recover version rule) := by
  have hstrs : ∀ value ∈ rule.strings, Decodes readRuleItemString
      (writeUvarint value.length ++ value.flatMap writeBytes) value :=
    fun value hmem => decodes_readRuleItemString (hfits.strings value hmem)
  have hlens : ∀ n ∈ rule.lengths, n < 2 ^ 63 := hfits.lengths
  simp only [DefaultHeadlessRule.strings, List.forall_mem_cons] at hstrs
  simp only [DefaultHeadlessRule.lengths, List.cons_append, List.nil_append,
    List.forall_mem_cons, List.forall_mem_map] at hlens
  obtain ⟨hnet, -, -, hdomainKeyword, hdomainRegex, -, -, hsourcePortRange, hportRange,
    hprocessName, hprocessPath, hprocessPathRegex, hpackageName, hpackageRe, hwifiSSID,
    hwifiBSSID, -⟩ := hstrs
  obtain ⟨hqueryType, hsourcePort, hport, hnetworkType, hmap, hdef, hvalues⟩ := hlens
  rw [ruleItems, itemChanges]
  refine .cons (reads_list (fun value r => { r with queryType := value.getD r.queryType })
      (decodes_readRuleItemUint16 hqueryType)) <|
    .cons (reads_list (fun value r => { r with network := value.getD r.network }) hnet) <|
    .cons (reads_matcher (fun value r => { r with
        domainMatcher := value.or r.domainMatcher
        domain := recovered recover value (fun m => (lib.dump m).1) r.domain
        domainSuffix := recovered recover value (fun m => (lib.dump m).2) r.domainSuffix })
      rfl hlib.decodes_readMatcher) <|
    .cons (reads_list
      (fun value r => { r with domainKeyword := value.getD r.domainKeyword }) hdomainKeyword) <|
    .cons (reads_list
      (fun value r => { r with domainRegex := value.getD r.domainRegex }) hdomainRegex) <|
    .cons (reads_cidr hlib fun value r => { r with
        sourceIPSet := value.or r.sourceIPSet
        sourceIPCIDR := recovered recover value lib.prefixes r.sourceIPCIDR }) <|
    .cons (reads_cidr hlib fun value r => { r with
        ipSet := value.or r.ipSet, ipCIDR := recovered recover value lib.prefixes r.ipCIDR }) <|
    .cons (reads_list (fun value r => { r with sourcePort := value.getD r.sourcePort })
      (decodes_readRuleItemUint16 hsourcePort)) <|
    .cons (reads_list (fun value r => { r with sourcePortRange := value.getD r.sourcePortRange })
      hsourcePortRange) <|
    .cons (reads_list
      (fun value r => { r with port := value.getD r.port }) (decodes_readRuleItemUint16 hport)) <|
    .cons (reads_list (fun value r => { r with portRange := value.getD r.portRange }) hportRange) <|
    .cons (reads_list
      (fun value r => { r with processName := value.getD r.processName }) hprocessName) <|
    .cons (reads_list
      (fun value r => { r with processPath := value.getD r.processPath }) hprocessPath) <|
    .cons (reads_list (fun value r => { r with processPathRegex := value.getD r.processPathRegex })
      hprocessPathRegex) <|
    .cons (reads_list
      (fun value r => { r with packageName := value.getD r.packageName }) hpackageName) <|
    .cons (.since (reads_list
      (fun value r => { r with packageNameRegex := value.getD r.packageNameRegex }) hpackageRe)) <|
    .cons (.since (reads_list (fun value r => { r with networkType := value.getD r.networkType })
      (decodes_readRuleItemUint8 hnetworkType))) <|
    .cons (.since (reads_flag
      fun value r => { r with networkIsExpensive := value || r.networkIsExpensive })) <|
    .cons (.since (reads_flag
      fun value r => { r with networkIsConstrained := value || r.networkIsConstrained })) <|
    .cons (.since (reads_map hmap hvalues)) <|
    .cons (.since (reads_prefixes hdef)) <|
    .cons (reads_list (fun value r => { r with wifiSSID := value.getD r.wifiSSID }) hwifiSSID) <|
    .cons (reads_list (fun value r => { r with wifiBSSID := value.getD r.wifiBSSID }) hwifiBSSID) <|
    .cons (.since (reads_matcher (fun value r => { r with
        adGuardDomainMatcher := value.or r.adGuardDomainMatcher
        adGuardDomain := recovered recover value lib.dumpAdGuard r.adGuardDomain })
      rfl hlib.decodes_readAdGuardMatcher)) .nil

/-! ### Rules -/

def decodedRule (recover : Bool) (version : ℕ) (rule : DefaultRule lib) : DefaultRule lib :=
  { (itemChanges recover version rule).foldl (fun r f => f r) {} with invert := rule.invert }

lemma sameSet_setOf
    (h : optional (value ≠ []) (writeRuleItemCIDR lib item name value) = .ok chunk) :
    SameSet lib value (setOf lib value) := by
  rw [setOf]
  split_ifs with hemp
  · exact hemp
  · rw [optional, if_pos (by simpa using hemp), writeRuleItemCIDR] at h
    cases hset : lib.ipSetOf value with
    | error error =>
      rw [hset] at h
      cases h
    | ok set => exact ⟨hemp, hset⟩

lemma entriesOf_mapOf (map : Option (OrderedMap UInt8 (List (Option Prefixable)))) :
    entriesOf (mapOf (entriesOf map)) = builtEntries (entriesOf map) := by
  rw [mapOf]
  split_ifs with h
  · rw [h]
    rfl
  · exact entries_putAll_builtEntries map

lemma recovered_or_none (decoded : Option α) (list : α → List GoString) :
    recovered recover decoded list [] = recovered recover (decoded.or none) list [] := by
  rw [Option.or_none]

lemma sameDefaultRule_decodedRule
    (hsrc : SameSet lib rule.sourceIPCIDR (setOf lib rule.sourceIPCIDR))
    (hset : SameSet lib rule.ipCIDR (setOf lib rule.ipCIDR)) :
    SameDefaultRule lib recover version rule (decodedRule recover version rule) where
  queryType := getD_given _
  network := getD_given _
  domainMatcher := Option.or_none
  domain := recovered_or_none _ _
  domainSuffix := recovered_or_none _ _
  domainKeyword := getD_given _
  domainRegex := getD_given _
  sourceIPSet := by
    show SameSet lib rule.sourceIPCIDR ((setOf lib rule.sourceIPCIDR).or none)
    rwa [Option.or_none]
  sourceIPCIDR := recovered_or_none _ _
  ipSet := by
    show SameSet lib rule.ipCIDR ((setOf lib rule.ipCIDR).or none)
    rwa [Option.or_none]
  ipCIDR := recovered_or_none _ _
  sourcePort := getD_given _
  sourcePortRange := getD_given _
  port := getD_given _
  portRange := getD_given _
  processName := getD_given _
  processPath := getD_given _
  processPathRegex := getD_given _
  packageName := getD_given _
  packageNameRegex := getD_given _
  networkType := getD_given _
  networkIsExpensive := Bool.or_false _
  networkIsConstrained := Bool.or_false _
  networkInterfaceAddress := by
    show entriesOf ((mapOf (entriesOf rule.networkInterfaceAddress)).or none) = _
    rw [Option.or_none, entriesOf_mapOf]
  defaultInterfaceAddress := getD_given _
  wifiSSID := getD_given _
  wifiBSSID := getD_given _
  adGuardDomainMatcher := Option.or_none
  adGuardDomain := recovered_or_none _ _
  invert := rfl

lemma decodes_readDefaultRule (hlib : lib.RoundTrips) (hfits : rule.Fits)
    (h : writeDefaultRule lib rule version = .ok bytes) :
    ∃ payload, bytes = 0 :: payload ∧
    Decodes (readDefaultRule lib recover) payload (decodedRule recover version rule) ∧
    SameDefaultRule lib recover version rule (decodedRule recover version rule) := by
  obtain ⟨items, hitems, rfl⟩ := map_eq_ok h
  obtain ⟨chunks, hchunks, rfl⟩ := writeAll_eq_ok hitems
  have hwr : ∀ part ∈ ruleItems lib rule version, ∃ chunk, part = .ok chunk := by
    intro part hpart
    rw [hchunks] at hpart
    obtain ⟨chunk, -, rfl⟩ := List.mem_map.1 hpart
    exact ⟨chunk, rfl⟩
  refine ⟨_, rfl, ?_, ?_⟩
  · have hreads : List.Forall₂ (Reads recover) chunks (itemChanges recover version rule) := by
      have hparts : List.Forall₂ (fun part f => ∀ chunk, part = .ok chunk → Reads recover chunk f)
          (ruleItems lib rule version) (itemChanges recover version rule) :=
        reads_ruleItems hlib hfits version
      rw [hchunks, List.forall₂_map_left_iff] at hparts
      exact hparts.imp fun chunk f hf => hf chunk rfl
    intro rest
    have hfuel : chunks.flatten.length <
        ((chunks.flatten ++ [final.toByte, writeBool rule.invert]) ++ rest).length := by
      simp only [List.length_append, List.length_cons, List.length_nil]
      omega
    exact decodes_readItems hreads rule.invert hfuel {} 0 rest
  · obtain ⟨source, hsrc⟩ := hwr (optional (rule.sourceIPCIDR ≠ [])
      (writeRuleItemCIDR lib .sourceIPCIDR "source_ip_cidr" rule.sourceIPCIDR))
      (by simp [ruleItems])
    obtain ⟨set, hset⟩ := hwr (optional (rule.ipCIDR ≠ [])
      (writeRuleItemCIDR lib .ipCIDR "ipcidr" rule.ipCIDR)) (by simp [ruleItems])
    exact sameDefaultRule_decodedRule (sameSet_setOf hsrc) (sameSet_setOf hset)

lemma decodes_readMode (mode : LogicalMode) : Decodes readMode [modeByte mode] mode := by
  cases mode <;> exact fun _ => rfl

mutual

lemma decodes_readRule (hlib : lib.RoundTrips) :
    ∀ (rule : Rule lib) {bytes : List UInt8}, rule.Fits → writeRule lib version rule = .ok bytes →
      ∃ rule', SameRule lib recover version rule rule' ∧
        ∀ fuel, bytes.length ≤ fuel → Decodes (readRule lib recover fuel) bytes rule'
  | .default options, bytes, hfits, h => by
    rw [HeadlessRule.Fits] at hfits
    rw [writeRule] at h
    obtain ⟨payload, rfl, hdec, hsame⟩ := decodes_readDefaultRule hlib hfits h
    refine ⟨_, .default hsame, fun fuel hfuel => ?_⟩
    rw [List.length_cons] at hfuel
    obtain ⟨fuel, rfl⟩ : ∃ k, fuel = k + 1 := ⟨fuel - 1, by omega⟩
    exact hdec.bind_pure Options.HeadlessRule.default
  | .logical mode rules invert, bytes, hfits, h => by
    rw [HeadlessRule.Fits] at hfits
    rw [writeRule] at h
    obtain ⟨content, hrules, rfl⟩ := map_eq_ok h
    obtain ⟨rules', hsame, hdec⟩ := decodes_readRules hlib rules hfits.2 hrules
    refine ⟨_, .logical mode invert hsame, fun fuel hfuel => ?_⟩
    simp only [List.length_cons, List.length_append] at hfuel
    obtain ⟨fuel, rfl⟩ : ∃ k, fuel = k + 1 := ⟨fuel - 1, by omega⟩
    have hlogical : Decodes (readLogicalRule lib (readRule lib recover fuel))
        ([modeByte mode] ++ (writeUvarint rules.length ++ (content ++ [writeBool invert])))
        (.logical mode rules' invert) := by
      refine (decodes_readMode mode).bind ?_
      refine (decodes_readUvarint (lt_uint64 hfits.1)).bind ?_
      refine (hdec _ fuel 0 (by omega)).bind ?_
      exact (decodes_readBool invert).bind_pure fun invert =>
        Options.HeadlessRule.logical mode rules' invert
    exact hlogical

lemma decodes_readRules (hlib : lib.RoundTrips) :
    ∀ (rules : List (Rule lib)) {bytes : List UInt8}, AllFit rules →
      writeRules lib version rules = .ok bytes →
      ∃ rules', List.Forall₂ (SameRule lib recover version) rules rules' ∧
        ∀ wrap fuel i, bytes.length ≤ fuel →
          Decodes (readMany wrap (readRule lib recover fuel) rules.length i) bytes rules'
  | [], bytes, hfits, h => by
    rw [writeRules] at h
    cases h
    exact ⟨[], .nil, fun wrap fuel i _ => decodes_readMany_nil wrap _ i⟩
  | rule :: rules, bytes, hfits, h => by
    rw [AllFit] at hfits
    rw [writeRules] at h
    obtain ⟨first, hrule, h⟩ := bind_eq_ok h
    obtain ⟨others, hrules, rfl⟩ := map_eq_ok h
    obtain ⟨rule', hsame, hdec⟩ := decodes_readRule hlib rule hfits.1 hrule
    obtain ⟨rules', hsames, hdecodeses⟩ := decodes_readRules hlib rules hfits.2 hrules
    refine ⟨rule' :: rules', .cons hsame hsames, fun wrap fuel i hfuel => ?_⟩
    rw [List.length_append] at hfuel
    exact decodes_readMany_cons (hdec fuel (by omega)) (hdecodeses wrap fuel (i + 1) (by omega))

end

/-- A rule-set is read back with its version and rules. -/
theorem read_write (hlib : lib.RoundTrips) {ruleSet : PlainRuleSet lib.Matcher lib.AdGuardMatcher}
    (hfits : ruleSet.Fits) {version : UInt8} (hversion : version.toNat ≤ ruleSetVersionCurrent)
    {bytes : List UInt8} (h : write lib ruleSet version = .ok bytes) (recover : Bool) :
    ∃ rules, read lib recover bytes = .ok ⟨version.toNat, ⟨rules⟩⟩ ∧
      List.Forall₂ (SameRule lib recover version.toNat) ruleSet.rules rules := by
  obtain ⟨content, hrules, rfl⟩ := map_eq_ok h
  obtain ⟨rules, hsame, hdec⟩ := decodes_readRules hlib ruleSet.rules hfits.2 hrules
  refine ⟨rules, ?_, hsame⟩
  have hcontent : ∀ fuel, content.length ≤ fuel → Decodes (readRules lib recover fuel)
        (writeUvarint ruleSet.rules.length ++ content) rules := by
    intro fuel hfuel
    refine (decodes_readUvarint (lt_uint64 hfits.1)).bind ?_
    exact hdec _ fuel 0 hfuel
  have hread := hcontent (writeUvarint ruleSet.rules.length ++ content).length (by simp) []
  rw [List.append_nil] at hread
  have hmagic : readFull 3 (magicBytes ++ version ::
      lib.compress (writeUvarint ruleSet.rules.length ++ content)) = .ok (magicBytes, _) :=
    decodes_readFull magicBytes _
  have hsupported : ¬ruleSetVersionCurrent < version.toNat := by omega
  rw [read, hmagic]
  show (if ruleSetVersionCurrent < version.toNat then _ else _) = _
  rw [if_neg hsupported]
  show (lib.decompress _ >>= _) = _
  rw [hlib.decompress_compress]
  show (readRules lib recover _ _ >>= _) = _
  rw [hread]
  rfl

/-!
### A file

Two rules under a logical one. The content is compressed as in the file; matchers are lists of
strings.
-/

def writeLists (lists : List GoString × List GoString) : List UInt8 :=
  (writeUvarint lists.1.length ++ lists.1.flatMap writeBytes) ++
    (writeUvarint lists.2.length ++ lists.2.flatMap writeBytes)

def fitsList (value : List GoString) : Bool :=
  value.length < 2 ^ 63 && value.all fun s => s.length < 2 ^ 63

lemma fitsList_iff (h : fitsList value) :
    value.length < 2 ^ 63 ∧ ∀ s ∈ value, s.length < 2 ^ 63 := by
  simpa [fitsList] using h

def fileContent : List UInt8 :=
  [1, 1, 1, 2, 0, 3, 1, 2, 97, 100, 255, 0, 0, 9, 1, 1, 187, 255, 1, 0]

def fileCompressed : List UInt8 :=
  [0x78, 0xda, 0x62, 0x64, 0x64, 0x64, 0x62, 0x60, 0x66, 0x64, 0x4a, 0x4c, 0xf9, 0xcf, 0xc0, 0xc0,
    0xc9, 0xc8, 0xb8, 0xfb, 0x3f, 0x23, 0x03, 0x20, 0x00, 0x00, 0xff, 0xff, 0x19, 0xc7, 0x03, 0x96]

def fileLibrary : Library where
  Matcher := List GoString × List GoString
  newMatcher domain domainSuffix _ := (domain, domainSuffix)
  writeMatcher lists :=
    if fitsList lists.1 && fitsList lists.2 then .ok (writeLists lists) else .error "too long"
  readMatcher := do
    let domain ← readRuleItemString
    let domainSuffix ← readRuleItemString
    return (domain, domainSuffix)
  dump lists := lists
  AdGuardMatcher := List GoString
  newAdGuardMatcher lines := lines
  writeAdGuardMatcher lines :=
    if fitsList lines then .ok (writeUvarint lines.length ++ lines.flatMap writeBytes)
    else .error "too long"
  readAdGuardMatcher := readRuleItemString
  dumpAdGuard lines := lines
  compress content := if content = fileContent then fileCompressed else 0 :: content
  decompress bytes := if bytes = fileCompressed then .ok fileContent
    else match bytes with
      | 0 :: content => .ok content
      | _ => .error "zlib: invalid header"
  parsePrefix _ := .error "no '/'"
  parseAddr _ := none
  buildIPSet _ := .ok []
  prefixes _ := []

lemma fileLibrary_roundTrips : fileLibrary.RoundTrips where
  decompress_compress content := by
    show fileLibrary.decompress (if content = fileContent then _ else _) = _
    split_ifs with h
    · rw [h]
      rfl
    · rfl
  decodes_readMatcher lists bytes h := by
    change (if fitsList lists.1 && fitsList lists.2 then _ else _) = _ at h
    split_ifs at h with hfits
    cases h
    rw [Bool.and_eq_true] at hfits
    refine (decodes_readRuleItemString (fitsList_iff hfits.1)).bind ?_
    exact (decodes_readRuleItemString (fitsList_iff hfits.2)).bind_pure fun value =>
      (lists.1, value)
  decodes_readAdGuardMatcher lines bytes h := by
    change (if fitsList lines then _ else _) = _ at h
    split_ifs at h with hfits
    cases h
    exact decodes_readRuleItemString (fitsList_iff hfits)
  length_buildIPSet elements set h := by
    cases h
    show 0 < 2 ^ 63
    norm_num

def fileRuleSet : PlainRuleSet fileLibrary.Matcher fileLibrary.AdGuardMatcher where
  rules := [.logical .or
      [.default { domainKeyword := [[97, 100]] }, .default { port := [443], invert := true }]
      false]

lemma fileRuleSet_fits : fileRuleSet.Fits := by
  refine ⟨by decide, ⟨by decide, ?_, ?_, trivial⟩, trivial⟩
  · constructor <;> decide
  · constructor <;> decide

theorem read_write_file :
    write fileLibrary fileRuleSet 5 = .ok (magicBytes ++ 5 :: fileCompressed) ∧
      ∃ rules, read fileLibrary true (magicBytes ++ 5 :: fileCompressed) = .ok ⟨5, ⟨rules⟩⟩ ∧
        List.Forall₂ (SameRule fileLibrary true 5) fileRuleSet.rules rules := by
  have hwrite : write fileLibrary fileRuleSet 5 = .ok (magicBytes ++ 5 :: fileCompressed) := by rfl
  exact ⟨hwrite, read_write fileLibrary_roundTrips fileRuleSet_fits (by decide) hwrite true⟩

end SingBox.Srs

import SingBox.AdGuard.Convertor

/-!
# What the rule of a filter list matches

Domains of important lines without an important exception match, and of plain ones without any.
Without such lines the innermost rule has no conditions.
-/

namespace SingBox.AdGuard
open Options List HeadlessRule RuleLine Parts Options.HeadlessRule

/-! ### What a line means -/

/-- Matchers of lists match what one of the elements matches. -/
structure Library.MatchesAny (lib : Library) : Prop where
  matchAdGuard : ∀ patterns host, lib.matchAdGuard (lib.newAdGuardMatcher patterns) host =
      patterns.any fun pattern => lib.matchAdGuard (lib.newAdGuardMatcher [pattern]) host
  matchDomain : ∀ domains host, lib.matchDomain (lib.newMatcher domains [] false) host =
      domains.any fun domain => lib.matchDomain (lib.newMatcher [domain] [] false) host

variable (lib : Library)

def patternMatches (pattern : GoString) (host : String) : Bool :=
  lib.matchAdGuard (lib.newAdGuardMatcher [pattern]) (lib.toLower host)

variable (regex : GoString)

def regexMatches (host : String) : Bool :=
  match lib.compile regex with
  | .ok matcher => matcher (lib.toLower host)
  | .error _ => false

def domainMatches (domain : GoString) (host : String) : Bool :=
  lib.matchDomain (lib.newMatcher [domain] [] false) (lib.toLower host)

def Compiles : Prop := ∃ matcher, lib.compile regex = .ok matcher

/-- A line matches the host, as one domain in a list of domains. -/
def lineMatches (lines : List RuleLine) (line : RuleLine) (host : String) : Bool :=
  if lines.all isRawDomain then domainMatches lib line.ruleLine host
  else if line.isRegexp then regexMatches lib (mapDomain line) host
  else patternMatches lib (mapDomain line) host

def ClassMatches (lines : List RuleLine) (c : LineClass) (host : String) : Prop :=
  ∃ line ∈ lines, line.lineClass = c ∧ lineMatches lib lines line host

def Blocks (lines : List RuleLine) (host : String) : Prop :=
  ClassMatches lib lines .important host ∧ ¬ClassMatches lib lines .importantExclude host ∨
    ClassMatches lib lines .domain host ∧ ¬ClassMatches lib lines .exclude host ∧
      ¬ClassMatches lib lines .importantExclude host

variable {lib} {regexes texts : List GoString} {line : GoString} {l : RuleLine}

lemma compileAll_of_compiles (h : ∀ regex ∈ regexes, Compiles lib regex) (i : ℕ) :
    ∃ matchers, compileAll lib.toRuleLibrary regexes i = .ok matchers ∧
    ∀ host, (matchers.any fun matcher => matcher (lib.toLower host)) =
    regexes.any fun regex => regexMatches lib regex host := by
  induction regexes generalizing i with
  | nil => exact ⟨[], rfl, fun _ => rfl⟩
  | cons regex regexes ih =>
    obtain ⟨matcher, hmatcher⟩ := h regex mem_cons_self
    obtain ⟨matchers, hmatchers, hany⟩ :=
      ih (fun regex hregex => h regex (mem_cons_of_mem _ hregex)) (i + 1)
    refine ⟨matcher :: matchers, ?_, fun host => ?_⟩
    · rw [compileAll, hmatcher]
      show (compileAll lib.toRuleLibrary regexes (i + 1)).map _ = _
      rw [hmatchers]
      rfl
    · rw [any_cons, any_cons, hany, regexMatches, hmatcher]

variable {matchers : List (String → Bool)}

lemma compiles_of_compileAll {i : ℕ} (h : compileAll lib.toRuleLibrary regexes i = .ok matchers) :
    ∀ regex ∈ regexes, Compiles lib regex := by
  induction regexes generalizing i matchers with
  | nil => simp
  | cons regex regexes ih =>
    rw [compileAll] at h
    cases hcomp : lib.compile regex with
    | error error =>
      rw [hcomp] at h
      cases h
    | ok matcher =>
      rw [hcomp] at h
      cases hrest : compileAll lib.toRuleLibrary regexes (i + 1) with
      | error error =>
        simp only [hrest] at h
        cases h
      | ok rest =>
        intro r hr
        rcases mem_cons.1 hr with rfl | hr
        · exact ⟨matcher, hcomp⟩
        · exact ih hrest r hr

/-! ### Rules that are built -/

variable {manager : Option NetworkManager} {emptyLists : Bool}

def Builds (lib : Library) (manager : Option NetworkManager) (emptyLists : Bool)
    (options : RuleOptions lib.toRuleLibrary) (f : String → Bool) : Prop :=
  ∃ rule, newHeadlessRule lib.toRuleLibrary manager emptyLists options = .ok rule ∧
    ∀ metadata : InboundContext, metadata.domainHost ≠ "" →
      rule.match metadata = f metadata.domainHost

def Accepted (lib : Library) (manager : Option NetworkManager) (emptyLists : Bool)
    (options : RuleOptions lib.toRuleLibrary) : Prop :=
  ∃ rule, newHeadlessRule lib.toRuleLibrary manager emptyLists options = .ok rule

lemma isValid_of_newHeadlessRule {options : RuleOptions lib.toRuleLibrary} {rule : HeadlessRule}
    (h : newHeadlessRule lib.toRuleLibrary manager emptyLists options = .ok rule) :
    options.isValid emptyLists := by
  cases options with
  | default options =>
    rw [newHeadlessRule] at h
    split_ifs at h with hvalid
    rw [isValid]
    exact hvalid
  | logical mode rules invert =>
    rw [newHeadlessRule] at h
    split_ifs at h with hvalid
    exact hvalid

variable (mode : LogicalMode)

lemma newHeadlessRule_pair (first second : RuleOptions lib.toRuleLibrary) (rule : HeadlessRule) :
    newHeadlessRule lib.toRuleLibrary manager emptyLists (.logical mode [first, second] false) =
    .ok rule ↔
    ∃ a b, newHeadlessRule lib.toRuleLibrary manager emptyLists first = .ok a ∧
    newHeadlessRule lib.toRuleLibrary manager emptyLists second = .ok b ∧
    rule = .logical [a, b] mode false := by
  constructor
  · intro h
    rw [newHeadlessRule] at h
    split_ifs at h with hvalid
    rw [newHeadlessRules, newHeadlessRules, newHeadlessRules] at h
    cases hfst : newHeadlessRule lib.toRuleLibrary manager emptyLists first with
    | error error =>
      rw [hfst] at h
      cases h
    | ok a =>
      cases hsnd : newHeadlessRule lib.toRuleLibrary manager emptyLists second with
      | error error =>
        rw [hfst, hsnd] at h
        cases h
      | ok b =>
        rw [hfst, hsnd] at h
        cases h
        exact ⟨a, b, rfl, rfl, rfl⟩
  · rintro ⟨a, b, hfst, hsnd, rfl⟩
    have hvalid : (logical mode [first, second] false).isValid emptyLists = true := by
      simp [isValid, allValid, isValid_of_newHeadlessRule hfst, isValid_of_newHeadlessRule hsnd]
    rw [newHeadlessRule, if_pos hvalid, newHeadlessRules, newHeadlessRules, newHeadlessRules,
      hfst, hsnd]
    rfl

lemma domainHost_resetRuleCache (metadata : InboundContext) :
    metadata.resetRuleCache.domainHost = metadata.domainHost := rfl

lemma Builds.pair {first second : RuleOptions lib.toRuleLibrary}
    {f g : String → Bool} (hfst : Builds lib manager emptyLists first f)
    (hsnd : Builds lib manager emptyLists second g) :
    Builds lib manager emptyLists (.logical mode [first, second] false) (match mode with
        | .and => fun host => f host && g host
        | .or => fun host => f host || g host) := by
  obtain ⟨a, ha, hf⟩ := hfst
  obtain ⟨b, hb, hg⟩ := hsnd
  refine ⟨_, (newHeadlessRule_pair ..).2 ⟨a, b, ha, hb, rfl⟩, fun metadata hhost => ?_⟩
  rw [match_logical]
  cases mode <;> simp [hf metadata.resetRuleCache hhost, hg metadata.resetRuleCache hhost,
    domainHost_resetRuleCache]

lemma accepted_pair_iff (first second : RuleOptions lib.toRuleLibrary) :
    Accepted lib manager emptyLists (.logical mode [first, second] false) ↔
    Accepted lib manager emptyLists first ∧ Accepted lib manager emptyLists second := by
  constructor
  · rintro ⟨rule, hrule⟩
    obtain ⟨a, b, ha, hb, -⟩ := (newHeadlessRule_pair ..).1 hrule
    exact ⟨⟨a, ha⟩, ⟨b, hb⟩⟩
  · rintro ⟨⟨a, ha⟩, ⟨b, hb⟩⟩
    exact ⟨_, (newHeadlessRule_pair ..).2 ⟨a, b, ha, hb, rfl⟩⟩

namespace Parts
variable {parts : Parts} {c : LineClass}

def matchHost (lib : Library) (parts : Parts) (c : LineClass) (host : String) : Bool :=
  ((parts.domains c).any fun pattern => patternMatches lib pattern host) ||
    (parts.regexes c).any fun regex => regexMatches lib regex host

lemma lacks_iff : parts.lacks c ↔ parts.domains c = [] ∧ parts.regexes c = [] := by
  simp [lacks]

lemma matchHost_of_lacks (h : parts.lacks c) (host : String) :
    parts.matchHost lib c host = false := by
  obtain ⟨hdoms, hres⟩ := lacks_iff.1 h
  simp [matchHost, hdoms, hres]

/-! ### Rules for one class of lines -/

abbrev classOptions (lib : Library) (parts : Parts) (c : LineClass) (invert : Bool) :
    DefaultOptions lib.toRuleLibrary :=
  { adGuardDomain := parts.domains c, domainRegex := parts.regexes c, invert }

variable (invert : Bool)

lemma isZero_classOptions : (classOptions lib parts c invert).isZero = parts.lacks c := by
  simp [DefaultHeadlessRule.isZero, lacks, Bool.and_comm]

lemma parseFields_classOptions : parseFields lib.toRuleLibrary (classOptions lib parts c invert) =
    (inField "domain_regex" (compileAll lib.toRuleLibrary (parts.regexes c) 0)).map
    fun domainRegex => { domainRegex } := by
  cases h : compileAll lib.toRuleLibrary (parts.regexes c) 0 with
  | error error | ok matchers =>
    show (inField "domain_regex" (compileAll lib.toRuleLibrary (parts.regexes c) 0) >>= _) = _
    rw [h]
    rfl

def classRule (lib : Library) (manager : Option NetworkManager) (parts : Parts) (c : LineClass)
    (invert : Bool) (matchers : List (String → Bool)) : AbstractDefaultRule :=
  defaultRuleOf lib.toRuleLibrary manager (classOptions lib parts c invert)
    { domainRegex := matchers }

lemma onlyDestination_classRule (matchers : List (String → Bool)) :
    (classRule lib manager parts c invert matchers).OnlyDestination where
  items := by
    have hnet : networkItems lib.toRuleLibrary manager (classOptions lib parts c invert) = [] := by
      cases manager <;> simp [networkItems, itemIf, entriesOf]
    simp [classRule, defaultRuleOf, hnet, itemIf]
  sourceAddressItems := by simp [classRule, defaultRuleOf]
  sourcePortItems := by simp [classRule, defaultRuleOf, itemIf]
  destinationIPCIDRItems := by simp [classRule, defaultRuleOf]
  destinationPortItems := by simp [classRule, defaultRuleOf, itemIf]

lemma destinationAddressItems_classRule :
    (classRule lib manager parts c invert matchers).destinationAddressItems =
    itemIf (parts.regexes c ≠ [])
    (.domainRegex (matchers.map fun matcher host => matcher (lib.toLower host))) ++
    itemIf (parts.domains c ≠ []) (.adGuardDomain fun host =>
        lib.matchAdGuard (lib.newAdGuardMatcher (parts.domains c)) (lib.toLower host)) := by
  by_cases hdoms : parts.domains c = []
  all_goals simp [classRule, defaultRuleOf, newAdGuardDomainItem, itemIf, hdoms]

lemma destinationAddressItems_eq_nil_iff (matchers : List (String → Bool)) :
    (classRule lib manager parts c invert matchers).destinationAddressItems = [] ↔
    parts.lacks c := by
  rw [destinationAddressItems_classRule, lacks_iff]
  simp [itemIf, and_comm]

variable {metadata : InboundContext} {f : String → Bool}

lemma matchAnyItem_classRule (hlib : lib.MatchesAny) (invert : Bool)
    (hany : ∀ host, (matchers.any fun matcher => matcher (lib.toLower host)) =
      (parts.regexes c).any fun regex => regexMatches lib regex host)
    (hhost : metadata.domainHost ≠ "") :
    matchAnyItem (classRule lib manager parts c invert matchers).destinationAddressItems metadata =
    parts.matchHost lib c metadata.domainHost := by
  have hres : matchAnyItem (itemIf (parts.regexes c ≠ [])
      (.domainRegex (matchers.map fun matcher host => matcher (lib.toLower host)))) metadata =
        (parts.regexes c).any fun regex => regexMatches lib regex metadata.domainHost := by
    by_cases hemp : parts.regexes c = []
    · simp [itemIf, matchAnyItem, hemp]
    · rw [← hany]
      simp [itemIf, matchAnyItem, hemp, RuleItem.match, RuleItem.matchDomainHost, hhost,
        Function.comp_def]
  have hdoms : matchAnyItem (itemIf (parts.domains c ≠ []) (.adGuardDomain fun host =>
      lib.matchAdGuard (lib.newAdGuardMatcher (parts.domains c)) (lib.toLower host))) metadata =
        (parts.domains c).any fun pattern => patternMatches lib pattern metadata.domainHost := by
    by_cases hemp : parts.domains c = []
    · simp [itemIf, matchAnyItem, hemp]
    · have hlaw := hlib.matchAdGuard (parts.domains c) (lib.toLower metadata.domainHost)
      simp [itemIf, matchAnyItem, hemp, RuleItem.match, RuleItem.matchDomainHost, hhost, hlaw,
        patternMatches]
  have happend : ∀ a b : List RuleItem, matchAnyItem (a ++ b) metadata =
      (matchAnyItem a metadata || matchAnyItem b metadata) := fun a b => any_append
  rw [destinationAddressItems_classRule, happend, hres, hdoms, matchHost, Bool.or_comm]

lemma match_classRule (hlib : lib.MatchesAny) (invert : Bool)
    (hany : ∀ host, (matchers.any fun matcher => matcher (lib.toLower host)) =
      (parts.regexes c).any fun regex => regexMatches lib regex host)
    (hhost : metadata.domainHost ≠ "") :
    (HeadlessRule.default (classRule lib manager parts c invert matchers) none).match metadata =
    (parts.lacks c || (parts.matchHost lib c metadata.domainHost != invert)) := by
  have hdest : (classRule lib manager parts c invert matchers).OnlyDestination :=
    onlyDestination_classRule invert matchers
  have hitems : (classRule lib manager parts c invert matchers).destinationAddressItems = [] ↔
      parts.lacks c := destinationAddressItems_eq_nil_iff invert matchers
  cases hlacks : parts.lacks c with
  | true =>
    refine match_default_of_itemCount ?_ metadata
    rw [AbstractDefaultRule.itemCount, hdest.items, hdest.sourceAddressItems,
      hdest.sourcePortItems, hitems.2 hlacks, hdest.destinationIPCIDRItems,
      hdest.destinationPortItems]
    rfl
  | false =>
    have hne : (classRule lib manager parts c invert matchers).destinationAddressItems ≠ [] := by
      rw [Ne, hitems, hlacks]
      exact Bool.false_ne_true
    rw [match_default_of_onlyDestination hdest hne, matchAnyItem_classRule hlib invert hany hhost]
    rfl

lemma newHeadlessRule_rule {rule : HeadlessRule} :
    newHeadlessRule lib.toRuleLibrary manager emptyLists (parts.rule lib c invert) = .ok rule ↔
    (parts.lacks c = false ∨ emptyLists) ∧
    ∃ matchers, compileAll lib.toRuleLibrary (parts.regexes c) 0 = .ok matchers ∧
    rule = .default (classRule lib manager parts c invert matchers) none := by
  have hvalid : (classOptions lib parts c invert).isValid emptyLists ↔
      parts.lacks c = false ∨ emptyLists := by
    rw [DefaultHeadlessRule.isValid, isZero_classOptions, Bool.or_eq_true, Bool.not_eq_true']
  rw [Parts.rule, newHeadlessRule, newDefaultHeadlessRule, parseFields_classOptions, ← hvalid]
  split_ifs with h
  · cases hcomp : compileAll lib.toRuleLibrary (parts.regexes c) 0 with
    | error error => simp [inField, Except.mapError, Except.map]
    | ok matchers => simp [inField, Except.mapError, Except.map, h, classRule, eq_comm]
  · simp [h]

lemma builds_rule (hlib : lib.MatchesAny) (invert : Bool)
    (hcompiles : ∀ regex ∈ parts.regexes c, Compiles lib regex)
    (hvalid : parts.lacks c = false ∨ emptyLists) :
    Builds lib manager emptyLists (parts.rule lib c invert)
    fun host => parts.lacks c || (parts.matchHost lib c host != invert) := by
  obtain ⟨matchers, hmatchers, hany⟩ := compileAll_of_compiles hcompiles 0
  exact ⟨_, (newHeadlessRule_rule invert).2 ⟨hvalid, matchers, hmatchers, rfl⟩,
    fun metadata hhost => match_classRule hlib invert hany hhost⟩

lemma accepted_rule_iff : Accepted lib manager emptyLists (parts.rule lib c invert) ↔
    (∀ regex ∈ parts.regexes c, Compiles lib regex) ∧ (parts.lacks c = false ∨ emptyLists) := by
  constructor
  · rintro ⟨rule, hrule⟩
    obtain ⟨hvalid, matchers, hmatchers, -⟩ := (newHeadlessRule_rule invert).1 hrule
    exact ⟨compiles_of_compileAll hmatchers, hvalid⟩
  · rintro ⟨hcompiles, hvalid⟩
    obtain ⟨matchers, hmatchers, -⟩ := compileAll_of_compiles hcompiles 0
    exact ⟨_, (newHeadlessRule_rule invert).2 ⟨hvalid, matchers, hmatchers, rfl⟩⟩

def verdict (lib : Library) (parts : Parts) (host : String) : Bool :=
  (parts.matchHost lib .important host ||
      (parts.lacks .domain || parts.matchHost lib .domain host) &&
        !parts.matchHost lib .exclude host) &&
    !parts.matchHost lib .importantExclude host

def Compile (lib : Library) (parts : Parts) : Prop :=
  ∀ c, ∀ regex ∈ parts.regexes c, Compiles lib regex

variable {current : RuleOptions lib.toRuleLibrary}

lemma accepted_wrap_iff :
    Accepted lib manager emptyLists (parts.wrap lib c mode invert current) ↔
    (∀ regex ∈ parts.regexes c, Compiles lib regex) ∧
    Accepted lib manager emptyLists current := by
  rw [wrap]
  split_ifs with hlacks
  · obtain ⟨-, hres⟩ := lacks_iff.1 hlacks
    simp [hres]
  · rw [accepted_pair_iff, accepted_rule_iff]
    simp [hlacks]

lemma accepted_options_iff : Accepted lib manager emptyLists (parts.options lib) ↔
    parts.Compile lib ∧ (parts.lacks .domain = false ∨ emptyLists) := by
  rw [options, accepted_wrap_iff, accepted_wrap_iff, accepted_wrap_iff, accepted_rule_iff]
  constructor
  · rintro ⟨himpExcl, himp, hexcl, hdom, hvalid⟩
    refine ⟨fun c => ?_, hvalid⟩
    cases c with
    | domain => exact hdom
    | exclude => exact hexcl
    | important => exact himp
    | importantExclude => exact himpExcl
  · rintro ⟨hcomp, hvalid⟩
    exact ⟨hcomp _, hcomp _, hcomp _, hcomp _, hvalid⟩

lemma builds_wrap (hlib : lib.MatchesAny) (mode : LogicalMode)
    (hcompiles : ∀ regex ∈ parts.regexes c, Compiles lib regex)
    (h : Builds lib manager emptyLists current f) :
    Builds lib manager emptyLists (parts.wrap lib c mode (mode = .and) current) (match mode with
        | .and => fun host => !parts.matchHost lib c host && f host
        | .or => fun host => parts.matchHost lib c host || f host) := by
  rw [wrap]
  split_ifs with hlacks
  · cases mode <;> simpa [matchHost_of_lacks hlacks] using h
  · have hpair :=
      (builds_rule hlib (mode = .and) hcompiles (.inl (by simpa using hlacks))).pair mode h
    cases mode <;> simpa [hlacks] using hpair

lemma builds_options (hlib : lib.MatchesAny) (hcomp : parts.Compile lib)
    (hvalid : parts.lacks .domain = false ∨ emptyLists) :
    Builds lib manager emptyLists (parts.options lib) (parts.verdict lib) := by
  have hdom : Builds lib manager emptyLists (parts.rule lib .domain false)
      fun host => parts.lacks .domain || parts.matchHost lib .domain host := by
    simpa using builds_rule hlib false (hcomp .domain) hvalid
  have hexcl := builds_wrap hlib .and (hcomp .exclude) hdom
  have himp := builds_wrap hlib .or (hcomp .important) hexcl
  have hall := builds_wrap hlib .and (hcomp .importantExclude) himp
  have hverd : (fun host => !parts.matchHost lib .importantExclude host &&
      (parts.matchHost lib .important host || !parts.matchHost lib .exclude host &&
        (parts.lacks .domain || parts.matchHost lib .domain host))) = parts.verdict lib := by
    funext host
    rw [verdict, Bool.and_comm]
    congr 2
    rw [Bool.and_comm]
  rw [← hverd]
  exact hall

end Parts

/-! ### From the text to the lines -/

lemma parseLine_cases (h : parseLine lib line = .ok (some l)) :
    (line ≠ [] ∧ lib.isDomainName line ∧ l = { ruleLine := line, isRawDomain := true }) ∨
    (∃ hostLine, hostLine ≠ [] ∧ parseAdGuardHostLine lib line = some hostLine ∧
        l = { ruleLine := hostLine, isRawDomain := true, hasStart := true, hasEnd := true }) ∨
    parseRuleLine lib line = .ok (some l) := by
  rw [parseLine] at h
  split_ifs at h with hcomment hdom
  · cases h
  · cases h
    exact .inl ⟨fun hnil => hcomment (.inl hnil), hdom, rfl⟩
  · cases hhost : parseAdGuardHostLine lib line with
    | none =>
      rw [hhost] at h
      exact .inr (.inr h)
    | some hostLine =>
      rw [hhost] at h
      cases hostLine with
      | nil => cases h
      | cons b hostLine =>
        cases h
        exact .inr (.inl ⟨b :: hostLine, cons_ne_nil _ _, rfl, rfl⟩)

lemma isRawDomain_of_parseRuleLine
    (h : parseRuleLine lib line = .ok (some l)) : l.isRawDomain = false := by
  rw [parseRuleLine] at h
  cases hparams : parseParams lib (Text.trimSuffix (bytes "|") line) with
  | none =>
    rw [hparams] at h
    cases h
  | some params =>
    rw [hparams] at h
    simp only [parsePattern] at h
    split_ifs at h
    all_goals cases h
    all_goals rfl

lemma rawDomain_of_parseLine (h : parseLine lib line = .ok (some l)) (hraw : l.isRawDomain) :
    l.ruleLine ≠ [] ∧ l.lineClass = .domain ∧ l.isRegexp = false := by
  rcases parseLine_cases h with ⟨hne, -, rfl⟩ | ⟨hostLine, hne, -, rfl⟩ | hrule
  · exact ⟨hne, rfl, rfl⟩
  · exact ⟨hne, rfl, rfl⟩
  · rw [isRawDomain_of_parseRuleLine hrule] at hraw
    cases hraw

variable {lines : List RuleLine}

lemma mem_parseLines {fileLines : List GoString} (h : parseLines lib fileLines = .ok lines) :
    ∀ l ∈ lines, ∃ line ∈ fileLines, parseLine lib line = .ok (some l) := by
  induction fileLines generalizing lines with
  | nil =>
    cases h
    simp
  | cons line fileLines ih =>
    rw [parseLines] at h
    cases hline : parseLine lib line with
    | error error =>
      rw [hline] at h
      cases h
    | ok parsed =>
      rw [hline] at h
      cases parsed with
      | none =>
        intro l hl
        obtain ⟨line', hmem, hparse⟩ := ih h l hl
        exact ⟨line', mem_cons_of_mem _ hmem, hparse⟩
      | some first =>
        cases hrest : parseLines lib fileLines with
        | error error =>
          simp only [hrest] at h
          cases h
        | ok rest =>
          simp only [hrest] at h
          cases h
          intro l hl
          rcases mem_cons.1 hl with rfl | hl
          · exact ⟨line, mem_cons_self, hline⟩
          · obtain ⟨line', hmem, hparse⟩ := ih hrest l hl
            exact ⟨line', mem_cons_of_mem _ hmem, hparse⟩

lemma classMatches_iff (h : lines.all isRawDomain = false) (c : LineClass) (host : String) :
    ClassMatches lib lines c host ↔ (partsOf lines).matchHost lib c host := by
  have hline : ∀ line, lineMatches lib lines line host =
      if line.isRegexp then regexMatches lib (mapDomain line) host
      else patternMatches lib (mapDomain line) host := by
    intro line
    rw [lineMatches, if_neg (by simp [h])]
  simp only [ClassMatches, hline, matchHost, partsOf, Bool.or_eq_true, any_map,
    any_eq_true, mem_filter, Bool.and_eq_true, decide_eq_true_eq, Function.comp_apply,
    Bool.not_eq_true']
  constructor
  · rintro ⟨line, hmem, hc, hm⟩
    cases hre : line.isRegexp with
    | true => exact .inr ⟨line, ⟨hmem, hc, hre⟩, by simpa [hre] using hm⟩
    | false => exact .inl ⟨line, ⟨hmem, hc, hre⟩, by simpa [hre] using hm⟩
  · rintro (⟨line, ⟨hmem, hc, hre⟩, hm⟩ | ⟨line, ⟨hmem, hc, hre⟩, hm⟩)
    all_goals exact ⟨line, hmem, hc, by simpa [hre] using hm⟩

lemma compile_partsOf_iff : (partsOf lines).Compile lib ↔
    ∀ line ∈ lines, line.isRegexp → Compiles lib (mapDomain line) := by
  simp only [Parts.Compile, partsOf, forall_mem_map, mem_filter, Bool.and_eq_true,
    decide_eq_true_eq]
  constructor
  · intro h line hmem hre
    exact h line.lineClass line ⟨hmem, rfl, hre⟩
  · rintro h c line ⟨hmem, -, hre⟩
    exact h line hmem hre

lemma lacks_partsOf_iff (lines : List RuleLine) (c : LineClass) :
    (partsOf lines).lacks c = false ↔ ∃ line ∈ lines, line.lineClass = c := by
  rw [← not_iff_not, Bool.not_eq_false, lacks_iff]
  simp only [partsOf, map_eq_nil_iff, filter_eq_nil_iff, Bool.and_eq_true,
    decide_eq_true_eq, not_exists, not_and, Bool.not_eq_true', Bool.not_eq_true, Bool.not_eq_false]
  constructor
  · rintro ⟨hdoms, hres⟩ line hmem hc
    have hre := hdoms line hmem hc
    rw [hres line hmem hc] at hre
    cases hre
  · intro h
    exact ⟨fun line hmem hc => absurd hc (h line hmem), fun line hmem hc => absurd hc (h line hmem)⟩

lemma builds_domains (hlib : lib.MatchesAny) {domains : List GoString} (hne : domains ≠ [])
    (hnil : [] ∉ domains) :
    Builds lib manager emptyLists (.default { domain := domains })
    fun host => domains.any fun domain => domainMatches lib domain host := by
  let options : DefaultOptions lib.toRuleLibrary := { domain := domains }
  let fields : ParsedFields lib.toRuleLibrary :=
    { domain := some (lib.newMatcher domains [] false) }
  let rule : AbstractDefaultRule := defaultRuleOf lib.toRuleLibrary manager options fields
  have hitem : newDomainItem lib.toRuleLibrary options =
      .ok (some (lib.newMatcher domains [] false)) := by
    simp [newDomainItem, options, hne, hnil]
  have hfields : parseFields lib.toRuleLibrary options = .ok fields := by
    show (newDomainItem lib.toRuleLibrary options >>= _) = _
    rw [hitem]
    rfl
  have hvalid : options.isValid emptyLists := by
    simp [DefaultHeadlessRule.isValid, DefaultHeadlessRule.isZero, options, hne]
  have hdest : rule.OnlyDestination := by
    have hnet : networkItems lib.toRuleLibrary manager options = [] := by
      cases manager <;> simp [networkItems, itemIf, entriesOf, options]
    constructor <;> simp [rule, defaultRuleOf, itemIf, options, fields, hnet]
  have hitems : rule.destinationAddressItems = [.domain fun host =>
      lib.matchDomain (lib.newMatcher domains [] false) (lib.toLower host)] := by
    simp [rule, defaultRuleOf, itemIf, options, fields, newAdGuardDomainItem]
  refine ⟨.default rule none, ?_, fun metadata hhost => ?_⟩
  · rw [newHeadlessRule, if_pos hvalid, newDefaultHeadlessRule, hfields]
    rfl
  · have hlaw := hlib.matchDomain domains (lib.toLower metadata.domainHost)
    have hi : rule.invert = false := rfl
    rw [match_default_of_onlyDestination hdest (by simp [hitems]), hitems, hi]
    simp [matchAnyItem, RuleItem.match, RuleItem.matchDomainHost, hhost, hlaw, domainMatches]

lemma rawDomains_of_parseLines
    (hlines : parseLines lib texts = .ok lines) (hraw : lines.all isRawDomain) :
    ∀ line ∈ lines, line.ruleLine ≠ [] ∧ line.lineClass = .domain ∧ line.isRegexp = false := by
  intro line hmem
  obtain ⟨text, -, hparse⟩ := mem_parseLines hlines line hmem
  exact rawDomain_of_parseLine hparse (all_eq_true.1 hraw line hmem)

lemma builds_rawDomains (hlib : lib.MatchesAny)
    (hlines : parseLines lib texts = .ok lines) (hraw : lines.all isRawDomain)
    (hne : lines ≠ []) :
    Builds lib manager emptyLists (.default { domain := lines.map ruleLine })
    fun host => (lines.map ruleLine).any fun domain => domainMatches lib domain host := by
  refine builds_domains hlib (by simpa using hne) ?_
  rw [mem_map]
  rintro ⟨line, hmem, hemp⟩
  exact (rawDomains_of_parseLines hlines hraw line hmem).1 hemp

/-- The options are accepted and match what the list blocks. -/
def MatchesBlocked (lib : Library) (manager : Option NetworkManager) (emptyLists : Bool)
    (lines : List RuleLine) (rules : List (RuleOptions lib.toRuleLibrary)) : Prop :=
  ∃ options rule, rules = [options] ∧
    newHeadlessRule lib.toRuleLibrary manager emptyLists options = .ok rule ∧
      ∀ metadata : InboundContext, metadata.domainHost ≠ "" →
        (rule.match metadata ↔ Blocks lib lines metadata.domainHost)

lemma blocks_iff_of_rawDomains (hraw : lines.all isRawDomain)
    (hc : ∀ line ∈ lines, line.lineClass = .domain) (host : String) :
    Blocks lib lines host ↔
    (lines.map ruleLine).any (fun domain => domainMatches lib domain host) := by
  have hmatches : ∀ c, ClassMatches lib lines c host ↔
      c = .domain ∧ ∃ line ∈ lines, domainMatches lib line.ruleLine host := by
    intro c
    simp only [ClassMatches, lineMatches, hraw, if_true]
    constructor
    · rintro ⟨line, hmem, rfl, hm⟩
      exact ⟨hc line hmem, line, hmem, hm⟩
    · rintro ⟨rfl, line, hmem, hm⟩
      exact ⟨line, hmem, hc line hmem, hm⟩
  simp [Blocks, hmatches, any_map]

lemma blocks_iff_verdict (h : lines.all isRawDomain = false)
    (hdom : (partsOf lines).lacks .domain = false) (host : String) :
    Blocks lib lines host ↔ (partsOf lines).verdict lib host := by
  simp only [Blocks, classMatches_iff h, verdict, hdom, Bool.false_or, Bool.and_eq_true,
    Bool.or_eq_true, Bool.not_eq_true', Bool.not_eq_true]
  tauto

lemma blocks_iff_verdict_of_lacks (h : lines.all isRawDomain = false)
    (hdom : (partsOf lines).lacks .domain) (host : String) :
    ((partsOf lines).verdict lib host ↔ Blocks lib lines host) ↔
    ∃ c, ClassMatches lib lines c host := by
  have hnone : (partsOf lines).matchHost lib .domain host = false := matchHost_of_lacks hdom host
  have hsome : (∃ c, ClassMatches lib lines c host) ↔
      (partsOf lines).matchHost lib .important host ∨ (partsOf lines).matchHost lib .exclude host ∨
          (partsOf lines).matchHost lib .importantExclude host := by
    simp only [classMatches_iff h]
    constructor
    · rintro ⟨c, hc⟩
      cases c with
      | domain =>
        rw [hnone] at hc
        cases hc
      | exclude => exact .inr (.inl hc)
      | important => exact .inl hc
      | importantExclude => exact .inr (.inr hc)
    · rintro (hc | hc | hc)
      · exact ⟨_, hc⟩
      · exact ⟨_, hc⟩
      · exact ⟨_, hc⟩
  rw [hsome]
  simp only [Blocks, classMatches_iff h, verdict, hdom, hnone]
  cases (partsOf lines).matchHost lib .important host <;>
    cases (partsOf lines).matchHost lib .exclude host <;>
      cases (partsOf lines).matchHost lib .importantExclude host <;> simp

/-! ### A library for examples -/

def isDomainNameFrom (last : UInt8) (nonNumeric : Bool) (partLen : ℕ) : GoString → Bool
  | [] => last != 45 && partLen ≤ 63 && nonNumeric
  | c :: rest =>
    if 97 ≤ c ∧ c ≤ 122 ∨ 65 ≤ c ∧ c ≤ 90 ∨ c = 95 then isDomainNameFrom c true (partLen + 1) rest
    else if 48 ≤ c ∧ c ≤ 57 then isDomainNameFrom c nonNumeric (partLen + 1) rest
    else if c = 45 then last != 46 && isDomainNameFrom c true (partLen + 1) rest
    else if c = 46 then
      last != 46 && last != 45 && partLen ≤ 63 && partLen != 0 &&
        isDomainNameFrom c nonNumeric 0 rest
    else false

def isDomainName (s : GoString) : Bool := s = [46] ||
    s.length != 0 && s.length ≤ 254 && (s.length != 254 || s.getLast? = some 46) &&
      isDomainNameFrom 46 false 0 s

/-- Without wildcards: where it may begin, and whether it ends the host. -/
def matchPattern (pattern host : GoString) : Bool :=
  let isSuffix : Bool := bytes "||" <+: pattern
  let hasStart : Bool := bytes "|" <+: pattern
  let hasEnd : Bool := bytes "^" <:+ pattern
  let name := pattern.filter fun b => b != 124 && b != 94
  (range (host.length + 1)).any fun i =>
    (if isSuffix then i = 0 || host[i - 1]? = some 46 else !hasStart || i = 0) &&
      if hasEnd then host.drop i = name else name <+: host.drop i

/-- For lists without wildcards and regular expressions. -/
def listLibrary : Library where
  Matcher := List GoString
  newMatcher domains _ _ := domains
  AdGuardMatcher := List GoString
  newAdGuardMatcher patterns := patterns
  parsePrefix _ := .error "no '/'"
  parseAddr _ := none
  buildIPSet _ := .ok []
  matchDomain domains host := domains.any fun domain => domain = bytes host
  matchAdGuard patterns host := patterns.any fun pattern => matchPattern pattern (bytes host)
  toLower host := String.ofList (host.toList.map Char.toLower)
  contains _ _ := false
  compile _ := .error "error parsing regexp"
  containsAddr _ _ := false
  parseUint16 _ := .error "invalid syntax"
  text _ := ""
  base path := path
  isAndroid := false
  isDomainName := isDomainName
  addrIsUnspecified s := if s = bytes "0.0.0.0" then some true else none
  paramIsUnspecified s := s = bytes "0.0.0.0"

lemma listLibrary_matchesAny : listLibrary.MatchesAny where
  matchAdGuard patterns host := by simp [listLibrary]
  matchDomain domains host := by simp [listLibrary]

end SingBox.AdGuard

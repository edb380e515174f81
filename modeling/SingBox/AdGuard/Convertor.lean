import SingBox.Lib.Text
import SingBox.Rule.Headless

/-!
# AdGuard filter lists

A line blocks or excepts the domains of a pattern or a regular expression, or is ignored. Important
lines come last.
-/

namespace SingBox.AdGuard
open Options Text

structure Library extends RuleLibrary where
  isDomainName : GoString → Bool
  addrIsUnspecified : GoString → Option Bool
  /-- The unspecified address, for the parser of parameters. -/
  paramIsUnspecified : GoString → Bool

def bytes (s : String) : GoString := s.toList.map fun c => UInt8.ofNat c.toNat

structure RuleLine where
  ruleLine : GoString
  isRawDomain : Bool := false
  isExclude : Bool := false
  isSuffix : Bool := false
  hasStart : Bool := false
  hasEnd : Bool := false
  isRegexp : Bool := false
  isImportant : Bool := false
deriving DecidableEq

def isUint8 (s : GoString) : Bool := !s.isEmpty && s.all (fun b => 48 ≤ b && b ≤ 57) &&
    s.foldl (fun n b => n * 10 + (b.toNat - 48)) 0 ≤ 255

def ignoreIPCIDRRegexp (ruleLine : GoString) : Bool :=
  let ruleLine := if bytes "(http?:\\/\\/)" <+: ruleLine then ruleLine.drop 12
    else if bytes "(https?:\\/\\/)" <+: ruleLine then ruleLine.drop 13
    else if bytes "^" <+: ruleLine then ruleLine.drop 1
    else ruleLine
  isUint8 (substringBefore (bytes "\\.") ruleLine) || isUint8 (substringBefore (bytes ".") ruleLine)

variable (lib : Library)

def parseAdGuardHostLine (ruleLine : GoString) : Option GoString :=
  match cut (bytes " ") ruleLine with
  | none => none
  | some (before, after) =>
    match lib.addrIsUnspecified before with
    | none => none
    | some false => some []
    | some true => if lib.isDomainName after then some after else none

def parseParam (param : GoString) : Option Bool :=
  match param.splitOn 61 with
  | [name] => if name = bytes "important" then some true else none
  | [name, value] =>
    if name = bytes "important" then some true
    else if name = bytes "dnsrewrite" && lib.paramIsUnspecified value then some false
    else none
  | _ => none

def parseParams (ruleLine : GoString) : Option (GoString × Bool) :=
  if bytes "/" <+: ruleLine then some (ruleLine, false)
  else match cut (bytes "$") ruleLine with
    | none => some (ruleLine, false)
    | some (before, params) =>
      ((params.splitOn 44).mapM (parseParam lib)).map fun flags => (before, flags.any id)

def domainCheck (ruleLine : GoString) : GoString :=
  (if bytes "." <+: ruleLine ∨ bytes "-" <+: ruleLine then bytes "r" ++ ruleLine
    else ruleLine).map fun b => if b = 42 then 120 else b

/-- A path, a query, a cosmetic filter or a modifier. -/
def isUnsupported (ruleLine : GoString) : Bool :=
  (bytes "/?&[]()!#~").any fun b => ruleLine.contains b

def parseMarks (ruleLine : GoString) (isImportant : Bool) : RuleLine :=
  let isExclude : Bool := bytes "@@" <+: ruleLine
  let ruleLine := trimSuffix (bytes "|") (trimPrefix (bytes "@@") ruleLine)
  let isSuffix : Bool := bytes "||" <+: ruleLine
  let hasStart : Bool := !isSuffix && bytes "|" <+: ruleLine
  let ruleLine := if isSuffix then ruleLine.drop 2 else trimPrefix (bytes "|") ruleLine
  let hasEnd : Bool := bytes "^" <:+ ruleLine
  let ruleLine := trimSuffix (bytes "^") ruleLine
  { ruleLine, isExclude, isSuffix, hasStart, hasEnd, isImportant }

def parsePattern (line : RuleLine) : Except String (Option RuleLine) :=
  if bytes "/" <+: line.ruleLine ∧ bytes "/" <:+ line.ruleLine then
    -- one slash is both the first and the last one, and the slice panics
    if line.ruleLine.length < 2 then .error "slice bounds out of range [1:0]"
    else
      let ruleLine := (line.ruleLine.drop 1).dropLast
      if ignoreIPCIDRRegexp ruleLine then .ok none
      else .ok (some { line with ruleLine, isRegexp := true })
  else
    let (ruleLine, isSuffix) : GoString × Bool := match cut (bytes "://") line.ruleLine with
      | none => (line.ruleLine, line.isSuffix)
      | some (_, after) => (after, true)
    if isUnsupported ruleLine || ruleLine.isEmpty || !lib.isDomainName (domainCheck ruleLine) then
      .ok none
    else .ok (some { line with ruleLine, isSuffix })

/-- Neither a comment nor a domain nor a line of a hosts file. -/
def parseRuleLine (ruleLine : GoString) : Except String (Option RuleLine) :=
  match parseParams lib (trimSuffix (bytes "|") ruleLine) with
  | none => .ok none
  | some (ruleLine, isImportant) => parsePattern lib (parseMarks ruleLine isImportant)

def parseLine (ruleLine : GoString) : Except String (Option RuleLine) :=
  if ruleLine = [] ∨ bytes "!" <+: ruleLine ∨ bytes "#" <+: ruleLine then .ok none
  else if lib.isDomainName ruleLine then .ok (some { ruleLine, isRawDomain := true })
  else match parseAdGuardHostLine lib ruleLine with
    | some [] => .ok none
    | some hostLine =>
      .ok (some { ruleLine := hostLine, isRawDomain := true, hasStart := true, hasEnd := true })
    | none => parseRuleLine lib ruleLine

def parseLines : List GoString → Except String (List RuleLine)
  | [] => .ok []
  | line :: lines =>
    match parseLine lib line with
    | .error error => .error error
    | .ok none => parseLines lines
    | .ok (some ruleLine) => (parseLines lines).map (ruleLine :: ·)

/-- The lines of a file: a line of 64 KiB ends the file. -/
def fileLines (content : List UInt8) : List GoString := scanLines 10 13 65536 [] content

def mapDomain (line : RuleLine) : GoString :=
  (if line.isSuffix then bytes "||" else if line.hasStart then bytes "|" else []) ++
    line.ruleLine ++ if line.hasEnd then bytes "^" else []

inductive LineClass where
  | domain
  | exclude
  | important
  | importantExclude
deriving DecidableEq

def RuleLine.lineClass (line : RuleLine) : LineClass :=
  match line.isImportant, line.isExclude with
  | false, false => .domain
  | false, true => .exclude
  | true, false => .important
  | true, true => .importantExclude

structure Parts where
  domains : LineClass → List GoString
  regexes : LineClass → List GoString

def partsOf (lines : List RuleLine) : Parts where
  domains c := (lines.filter fun line => line.lineClass = c && !line.isRegexp).map mapDomain
  regexes c := (lines.filter fun line => line.lineClass = c && line.isRegexp).map mapDomain

def Parts.lacks (parts : Parts) (c : LineClass) : Bool :=
  (parts.domains c).isEmpty && (parts.regexes c).isEmpty

def Parts.rule (parts : Parts) (c : LineClass) (invert : Bool) : RuleOptions lib.toRuleLibrary :=
  .default { adGuardDomain := parts.domains c, domainRegex := parts.regexes c, invert }

def Parts.wrap (parts : Parts) (c : LineClass) (mode : LogicalMode) (invert : Bool)
    (current : RuleOptions lib.toRuleLibrary) : RuleOptions lib.toRuleLibrary :=
  if parts.lacks c then current else .logical mode [parts.rule lib c invert, current] false

def Parts.options (parts : Parts) : RuleOptions lib.toRuleLibrary :=
  let currentRule := parts.rule lib .domain false
  let currentRule := parts.wrap lib .exclude .and true currentRule
  let currentRule := parts.wrap lib .important .or false currentRule
  parts.wrap lib .importantExclude .and true currentRule

def linesToOptions (ruleLines : List RuleLine) :
    Except String (List (RuleOptions lib.toRuleLibrary)) :=
  if ruleLines = [] then .error "AdGuard rule-set is empty or all rules are unsupported"
  else if ruleLines.all RuleLine.isRawDomain then
    .ok [.default { domain := ruleLines.map RuleLine.ruleLine }]
  else .ok [(partsOf ruleLines).options lib]

def toOptions (content : List UInt8) : Except String (List (RuleOptions lib.toRuleLibrary)) :=
  (parseLines lib (fileLines content)).bind (linesToOptions lib)

end SingBox.AdGuard

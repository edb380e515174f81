import Mathlib.Algebra.Ring.Int.Defs
import Mathlib.Data.List.Basic
import Mathlib.Data.Prod.Lex

/-!
# Versions

`GreaterThan` compares the numbers, then the pre-release identifiers by their kind (alpha, beta, rc
or another one) and their number. It ignores the commit, but equality does not, so two versions may
each be less than the other. `GreaterThan` by itself is a strict partial order on all versions; the
comparisons are an order on a set of versions exactly if any two of them are comparable.
-/

namespace SingBox.BadVersion
open Prod.Lex

structure Version where
  major : ℤ := 0
  minor : ℤ := 0
  patch : ℤ := 0
  commit : List Char := []
  preReleaseIdentifier : List Char := []
  preReleaseVersion : ℤ := 0
  deriving DecidableEq

def alpha : List Char := "alpha".toList

def beta : List Char := "beta".toList

def rc : List Char := "rc".toList

/-- `strconv.Atoi` without its error: zero if the text is no number, and the nearest integer if it
is too large, even if something follows the digits. -/
def atoi : List Char → ℤ
  | '-' :: digits => -min (value digits) (2 ^ 63)
  | '+' :: digits => min (value digits) (2 ^ 63 - 1)
  | digits => min (value digits) (2 ^ 63 - 1)
where
  value (digits : List Char) : ℤ :=
    let n : ℤ := (digits.takeWhile Char.isDigit).foldl (fun n c => 10 * n + (c.toNat - 48 : ℕ)) 0
    if digits.all Char.isDigit || 2 ^ 64 ≤ n then n else 0

def parseIdentifier (identifier : List Char) : Version :=
  if '.' ∈ identifier then
    let identifierParts := identifier.splitOn '.'
    { preReleaseIdentifier := identifierParts.getD 0 []
      preReleaseVersion := atoi (identifierParts.getD 1 []) }
  else if alpha <+: identifier then
    { preReleaseIdentifier := alpha, preReleaseVersion := atoi (identifier.drop 5) }
  else if beta <+: identifier then
    { preReleaseIdentifier := beta, preReleaseVersion := atoi (identifier.drop 4) }
  else { commit := identifier }

def parse (versionName : List Char) : Version :=
  let versionName := if ['v'] <+: versionName then versionName.tail else versionName
  let parts := versionName.splitOn '-'
  let versionElements := (parts.getD 0 []).splitOn '.'
  { (if '-' ∈ versionName then parseIdentifier (parts.getD 1 []) else {}) with
    major := atoi (versionElements.getD 0 [])
    minor := atoi (versionElements.getD 1 [])
    patch := atoi (versionElements.getD 2 []) }

def parsePreReleaseIdentifier (identifier : List Char) : ℕ := if rc <+: identifier then 1
  else if beta <+: identifier then 2
  else if alpha <+: identifier then 3
  else 0

namespace Version
variable (u v w : Version)

/-- The rest of `GreaterThan` after the numbers. -/
def greaterPreRelease : Bool :=
  if v.preReleaseIdentifier = [] ∧ w.preReleaseIdentifier ≠ [] then true
  else if v.preReleaseIdentifier ≠ [] ∧ w.preReleaseIdentifier = [] then false
  else if v.preReleaseIdentifier ≠ [] ∧ w.preReleaseIdentifier ≠ [] then
    if v.preReleaseIdentifier = w.preReleaseIdentifier ∧
      w.preReleaseVersion < v.preReleaseVersion then true
    else if v.preReleaseIdentifier = w.preReleaseIdentifier ∧
      v.preReleaseVersion < w.preReleaseVersion then false
    else parsePreReleaseIdentifier v.preReleaseIdentifier <
      parsePreReleaseIdentifier w.preReleaseIdentifier
  else false

def greaterThan : Bool := if w.major < v.major then true
  else if v.major < w.major then false
  else if w.minor < v.minor then true
  else if v.minor < w.minor then false
  else if w.patch < v.patch then true
  else if v.patch < w.patch then false
  else greaterPreRelease v w

def greaterThanOrEqual : Bool := v == w || v.greaterThan w

def lessThan : Bool := !v.greaterThanOrEqual w

def triple : ℤ ×ₗ ℤ ×ₗ ℤ := toLex (v.major, toLex (v.minor, v.patch))

/-- The place of the pre-release: alpha, beta, rc, and the release behind them. -/
def rank : ℕ := [alpha, beta, rc].idxOf v.preReleaseIdentifier

/-- Versions with the same numbers that are both without a pre-release are the same, and different
pre-release identifiers of them are of different kinds. -/
def Comparable : Prop := v.triple = w.triple →
  (v.preReleaseIdentifier = [] → w.preReleaseIdentifier = [] →
    v.commit = w.commit ∧ v.preReleaseVersion = w.preReleaseVersion) ∧
  (v.preReleaseIdentifier ≠ [] → w.preReleaseIdentifier ≠ [] →
    v.preReleaseIdentifier ≠ w.preReleaseIdentifier →
    parsePreReleaseIdentifier v.preReleaseIdentifier ≠
      parsePreReleaseIdentifier w.preReleaseIdentifier)

/-- The answers to whether one is less, the other is less, and each is at least the other. -/
def relations : List Bool :=
  [v.lessThan w, w.lessThan v, v.greaterThanOrEqual w && w.greaterThanOrEqual v]

variable {u v w}

/-! ### `GreaterThan` is a strict partial order -/

lemma greater_iff {a b : ℤ} {rest : Bool} :
    (if b < a then true else if a < b then false else rest) ↔ b < a ∨ b = a ∧ rest := by
  rcases lt_trichotomy b a with h | h | h
  · simp [h]
  · simp [h]
  · simp [h, h.not_gt, h.ne']

lemma greaterThan_iff : v.greaterThan w ↔
    w.triple < v.triple ∨ w.triple = v.triple ∧ greaterPreRelease v w := by
  rw [greaterThan, greater_iff, greater_iff, greater_iff]
  simp only [triple, toLex_lt_toLex, EmbeddingLike.apply_eq_iff_eq, Prod.mk.injEq]
  tauto

/-- A release is greater than a pre-release; two of these are compared by number, or by kind. -/
lemma greaterPreRelease_iff : greaterPreRelease v w ↔ w.preReleaseIdentifier ≠ [] ∧
    (v.preReleaseIdentifier = [] ∨
      v.preReleaseIdentifier = w.preReleaseIdentifier ∧
        w.preReleaseVersion < v.preReleaseVersion ∨
      v.preReleaseIdentifier ≠ [] ∧ v.preReleaseIdentifier ≠ w.preReleaseIdentifier ∧
        parsePreReleaseIdentifier v.preReleaseIdentifier <
          parsePreReleaseIdentifier w.preReleaseIdentifier) := by
  unfold greaterPreRelease
  by_cases hv : v.preReleaseIdentifier = [] <;> by_cases hw : w.preReleaseIdentifier = [] <;>
    by_cases hid : v.preReleaseIdentifier = w.preReleaseIdentifier <;> grind

lemma greaterPreRelease_trans (huv : greaterPreRelease u v) (hvw : greaterPreRelease v w) :
    greaterPreRelease u w := by
  rw [greaterPreRelease_iff] at *
  grind

lemma greaterThan_trans (huv : u.greaterThan v) (hvw : v.greaterThan w) : u.greaterThan w := by
  rw [greaterThan_iff] at *
  rcases huv with huv | ⟨huv, hpre⟩ <;> rcases hvw with hvw | ⟨hvw, hpre'⟩
  · exact .inl (hvw.trans huv)
  · exact .inl (hvw ▸ huv)
  · exact .inl (huv ▸ hvw)
  · exact .inr ⟨hvw.trans huv, greaterPreRelease_trans hpre hpre'⟩

lemma not_greaterThan_self : ¬v.greaterThan v := by
  rw [greaterThan_iff, greaterPreRelease_iff]
  grind

lemma lessThan_iff : v.lessThan w ↔ ¬(v = w ∨ v.greaterThan w) := by
  simp [lessThan, greaterThanOrEqual]

lemma lessThan_of_greaterThan (h : w.greaterThan v) : v.lessThan w := by
  rw [lessThan_iff]
  rintro (rfl | hgt)
  · exact not_greaterThan_self h
  · exact not_greaterThan_self (greaterThan_trans h hgt)

/-! ### Comparable versions -/

/-- A version with a pre-release identifier has no commit, as `Parse` makes them. -/
def Parsed (v : Version) : Prop := v.preReleaseIdentifier ≠ [] → v.commit = []

lemma eq_of_fields (htriple : v.triple = w.triple) (hcommit : v.commit = w.commit)
    (hid : v.preReleaseIdentifier = w.preReleaseIdentifier)
    (hversion : v.preReleaseVersion = w.preReleaseVersion) : v = w := by
  simp only [triple, EmbeddingLike.apply_eq_iff_eq, Prod.mk.injEq] at htriple
  obtain ⟨hmajor, hminor, hpatch⟩ := htriple
  cases v
  cases w
  congr

lemma comparable_iff (hv : v.Parsed) (hw : w.Parsed) :
    v.Comparable w ↔ v = w ∨ v.greaterThan w ∨ w.greaterThan v := by
  constructor
  · intro h
    rcases lt_trichotomy v.triple w.triple with hlt | heq | hlt
    · exact .inr (.inr (greaterThan_iff.2 (.inl hlt)))
    · obtain ⟨hsame, hkinds⟩ := h heq
      rw [greaterThan_iff, greaterThan_iff, greaterPreRelease_iff, greaterPreRelease_iff]
      have heqv := eq_of_fields heq
      unfold Parsed at hv hw
      by_cases hvid : v.preReleaseIdentifier = [] <;> by_cases hwid : w.preReleaseIdentifier = []
      · exact .inl (heqv (hsame hvid hwid).1 (hvid.trans hwid.symm) (hsame hvid hwid).2)
      · exact .inr (.inl (.inr ⟨heq.symm, hwid, .inl hvid⟩))
      · exact .inr (.inr (.inr ⟨heq, hvid, .inl hwid⟩))
      · by_cases hid : v.preReleaseIdentifier = w.preReleaseIdentifier
        · rcases lt_trichotomy v.preReleaseVersion w.preReleaseVersion with hver | hver | hver
          · exact .inr (.inr (.inr ⟨heq, hvid, .inr (.inl ⟨hid.symm, hver⟩)⟩))
          · exact .inl (heqv ((hv hvid).trans (hw hwid).symm) hid hver)
          · exact .inr (.inl (.inr ⟨heq.symm, hwid, .inr (.inl ⟨hid, hver⟩)⟩))
        · rcases Nat.lt_or_gt_of_ne (hkinds hvid hwid hid) with hkind | hkind
          · exact .inr (.inl (.inr ⟨heq.symm, hwid, .inr (.inr ⟨hvid, hid, hkind⟩)⟩))
          · exact .inr (.inr (.inr ⟨heq, hvid, .inr (.inr ⟨hwid, Ne.symm hid, hkind⟩)⟩))
    · exact .inr (.inl (greaterThan_iff.2 (.inl hlt)))
  · rintro (rfl | h | h) heq
    · exact ⟨fun _ _ => ⟨rfl, rfl⟩, fun _ _ hne => absurd rfl hne⟩
    · rw [greaterThan_iff, greaterPreRelease_iff, heq] at h
      grind
    · rw [greaterThan_iff, greaterPreRelease_iff, heq] at h
      grind

/-- Exactly one of the relations holds if the versions are the same or one is greater. -/
lemma count_relations_iff : (v.relations w).count true = 1 ↔
    v = w ∨ v.greaterThan w ∨ w.greaterThan v := by
  by_cases heq : v = w
  · subst heq
    simp [relations, lessThan, greaterThanOrEqual]
  · have hbeq : (v == w) = false := beq_eq_false_iff_ne.2 heq
    have hbeq' : (w == v) = false := beq_eq_false_iff_ne.2 (Ne.symm heq)
    cases hvw : v.greaterThan w <;> cases hwv : w.greaterThan v
    · simp [relations, lessThan, greaterThanOrEqual, heq, hbeq, hbeq', hvw, hwv]
    · simp [relations, lessThan, greaterThanOrEqual, heq, hbeq, hbeq', hvw, hwv]
    · simp [relations, lessThan, greaterThanOrEqual, heq, hbeq, hbeq', hvw, hwv]
    · exact absurd (greaterThan_trans hvw hwv) not_greaterThan_self

lemma greaterThan_of_lessThan (h : v.Comparable w) (hv : v.Parsed) (hw : w.Parsed)
    (hless : v.lessThan w) : w.greaterThan v := by
  rw [lessThan_iff, not_or] at hless
  rcases (comparable_iff hv hw).1 h with heq | hgt | hgt
  · exact absurd heq hless.1
  · exact absurd hgt hless.2
  · exact hgt

lemma lessThan_of_rank (htriple : v.triple = w.triple)
    (hw : w.preReleaseIdentifier ∈ [[], alpha, beta, rc]) (hrank : v.rank < w.rank) :
    v.lessThan w := by
  have hv : v.preReleaseIdentifier ∈ [alpha, beta, rc] := by
    have hle : w.rank ≤ [alpha, beta, rc].length := List.idxOf_le_length
    exact List.idxOf_lt_length_iff.1 (hrank.trans_le hle)
  refine lessThan_of_greaterThan (greaterThan_iff.2 (.inr ⟨htriple, ?_⟩))
  rw [greaterPreRelease_iff]
  unfold rank at hrank
  simp only [List.mem_cons, List.not_mem_nil, or_false] at hv hw
  rcases hv with hv | hv | hv <;> rcases hw with hw | hw | hw | hw <;> rw [hv, hw] at hrank ⊢ <;>
    first
    | exact absurd hrank (by decide)
    | exact ⟨by decide, .inl rfl⟩
    | exact ⟨by decide, .inr (.inr (by decide))⟩

end Version

lemma parsed_parse (a : List Char) : (parse a).Parsed := by
  unfold parse parseIdentifier Version.Parsed
  grind

/-- The identifier is what comes before a dot; without a dot, `alpha` and `beta` are recognised. -/
lemma parseIdentifier_kind {kind number : List Char} (h : kind ∈ [alpha, beta, rc])
    (hdot : '.' ∉ number) :
    (parseIdentifier (kind ++ '.' :: number)).preReleaseIdentifier = kind ∧
      ((parseIdentifier (kind ++ number)).preReleaseIdentifier = kind ↔ kind ≠ rc) := by
  have hno : '.' ∉ kind ++ number := by
    have hkinds : ∀ kind ∈ [alpha, beta, rc], '.' ∉ kind := by decide
    exact fun hmem => (List.mem_append.1 hmem).elim (hkinds kind h) hdot
  constructor
  · rw [parseIdentifier, if_pos (by simp)]
    simp only [List.mem_cons, List.not_mem_nil, or_false] at h
    rcases h with rfl | rfl | rfl <;>
      simp [alpha, beta, rc, List.splitOn, List.splitOnP_cons_eq_if_modifyHead]
  · rw [parseIdentifier, if_neg hno]
    simp only [List.mem_cons, List.not_mem_nil, or_false] at h
    rcases h with rfl | rfl | rfl <;> simp [alpha, beta, rc]

end SingBox.BadVersion

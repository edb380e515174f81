import Mathlib.Data.List.Basic

/-!
# The options of a plugin

A list of `key=value`, separated by semicolons; a backslash takes the next byte as it is.
-/

namespace SingBox.SIP003
open List

abbrev Text := List UInt8

abbrev escape : UInt8 := 92
abbrev equals : UInt8 := 61
abbrev semicolon : UInt8 := 59

abbrev Args := Text → List Text

def Args.add (args : Args) (key value : Text) : Args :=
  Function.update args key (args key ++ [value])

inductive ParseError where
  | finalEscape (s : Text)
  | emptyKey

/-- The first unescaped terminator and the text before it, if any. -/
def indexUnescaped (term : Text) : Text → Option (ℕ × Text)
  | [] => some (0, [])
  | b :: s =>
    if b ∈ term then some (0, [])
    else if b = escape then
      match s with
      | [] => none
      | b :: s => (indexUnescaped term s).map fun (i, unesc) => (i + 2, b :: unesc)
    else (indexUnescaped term s).map fun (i, unesc) => (i + 1, b :: unesc)

def parseFrom (s : Text) (opts : Args) : Except ParseError Args :=
  if s = [] then .ok opts
  else
    match indexUnescaped [equals, semicolon] s with
    | none => .error (.finalEscape s)
    | some (offset, key) =>
      if key = [] then .error .emptyKey
      else if s[offset]? = some equals then
        match indexUnescaped [semicolon] (s.drop (offset + 1)) with
        | none => .error (.finalEscape (s.drop (offset + 1)))
        | some (offset', value) =>
          parseFrom ((s.drop (offset + 1)).drop (offset' + 1)) (opts.add key value)
      else parseFrom (s.drop (offset + 1)) (opts.add key [49])
termination_by s.length
decreasing_by all_goals
  have := length_pos_of_ne_nil ‹s ≠ []›
  simp only [length_drop]
  omega

def parsePluginOptions (s : Text) : Except ParseError Args := parseFrom s fun _ => []

/-- A key is empty or a backslash dangles; `start` begins a key. -/
def malformed (start : Bool) : Text → Bool
  | [] => false
  | b :: s =>
    if b = escape then
      match s with
      | [] => true
      | _ :: s => malformed false s
    else (start && (b = equals || b = semicolon)) || malformed (b = semicolon) s

variable {term s rest unesc : Text} {i : ℕ} {b : UInt8}

lemma malformed_cons (h : b ≠ escape) (start : Bool) (s : Text) :
    malformed start (b :: s) =
    ((start && (b = equals || b = semicolon)) || malformed (b = semicolon) s) := by
  rw [malformed.eq_def]
  exact if_neg h

lemma malformed_index {r : Option (ℕ × Text)} (hsemi : semicolon ∈ term)
    (h : indexUnescaped term s = r) :
    r.elim (∀ start, malformed start s) fun (i, _) =>
    malformed false (s.drop i) = malformed false s ∧ ∀ b ∈ s[i]?, b ∈ term := by
  subst h
  fun_induction indexUnescaped term s with
  | case1 => simp
  | case2 b s hb => simpa using hb
  | case3 => exact fun _ => rfl
  | case4 b s hb ih =>
    cases h : indexUnescaped term s with
    | none =>
      rw [h] at ih
      exact fun _ => ih false
    | some r =>
      rw [h] at ih
      exact ih
  | case5 b s hb hesc ih =>
    have hne : b ≠ semicolon := fun heq => hb (heq ▸ hsemi)
    cases h : indexUnescaped term s <;> simp_all [malformed_cons hesc]

lemma malformed_true (h : indexUnescaped [equals, semicolon] s = some (i, unesc)) (hs : s ≠ []) :
    malformed true s = (unesc = [] || malformed false s) := by
  fun_induction indexUnescaped [equals, semicolon] s with
  | case1 => exact absurd rfl hs
  | case2 b s hb =>
    have hesc : b ≠ escape := by
      rintro rfl
      revert hb
      decide
    cases h
    simpa [malformed_cons hesc] using Or.inl hb
  | case3 => cases h
  | case4 hb b s _ =>
    obtain ⟨⟨j, u⟩, -, heq⟩ := Option.map_eq_some_iff.1 h
    cases heq
    rfl
  | case5 b s hb hesc _ =>
    obtain ⟨⟨j, u⟩, -, heq⟩ := Option.map_eq_some_iff.1 h
    cases heq
    simp_all [malformed_cons hesc]

lemma drop_of_getElem? (h : s[i]? = some b) : s.drop i = b :: s.drop (i + 1) := by
  obtain ⟨hlt, heq⟩ := List.getElem?_eq_some_iff.1 h
  rw [drop_eq_getElem_cons hlt, heq]

lemma malformed_next (h : ∀ b ∈ s[i]?, b = semicolon) :
    malformed false (s.drop i) = malformed true (s.drop (i + 1)) := by
  rcases hb : s[i]? with _ | b
  · have hle : s.length ≤ i := getElem?_eq_none_iff.1 hb
    rw [drop_eq_nil_of_le hle, drop_eq_nil_of_le (by omega)]
    rfl
  · rw [drop_of_getElem? hb, h b hb]
    exact malformed_cons (by decide) false _

lemma parseFrom_eq_error_iff (s : Text) (opts : Args) :
    (∃ error, parseFrom s opts = .error error) ↔ malformed true s := by
  fun_induction parseFrom s opts with
  | case1 => simp [malformed]
  | case2 s opts hs h => simp [malformed_index (by decide) h true]
  | case3 s opts hs offset h => simp [malformed_true h hs]
  | case4 s opts hs offset key h hkey hequals h' =>
    have hrest : malformed false (s.drop offset) := by
      rw [drop_of_getElem? hequals, malformed_cons (by decide)]
      exact malformed_index (by decide) h' false
    simp [malformed_true h hs, ← (malformed_index (by decide) h).1, hrest]
  | case5 s opts hs offset key h hkey hequals offset' value h' ih =>
    obtain ⟨hvalue, hend⟩ := malformed_index (by decide) h'
    rw [ih, malformed_true h hs, ← (malformed_index (by decide) h).1, drop_of_getElem? hequals,
      malformed_cons (by decide), ← malformed_next fun b hb => mem_singleton.1 (hend b hb), hvalue]
    simp [hkey]
    rfl
  | case6 s opts hs offset key h hkey hequals ih =>
    obtain ⟨hdrop, hend⟩ := malformed_index (by decide) h
    have hsemi : ∀ b ∈ s[offset]?, b = semicolon := by
      intro b hb
      rcases mem_cons.1 (hend b hb) with rfl | hb'
      · exact absurd hb hequals
      · exact mem_singleton.1 hb'
    rw [ih, malformed_true h hs, ← hdrop, malformed_next hsemi]
    simp [hkey]

def escapeText : Text → Text
  | [] => []
  | b :: s =>
    if b ∈ [escape, equals, semicolon] then escape :: b :: escapeText s else b :: escapeText s

def printOption (option : Text × Text) : Text :=
  escapeText option.1 ++ equals :: escapeText option.2

def printOptions : List (Text × Text) → Text
  | [] => []
  | [option] => printOption option
  | option :: options => printOption option ++ semicolon :: printOptions options

variable {options : List (Text × Text)} {option : Text × Text}

lemma indexUnescaped_of_mem (h : b ∈ term) (s : Text) :
    indexUnescaped term (b :: s) = some (0, []) := by
  rw [indexUnescaped.eq_def]
  exact if_pos h

lemma indexUnescaped_escapeText (hterm : term ⊆ [equals, semicolon])
    (h : indexUnescaped term rest = some (0, [])) (s : Text) :
    indexUnescaped term (escapeText s ++ rest) = some ((escapeText s).length, s) := by
  have hesc : escape ∉ term := fun hmem => absurd (hterm hmem) (by decide)
  induction s with
  | nil => exact h
  | cons b s ih =>
    rw [escapeText]
    split_ifs with hb
    · simp [indexUnescaped, hesc, ih]
    · have hterm' : b ∉ term := fun hmem => hb (mem_cons_of_mem _ (hterm hmem))
      have hne : b ≠ escape := fun heq => hb (heq ▸ mem_cons_self)
      rw [cons_append, indexUnescaped.eq_def]
      simp [hterm', hne, ih]

lemma parseFrom_printOption (hkey : option.1 ≠ [])
    (h : indexUnescaped [semicolon] rest = some (0, [])) (opts : Args) :
    parseFrom (printOption option ++ rest) opts =
    parseFrom (rest.drop 1) (opts.add option.1 option.2) := by
  obtain ⟨key, value⟩ := option
  have hkey' : indexUnescaped [equals, semicolon] (printOption (key, value) ++ rest) =
      some ((escapeText key).length, key) := by
    rw [printOption, append_assoc]
    exact indexUnescaped_escapeText (Subset.refl _) (indexUnescaped_of_mem (by decide) _) key
  have hvalue := indexUnescaped_escapeText (subset_cons_self _ _) h value
  rw [parseFrom, hkey']
  simp [printOption, hkey, hvalue, ← drop_drop]

lemma parseFrom_printOptions (h : ∀ option ∈ options, option.1 ≠ []) (opts : Args) :
    parseFrom (printOptions options) opts =
    .ok (options.foldl (fun args option => args.add option.1 option.2) opts) := by
  fun_induction printOptions options generalizing opts with
  | case1 => simp [parseFrom]
  | case2 option =>
    have hoption : option.1 ≠ [] := h option mem_cons_self
    rw [← append_nil (printOption option), parseFrom_printOption hoption rfl, parseFrom]
    rfl
  | case3 option options _ ih =>
    obtain ⟨hoption, hoptions⟩ := forall_mem_cons.1 h
    rw [parseFrom_printOption hoption (indexUnescaped_of_mem (by decide) _)]
    exact ih hoptions _

lemma foldl_add (options : List (Text × Text)) (args : Args) (key : Text) :
    options.foldl (fun args option => args.add option.1 option.2) args key =
    args key ++ (options.filter (·.1 = key)).map Prod.snd := by
  induction options generalizing args with
  | nil => simp
  | cons option options ih =>
    rw [foldl_cons, ih]
    by_cases heq : option.1 = key
    · simp [Args.add, heq]
    · simp [Args.add, heq, Function.update_of_ne (Ne.symm heq)]

/-- Printed options are read back; malformed text is an error. -/
theorem parsePluginOptions_spec :
    (∀ options : List (Text × Text), (∀ option ∈ options, option.1 ≠ []) →
      ∃ args, parsePluginOptions (printOptions options) = .ok args ∧
        ∀ key, args key = (options.filter (·.1 = key)).map Prod.snd) ∧
    ∀ s, (∃ error, parsePluginOptions s = .error error) ↔ malformed true s :=
  ⟨fun options h => ⟨_, parseFrom_printOptions h _, foldl_add options _⟩,
    fun s => parseFrom_eq_error_iff s _⟩

end SingBox.SIP003

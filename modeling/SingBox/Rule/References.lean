import SingBox.Lib.Keeps
import SingBox.Lib.Run
import SingBox.Lib.Table
import Mathlib.Algebra.BigOperators.Group.List.Basic
import Mathlib.Algebra.Ring.Nat

/-!
# References to rule-sets

An item takes its references when it is started and drops them when it is closed; both may stop
half-way.
-/

namespace SingBox.References
open List Function Keeps

/-! ### Items -/

/-- A rule-set item. The rule-sets are of type `R`. -/
structure SetItem (R : Type) where
  tagList : List String
  setList : List R := []
  /-- The last call was a `Start` that succeeded, which no field says. -/
  started : Bool := false

variable {R : Type} [DecidableEq R]

def incRef (refs : R → ℤ) (ruleSet : R) : R → ℤ := update refs ruleSet (refs ruleSet + 1)

def decRef (refs : R → ℤ) (ruleSet : R) : Option (R → ℤ) := if refs ruleSet - 1 < 0 then none
  else some (update refs ruleSet (refs ruleSet - 1))

def decRefs : List R → (R → ℤ) → Option (R → ℤ)
  | [], refs => some refs
  | ruleSet :: setList, refs => (decRef refs ruleSet).bind (decRefs setList)

namespace SetItem

def close (item : SetItem R) (refs : R → ℤ) : Option (SetItem R × (R → ℤ)) :=
  (decRefs item.setList refs).map fun refs =>
    ({ item with setList := [], started := false }, refs)

def startTags (ruleSetMap : Table String R) :
    List String → SetItem R → (R → ℤ) → Option (Option String × SetItem R × (R → ℤ))
  | [], item, refs => some (none, { item with started := true }, refs)
  | tag :: tags, item, refs =>
    match ruleSetMap tag with
    | none => (item.close refs).map fun closed => (some ("rule-set not found: " ++ tag), closed)
    | some ruleSet =>
      startTags ruleSetMap tags { item with setList := item.setList ++ [ruleSet] }
        (incRef refs ruleSet)

def start (ruleSetMap : Table String R) (item : SetItem R) (refs : R → ℤ) :
    Option (Option String × SetItem R × (R → ℤ)) :=
  (item.close refs).bind fun closed =>
    startTags ruleSetMap closed.1.tagList closed.1 closed.2

end SetItem

/-! ### Rules and routers -/

inductive Item where
  | ruleSet (index : ℕ)
  | other (id : ℕ)

inductive Rule where
  | default (allItems : List Item)
  | logical (rules : List Rule)

/-- The errors of the items that are not rule-set items, in one call. -/
structure Failures where
  start : ℕ → Option String := fun _ => none
  close : ℕ → Option String := fun _ => none

structure State (R : Type) where
  /-- The counters are 32-bit numbers in the source; here they do not overflow, so the results are
  about fewer than 2³¹ references to a rule-set at a time. -/
  refs : R → ℤ := fun _ => 0
  items : List (SetItem R) := []
  dnsRules : List Rule := []
  dnsClosing : Bool := false
  routeRules : List Rule := []

/-- A call changes the state, or panics. -/
abbrev Call (R α : Type) := StateT (State R) Option α

variable (tagList : List String)

def newItem : Call R Unit := modify fun s => { s with items := s.items ++ [{ tagList }] }

def closeItem (index : ℕ) : Call R Unit := fun s =>
  match s.items[index]? with
  | none => some ((), s)
  | some item => (item.close s.refs).map fun (item, refs) =>
      ((), { s with refs, items := s.items.set index item })

variable (ruleSetMap : Table String R)

def startItem (index : ℕ) : Call R (Option String) := fun s =>
  match s.items[index]? with
  | none => some (none, s)
  | some item => (item.start ruleSetMap s.refs).map fun (error, item, refs) =>
      (error, { s with refs, items := s.items.set index item })

variable (failures : Failures)

def Item.start : Item → Call R (Option String)
  | .ruleSet index => startItem ruleSetMap index
  | .other id => pure (failures.start id)

def Item.close : Item → Call R (Option String)
  | .ruleSet index => do
    closeItem index
    pure none
  | .other id => pure (failures.close id)

def untilError {α : Type} (call : α → Call R (Option String)) : List α → Call R (Option String)
  | [] => pure none
  | a :: as => do
    match ← call a with
    | some error => pure (some error)
    | none => untilError call as

mutual

def Rule.start : Rule → Call R (Option String)
  | .default allItems => untilError (Item.start ruleSetMap failures) allItems
  | .logical rules => startRules rules

def startRules : List Rule → Call R (Option String)
  | [] => pure none
  | rule :: rules => do
    match ← rule.start with
    | some error => pure (some error)
    | none => startRules rules

end

mutual

def Rule.close : Rule → Call R (Option String)
  | .default allItems => untilError (Item.close failures) allItems
  | .logical rules => closeUntilError rules

def closeUntilError : List Rule → Call R (Option String)
  | [] => pure none
  | rule :: rules => do
    match ← rule.close with
    | some error => pure (some error)
    | none => closeUntilError rules

end

/-- Rules are started in their order; the error of a rule stops this. -/
def initializeRules (text : String) : ℕ → List Rule → Call R (Option String)
  | _, [] => pure none
  | i, rule :: rules => do
    match ← rule.start ruleSetMap failures with
    | some error => pure (some (text ++ "[" ++ toString i ++ "]: " ++ error))
    | none => initializeRules text (i + 1) rules

/-- All rules are closed, whatever the errors, which the route router returns together. -/
def closeRules : List Rule → Call R Unit
  | [] => pure ()
  | rule :: rules => do
    let _ ← rule.close failures
    closeRules rules

def parseRules : ℕ → List (Except String Rule) → List Rule → Call R (Except String (List Rule))
  | _, [], newRules => pure (.ok newRules)
  | i, .error error :: _, newRules => do
    closeRules failures newRules
    pure (.error ("parse dns rule[" ++ toString i ++ "]: " ++ error))
  | i, .ok rule :: rest, newRules => parseRules (i + 1) rest (newRules ++ [rule])

variable (invalid : Option String) (created : List (Except String Rule))

/-- The DNS router creates its rules, if accepted, and starts them. -/
def buildRules (start : Bool) : Call R (Except String (List Rule)) := do
  match invalid with
  | some error => pure (.error error)
  | none =>
    match ← parseRules failures 0 created [] with
    | .error error => pure (.error error)
    | .ok newRules =>
      if start then
        match ← initializeRules ruleSetMap failures "initialize DNS rule" 0 newRules with
        | some error => do
          closeRules failures newRules
          pure (.error error)
        | none => pure (.ok newRules)
      else pure (.ok newRules)

def dnsInitialize : Call R (Option String) := do
  match ← buildRules ruleSetMap failures invalid created false with
  | .error error => pure (some error)
  | .ok newRules => do
    closeRules failures newRules
    pure none

def dnsStart : Call R (Option String) := do
  match ← buildRules ruleSetMap failures invalid created true with
  | .error error => pure (some error)
  | .ok newRules => do
    let s ← get
    if s.dnsClosing then closeRules failures newRules
    else set { s with dnsRules := newRules }
    pure none

def dnsClose : Call R Unit := do
  let s ← get
  if s.dnsClosing then pure ()
  else do
    set { s with dnsClosing := true, dnsRules := [] }
    closeRules failures s.dnsRules

def routeInitialize (rule : Rule) : Call R Unit :=
  modify fun s => { s with routeRules := s.routeRules ++ [rule] }

def routeStart : Call R (Option String) := do
  let s ← get
  initializeRules ruleSetMap failures "initialize rule" 0 s.routeRules

def routeClose : Call R Unit := do
  let s ← get
  closeRules failures s.routeRules

/-- The rules that the DNS router creates are part of the call. -/
inductive Action where
  | newItem (tagList : List String)
  | startItem (index : ℕ)
  | closeItem (index : ℕ)
  | startRule (rule : Rule)
  | closeRule (rule : Rule)
  | dnsInitialize (invalid : Option String) (created : List (Except String Rule))
  | dnsStart (invalid : Option String) (created : List (Except String Rule))
  | dnsClose
  | routeInitialize (rule : Rule)
  | routeStart
  | routeClose

def perform : Action → Call R Unit
  | .newItem tagList => newItem tagList
  | .startItem index => do let _ ← startItem ruleSetMap index
  | .closeItem index => closeItem index
  | .startRule rule => do let _ ← rule.start ruleSetMap failures
  | .closeRule rule => do let _ ← rule.close failures
  | .dnsInitialize invalid created => do
    let _ ← dnsInitialize ruleSetMap failures invalid created
  | .dnsStart invalid created => do let _ ← dnsStart ruleSetMap failures invalid created
  | .dnsClose => dnsClose failures
  | .routeInitialize rule => routeInitialize rule
  | .routeStart => do let _ ← routeStart ruleSetMap failures
  | .routeClose => routeClose failures

def step (s : Option (State R)) (action : Failures × Action) : Option (State R) :=
  s.bind fun s => ((perform ruleSetMap action.1 action.2).run s).map Prod.snd

/-! ### Counting -/

variable {ruleSetMap failures}

lemma incRef_apply (refs : R → ℤ) (ruleSet ruleSet' : R) :
    incRef refs ruleSet ruleSet' = refs ruleSet' + [ruleSet].count ruleSet' := by
  by_cases h : ruleSet' = ruleSet
  · subst h
    simp [incRef]
  · have hne : ruleSet ≠ ruleSet' := fun heq => h heq.symm
    simp [incRef, h, hne]

lemma decRefs_eq_some (others : R → ℕ) (setList : List R) {refs : R → ℤ}
    (hrefs : ∀ ruleSet, refs ruleSet = others ruleSet + setList.count ruleSet) :
    decRefs setList refs = some fun ruleSet => (others ruleSet : ℤ) := by
  induction setList generalizing refs with
  | nil =>
    rw [decRefs]
    congr 1
    funext ruleSet
    simpa using hrefs ruleSet
  | cons first setList ih =>
    have hfst := hrefs first
    rw [count_cons_self] at hfst
    have hpos : ¬refs first - 1 < 0 := by omega
    rw [decRefs, decRef, if_neg hpos, Option.bind_some]
    refine ih fun ruleSet => ?_
    by_cases h : ruleSet = first
    · subst h
      rw [update_self]
      omega
    · have hne : first ≠ ruleSet := fun heq => h heq.symm
      rw [update_of_ne h, hrefs, count_cons_of_ne hne]

namespace SetItem

/-- Only started items refer to rule-sets, those of their tags. -/
def Settled (ruleSetMap : Table String R) (item : SetItem R) : Prop :=
  if item.started then item.tagList.map (ruleSetMap ·) = item.setList.map some
  else item.setList = []

variable {item : SetItem R} {refs : R → ℤ} {others : R → ℕ}
  (hrefs : ∀ ruleSet, refs ruleSet = others ruleSet + item.setList.count ruleSet)
include hrefs

lemma close_eq_some : item.close refs = some ({ item with setList := [], started := false },
      fun ruleSet => (others ruleSet : ℤ)) := by
  rw [close, decRefs_eq_some others item.setList hrefs]
  rfl

lemma startTags_eq_some (tags started : List String) (htags : item.tagList = started ++ tags)
    (hst : started.map (ruleSetMap ·) = item.setList.map some) :
    ∃ error item' refs', startTags ruleSetMap tags item refs = some (error, item', refs') ∧
    (∀ ruleSet, refs' ruleSet = others ruleSet + item'.setList.count ruleSet) ∧
    item'.Settled ruleSetMap ∧ (error ≠ none → item'.setList = []) := by
  induction tags generalizing item refs started with
  | nil =>
    refine ⟨none, { item with started := true }, refs, rfl, hrefs, ?_, fun h => absurd rfl h⟩
    rw [Settled, if_pos rfl]
    change item.tagList.map (ruleSetMap ·) = item.setList.map some
    rw [htags, append_nil, hst]
  | cons tag tags ih =>
    rw [startTags]
    cases hfound : ruleSetMap tag with
    | none =>
      rw [close_eq_some hrefs]
      exact ⟨_, _, _, rfl, fun ruleSet => by simp, by simp [Settled], fun _ => rfl⟩
    | some ruleSet =>
      refine ih (fun ruleSet' => ?_) (started ++ [tag]) ?_ ?_
      · rw [incRef_apply, hrefs, count_append, Int.natCast_add, add_assoc]
      · rw [append_assoc]
        exact htags
      · rw [map_append, map_append, hst, map_singleton, hfound]
        rfl

variable (ruleSetMap) in
lemma start_eq_some :
    ∃ error item' refs', item.start ruleSetMap refs = some (error, item', refs') ∧
    (∀ ruleSet, refs' ruleSet = others ruleSet + item'.setList.count ruleSet) ∧
    item'.Settled ruleSetMap ∧ (error ≠ none → item'.setList = []) := by
  rw [start, close_eq_some hrefs, Option.bind_some]
  exact startTags_eq_some (fun ruleSet => by simp) item.tagList [] rfl rfl

end SetItem

def held (items : List (SetItem R)) (ruleSet : R) : ℕ :=
  (items.map fun item => item.setList.count ruleSet).sum

variable {items : List (SetItem R)} {index : ℕ} {item : SetItem R}

lemma exists_others (h : items[index]? = some item) : ∃ others : R → ℕ, ∀ item' ruleSet,
    held (items.set index item') ruleSet = others ruleSet + item'.setList.count ruleSet := by
  induction items generalizing index with
  | nil => cases h
  | cons first items ih =>
    cases index with
    | zero => exact ⟨held items, fun item' ruleSet => add_comm _ _⟩
    | succ index =>
      obtain ⟨others, hothers⟩ := ih (by simpa using h)
      refine ⟨fun ruleSet => first.setList.count ruleSet + others ruleSet, fun item' ruleSet => ?_⟩
      have hset := hothers item' ruleSet
      simp only [held, set_cons_succ, map_cons, sum_cons] at hset ⊢
      rw [hset, add_assoc]

/-! ### The invariant -/

/-- The references are those of the items, and every item is settled. -/
structure Good (ruleSetMap : Table String R) (s : State R) : Prop where
  refs : ∀ ruleSet, s.refs ruleSet = held s.items ruleSet
  settled : ∀ item ∈ s.items, item.Settled ruleSetMap

variable {s : State R}

lemma Good.set (h : Good ruleSetMap s) (hitem : s.items[index]? = some item) : ∃ others : R → ℕ,
    (∀ ruleSet, s.refs ruleSet = others ruleSet + item.setList.count ruleSet) ∧
    ∀ (item' : SetItem R) (refs' : R → ℤ),
    (∀ ruleSet, refs' ruleSet = others ruleSet + item'.setList.count ruleSet) →
    item'.Settled ruleSetMap →
    Good ruleSetMap { s with refs := refs', items := s.items.set index item' } := by
  obtain ⟨others, hothers⟩ := exists_others hitem
  refine ⟨others, fun ruleSet => ?_, fun item' refs' hrefs' hset => ⟨fun ruleSet => ?_, ?_⟩⟩
  · obtain ⟨hlt, rfl⟩ := List.getElem?_eq_some_iff.1 hitem
    have hself := hothers s.items[index] ruleSet
    rw [set_getElem_self] at hself
    rw [h.refs, hself, Int.natCast_add]
  · dsimp only
    rw [hrefs', hothers item' ruleSet, Int.natCast_add]
  · intro item'' hmem
    rcases mem_or_eq_of_mem_set hmem with hmem | rfl
    · exact h.settled item'' hmem
    · exact hset

lemma keeps_newItem : Keeps (Good ruleSetMap) (newItem tagList) := by
  refine .modify fun s h => ⟨fun ruleSet => ?_, fun item hitem => ?_⟩
  · rw [h.refs]
    simp [held]
  · rcases mem_append.1 hitem with hitem | hitem
    · exact h.settled item hitem
    · rw [mem_singleton] at hitem
      rw [hitem]
      rfl

lemma keeps_closeItem (index : ℕ) : Keeps (Good ruleSetMap) (closeItem index) := by
  intro s h
  cases hitem : s.items[index]? with
  | none => exact ⟨(), s, by simp [closeItem, StateT.run, hitem], h⟩
  | some item =>
    obtain ⟨others, hrefs, hset⟩ := h.set hitem
    refine ⟨(), _, ?_, hset { item with setList := [], started := false }
      (fun ruleSet => (others ruleSet : ℤ)) (fun ruleSet => by simp) (by simp [SetItem.Settled])⟩
    simp [closeItem, StateT.run, hitem, SetItem.close_eq_some hrefs]

lemma startItem_spec (h : Good ruleSetMap s) (index : ℕ) :
    ∃ error s', (startItem ruleSetMap index).run s = some (error, s') ∧ Good ruleSetMap s' ∧
    (error ≠ none → ∀ item ∈ s'.items[index]?, item.setList = []) := by
  cases hitem : s.items[index]? with
  | none => exact ⟨none, s, by simp [startItem, StateT.run, hitem], h, fun hne => absurd rfl hne⟩
  | some item =>
    obtain ⟨others, hrefs, hset⟩ := h.set hitem
    obtain ⟨error, item', refs', hst, hrefs', hsettled, herror⟩ :=
      SetItem.start_eq_some ruleSetMap hrefs
    refine ⟨error, { s with refs := refs', items := s.items.set index item' }, ?_,
      hset item' refs' hrefs' hsettled, fun hne item'' hitem'' => ?_⟩
    · simp [startItem, StateT.run, hitem, hst]
    · obtain ⟨hlt, -⟩ := List.getElem?_eq_some_iff.1 hitem
      obtain rfl : item' = item'' := by simpa [hlt] using hitem''
      exact herror hne

lemma keeps_startItem (index : ℕ) : Keeps (Good ruleSetMap) (startItem ruleSetMap index) := by
  intro s h
  obtain ⟨error, s', hrun, h', -⟩ := startItem_spec h index
  exact ⟨error, s', hrun, h'⟩

lemma keeps_untilError {α : Type} {call : α → Call R (Option String)}
    (h : ∀ a, Keeps (Good ruleSetMap) (call a)) (as : List α) :
    Keeps (Good ruleSetMap) (untilError call as) := by
  induction as with
  | nil => exact .pure _
  | cons a as ih =>
    refine (h a).bind fun error => ?_
    cases error with
    | some error => exact .pure _
    | none => exact ih

lemma keeps_item_start (item : Item) :
    Keeps (Good ruleSetMap) (item.start ruleSetMap failures) := by
  cases item with
  | ruleSet index => exact keeps_startItem index
  | other id => exact .pure _

lemma keeps_item_close (item : Item) :
    Keeps (Good ruleSetMap) (item.close failures : Call R _) := by
  cases item with
  | ruleSet index => exact (keeps_closeItem index).bind fun _ => .pure _
  | other id => exact .pure _

mutual

lemma keeps_start : ∀ rule : Rule, Keeps (Good ruleSetMap) (rule.start ruleSetMap failures)
  | .default allItems => by
    rw [Rule.start]
    exact keeps_untilError keeps_item_start allItems
  | .logical rules => by
    rw [Rule.start]
    exact keeps_startRules rules

lemma keeps_startRules :
    ∀ rules : List Rule, Keeps (Good ruleSetMap) (startRules ruleSetMap failures rules)
  | [] => pure _
  | rule :: rules => by
    rw [startRules]
    refine (keeps_start rule).bind fun error => ?_
    cases error with
    | some error => exact pure _
    | none => exact keeps_startRules rules

end

mutual

lemma keeps_close :
    ∀ rule : Rule, Keeps (Good ruleSetMap) (rule.close failures : Call R (Option String))
  | .default allItems => by
    rw [Rule.close]
    exact keeps_untilError keeps_item_close allItems
  | .logical rules => by
    rw [Rule.close]
    exact keeps_closeUntilError rules

lemma keeps_closeUntilError : ∀ rules : List Rule,
    Keeps (Good ruleSetMap) (closeUntilError failures rules : Call R (Option String))
  | [] => pure _
  | rule :: rules => by
    rw [closeUntilError]
    refine (keeps_close rule).bind fun error => ?_
    cases error with
    | some error => exact pure _
    | none => exact keeps_closeUntilError rules

end

lemma keeps_initializeRules (text : String) (i : ℕ) (rules : List Rule) :
    Keeps (Good ruleSetMap) (initializeRules ruleSetMap failures text i rules) := by
  induction rules generalizing i with
  | nil => exact pure _
  | cons rule rules ih =>
    refine (keeps_start rule).bind fun error => ?_
    cases error with
    | some error => exact pure _
    | none => exact ih (i + 1)

lemma keeps_closeRules (rules : List Rule) :
    Keeps (Good ruleSetMap) (closeRules failures rules : Call R Unit) := by
  induction rules with
  | nil => exact pure _
  | cons rule rules ih => exact (keeps_close rule).bind fun _ => ih

lemma keeps_parseRules (i : ℕ) (created : List (Except String Rule)) (newRules : List Rule) :
    Keeps (Good ruleSetMap) (parseRules failures i created newRules : Call R _) := by
  induction created generalizing i newRules with
  | nil => exact pure _
  | cons first rest ih =>
    cases first with
    | error error => exact (keeps_closeRules newRules).bind fun _ => pure _
    | ok rule => exact ih (i + 1) (newRules ++ [rule])

lemma keeps_buildRules (start : Bool) :
    Keeps (Good ruleSetMap) (buildRules ruleSetMap failures invalid created start) := by
  cases invalid with
  | some error => exact pure _
  | none =>
    refine (keeps_parseRules 0 created []).bind fun parsed => ?_
    cases parsed with
    | error error => exact pure _
    | ok newRules =>
      cases start with
      | false => exact pure _
      | true =>
        refine (keeps_initializeRules _ 0 newRules).bind fun error => ?_
        cases error with
        | some error => exact (keeps_closeRules newRules).bind fun _ => pure _
        | none => exact pure _

lemma keeps_dnsInitialize :
    Keeps (Good ruleSetMap) (dnsInitialize ruleSetMap failures invalid created) := by
  refine (keeps_buildRules invalid created false).bind fun built => ?_
  cases built with
  | error error => exact pure _
  | ok newRules => exact (keeps_closeRules newRules).bind fun _ => pure _

lemma keeps_dnsStart : Keeps (Good ruleSetMap) (dnsStart ruleSetMap failures invalid created) := by
  refine (keeps_buildRules invalid created true).bind fun built => ?_
  cases built with
  | error error => exact pure _
  | ok newRules =>
    refine get_bind fun s h => ?_
    split_ifs
    · exact (keeps_closeRules newRules).bind fun _ => pure _
    · have hset : Good ruleSetMap { s with dnsRules := newRules } := ⟨h.refs, h.settled⟩
      exact (set hset).bind fun _ => pure _

lemma keeps_dnsClose : Keeps (Good ruleSetMap) (dnsClose failures : Call R Unit) := by
  refine get_bind fun s h => ?_
  split_ifs
  · exact .pure _
  · have hset : Good ruleSetMap { s with dnsClosing := true, dnsRules := [] } := ⟨h.refs, h.settled⟩
    exact (set hset).bind fun _ => keeps_closeRules s.dnsRules

variable (failures) in
lemma keeps_perform (action : Action) :
    Keeps (Good ruleSetMap) (perform ruleSetMap failures action) := by
  cases action with
  | newItem tagList => exact keeps_newItem tagList
  | startItem index => exact (keeps_startItem index).bind fun _ => pure _
  | closeItem index => exact keeps_closeItem index
  | startRule rule => exact (keeps_start rule).bind fun _ => pure _
  | closeRule rule => exact (keeps_close rule).bind fun _ => pure _
  | dnsInitialize invalid created =>
    exact (keeps_dnsInitialize invalid created).bind fun _ => pure _
  | dnsStart invalid created => exact (keeps_dnsStart invalid created).bind fun _ => pure _
  | dnsClose => exact keeps_dnsClose
  | routeInitialize rule => exact modify fun s h => ⟨h.refs, h.settled⟩
  | routeStart =>
    exact bind (get_bind fun s _ => keeps_initializeRules _ 0 s.routeRules) fun _ => pure _
  | routeClose => exact get_bind fun s _ => keeps_closeRules s.routeRules

structure Counted (ruleSetMap : Table String R) (s : State R) : Prop where
  refs : ∀ ruleSet, s.refs ruleSet = held (s.items.filter (·.started)) ruleSet
  settled : ∀ item ∈ s.items, item.Settled ruleSetMap

lemma held_filter (h : ∀ item ∈ items, item.Settled ruleSetMap)
    (ruleSet : R) : held (items.filter (·.started)) ruleSet = held items ruleSet := by
  induction items with
  | nil => rfl
  | cons first items ih =>
    have hrest := ih fun item hitem => h item (mem_cons_of_mem _ hitem)
    have hfst := h first mem_cons_self
    by_cases hst : first.started
    · rw [filter_cons_of_pos hst]
      exact congrArg (first.setList.count ruleSet + ·) hrest
    · rw [SetItem.Settled, if_neg hst] at hfst
      rw [filter_cons_of_neg hst, hrest]
      simp [held, hfst]

lemma Good.counted (h : Good ruleSetMap s) : Counted ruleSetMap s := by
  refine ⟨fun ruleSet => ?_, h.settled⟩
  rw [held_filter h.settled, h.refs]

/-- No call panics, rule-sets have as many references as started items hold, and an item that fails
holds none. -/
theorem counted_of_run {result : Option (State R)}
    (h : Run (step ruleSetMap) (fun _ _ => True) (some {}) result) :
    ∃ s, result = some s ∧ Counted ruleSetMap s ∧
      ∀ index error s', (startItem ruleSetMap index).run s = some (some error, s') →
        Counted ruleSetMap s' ∧ ∀ item ∈ s'.items[index]?, item.setList = [] := by
  obtain ⟨s, rfl, hs⟩ : ∃ s, result = some s ∧ Good ruleSetMap s := by
    refine h.invariant (I := fun result => ∃ s, result = some s ∧ Good ruleSetMap s)
      ⟨{}, rfl, fun _ => rfl, fun item hitem => ?_⟩ ?_
    · cases hitem
    · rintro _ action ⟨s, rfl, hs⟩ -
      obtain ⟨a, s', hrun, hs'⟩ := keeps_perform action.1 action.2 s hs
      exact ⟨s', by rw [step, Option.bind_some, hrun]; rfl, hs'⟩
  refine ⟨s, rfl, hs.counted, fun index error s' hrun => ?_⟩
  obtain ⟨error', s'', hrun', hs'', hemp⟩ := startItem_spec hs index
  rw [hrun] at hrun'
  obtain ⟨rfl, rfl⟩ : some error = error' ∧ s' = s'' := by simpa using hrun'
  exact ⟨hs''.counted, hemp (by simp)⟩

theorem counted_of_run_retry :
    let ruleSetMap : Table String String := Table.empty.insert "geoip" "geoip"
    let first : Rule := .default [.ruleSet 0, .other 0]
    let second : Rule := .logical [.default [.ruleSet 1]]
    let actions : List (Failures × Action) :=
      [({}, .newItem ["geoip", "geoip"]), ({}, .newItem ["geoip", "geosite"]),
        ({}, .dnsStart none [.ok first, .ok second]), ({}, .dnsStart none [.ok first]),
        ({}, .dnsClose), ({}, .dnsClose), ({}, .startRule first)]
    let result := actions.foldl (step ruleSetMap) (some {})
    (∃ s, result = some s ∧ Counted ruleSetMap s) ∧
      result.map (fun s => (s.refs "geoip", s.items.map (·.setList))) =
        some (2, [["geoip", "geoip"], []]) := by
  intro ruleSetMap first second actions result
  have hrun : Run (step ruleSetMap) (fun _ _ => True) (some {}) result :=
    Run.start.foldl (by decide)
  obtain ⟨s, hs, hcounted, -⟩ := counted_of_run hrun
  exact ⟨⟨s, hs, hcounted⟩, by decide +kernel⟩

end SingBox.References

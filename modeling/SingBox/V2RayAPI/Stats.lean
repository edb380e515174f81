import Mathlib.Algebra.Ring.Nat
import Mathlib.Data.List.Infix
import Mathlib.Data.List.Nodup
import SingBox.Lib.Run

/-!
# The statistics of the V2Ray API

`QueryStats` reads a counter once for each pattern that matches it.
-/

namespace SingBox.V2RayAPI
open List Function

structure QueryStatsRequest where
  patterns : List String
  reset : Bool
  regexp : Bool

/-- The library compiles regular expressions. -/
def QueryStatsRequest.matchers (request : QueryStatsRequest)
    (compile : String → Option (String → Bool)) : Option (List (String → Bool)) :=
  if request.regexp then request.patterns.mapM compile
  else some (request.patterns.map fun pattern name => pattern.toList <:+: name.toList)

/-- The counters in the order in which they are read; `order` is that of the map. -/
def visits (order : List String) (matchers : List (String → Bool)) : List String :=
  if matchers = [] then order
  else order.flatMap fun name => (matchers.filter (· name)).map fun _ => name

/-- A call of `GetStats` or `QueryStats`: what it reads, and what it has read. -/
structure Call (V : Type*) where
  reset : Bool
  names : List String
  stats : List (String × V)

/-- `counted` and `recorded` are no fields of the source: all that was counted, and the first value
of each resetting response. -/
structure StatsService (V : Type*) where
  names : List String
  counters : String → V
  counted : String → V
  recorded : String → V
  calls : List (Call V)

inductive Action (V : Type*)
  | connect (name : String)
  | count (name : String) (n : V)
  | getStats (name : String) (reset : Bool)
  | queryStats (order : List String) (request : QueryStatsRequest)
  | read (i : ℕ)

variable {V : Type*} [AddCommMonoid V] (compile : String → Option (String → Bool))

def step (s : StatsService V) : Action V → StatsService V
  | .connect name => { s with names := s.names.insert name }
  | .count name n => { s with
      counters := update s.counters name (s.counters name + n)
      counted := update s.counted name (s.counted name + n) }
  | .getStats name reset =>
    if name ∈ s.names then { s with calls := s.calls ++ [⟨reset, [name], []⟩] } else s
  | .queryStats order request =>
    match request.matchers compile with
    | some matchers =>
      if order ~ s.names then
        { s with calls := s.calls ++ [⟨request.reset, visits order matchers, []⟩] }
      else s
    | none => s
  | .read i =>
    match s.calls[i]? with
    | some call =>
      match call.names[call.stats.length]? with
      | some name =>
        { s with
          counters := if call.reset then update s.counters name 0 else s.counters
          recorded := if call.reset ∧ name ∉ call.stats.map Prod.fst then
            update s.recorded name (s.recorded name + s.counters name) else s.recorded
          calls := s.calls.set i { call with stats := call.stats ++ [(name, s.counters name)] } }
      | none => s
    | none => s

def init : StatsService V := ⟨[], fun _ => 0, fun _ => 0, fun _ => 0, []⟩

/-- No counter is matched by two patterns. -/
def Apart (names : List String) (matchers : List (String → Bool)) : Prop :=
  ∀ name ∈ names, (matchers.filter (· name)).length ≤ 1

def Careful (s : StatsService V) : Action V → Prop
  | .queryStats _ request => ∀ matchers ∈ request.matchers compile, Apart s.names matchers
  | _ => True

structure Call.Inv (call : Call V) : Prop where
  read : call.stats.map Prod.fst = call.names.take call.stats.length
  nodup : call.names.Nodup

structure Inv (s : StatsService V) : Prop where
  nodup : s.names.Nodup
  calls : ∀ call ∈ s.calls, call.Inv
  conserved : ∀ name, s.recorded name + s.counters name = s.counted name

variable {order names : List String} {matchers : List (String → Bool)}

lemma count_visits (hne : matchers ≠ []) (name : String) : (visits order matchers).count name =
    order.count name * (matchers.filter (· name)).length := by
  rw [visits, if_neg hne]
  induction order with
  | nil => simp
  | cons x order ih =>
    rw [flatMap_cons, count_append, ih, count_cons]
    by_cases hx : x = name <;> simp [hx, map_const', count_replicate, Nat.add_mul, add_comm]

lemma nodup_visits (hnames : names.Nodup) (horder : order ~ names)
    (hapart : Apart names matchers) : (visits order matchers).Nodup := by
  rcases eq_or_ne matchers [] with rfl | hne
  · simpa [visits] using horder.nodup_iff.2 hnames
  · refine nodup_iff_count_le_one.2 fun name => ?_
    rw [count_visits hne, horder.count_eq, hnames.count]
    split_ifs with hmem
    · simpa using hapart name hmem
    · simp

variable {compile} {s : StatsService V}

lemma Inv.append {call : Call V} (h : Inv s) (hstats : call.stats = [])
    (hnodup : call.names.Nodup) : Inv { s with calls := s.calls ++ [call] } where
  nodup := h.nodup
  calls := by
    intro call' hcall'
    rcases mem_append.1 hcall' with hcall' | hcall'
    · exact h.calls call' hcall'
    · rw [mem_singleton.1 hcall']
      exact ⟨by simp [hstats], hnodup⟩
  conserved := h.conserved

lemma Inv.read {i : ℕ} (h : Inv s) : Inv (step compile s (.read i)) := by
  rw [V2RayAPI.step]
  cases hcall : s.calls[i]? with
  | none => exact h
  | some call =>
    dsimp only
    cases hname : call.names[call.stats.length]? with
    | none => exact h
    | some name =>
      have hinv := h.calls call (mem_of_getElem? hcall)
      have hread : call.stats.map Prod.fst ++ [name] = call.names.take (call.stats.length + 1) := by
        rw [take_add_one, hname, hinv.read, Option.toList_some]
      have hnew : name ∉ call.stats.map Prod.fst := by
        have hnodup := hinv.nodup.sublist (take_sublist (call.stats.length + 1) _)
        rw [← hread, ← concat_eq_append, nodup_concat] at hnodup
        exact hnodup.1
      refine ⟨h.nodup, fun call' hcall' => ?_, fun name' => ?_⟩
      · rcases mem_or_eq_of_mem_set hcall' with hcall' | rfl
        · exact h.calls call' hcall'
        · exact ⟨by simpa using hread, hinv.nodup⟩
      · rw [← h.conserved name']
        cases call.reset <;> rcases eq_or_ne name' name with rfl | hne <;> simp [*]

lemma Inv.step (h : Inv s) (a : Action V) (hcareful : Careful compile s a) :
    Inv (step compile s a) := by
  cases a with
  | connect name => exact ⟨h.nodup.insert, h.calls, h.conserved⟩
  | count name n =>
    refine ⟨h.nodup, h.calls, fun name' => ?_⟩
    rcases eq_or_ne name' name with rfl | hne
    · simp [V2RayAPI.step, ← h.conserved, add_assoc]
    · simp [V2RayAPI.step, hne, h.conserved]
  | getStats name reset =>
    rw [V2RayAPI.step]
    split_ifs
    exacts [h.append rfl (nodup_singleton name), h]
  | queryStats order request =>
    rw [V2RayAPI.step]
    cases hm : request.matchers compile with
    | none => exact h
    | some matchers =>
      dsimp only
      split_ifs with horder
      exacts [h.append rfl (nodup_visits h.nodup horder (hcareful _ hm)), h]
  | read i => exact h.read

lemma read_once_iff (name : String) :
    (if name ∈ names then 1 else 0) * (matchers.filter (· name)).length =
        (if name ∈ names ∧ ∃ matcher ∈ matchers, matcher name then 1 else 0) ↔
      (name ∈ names → (matchers.filter (· name)).length ≤ 1) := by
  have hpos : 0 < (matchers.filter (· name)).length ↔ ∃ matcher ∈ matchers, matcher name := by
    simp [length_pos_iff_exists_mem]
  by_cases hmem : name ∈ names
  · simp only [hmem, if_true, one_mul, true_and, true_imp_iff, ← hpos]
    split_ifs <;> omega
  · simp [hmem]

/-- A query has each counter that matches some pattern once exactly if there are patterns, or no
counters, and none is matched by two. Then what was recorded and what is left is what was
counted. -/
theorem queryStats_conserved (compile : String → Option (String → Bool)) :
    (∀ names order matchers, names.Nodup → order ~ names →
      ((∀ name, (visits order matchers).count name =
          if name ∈ names ∧ ∃ matcher ∈ matchers, matcher name then 1 else 0) ↔
        (matchers = [] → names = []) ∧ Apart names matchers)) ∧
    ∀ s : StatsService V, Run (step compile) (Careful compile) init s → s.names.Nodup ∧
      (∀ call ∈ s.calls, call.stats.map Prod.fst = call.names.take call.stats.length) ∧
      ∀ name, s.recorded name + s.counters name = s.counted name := by
  refine ⟨fun names order matchers hnames horder => ?_, fun s hrun => ?_⟩
  · rcases eq_or_ne matchers [] with rfl | hne
    · simp only [visits, if_true, horder.count_eq, Apart]
      simp [eq_nil_iff_forall_not_mem, count_eq_zero]
    · simp only [count_visits hne, horder.count_eq, hnames.count, hne, false_imp_iff, true_and]
      exact forall_congr' fun name => read_once_iff name
  · have h : Inv s := hrun.invariant ⟨nodup_nil, nofun, fun _ => zero_add 0⟩ fun _ a h => h.step a
    exact ⟨h.nodup, fun call hcall => (h.calls call hcall).read, h.conserved⟩

/-- Both patterns match, and what is counted between is lost; without patterns all are returned. -/
theorem queryStats_twice :
    let s : StatsService ℕ := [.connect "a", .count "a" 5,
      .queryStats ["a"] ⟨["a", "a"], true, false⟩, .read 0, .count "a" 3,
      .read 0].foldl (step fun _ => none) init
    s.calls.map Call.stats = [[("a", 5), ("a", 3)]] ∧ s.recorded "a" = 5 ∧ s.counters "a" = 0 ∧
      s.counted "a" = 8 ∧ visits ["a"] [] = ["a"] := by
  decide +kernel

end SingBox.V2RayAPI

import Mathlib.Data.List.Chain
import SingBox.Lib.Dependency

/-!
# The start of outbounds and DNS servers

Both managers start elements after their dependencies, and report a cycle or a missing one.
-/

namespace SingBox
open List

/-! ### Starting in rounds -/

structure Startable where
  type : String
  tag : String
  dependencies : List String
  start : Option (Except String Unit)

open Startable

structure StartTexts where
  kind : String
  subject : String

structure StartResult where
  started : List String
  error : Option String
deriving DecidableEq

structure PassState where
  started : List String
  canContinue : Bool

namespace StartTexts

def startFailed (texts : StartTexts) (o : Startable) (error : String) : String :=
  "start " ++ texts.kind ++ o.type ++ "[" ++ o.tag ++ "]" ++ ": " ++ error

def circular (texts : StartTexts) (tree : List String) (tag : String) : String :=
  "circular " ++ texts.subject ++ " dependency: " ++ String.intercalate " -> " tree ++ " -> " ++ tag

def notFound (texts : StartTexts) (dependency tag : String) : String :=
  "dependency[" ++ dependency ++ "] not found for " ++ texts.subject ++ "[" ++ tag ++ "]"

end StartTexts

variable (texts : StartTexts)

def startOne (o : Startable) (state : PassState) : Except StartResult PassState :=
  if o.tag ∈ state.started then .ok state
  else if ∀ dependency ∈ o.dependencies, dependency ∈ state.started then
    let started := state.started ++ [o.tag]
    match o.start with
    | some (.error error) => .error ⟨started, some (texts.startFailed o error)⟩
    | some (.ok ()) | none => .ok ⟨started, true⟩
  else .ok state

def startPass : List Startable → PassState → Except StartResult PassState
  | [], state => .ok state
  | o :: rest, state =>
    match startOne texts o state with
    | .ok state => startPass rest state
    | .error result => .error result

def lint (started : List String) (byTag : String → Option Startable) :
    ℕ → List String → Startable → Option String
  | 0, _, _ => none
  | fuel + 1, tree, current =>
    let problemTag := (current.dependencies.find? (· ∉ started)).getD ""
    if problemTag ∈ tree then some (texts.circular tree problemTag)
    else
      match byTag problemTag with
      | none => some (texts.notFound problemTag current.tag)
      | some problem => lint started byTag fuel (tree ++ [problemTag]) problem

/-- The outer loop. With nothing left to start, nil is dereferenced. -/
def startLoop (byTag : String → Option Startable) (all : List Startable) (limit : ℕ) :
    ℕ → List String → Option StartResult
  | 0, _ => none
  | fuel + 1, started =>
    match startPass texts all ⟨started, false⟩ with
    | .error result => some result
    | .ok state =>
      if state.started.length = all.length then some ⟨state.started, none⟩
      else if state.canContinue then startLoop byTag all limit fuel state.started
      else
        (all.find? fun o => o.tag ∉ state.started).bind fun current =>
          (lint texts state.started byTag limit [current.tag] current).map fun error =>
            ⟨state.started, some error⟩

def startOutbounds (outbounds endpoints : List Startable) (fuel : ℕ) : Option StartResult :=
  startLoop ⟨"outbound/", "outbound"⟩ (fun tag => outbounds.find? (·.tag = tag))
    (outbounds ++ endpoints) fuel fuel []

def startTransports (transports : List Startable) (fuel : ℕ) : Option StartResult :=
  startLoop ⟨"dns/", "server"⟩ (fun tag => transports.find? (·.tag = tag)) transports fuel fuel []

section
variable {texts} {all : List Startable}

def Startable.Starts (o : Startable) : Prop := ∀ error, o.start ≠ some (.error error)

structure Startable.Ready (o : Startable) (all : List Startable) (started : List String) :
    Prop where
  mem : o ∈ all
  notStarted : o.tag ∉ started
  dependencies : ∀ dependency ∈ o.dependencies, dependency ∈ started

/-! ### What has been started -/

inductive Started (all : List Startable) : List String → Prop
  | nil : Started all []
  | start {started : List String} {o : Startable} :
    Started all started → o.Ready all started → o.Starts → Started all (started ++ [o.tag])

def DependsOn (all : List Startable) (a b : String) : Prop :=
  ∃ o ∈ all, o.tag = a ∧ b ∈ o.dependencies

variable {o : Startable}

lemma eq_of_tag {o' : Startable} (huniq : (all.map tag).Nodup) (ho : o ∈ all)
    (ho' : o' ∈ all) (htag : o.tag = o'.tag) : o = o' :=
  inj_on_of_nodup_map huniq ho ho' htag

lemma nodup_append_singleton {l : List String} (h : l.Nodup) {a : String} (ha : a ∉ l) :
    (l ++ [a]).Nodup := by
  rw [nodup_append]
  refine ⟨h, nodup_singleton _, ?_⟩
  rintro b hb c hc rfl
  rw [mem_singleton.1 hc] at hb
  exact ha hb

variable {started : List String}
section
variable (h : Started all started)
include h

lemma Started.nodup : started.Nodup := by
  induction h with
  | nil => exact nodup_nil
  | start _ hready _ ih =>
    exact nodup_append_singleton ih hready.notStarted

lemma Started.exists_mem {tag : String}
    (htag : tag ∈ started) : ∃ o ∈ all, o.tag = tag ∧ o.Starts := by
  induction h with
  | nil => cases htag
  | @start started o _ hready hstarts ih =>
    rcases mem_append.1 htag with hbef | hlast
    · exact ih hbef
    · exact ⟨o, hready.mem, (mem_singleton.1 hlast).symm, hstarts⟩

lemma Started.subset : started ⊆ all.map tag := by
  intro tag htag
  obtain ⟨o, ho, rfl, -⟩ := h.exists_mem htag
  exact mem_map_of_mem ho

lemma Started.length_le : started.length ≤ all.length := by
  have hsub := List.Nodup.subperm h.nodup h.subset
  simpa using hsub.length_le

lemma Started.ordered (huniq : (all.map tag).Nodup) : Dependency.Ordered (DependsOn all)
    started := by
  induction h with
  | nil => exact Dependency.ordered_nil
  | start _ hready _ ih =>
    refine ih.concat ?_
    rintro b ⟨o', ho', htag, hb⟩
    rw [eq_of_tag huniq ho' hready.mem htag] at hb
    exact hready.dependencies b hb

lemma Started.mem_of_length
    (hlen : started.length = all.length) (ho : o ∈ all) : o.tag ∈ started := by
  have hsub := List.Nodup.subperm h.nodup h.subset
  have hperm := hsub.perm_of_length_le (by simp [hlen])
  exact hperm.mem_iff.2 (mem_map_of_mem ho)

end

/-! ### One round -/

lemma startOne_cases (texts : StartTexts) (o : Startable) (state : PassState) :
    (startOne texts o state = .ok state ∧
        (o.tag ∈ state.started ∨ ∃ dependency ∈ o.dependencies, dependency ∉ state.started)) ∨
    (o.tag ∉ state.started ∧ (∀ dependency ∈ o.dependencies, dependency ∈ state.started) ∧
        ((o.Starts ∧ startOne texts o state = .ok ⟨state.started ++ [o.tag], true⟩) ∨
          ∃ error, o.start = some (.error error) ∧ startOne texts o state =
            .error ⟨state.started ++ [o.tag], some (texts.startFailed o error)⟩)) := by
  by_cases hst : o.tag ∈ state.started
  · refine .inl ⟨?_, .inl hst⟩
    simp [startOne, hst]
  · by_cases hdeps : ∀ dependency ∈ o.dependencies, dependency ∈ state.started
    · refine .inr ⟨hst, hdeps, ?_⟩
      match hstart : o.start with
      | none | some (.ok ()) =>
        refine .inl ⟨fun error => by simp [hstart], ?_⟩
        simp [startOne, hst, if_pos hdeps, hstart]
      | some (.error error) =>
        refine .inr ⟨error, rfl, ?_⟩
        simp [startOne, hst, if_pos hdeps, hstart]
    · refine .inl ⟨?_, .inr ?_⟩
      · simp [startOne, hst, if_neg hdeps]
      · simpa using hdeps

def FailedStart (texts : StartTexts) (all : List Startable) (result : StartResult) : Prop :=
  ∃ started o error, Started all started ∧ o.Ready all started ∧ o.start = some (.error error) ∧
    result = ⟨started ++ [o.tag], some (texts.startFailed o error)⟩

structure PassDone (all rest : List Startable) (state state' : PassState) : Prop where
  started : Started all state'.started
  length_le : state.started.length ≤ state'.started.length
  canContinue : state'.canContinue ↔
    state.canContinue ∨ state.started.length < state'.started.length
  /-- If nothing was started, every other element lacks a dependency. -/
  stuck : state'.started.length = state.started.length →
    state' = state ∧ ∀ o ∈ rest, o.tag ∉ state.started →
      ∃ dependency ∈ o.dependencies, dependency ∉ state.started

lemma startPass_spec (texts : StartTexts) (rest : List Startable) (hrest : ∀ o ∈ rest, o ∈ all)
    (state : PassState) (h : Started all state.started) :
    (∃ state', startPass texts rest state = .ok state' ∧ PassDone all rest state state') ∨
    ∃ result, startPass texts rest state = .error result ∧ FailedStart texts all result := by
  induction rest generalizing state with
  | nil => exact .inl ⟨state, rfl, h, le_rfl, by simp, fun _ => ⟨rfl, by simp⟩⟩
  | cons o rest ih =>
    have hrest' : ∀ o ∈ rest, o ∈ all := fun o ho => hrest o (mem_cons_of_mem _ ho)
    obtain ⟨heq, hskip⟩ | ⟨hnew, hdeps, hstep⟩ := startOne_cases texts o state
    · -- nothing is done for this element
      simp only [startPass, heq]
      obtain ⟨state', hpass, hdone⟩ | hfailed := ih hrest' state h
      · refine .inl ⟨state', hpass, hdone.started, hdone.length_le, hdone.canContinue, ?_⟩
        intro hlen
        obtain ⟨hsame, hrest⟩ := hdone.stuck hlen
        refine ⟨hsame, ?_⟩
        intro o' ho' hnot
        rcases mem_cons.1 ho' with rfl | ho'
        · exact hskip.resolve_left hnot
        · exact hrest o' ho' hnot
      · exact .inr hfailed
    · have hready : o.Ready all state.started := ⟨hrest o mem_cons_self, hnew, hdeps⟩
      obtain ⟨hstarts, heq⟩ | ⟨error, herror, heq⟩ := hstep
      · simp only [startPass, heq]
        obtain ⟨state', hpass, hdone⟩ | hfailed :=
          ih hrest' ⟨state.started ++ [o.tag], true⟩ (h.start hready hstarts)
        · have hlonger : state.started.length < state'.started.length := by
            have hle := hdone.length_le
            simp only [length_append, length_singleton] at hle
            omega
          refine .inl ⟨state', hpass, hdone.started, by omega, ?_, fun hlen => by omega⟩
          exact iff_of_true (hdone.canContinue.2 (.inl rfl)) (.inr hlonger)
        · exact .inr hfailed
      · simp only [startPass, heq]
        exact .inr ⟨_, rfl, state.started, o, error, h, hready, herror, rfl⟩

/-! ### Circles and missing elements -/

def Stuck (all : List Startable) (started : List String) : Prop :=
  ∀ o ∈ all, o.tag ∉ started → ∃ dependency ∈ o.dependencies, dependency ∉ started

def ByTag (byTag : String → Option Startable) (all : List Startable) : Prop :=
  ∀ tag o, byTag tag = some o → o ∈ all ∧ o.tag = tag

/-- Dependencies that come back, or one that does not exist. -/
inductive Reported (texts : StartTexts) (byTag : String → Option Startable)
    (all : List Startable) : String → Prop
  | circular {tree : List String} {tag : String} :
    (tree ++ [tag]).IsChain (DependsOn all) → tag ∈ tree →
      Reported texts byTag all (texts.circular tree tag)
  | notFound {o : Startable} {dependency : String} :
    o ∈ all → dependency ∈ o.dependencies → byTag dependency = none →
      Reported texts byTag all (texts.notFound dependency o.tag)

lemma Stuck.find (h : Stuck all started) (ho : o ∈ all) (hnot : o.tag ∉ started) :
    (o.dependencies.find? (· ∉ started)).getD "" ∈ o.dependencies ∧
    (o.dependencies.find? (· ∉ started)).getD "" ∉ started := by
  cases hfind : o.dependencies.find? (· ∉ started) with
  | none =>
    obtain ⟨dependency, hmem, hdep⟩ := h o ho hnot
    have hnone := find?_eq_none.1 hfind dependency hmem
    simp [hdep] at hnone
  | some dependency =>
    have hnew := find?_some hfind
    exact ⟨mem_of_find?_eq_some hfind, by simpa using hnew⟩

variable {byTag : String → Option Startable}

lemma lint_spec (texts : StartTexts) (hstuck : Stuck all started) (hbyTag : ByTag byTag all)
    (fuel : ℕ) (tree : List String) (current : Startable) (hcur : current ∈ all)
    (hnot : current.tag ∉ started) (hlast : tree.getLast? = some current.tag) (hnodup : tree.Nodup)
    (hsub : tree ⊆ all.map tag) (hchain : tree.IsChain (DependsOn all))
    (hfuel : all.length < fuel + tree.length) :
    ∃ error, lint texts started byTag fuel tree current = some error ∧
    Reported texts byTag all error := by
  induction fuel generalizing tree current with
  | zero =>
    have hlen := (List.Nodup.subperm hnodup hsub).length_le
    simp only [length_map] at hlen
    omega
  | succ fuel ih =>
    obtain ⟨hmem, hnew⟩ := hstuck.find hcur hnot
    -- the dependency that is followed extends the chain
    have hchain' : (tree ++ [(current.dependencies.find? (· ∉ started)).getD ""]).IsChain
        (DependsOn all) := by
      rw [isChain_append]
      refine ⟨hchain, isChain_singleton _, ?_⟩
      intro a ha b hb
      rw [hlast, Option.mem_some_iff] at ha
      rw [head?_cons, Option.mem_some_iff] at hb
      rw [← ha, ← hb]
      exact ⟨current, hcur, rfl, hmem⟩
    simp only [lint]
    split_ifs with hcircular
    · exact ⟨_, rfl, .circular hchain' hcircular⟩
    · cases hfound : byTag ((current.dependencies.find? (· ∉ started)).getD "") with
      | none => exact ⟨_, rfl, .notFound hcur hmem hfound⟩
      | some problem =>
        obtain ⟨hproblem, htag⟩ := hbyTag _ _ hfound
        refine ih _ problem hproblem ?_ ?_ ?_ ?_ hchain' ?_
        · rw [htag]
          exact hnew
        · rw [getLast?_concat, htag]
        · exact nodup_append_singleton hnodup hcircular
        · intro a ha
          rcases mem_append.1 ha with ha | ha
          · exact hsub ha
          · rw [mem_singleton.1 ha, ← htag]
            exact mem_map_of_mem hproblem
        · simp only [length_append, length_singleton]
          omega

lemma lint_mono {error : String} (fuel more : ℕ) (tree : List String) (current : Startable)
    (h : lint texts started byTag fuel tree current = some error) :
    lint texts started byTag (fuel + more) tree current = some error := by
  induction fuel generalizing tree current with
  | zero => cases h
  | succ fuel ih =>
    rw [Nat.add_right_comm]
    simp only [lint] at h ⊢
    split_ifs at h ⊢
    · exact h
    · cases hfound : byTag ((current.dependencies.find? (· ∉ started)).getD "") with
      | none => simpa only [hfound] using h
      | some problem =>
        rw [hfound] at h
        exact ih _ problem h

/-! ### All rounds -/

inductive Outcome (texts : StartTexts) (byTag : String → Option Startable)
    (all : List Startable) : StartResult → Prop
  | complete {started : List String} : Started all started → started.length = all.length →
      Outcome texts byTag all ⟨started, none⟩
  | failed {result : StartResult} : FailedStart texts all result → Outcome texts byTag all result
  | stuck {started : List String} {error : String} :
    Started all started → Stuck all started → started.length ≠ all.length →
      Reported texts byTag all error → Outcome texts byTag all ⟨started, some error⟩

lemma exists_notStarted (huniq : (all.map tag).Nodup)
    (h : Started all started) (hlen : started.length ≠ all.length) :
    ∃ o, (all.find? fun o => o.tag ∉ started) = some o ∧ o ∈ all ∧ o.tag ∉ started := by
  cases hfind : all.find? fun o => o.tag ∉ started with
  | some o =>
    have hnew := find?_some hfind
    exact ⟨o, rfl, mem_of_find?_eq_some hfind, by simpa using hnew⟩
  | none =>
    have hall : ∀ o ∈ all, o.tag ∈ started := by
      intro o ho
      have hnone := find?_eq_none.1 hfind o ho
      simpa using hnone
    have hsub : all.map tag ⊆ started := by
      intro tag htag
      obtain ⟨o, ho, rfl⟩ := mem_map.1 htag
      exact hall o ho
    have hle := (List.Nodup.subperm huniq hsub).length_le
    have hge := h.length_le
    simp only [length_map] at hle
    omega

lemma startLoop_spec (texts : StartTexts) (huniq : (all.map tag).Nodup)
    (hbyTag : ByTag byTag all) (started : List String) (h : Started all started) :
    ∃ result, Outcome texts byTag all result ∧
    ∀ fuel limit, all.length < fuel + started.length → all.length ≤ limit →
    startLoop texts byTag all limit fuel started = some result := by
  -- every pass that is followed by another one starts something
  induction hmeasure : all.length - started.length using Nat.strong_induction_on
    generalizing started with
  | _ n ih =>
    have hle := h.length_le
    obtain ⟨state, hpass, hdone⟩ | ⟨result, hpass, hfailed⟩ :=
      startPass_spec texts all (fun _ ho => ho) ⟨started, false⟩ h
    · have hle' := hdone.started.length_le
      have hgrow : started.length ≤ state.started.length := hdone.length_le
      by_cases hcompl : state.started.length = all.length
      · refine ⟨_, .complete hdone.started hcompl, ?_⟩
        intro fuel limit hfuel _
        obtain ⟨fuel, rfl⟩ : ∃ k, fuel = k + 1 := ⟨fuel - 1, by omega⟩
        simp [startLoop, hpass, hcompl]
      · by_cases hlonger : started.length < state.started.length
        · obtain ⟨result, houtcome, hres⟩ := ih (all.length - state.started.length) (by omega)
            state.started hdone.started rfl
          have hcontinue : state.canContinue := hdone.canContinue.2 (.inr hlonger)
          refine ⟨result, houtcome, ?_⟩
          intro fuel limit hfuel hlimit
          obtain ⟨fuel, rfl⟩ : ∃ k, fuel = k + 1 := ⟨fuel - 1, by omega⟩
          simp only [startLoop, hpass, hcompl, if_false, hcontinue, if_true]
          exact hres fuel limit (by omega) hlimit
        · -- the pass has started nothing
          obtain ⟨hsame, hstuck⟩ := hdone.stuck (by simp only; omega)
          obtain ⟨current, hfind, hmem, hnot⟩ := exists_notStarted huniq hdone.started hcompl
          subst hsame
          have hsingle : [current.tag] ⊆ all.map tag := by
            intro tag htag
            rw [mem_singleton.1 htag]
            exact mem_map_of_mem hmem
          obtain ⟨error, hlint, hrep⟩ := lint_spec texts hstuck hbyTag all.length
            [current.tag] current hmem hnot rfl (nodup_singleton _) hsingle
            (isChain_singleton _) (by simp)
          refine ⟨_, .stuck hdone.started hstuck hcompl hrep, ?_⟩
          intro fuel limit hfuel hlimit
          obtain ⟨fuel, rfl⟩ : ∃ k, fuel = k + 1 := ⟨fuel - 1, by omega⟩
          obtain ⟨more, rfl⟩ : ∃ k, limit = all.length + k := ⟨limit - all.length, by omega⟩
          have hlint' := lint_mono all.length more [current.tag] current hlint
          simp only [startLoop, hpass, hcompl, if_false, Bool.false_eq_true, hfind,
            Option.bind_some, hlint', Option.map_some]
    · refine ⟨result, .failed hfailed, ?_⟩
      intro fuel limit hfuel _
      obtain ⟨fuel, rfl⟩ : ∃ k, fuel = k + 1 := ⟨fuel - 1, by omega⟩
      simp [startLoop, hpass]

structure StartsInOrder (all : List Startable) (result : StartResult) : Prop where
  once : result.started.Nodup
  ordered : Dependency.Ordered (DependsOn all) result.started
  /-- Nothing is started after a start that failed. -/
  succeeded : ∀ o ∈ all, o.tag ∈ result.started.dropLast → o.Starts
  /-- There is no error exactly if every dependency exists, there is no cycle, and no start fails.
  -/
  noError : result.error = none ↔
    (∀ o ∈ all, ∀ dependency ∈ o.dependencies, ∃ o' ∈ all, o'.tag = dependency) ∧
      Dependency.Acyclic (DependsOn all) ∧ ∀ o ∈ all, o.Starts
  everything : result.error = none → ∀ o ∈ all, o.tag ∈ result.started

lemma Started.succeeded (huniq : (all.map tag).Nodup)
    (h : Started all started) (ho : o ∈ all) (htag : o.tag ∈ started) :
    o.Starts := by
  obtain ⟨o', ho', htag', hstarts⟩ := h.exists_mem htag
  rwa [eq_of_tag huniq ho' ho htag'] at hstarts

lemma Stuck.not_acyclic (h : Stuck all started)
    (hexist : ∀ o ∈ all, ∀ dependency ∈ o.dependencies, ∃ o' ∈ all, o'.tag = dependency)
    (ho : o ∈ all) (hnot : o.tag ∉ started) :
    ¬Dependency.Acyclic (DependsOn all) := by
  intro hacyclic
  -- the tags that have not been started each depend on another one of them
  let waiting : Set String := {tag | tag ∈ all.map Startable.tag ∧ tag ∉ started}
  have hfinite : waiting.Finite := (all.map tag).finite_toSet.subset fun tag htag => htag.1
  have hwaiting : ∀ o ∈ all, o.tag ∉ started → o.tag ∈ waiting :=
    fun o ho hnot => ⟨mem_map_of_mem ho, hnot⟩
  obtain ⟨tag, ⟨htag, hnotag⟩, hsink⟩ := hacyclic.exists_sink hfinite ⟨o.tag, hwaiting o ho hnot⟩
  obtain ⟨first, hfst, rfl⟩ := mem_map.1 htag
  obtain ⟨dependency, hdep, hnodep⟩ := h first hfst hnotag
  obtain ⟨second, hsnd, rfl⟩ := hexist first hfst dependency hdep
  exact hsink second.tag (hwaiting second hsnd hnodep) ⟨first, hfst, rfl, hdep⟩

lemma Outcome.startsInOrder (huniq : (all.map tag).Nodup) {result : StartResult}
    (h : Outcome texts byTag all result) : StartsInOrder all result := by
  cases h with
  | @complete started hst hlen =>
    have hall : ∀ o ∈ all, o.tag ∈ started := fun o ho => hst.mem_of_length hlen ho
    have hordered := hst.ordered huniq
    have hcovered : ∀ a b, DependsOn all a b → a ∈ started := by
      rintro a b ⟨o, ho, rfl, -⟩
      exact hall o ho
    have hexist : ∀ o ∈ all, ∀ dependency ∈ o.dependencies, ∃ o' ∈ all, o'.tag = dependency := by
      intro o ho dependency hdep
      obtain ⟨before, after, hsplit⟩ := append_of_mem (hall o ho)
      have hbef := hordered before o.tag after hsplit dependency ⟨o, ho, rfl, hdep⟩
      have hmem : dependency ∈ started := by
        rw [hsplit]
        exact mem_append_left _ hbef
      obtain ⟨o', ho', htag, -⟩ := hst.exists_mem hmem
      exact ⟨o', ho', htag⟩
    refine ⟨hst.nodup, hordered, ?_, ?_, fun _ => hall⟩
    · intro o ho htag
      exact hst.succeeded huniq ho (mem_of_mem_dropLast htag)
    · exact iff_of_true rfl
        ⟨hexist, hordered.acyclic hcovered, fun o ho => hst.succeeded huniq ho (hall o ho)⟩
  | failed hfailed =>
    obtain ⟨started, o, error, hst, hready, hfails, rfl⟩ := hfailed
    have hordered : Dependency.Ordered (DependsOn all) (started ++ [o.tag]) := by
      refine (hst.ordered huniq).concat ?_
      rintro b ⟨o', ho', htag, hb⟩
      rw [eq_of_tag huniq ho' hready.mem htag] at hb
      exact hready.dependencies b hb
    refine ⟨nodup_append_singleton hst.nodup hready.notStarted, hordered, ?_, ?_,
      fun hnone => by cases hnone⟩
    · intro o' ho' htag
      rw [dropLast_concat] at htag
      exact hst.succeeded huniq ho' htag
    · refine iff_of_false (by simp) ?_
      rintro ⟨-, -, hstarts⟩
      exact hstarts o hready.mem error hfails
  | @stuck started error hst hstuck hlen hrep =>
    refine ⟨hst.nodup, hst.ordered huniq, ?_, ?_, fun hnone => by cases hnone⟩
    · intro o ho htag
      exact hst.succeeded huniq ho (mem_of_mem_dropLast htag)
    · refine iff_of_false (by simp) ?_
      rintro ⟨hexist, hacyclic, -⟩
      obtain ⟨o, -, ho, hnot⟩ := exists_notStarted huniq hst hlen
      exact hstuck.not_acyclic hexist ho hnot hacyclic

lemma byTag_find {part all : List Startable} (hpart : ∀ o ∈ part, o ∈ all) :
    ByTag (fun tag => part.find? (·.tag = tag)) all := by
  intro tag o hfind
  have htag := find?_some hfind
  exact ⟨hpart o (mem_of_find?_eq_some hfind), by simpa using htag⟩

/-- For every list with unique tags both managers end, with enough fuel, and start the elements in
order. -/
theorem managers_start_in_order : (∀ outbounds endpoints : List Startable,
        ((outbounds ++ endpoints).map tag).Nodup →
          ∃ result, StartsInOrder (outbounds ++ endpoints) result ∧
            ∀ fuel, (outbounds ++ endpoints).length < fuel →
              startOutbounds outbounds endpoints fuel = some result) ∧
      ∀ transports : List Startable, (transports.map tag).Nodup →
        ∃ result, StartsInOrder transports result ∧
          ∀ fuel, transports.length < fuel → startTransports transports fuel = some result := by
  refine ⟨fun outbounds endpoints huniq => ?_, fun transports huniq => ?_⟩
  · have hbyTag : ByTag (fun tag => outbounds.find? (·.tag = tag)) (outbounds ++ endpoints) :=
      byTag_find fun o ho => mem_append_left _ ho
    obtain ⟨result, houtcome, hres⟩ := startLoop_spec ⟨"outbound/", "outbound"⟩ huniq hbyTag [] .nil
    exact ⟨result, houtcome.startsInOrder huniq,
      fun fuel hfuel => hres fuel fuel (by simpa using hfuel) (by omega)⟩
  · have hbyTag : ByTag (fun tag => transports.find? (·.tag = tag)) transports :=
      byTag_find fun o ho => ho
    obtain ⟨result, houtcome, hres⟩ := startLoop_spec ⟨"dns/", "server"⟩ huniq hbyTag [] .nil
    exact ⟨result, houtcome.startsInOrder huniq,
      fun fuel hfuel => hres fuel fuel (by simpa using hfuel) (by omega)⟩

theorem managers_start_in_order_detour : ∃ result, StartsInOrder
        ([⟨"selector", "a", ["b"], none⟩] ++ [⟨"wireguard", "b", [], some (.ok ())⟩]) result ∧
      ∀ fuel, 2 < fuel → startOutbounds [⟨"selector", "a", ["b"], none⟩]
          [⟨"wireguard", "b", [], some (.ok ())⟩] fuel = some result :=
  managers_start_in_order.1 [⟨"selector", "a", ["b"], none⟩]
    [⟨"wireguard", "b", [], some (.ok ())⟩] (by decide)

end

end SingBox

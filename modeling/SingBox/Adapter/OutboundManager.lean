import SingBox.Adapter.Manager

/-!
# The outbound manager

The default outbound has the configured tag or is the first one, as long as calls are `Careful`.
-/

namespace SingBox
open ManagerTables List

structure OutboundEnv where
  defaultTag : String
  endpoints : Table String Managed

structure OutboundManager extends ManagerTables where
  defaultOutbound : Option Managed := none
  nextId : ℕ := 0

inductive OutboundCall where
  | create (call : CreateCall)
  | remove (tag : String) (started : Bool) (close : Option String)
  | start (fallback : Option String)

namespace OutboundManager

def texts : StartTexts := ⟨"outbound/", "outbound"⟩

def directOutbound (id : ℕ) : Managed := ⟨id, "direct", "direct", []⟩

variable (env : OutboundEnv) (m : OutboundManager)

def create (call : CreateCall) : OutboundManager × Option ManagerError :=
  match m.prepare texts m.nextId call with
  | .error error => (m, some error)
  | .ok o =>
    (⟨m.put o, if Elected env.defaultTag call.tag m.defaultOutbound then some o
      else m.defaultOutbound, m.nextId + 1⟩, none)

variable (tag : String) (started : Bool) (close : Option String)

def remove : OutboundManager × Option ManagerError :=
  match m.takeOut tag with
  | .error error => (m, some error)
  | .ok (o, rest) =>
    let defaultOutbound :=
      if m.defaultOutbound = some o then rest.elements.head? else m.defaultOutbound
    if dependents rest.dependByTag tag ≠ [] then
      (⟨rest, defaultOutbound, m.nextId⟩,
        some (.conflict (texts.dependedBy tag (dependents rest.dependByTag tag))))
    else
      (⟨rest.forget o, defaultOutbound, m.nextId⟩, if started then close.map .failed else none)

variable (fallback : Option String)

def start : OutboundManager × Option ManagerError := if m.defaultOutbound ≠ none then (m, none)
  else if env.defaultTag ≠ "" then
    match env.endpoints env.defaultTag with
    | none => (m, some (.failed ("default outbound not found: " ++ env.defaultTag)))
    | some endpoint => ({ m with defaultOutbound := some endpoint }, none)
  else
    match fallback with
    | some error => (m, some (.failed ("create direct outbound for fallback: " ++ error)))
    | none =>
      let o := directOutbound m.nextId
      (⟨{ m.toManagerTables with
            elements := m.elements ++ [o]
            byTag := m.byTag.insert o.tag o }, some o, m.nextId + 1⟩, none)

def call : OutboundCall → OutboundManager × Option ManagerError
  | .create call => m.create env call
  | .remove tag started close => m.remove tag started close
  | .start fallback => m.start env fallback

def after (c : OutboundCall) : OutboundManager := (m.call env c).1

def Reachable (env : OutboundEnv) (m : OutboundManager) : Prop :=
  Run (after env) (fun _ _ => True) {} m

/-! ### What a call can do -/

variable {env m}
variable (env m) in
lemma create_cases (call : CreateCall) : (∃ error, m.create env call = (m, some error)) ∨
    ∃ o, m.prepare texts m.nextId call = .ok o ∧
    m.create env call = (⟨m.put o, if Elected env.defaultTag call.tag m.defaultOutbound
          then some o else m.defaultOutbound, m.nextId + 1⟩, none) := by
  rw [create]
  cases hprep : m.prepare texts m.nextId call with
  | error error => exact .inl ⟨error, rfl⟩
  | ok o => exact .inr ⟨o, rfl, rfl⟩

variable (m) in
lemma remove_cases : (∃ error, m.takeOut tag = .error error ∧
        m.remove tag started close = (m, some error)) ∨
    ∃ o rest, m.takeOut tag = .ok (o, rest) ∧
    ∃ rest' error, m.remove tag started close = (⟨rest', if m.defaultOutbound = some o
            then rest.elements.head? else m.defaultOutbound, m.nextId⟩, error) ∧
    (dependents m.dependByTag tag ≠ [] ∧ rest' = rest ∧
              error = some (.conflict (texts.dependedBy tag (dependents m.dependByTag tag))) ∨
            dependents m.dependByTag tag = [] ∧ rest' = rest.forget o ∧
              error = if started then close.map .failed else none) := by
  rw [remove]
  cases htake : m.takeOut tag with
  | error error => exact .inl ⟨error, rfl, rfl⟩
  | ok taken =>
    obtain ⟨o, rest⟩ := taken
    have hdeps := dependByTag_takeOut htake
    refine .inr ⟨o, rest, rfl, ?_⟩
    dsimp only
    rw [hdeps]
    by_cases hnil : dependents m.dependByTag tag = []
    · rw [if_neg (not_not_intro hnil)]
      exact ⟨_, _, rfl, .inr ⟨hnil, rfl, rfl⟩⟩
    · rw [if_pos hnil]
      exact ⟨_, _, rfl, .inl ⟨hnil, rfl, rfl⟩⟩

variable (env m) in
lemma start_cases : (∃ error, m.start env fallback = (m, error)) ∨
      (∃ endpoint, env.endpoints env.defaultTag = some endpoint ∧
        m.start env fallback = ({ m with defaultOutbound := some endpoint }, none)) ∨
      (m.defaultOutbound = none ∧ env.defaultTag = "" ∧
        m.start env fallback = (⟨{ m.toManagerTables with
          elements := m.elements ++ [directOutbound m.nextId]
          byTag := m.byTag.insert "direct" (directOutbound m.nextId) },
          some (directOutbound m.nextId), m.nextId + 1⟩, none)) := by
  unfold start
  by_cases hdef : m.defaultOutbound = none
  · rw [if_neg (not_not_intro hdef)]
    by_cases htag : env.defaultTag = ""
    · rw [if_neg (not_not_intro htag)]
      cases fallback with
      | some error => exact .inl ⟨_, rfl⟩
      | none => exact .inr (.inr ⟨hdef, htag, rfl⟩)
    · rw [if_pos htag]
      cases hendpoint : env.endpoints env.defaultTag with
      | none => exact .inl ⟨_, rfl⟩
      | some endpoint => exact .inr (.inl ⟨endpoint, rfl, rfl⟩)
  · rw [if_pos hdef]
    exact .inl ⟨none, rfl⟩

/-! ### Conflicts -/

/-- List and map agree, and without a configured tag there is a default. -/
structure Sound (env : OutboundEnv) (m : OutboundManager) : Prop where
  listed : m.Listed
  elected : env.defaultTag = "" → m.defaultOutbound = none → m.elements = []

lemma sound_empty : Sound env {} := ⟨listed_empty, fun _ _ => rfl⟩

namespace Sound

lemma create (h : Sound env m) (call : CreateCall) : Sound env (m.create env call).1 := by
  obtain ⟨error, hcr⟩ | ⟨o, -, hcr⟩ := create_cases env m call
  · rw [hcr]
    exact h
  · rw [hcr]
    refine ⟨h.listed.put o, fun htag hnone => ?_⟩
    split_ifs at hnone with helected
    exact absurd (.inr ⟨htag, hnone⟩) helected

lemma remove (h : Sound env m) : Sound env (m.remove tag started close).1 := by
  obtain ⟨error, -, hrm⟩ | ⟨o, rest, htake, rest', error, hrm, hrest⟩ :=
    remove_cases m tag started close
  · rw [hrm]
    exact h
  · have hls : rest.Listed := h.listed.takeOut htake
    have helts : rest'.elements = rest.elements := by
      obtain ⟨-, rfl, -⟩ | ⟨-, rfl, -⟩ := hrest <;> rfl
    rw [hrm]
    refine ⟨?_, fun htag hnone => ?_⟩
    · obtain ⟨-, rfl, -⟩ | ⟨-, rfl, -⟩ := hrest
      · exact hls
      · exact hls.forget o
    · dsimp only at hnone ⊢
      rw [helts]
      split_ifs at hnone with hdef
      · exact head?_eq_none_iff.1 hnone
      · obtain ⟨-, ho, -⟩ := takeOut_cases htake
        rw [h.elected htag hnone] at ho
        cases ho

lemma byTag_eq_none (h : Sound env m) (htag : env.defaultTag = "")
    (hnone : m.defaultOutbound = none) (tag : String) : m.byTag tag = none := by
  rw [Option.eq_none_iff_forall_not_mem]
  intro o ho
  have hmem := ((h.listed.byTag tag o).1 ho).1
  rw [h.elected htag hnone] at hmem
  cases hmem

lemma start (h : Sound env m) : Sound env (m.start env fallback).1 := by
  obtain ⟨error, hst⟩ | ⟨endpoint, -, hst⟩ | ⟨hnone, htag, hst⟩ := start_cases env m fallback
  · rw [hst]
    exact h
  · rw [hst]
    exact ⟨h.listed, fun _ hnone => by cases hnone⟩
  · have hput := put_of_new (o := directOutbound m.nextId) (h.byTag_eq_none htag hnone _) rfl
    rw [hst]
    refine ⟨?_, fun _ hnone => by cases hnone⟩
    have hls := h.listed.put (directOutbound m.nextId)
    rw [hput] at hls
    exact hls

end Sound

lemma Reachable.sound (h : Reachable env m) : Sound env m := by
  refine h.invariant sound_empty fun m c hm _ => ?_
  cases c with
  | create call => exact hm.create call
  | remove tag started close => exact hm.remove tag started close
  | start fallback => exact hm.start fallback

def observed (m : OutboundManager) :
    List Managed × Table String Managed × Option Managed × (String → List String) :=
  (m.elements, m.byTag, m.defaultOutbound, dependents m.dependByTag)

lemma remove_conflict_iff (h : m.Listed) (tag : String) (started : Bool) (close : Option String) :
    ((∃ text, (m.remove tag started close).2 = some (.conflict text)) →
        (m.remove tag started close).1.observed = m.observed) ↔
    (m.byTag tag ≠ none → dependents m.dependByTag tag = []) := by
  obtain ⟨error, htake, hrm⟩ | ⟨o, rest, htake, rest', error, hrm, hrest⟩ :=
    remove_cases m tag started close
  · rw [hrm]
    exact iff_of_true (fun _ => rfl) fun hfound => absurd (h.takeOut_error htake).1 hfound
  · obtain ⟨hfound, -, hothers⟩ := takeOut_cases htake
    rw [hrm]
    obtain ⟨hdep, rfl, rfl⟩ | ⟨hfree, -, rfl⟩ := hrest
    · refine iff_of_false (fun hsame => ?_) fun hnil => hdep (hnil (by simp [hfound]))
      have helts : rest'.elements = m.elements := congrArg Prod.fst (hsame ⟨_, rfl⟩)
      rw [hothers] at helts
      exact h.others_ne hfound helts
    · refine iff_of_true (fun hconf => ?_) fun _ => hfree
      obtain ⟨text, hconf⟩ := hconf
      cases started <;> cases close <;> cases hconf

/-! ### The default outbound -/

/-- List, map, default outbound and dependents fit together. -/
structure Consistent (env : OutboundEnv) (m : OutboundManager) : Prop where
  listed : m.Listed
  default : ∀ o, m.defaultOutbound = some o → o ∈ m.elements ∨ ∃ tag, env.endpoints tag = some o
  reversed : m.Reversed

/-- No outbound names a dependency twice or replaces one with dependencies or the default one, and
none with dependencies is removed while needed. -/
def Careful (env : OutboundEnv) (m : OutboundManager) : OutboundCall → Prop
  | .create call => ∀ o, m.prepare texts m.nextId call = .ok o →
      o.dependencies.Nodup ∧ ∀ o' ∈ m.elements, o'.tag = call.tag →
        o'.dependencies = [] ∧ (m.defaultOutbound = some o' → call.tag = env.defaultTag)
  | .remove tag _ _ => dependents m.dependByTag tag ≠ [] →
      ∀ o ∈ m.elements, o.tag = tag → o.dependencies = []
  | .start _ => True

instance : ∀ c, Decidable (Careful env m c)
  | .create call => inferInstanceAs (Decidable (∀ o, m.prepare texts m.nextId call = .ok o →
      o.dependencies.Nodup ∧ ∀ o' ∈ m.elements, o'.tag = call.tag →
        o'.dependencies = [] ∧ (m.defaultOutbound = some o' → call.tag = env.defaultTag)))
  | .remove tag _ _ => inferInstanceAs (Decidable (dependents m.dependByTag tag ≠ [] →
      ∀ o ∈ m.elements, o.tag = tag → o.dependencies = []))
  | .start _ => inferInstanceAs (Decidable True)

structure Good (env : OutboundEnv) (m : OutboundManager) : Prop extends Consistent env m where
  nodup : ∀ o ∈ m.elements, o.dependencies.Nodup

lemma good_empty : Good env {} where
  listed := listed_empty
  default o ho := by cases ho
  reversed := reversed_empty
  nodup o ho := by cases ho

namespace Good

lemma create (h : Good env m) {call : CreateCall} (hcare : Careful env m (.create call)) :
    Good env (m.create env call).1 := by
  obtain ⟨error, hcr⟩ | ⟨o, hprep, hcr⟩ := create_cases env m call
  · rw [hcr]
    exact h
  · obtain ⟨hnodup, hexisting⟩ := hcare o hprep
    obtain ⟨-, htag, -⟩ := prepare_cases hprep
    rw [hcr]
    refine ⟨⟨h.listed.put o, fun d hd => ?_, ?_⟩, fun o' ho' => ?_⟩
    · dsimp only at hd ⊢
      rw [h.listed.mem_put]
      split_ifs at hd with helected
      · exact .inl (.inl (Option.some.inj hd).symm)
      · -- the default outbound has not been replaced
        refine (h.default d hd).imp_left fun hmem => .inr ⟨hmem, fun hsame => ?_⟩
        exact helected (.inl ((hexisting d hmem (hsame.trans htag)).2 hd))
    · exact h.reversed.put h.listed hnodup fun o' ho' hsame =>
        (hexisting o' ho' (hsame.trans htag)).1
    · rcases (h.listed.mem_put o o').1 ho' with rfl | ⟨hmem, -⟩
      · exact hnodup
      · exact h.nodup o' hmem

lemma remove (h : Good env m) {tag : String} {started : Bool} {close : Option String}
    (hcare : Careful env m (.remove tag started close)) :
    Good env (m.remove tag started close).1 := by
  obtain ⟨error, -, hrm⟩ | ⟨o, rest, htake, rest', error, hrm, hrest⟩ :=
    remove_cases m tag started close
  · rw [hrm]
    exact h
  obtain ⟨hfound, ho, hothers⟩ := takeOut_cases htake
  obtain ⟨-, htag⟩ := (h.listed.byTag tag o).1 hfound
  -- with or without an error, the outbound is not entered for any dependency afterwards
  obtain rfl : rest' = rest.forget o := by
    obtain ⟨hdep, rfl, -⟩ | ⟨-, rfl, -⟩ := hrest
    · exact (forget_of_nil (hcare hdep o ho htag)).symm
    · rfl
  have hmem : ∀ o', o' ∈ rest.elements ↔ o' ∈ m.elements ∧ o'.tag ≠ tag := by
    rw [hothers]
    exact h.listed.mem_others tag
  rw [hrm]
  refine ⟨⟨(h.listed.takeOut htake).forget o, fun d hd => ?_,
    h.reversed.takeOut_forget h.listed htake (h.nodup o ho)⟩, fun o' ho' =>
      h.nodup o' ((hmem o').1 ho').1⟩
  change d ∈ rest.elements ∨ _
  split_ifs at hd with hdef
  · exact .inl (mem_of_mem_head? hd)
  · refine (h.default d hd).imp_left fun hd' => (hmem d).2 ⟨hd', fun hsame => hdef ?_⟩
    rw [hd, h.listed.eq_of_tag hd' ho (hsame.trans htag.symm)]

lemma start (h : Good env m) (hsound : Sound env m) (fallback : Option String) :
    Good env (m.start env fallback).1 := by
  obtain ⟨error, hst⟩ | ⟨endpoint, hendpoint, hst⟩ | ⟨hnone, htag, hst⟩ :=
    start_cases env m fallback
  · rw [hst]
    exact h
  · rw [hst]
    refine ⟨⟨h.listed, fun o ho => .inr ⟨_, hendpoint.trans ho⟩, h.reversed⟩, h.nodup⟩
  · have hemp := hsound.elected htag hnone
    have hput := put_of_new (o := directOutbound m.nextId) (hsound.byTag_eq_none htag hnone _) rfl
    have hls := h.listed.put (directOutbound m.nextId)
    have hreversed := h.reversed.put h.listed (o := directOutbound m.nextId) nodup_nil
      (by simp [hemp])
    rw [hput] at hls hreversed
    rw [hst]
    refine ⟨⟨hls, fun o ho => ?_, hreversed⟩, ?_⟩
    · obtain rfl : directOutbound m.nextId = o := Option.some.inj ho
      exact .inl (mem_append_right _ (mem_singleton_self _))
    · simp [hemp, directOutbound]

end Good

/-- In a run of careful calls everything fits together. -/
theorem consistent_of_careful {m : OutboundManager}
    (h : Run (after env) (Careful env) {} m) : Consistent env m := by
  have hboth : Good env m ∧ Sound env m := by
    refine h.invariant (I := fun m => Good env m ∧ Sound env m) ⟨good_empty, sound_empty⟩
      fun m c hm hcare => ?_
    cases c with
    | create call => exact ⟨hm.1.create hcare, hm.2.create call⟩
    | remove tag started close => exact ⟨hm.1.remove hcare, hm.2.remove tag started close⟩
    | start fallback => exact ⟨hm.1.start hm.2 fallback, hm.2.start fallback⟩
  exact hboth.1.toConsistent

theorem consistent_of_careful_selector : let env : OutboundEnv := ⟨"server", Table.empty⟩
    let server : OutboundCall := .create ⟨"server", .ok ("socks", []), true, none, none⟩
    let calls : List OutboundCall :=
      [server, .create ⟨"select", .ok ("selector", ["server"]), true, none, none⟩,
        .remove "select" true none, server]
    Consistent env (calls.foldl (after env) {}) ∧
      (calls.foldl (after env) {}).elements = [⟨2, "socks", "server", []⟩] := by
  intro env server calls
  exact ⟨consistent_of_careful (Run.start.foldl (by decide +kernel)), by decide +kernel⟩

/-- The replaced outbound is still a dependent, and the default. -/
theorem not_consistent_replaced : let env : OutboundEnv := ⟨"", Table.empty⟩
    let create : OutboundCall := .create ⟨"select", .ok ("selector", ["server"]), true, none, none⟩
    let m := after env {} create
    (m.call env create).2 = none ∧ ¬Consistent env (after env m create) ∧
      dependents (after env m create).dependByTag "server" = ["select", "select"] ∧
      (after env m create).defaultOutbound = some ⟨0, "selector", "select", ["server"]⟩ ∧
      (after env m create).elements = [⟨1, "selector", "select", ["server"]⟩] := by
  intro env create m
  refine ⟨by decide +kernel, fun h => ?_, by decide +kernel, by decide +kernel, by decide +kernel⟩
  have hnodup := (h.reversed "server").1
  revert hnodup
  decide +kernel

end OutboundManager

end SingBox

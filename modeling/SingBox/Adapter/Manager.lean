import SingBox.Adapter.StartOrder
import SingBox.Lib.Run
import SingBox.Lib.Table

/-!
# What managers keep

What the managers of outbounds and DNS servers do to their lists and maps. Each new element is a new
object.
-/

namespace SingBox
open List Table

structure Managed where
  id : ℕ
  type : String
  tag : String
  dependencies : List String
deriving DecidableEq

inductive ManagerError where
  | invalid
  | failed (error : String)
  /-- A dependency, the default server or the FakeIP server is in the way. -/
  | conflict (error : String)
  | panic
deriving DecidableEq

namespace StartTexts
variable (texts : StartTexts)

def stageFailed (stage : String) (o : Managed) (error : String) : String :=
  stage ++ " " ++ texts.kind ++ o.type ++ "[" ++ o.tag ++ "]" ++ ": " ++ error

def closeFailed (o : Managed) (error : String) : String :=
  "close " ++ texts.kind ++ o.type ++ "[" ++ o.tag ++ "]" ++ ": " ++ error

def dependedBy (tag : String) (tags : List String) : String :=
  texts.subject ++ "[" ++ tag ++ "] is depended by " ++ String.intercalate ", " tags

end StartTexts

/-! ### Dependents -/

def dependents (dependByTag : Table String (List String)) (tag : String) : List String :=
  (dependByTag tag).getD []

def addDependents (tag : String) :
    List String → Table String (List String) → Table String (List String)
  | [], dependByTag => dependByTag
  | dependency :: dependencies, dependByTag =>
    addDependents tag dependencies
      (dependByTag.insert dependency (dependents dependByTag dependency ++ [tag]))

def removeDependents (tag : String) :
    List String → Table String (List String) → Table String (List String)
  | [], dependByTag => dependByTag
  | dependency :: dependencies, dependByTag =>
    removeDependents tag dependencies
      (if (dependents dependByTag dependency).length = 1 then dependByTag.erase dependency
        else dependByTag.insert dependency ((dependents dependByTag dependency).filter (· ≠ tag)))

variable (dependByTag : Table String (List String))

lemma dependents_insert (tag tag' : String) (tags : List String) :
    dependents (dependByTag.insert tag tags) tag' =
    if tag' = tag then tags else dependents dependByTag tag' := by
  by_cases htag : tag' = tag
  · rw [if_pos htag, htag, dependents, insert_self]
    rfl
  · rw [if_neg htag, dependents, insert_of_ne _ _ htag]
    rfl

lemma dependents_erase (tag tag' : String) :
    dependents (dependByTag.erase tag) tag' =
    if tag' = tag then [] else dependents dependByTag tag' := by
  by_cases htag : tag' = tag
  · simp [dependents, erase, htag]
  · simp [dependents, erase, htag]

lemma dependents_addDependents (tag : String) (dependencies : List String) (tag' : String) :
    dependents (addDependents tag dependencies dependByTag) tag' =
    dependents dependByTag tag' ++ replicate (dependencies.count tag') tag := by
  induction dependencies generalizing dependByTag with
  | nil => simp [addDependents]
  | cons dependency dependencies ih =>
    rw [addDependents, ih, dependents_insert, count_cons]
    by_cases htag : tag' = dependency
    · subst htag
      rw [if_pos rfl, beq_self_eq_true, if_pos rfl, append_assoc, replicate_succ]
      rfl
    · have hne : (dependency == tag') = false := by simpa using fun h => htag h.symm
      rw [if_neg htag, hne, if_neg Bool.false_ne_true, Nat.add_zero]

variable {dependByTag : Table String (List String)}

lemma dependents_remove_one {tag dependency : String}
    (h : tag ∈ dependents dependByTag dependency) (tag' : String) :
    dependents (if (dependents dependByTag dependency).length = 1 then dependByTag.erase dependency
        else dependByTag.insert dependency
          ((dependents dependByTag dependency).filter (· ≠ tag))) tag' =
    if tag' = dependency then (dependents dependByTag dependency).filter (· ≠ tag)
    else dependents dependByTag tag' := by
  split_ifs with hlen htag htag
  · obtain ⟨entry, hent⟩ := length_eq_one_iff.1 hlen
    rw [dependents_erase, if_pos htag, hent]
    rw [hent, mem_singleton] at h
    simp [h]
  · rw [dependents_erase, if_neg htag]
  · rw [dependents_insert, if_pos htag]
  · rw [dependents_insert, if_neg htag]

variable {tag : String}

lemma dependents_removeDependents {dependencies : List String} (hnodup : dependencies.Nodup)
    (h : ∀ dependency ∈ dependencies, tag ∈ dependents dependByTag dependency) (tag' : String) :
    dependents (removeDependents tag dependencies dependByTag) tag' =
    if tag' ∈ dependencies then (dependents dependByTag tag').filter (· ≠ tag)
    else dependents dependByTag tag' := by
  induction dependencies generalizing dependByTag with
  | nil => simp [removeDependents]
  | cons dependency dependencies ih =>
    have hone := dependents_remove_one (h dependency mem_cons_self)
    obtain ⟨hnew, hrest⟩ := nodup_cons.1 hnodup
    have hkept : ∀ d ∈ dependencies, tag ∈ dependents
        (if (dependents dependByTag dependency).length = 1 then dependByTag.erase dependency
          else dependByTag.insert dependency
            ((dependents dependByTag dependency).filter (· ≠ tag))) d := by
      intro d hd
      have hne : d ≠ dependency := fun heq => hnew (heq ▸ hd)
      rw [hone d, if_neg hne]
      exact h d (mem_cons_of_mem _ hd)
    rw [removeDependents, ih hrest hkept, hone tag']
    by_cases htag : tag' = dependency
    · subst htag
      simp [hnew]
    · simp [htag]

/-! ### The tables -/

structure ManagerTables where
  elements : List Managed := []
  byTag : Table String Managed := empty
  dependByTag : Table String (List String) := empty

structure CreateCall where
  tag : String
  /-- The type and the dependencies of what the registry creates. -/
  created : Except String (String × List String)
  started : Bool
  start : Option (String × String) := none
  close : Option String := none

/-- A new element becomes the default one: it has the configured tag, or there is neither such a tag
nor a default. -/
def Elected (defaultTag tag : String) (default : Option Managed) : Prop :=
  tag = defaultTag ∨ defaultTag = "" ∧ default = none

instance (defaultTag tag : String) (default : Option Managed) :
    Decidable (Elected defaultTag tag default) :=
  inferInstanceAs (Decidable (_ ∨ _))

/-- What is said about the result of a call that may fail can be decided. -/
instance Except.decidableForallOk {ε α : Type*} (p : α → Prop) [DecidablePred p] :
    ∀ result : Except ε α, Decidable (∀ a, result = .ok a → p a)
  | .ok a => decidable_of_iff (p a) ⟨fun h _ ha => Except.ok.inj ha ▸ h, fun h => h a rfl⟩
  | .error _ => isTrue fun _ h => nomatch h

def CreateCall.element (call : CreateCall) (nextId : ℕ) : Except ManagerError Managed :=
  if call.tag = "" then .error .invalid
  else match call.created with
    | .error error => .error (.failed error)
    | .ok (type, dependencies) => .ok ⟨nextId, type, call.tag, dependencies⟩

namespace ManagerTables
variable (t : ManagerTables)

def obstacle (texts : StartTexts) (call : CreateCall) (o : Managed) : Option ManagerError :=
  match if call.started then call.start else none with
  | some (stage, error) => some (.failed (texts.stageFailed stage o error))
  | none =>
    match t.byTag call.tag with
    | none => none
    | some existing =>
      match if call.started then call.close else none with
      | some error => some (.failed (texts.closeFailed existing error))
      | none => if existing ∈ t.elements then none else some .panic

def prepare (texts : StartTexts) (nextId : ℕ) (call : CreateCall) : Except ManagerError Managed :=
  match call.element nextId with
  | .error error => .error error
  | .ok o =>
    match t.obstacle texts call o with
    | some error => .error error
    | none => .ok o

def others (tag : String) : List Managed :=
  match t.byTag tag with
  | some existing => t.elements.erase existing
  | none => t.elements

def put (o : Managed) : ManagerTables where
  elements := t.others o.tag ++ [o]
  byTag := t.byTag.insert o.tag o
  dependByTag := addDependents o.tag o.dependencies t.dependByTag

def takeOut (tag : String) : Except ManagerError (Managed × ManagerTables) :=
  match t.byTag tag with
  | none => .error .invalid
  | some o =>
    if o ∈ t.elements then
      .ok (o, { t with elements := t.elements.erase o, byTag := t.byTag.erase tag })
    else .error .panic

def forget (o : Managed) : ManagerTables :=
  { t with dependByTag := removeDependents o.tag o.dependencies t.dependByTag }

/-! ### What the tables keep -/

variable {t}

/-- List and map have the same elements, and each tag once. -/
structure Listed (t : ManagerTables) : Prop where
  nodup : (t.elements.map Managed.tag).Nodup
  byTag : ∀ tag o, t.byTag tag = some o ↔ o ∈ t.elements ∧ o.tag = tag

/-- Exactly the elements that declare a tag are its dependents, once each. -/
def Reversed (t : ManagerTables) : Prop := ∀ tag, (dependents t.dependByTag tag).Nodup ∧ ∀ tag',
    tag' ∈ dependents t.dependByTag tag ↔ ∃ o ∈ t.elements, o.tag = tag' ∧ tag ∈ o.dependencies

lemma listed_empty : Listed {} where
  nodup := nodup_nil
  byTag tag o := by simp [empty]

lemma reversed_empty : Reversed {} := by
  intro tag
  simp [dependents, empty]

variable {o : Managed} {call : CreateCall} {nextId : ℕ} {t' : ManagerTables}

lemma CreateCall.element_cases
    (h : call.element nextId = .ok o) : call.tag ≠ "" ∧ o.tag = call.tag ∧ o.id = nextId := by
  rw [CreateCall.element] at h
  split_ifs at h with htag
  cases hcreated : call.created with
  | error error =>
    rw [hcreated] at h
    cases h
  | ok created =>
    rw [hcreated] at h
    cases h
    exact ⟨htag, rfl, rfl⟩

lemma prepare_cases {texts : StartTexts} (h : t.prepare texts nextId call = .ok o) :
    call.tag ≠ "" ∧ o.tag = call.tag ∧ o.id = nextId := by
  rw [prepare] at h
  cases helt : call.element nextId with
  | error error =>
    rw [helt] at h
    cases h
  | ok element =>
    simp only [helt] at h
    cases hobstacle : t.obstacle texts call element with
    | some error =>
      rw [hobstacle] at h
      cases h
    | none =>
      rw [hobstacle] at h
      cases h
      exact CreateCall.element_cases helt

lemma takeOut_cases (h : t.takeOut tag = .ok (o, t')) : t.byTag tag = some o ∧ o ∈ t.elements ∧
    t' = { t with elements := t.others tag, byTag := t.byTag.erase tag } := by
  rw [takeOut] at h
  cases hfound : t.byTag tag with
  | none =>
    rw [hfound] at h
    cases h
  | some found =>
    simp only [hfound] at h
    split_ifs at h with hmem
    cases h
    refine ⟨rfl, hmem, ?_⟩
    rw [others, hfound]

lemma dependByTag_takeOut (h : t.takeOut tag = .ok (o, t')) : t'.dependByTag = t.dependByTag := by
  obtain ⟨-, -, rfl⟩ := takeOut_cases h
  rfl

lemma others_sublist (tag : String) : (t.others tag).Sublist t.elements := by
  rw [others]
  split
  · exact erase_sublist
  · exact List.Sublist.refl _

lemma put_of_new (htag : t.byTag o.tag = none) (hdependencies : o.dependencies = []) :
    t.put o = { t with elements := t.elements ++ [o], byTag := t.byTag.insert o.tag o } := by
  rw [put, others, htag, hdependencies]
  rfl

namespace Listed
variable (h : t.Listed)
include h

lemma eq_of_tag {o o' : Managed} (ho : o ∈ t.elements) (ho' : o' ∈ t.elements)
    (htag : o.tag = o'.tag) : o = o' :=
  inj_on_of_nodup_map h.nodup ho ho' htag

lemma mem_others (tag : String) (o : Managed) :
    o ∈ t.others tag ↔ o ∈ t.elements ∧ o.tag ≠ tag := by
  have hnodup : t.elements.Nodup := h.nodup.of_map
  rw [others]
  cases hfound : t.byTag tag with
  | none =>
    refine (and_iff_left_of_imp fun ho htag => ?_).symm
    rw [(h.byTag tag o).2 ⟨ho, htag⟩] at hfound
    cases hfound
  | some existing =>
    obtain ⟨hmem, rfl⟩ := (h.byTag tag existing).1 hfound
    rw [hnodup.mem_erase_iff, and_comm]
    refine and_congr_right fun ho => not_congr ?_
    exact ⟨fun heq => by rw [heq], h.eq_of_tag ho hmem⟩

lemma mem_put (o o' : Managed) :
    o' ∈ (t.put o).elements ↔ o' = o ∨ o' ∈ t.elements ∧ o'.tag ≠ o.tag := by
  rw [put, mem_append, mem_singleton, h.mem_others, or_comm]

lemma put (o : Managed) : (t.put o).Listed where
  nodup := by
    rw [ManagerTables.put, map_append, map_singleton]
    refine List.Nodup.append (h.nodup.sublist ((others_sublist o.tag).map _)) (nodup_singleton _) ?_
    rw [disjoint_singleton, mem_map]
    rintro ⟨o', ho', htag⟩
    exact ((h.mem_others o.tag o').1 ho').2 htag
  byTag tag o' := by
    rw [h.mem_put]
    by_cases htag : tag = o.tag
    · subst htag
      have hself : (t.put o).byTag o.tag = some o := insert_self _ _ _
      rw [hself]
      constructor
      · intro hsome
        cases hsome
        exact ⟨.inl rfl, rfl⟩
      · rintro ⟨rfl | ⟨-, hne⟩, htag⟩
        · rfl
        · exact absurd htag hne
    · have hoth : (t.put o).byTag tag = t.byTag tag := insert_of_ne _ _ htag
      rw [hoth, h.byTag]
      constructor
      · rintro ⟨ho', rfl⟩
        exact ⟨.inr ⟨ho', htag⟩, rfl⟩
      · rintro ⟨rfl | ⟨ho', -⟩, rfl⟩
        · exact absurd rfl htag
        · exact ⟨ho', rfl⟩

lemma takeOut (hout : t.takeOut tag = .ok (o, t')) : t'.Listed := by
  obtain ⟨-, -, rfl⟩ := takeOut_cases hout
  refine ⟨h.nodup.sublist ((others_sublist tag).map _), fun tag' o' => ?_⟩
  rw [h.mem_others]
  by_cases htag : tag' = tag
  · subst htag
    simp only [erase, if_pos]
    constructor
    · intro hnone
      cases hnone
    · rintro ⟨⟨-, hne⟩, htag⟩
      exact absurd htag hne
  · simp only [erase, if_neg htag, h.byTag]
    constructor
    · rintro ⟨ho', rfl⟩
      exact ⟨⟨ho', htag⟩, rfl⟩
    · rintro ⟨⟨ho', -⟩, rfl⟩
      exact ⟨ho', rfl⟩

lemma takeOut_error {error : ManagerError}
    (hout : t.takeOut tag = .error error) : t.byTag tag = none ∧ error = .invalid := by
  rw [ManagerTables.takeOut] at hout
  cases hfound : t.byTag tag with
  | none =>
    rw [hfound] at hout
    exact ⟨rfl, (Except.error.inj hout).symm⟩
  | some o =>
    simp only [hfound, if_pos ((h.byTag tag o).1 hfound).1] at hout
    cases hout

lemma others_ne (hfound : t.byTag tag = some o) : t.others tag ≠ t.elements := by
  obtain ⟨ho, htag⟩ := (h.byTag tag o).1 hfound
  intro hsame
  rw [← hsame, h.mem_others] at ho
  exact ho.2 htag

end Listed

lemma Listed.forget (h : t.Listed) (o : Managed) : (t.forget o).Listed := ⟨h.nodup, h.byTag⟩

lemma forget_of_nil (h : o.dependencies = []) : t.forget o = t := by
  rw [forget, h]
  rfl

lemma Reversed.put (h : t.Reversed) (hls : t.Listed) (hnodup : o.dependencies.Nodup)
    (hexisting : ∀ o' ∈ t.elements, o'.tag = o.tag → o'.dependencies = []) :
    (t.put o).Reversed := by
  intro tag
  obtain ⟨hold, hmem⟩ := h tag
  have hdeps : dependents (t.put o).dependByTag tag =
      dependents t.dependByTag tag ++ replicate (o.dependencies.count tag) o.tag :=
    dependents_addDependents _ _ _ _
  -- the tag itself has no entries yet
  have hnew : o.tag ∉ dependents t.dependByTag tag := by
    rw [hmem]
    rintro ⟨o', ho', htag, hdep⟩
    rw [hexisting o' ho' htag] at hdep
    cases hdep
  constructor
  · rw [hdeps]
    refine List.Nodup.append hold ?_ ?_
    · exact nodup_replicate.2 (nodup_iff_count_le_one.1 hnodup tag)
    · intro tag' htag' hreplicate
      exact hnew (eq_of_mem_replicate hreplicate ▸ htag')
  · intro tag'
    rw [hdeps, mem_append, hmem, mem_replicate, ← Nat.pos_iff_ne_zero, count_pos_iff]
    constructor
    · rintro (⟨o', ho', rfl, hdep⟩ | ⟨hdep, rfl⟩)
      · refine ⟨o', (hls.mem_put o o').2 (.inr ⟨ho', fun htag => ?_⟩), rfl, hdep⟩
        rw [hexisting o' ho' htag] at hdep
        cases hdep
      · exact ⟨o, (hls.mem_put o o).2 (.inl rfl), rfl, hdep⟩
    · rintro ⟨o', ho', rfl, hdep⟩
      rcases (hls.mem_put o o').1 ho' with rfl | ⟨ho', -⟩
      · exact .inr ⟨hdep, rfl⟩
      · exact .inl ⟨o', ho', rfl, hdep⟩

lemma Reversed.takeOut_forget (h : t.Reversed) (hls : t.Listed)
    (hout : t.takeOut tag = .ok (o, t')) (hnodup : o.dependencies.Nodup) :
    (t'.forget o).Reversed := by
  obtain ⟨hfound, ho, rfl⟩ := takeOut_cases hout
  obtain ⟨-, rfl⟩ := (hls.byTag tag o).1 hfound
  have hentered : ∀ dependency ∈ o.dependencies, o.tag ∈ dependents t.dependByTag dependency :=
    fun dependency hdep => ((h dependency).2 o.tag).2 ⟨o, ho, rfl, hdep⟩
  intro tag
  obtain ⟨hold, hmem⟩ := h tag
  have hdeps := dependents_removeDependents hnodup hentered tag
  have hothers : ∀ o', o' ∈ t.others o.tag ↔ o' ∈ t.elements ∧ o'.tag ≠ o.tag :=
    hls.mem_others o.tag
  simp only [forget, hdeps]
  split_ifs with hdep
  · refine ⟨hold.filter _, fun tag' => ?_⟩
    rw [mem_filter, hmem]
    constructor
    · rintro ⟨⟨o', ho', rfl, hdep'⟩, hne⟩
      exact ⟨o', (hothers o').2 ⟨ho', by simpa using hne⟩, rfl, hdep'⟩
    · rintro ⟨o', ho', rfl, hdep'⟩
      obtain ⟨ho', hne⟩ := (hothers o').1 ho'
      exact ⟨⟨o', ho', rfl, hdep'⟩, by simpa using hne⟩
  · refine ⟨hold, fun tag' => ?_⟩
    rw [hmem]
    constructor
    · rintro ⟨o', ho', rfl, hdep'⟩
      refine ⟨o', (hothers o').2 ⟨ho', fun htag => hdep ?_⟩, rfl, hdep'⟩
      rw [← hls.eq_of_tag ho' ho htag]
      exact hdep'
    · rintro ⟨o', ho', rfl, hdep'⟩
      exact ⟨o', ((hothers o').1 ho').1, rfl, hdep'⟩

end ManagerTables

end SingBox

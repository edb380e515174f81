import SingBox.Lib.Run
import Mathlib.Data.BitVec

/-!
# Identifiers of queries over UDP

The loop that receives looks up a callback under the lock and delivers to it later, when its
identifier may be in use again.
-/

namespace SingBox.UDPTransport
open Function

/-- `nextAvailableQueryId`; `none` if the rounds are not enough. -/
def search (used : BitVec 16 → Bool) (start : BitVec 16) :
    ℕ → BitVec 16 → Option (Option (BitVec 16))
  | 0, _ => none
  | rounds + 1, queryId =>
    if used (queryId + 1) = false then some (some (queryId + 1))
    else if queryId + 1 = start then some none
    else search used start rounds (queryId + 1)

lemma search_spec {used : BitVec 16 → Bool} {start queryId : BitVec 16} {n : ℕ}
    (hst : start = queryId + BitVec.ofNat 16 (n + 1)) (hn : n < 2 ^ 16) :
    (∃ id, used id = false ∧ search used start (n + 1) queryId = some (some id)) ∨
    (∀ j ≤ n, used (queryId + BitVec.ofNat 16 (j + 1))) ∧
    search used start (n + 1) queryId = some none := by
  induction n generalizing queryId with
  | zero =>
    rw [search]
    split_ifs with hused
    · exact .inl ⟨_, hused, rfl⟩
    · refine .inr ⟨fun j hj => ?_, rfl⟩
      obtain rfl := Nat.le_zero.1 hj
      simpa using hused
    · exact absurd hst.symm ‹_›
  | succ n ih =>
    have hshift : ∀ j, queryId + 1 + BitVec.ofNat 16 (j + 1) =
        queryId + BitVec.ofNat 16 (j + 1 + 1) := by
      intro j
      bv_omega
    have hne : queryId + 1 ≠ start := by
      rw [hst]
      bv_omega
    rw [search, if_neg hne]
    split_ifs with hused
    · exact .inl ⟨_, hused, rfl⟩
    · rw [← hshift] at hst
      refine (ih hst (by omega)).imp_right ?_
      rintro ⟨hall, hsearch⟩
      refine ⟨fun j hj => ?_, hsearch⟩
      cases j with
      | zero => simpa using hused
      | succ j =>
        rw [← hshift]
        exact hall j (by omega)

lemma search_all (used : BitVec 16 → Bool) (queryId : BitVec 16) :
    (∃ id, used id = false ∧ search used queryId 65536 queryId = some (some id)) ∨
    (∀ id, used id) ∧ search used queryId 65536 queryId = some none := by
  have hst : queryId = queryId + BitVec.ofNat 16 (65535 + 1) := by bv_omega
  refine (search_spec hst (by decide)).imp_right ?_
  rintro ⟨hall, hsearch⟩
  refine ⟨fun id => ?_, hsearch⟩
  have hid : queryId + BitVec.ofNat 16 ((id - queryId - 1).toNat + 1) = id := by bv_omega
  rw [← hid]
  exact hall _ (by bv_omega)

inductive Phase where
  | unstarted
  | failed
  | inFlight (queryId : BitVec 16)
  | returned (queryId : BitVec 16)

def Phase.queryId? : Phase → Option (BitVec 16)
  | .inFlight id | .returned id => some id
  | _ => none

structure State (M : Type) where
  queryId : BitVec 16
  callbacks : BitVec 16 → Option ℕ := fun _ => none
  exchanges : ℕ → Phase := fun _ => .unstarted
  responses : ℕ → Option M := fun _ => none
  loaded : ℕ → Option (ℕ × M) := fun _ => none

inductive Action (M : Type) where
  /-- An exchange that has a connection allocates its identifier. -/
  | allocate (i : ℕ)
  | finish (i : ℕ)
  /-- A receiving loop has a message and looks up its callback. -/
  | load (r : ℕ) (message : M)
  /-- It delivers to the callback, unless this has a response. -/
  | deliver (r : ℕ)

variable {M : Type} (idOf : M → BitVec 16)

def State.allocate (s : State M) (i : ℕ) : State M :=
  match search (fun id => (s.callbacks id).isSome) s.queryId 65536 s.queryId with
  | some (some id) =>
    { s with
      queryId := id
      callbacks := Function.update s.callbacks id (some i)
      exchanges := Function.update s.exchanges i (.inFlight id) }
  | _ => { s with exchanges := Function.update s.exchanges i .failed }

def step (s : State M) : Action M → State M
  | .allocate i => match s.exchanges i with
    | .unstarted => s.allocate i
    | _ => s
  | .finish i => match s.exchanges i with
    | .inFlight id =>
      { s with
        callbacks := Function.update s.callbacks id none
        exchanges := Function.update s.exchanges i (.returned id) }
    | _ => s
  | .load r message =>
    let callback := (s.callbacks (idOf message)).map fun i => (i, message)
    { s with loaded := Function.update s.loaded r callback }
  | .deliver r => match s.loaded r with
    | some (i, message) =>
      { s with
        responses := Function.update s.responses i (some ((s.responses i).getD message))
        loaded := Function.update s.loaded r none }
    | none => s

structure Inv (s : State M) : Prop where
  callbacks : ∀ id i, s.callbacks id = some i ↔ s.exchanges i = .inFlight id
  loaded : ∀ r i message, s.loaded r = some (i, message) →
    (s.exchanges i).queryId? = some (idOf message)
  responses : ∀ i message, s.responses i = some message →
    (s.exchanges i).queryId? = some (idOf message)

variable {idOf} {s : State M}

lemma Inv.update {i : ℕ} (h : Inv idOf s) {phase : Phase} {queryId : BitVec 16}
    {callbacks : BitVec 16 → Option ℕ}
    (hph : (s.exchanges i).queryId? = none ∨ (s.exchanges i).queryId? = phase.queryId?)
    (hself : ∀ id, callbacks id = some i ↔ phase = .inFlight id)
    (hothers : ∀ id, ∀ j ≠ i, callbacks id = some j ↔ s.callbacks id = some j) :
    Inv idOf { s with queryId, callbacks, exchanges := Function.update s.exchanges i phase } := by
  have hkept : ∀ j id, (s.exchanges j).queryId? = some id →
      (Function.update s.exchanges i phase j).queryId? = some id := by
    intro j id hj
    rcases eq_or_ne j i with rfl | hne
    · rw [update_self]
      exact hph.elim (fun hnone => by simp [hnone] at hj) fun hsame => hsame ▸ hj
    · rwa [update_of_ne hne]
  refine ⟨fun id j => ?_, fun r j m hm => hkept j _ (h.loaded r j m hm),
    fun j m hm => hkept j _ (h.responses j m hm)⟩
  rcases eq_or_ne j i with rfl | hne
  · simpa using hself id
  · simpa [update_of_ne hne, ← h.callbacks] using hothers id j hne

lemma Inv.allocate {i : ℕ} (h : Inv idOf s) (hph : s.exchanges i = .unstarted) :
    Inv idOf (s.allocate i) := by
  have hnone : (s.exchanges i).queryId? = none := by rw [hph]; rfl
  have hfree : ∀ id, s.callbacks id ≠ some i := fun id hid => by
    rw [h.callbacks, hph] at hid
    cases hid
  rw [State.allocate]
  rcases search_all (fun id => (s.callbacks id).isSome) s.queryId with
    ⟨id, hid, hsearch⟩ | ⟨-, hsearch⟩
  · rw [hsearch]
    have hid : s.callbacks id = none := by simpa using hid
    refine h.update (.inl hnone) (fun id' => ?_) fun id' j hne => ?_
    · rcases eq_or_ne id' id with rfl | hne
      · simp
      · simp [update_of_ne hne, hfree, hne.symm]
    · rcases eq_or_ne id' id with rfl | hne'
      · simp [hid, hne.symm]
      · rw [update_of_ne hne']
  · rw [hsearch]
    exact h.update (.inl hnone) (fun id => by simp [hfree]) fun _ _ _ => Iff.rfl

lemma Inv.finish {i : ℕ} {id : BitVec 16} (h : Inv idOf s) (hph : s.exchanges i = .inFlight id) :
    Inv idOf { s with
      callbacks := Function.update s.callbacks id none
      exchanges := Function.update s.exchanges i (.returned id) } := by
  have hid : s.callbacks id = some i := (h.callbacks id i).2 hph
  refine h.update (.inr (by rw [hph]; rfl)) (fun id' => ?_) fun id' j hne => ?_
  · rcases eq_or_ne id' id with rfl | hne
    · simp
    · simp [update_of_ne hne, h.callbacks, hph, hne.symm]
  · rcases eq_or_ne id' id with rfl | hne'
    · simp [hid, hne.symm]
    · rw [update_of_ne hne']

lemma Inv.step (h : Inv idOf s) (action : Action M) : Inv idOf (step idOf s action) := by
  cases action with
  | allocate i =>
    rw [UDPTransport.step]
    split
    · exact h.allocate ‹_›
    · exact h
  | finish i =>
    rw [UDPTransport.step]
    split
    · exact h.finish ‹_›
    · exact h
  | load r message =>
    refine ⟨h.callbacks, fun r' i m hm => ?_, h.responses⟩
    rcases eq_or_ne r' r with rfl | hne
    · simp only [UDPTransport.step, update_self, Option.map_eq_some_iff] at hm
      obtain ⟨j, hj, heq⟩ := hm
      cases heq
      exact congrArg Phase.queryId? ((h.callbacks _ _).1 hj)
    · simp only [UDPTransport.step, update_of_ne hne] at hm
      exact h.loaded r' i m hm
  | deliver r =>
    rw [UDPTransport.step]
    split
    case h_1 i message hload =>
      refine ⟨h.callbacks, fun r' j m hm => ?_, fun j m hm => ?_⟩
      · rcases eq_or_ne r' r with rfl | hne
        · simp at hm
        · simp only [update_of_ne hne] at hm
          exact h.loaded r' j m hm
      · rcases eq_or_ne j i with rfl | hne
        · simp only [update_self] at hm
          cases hresp : s.responses j with
          | none =>
            rw [hresp] at hm
            cases hm
            exact h.loaded r j _ hload
          | some m' =>
            rw [hresp] at hm
            cases hm
            exact h.responses j _ hresp
        · simp only [update_of_ne hne] at hm
          exact h.responses j m hm
    case h_2 => exact h

structure Safe (idOf : M → BitVec 16) (s : State M) : Prop where
  unique : ∀ i j id, s.exchanges i = .inFlight id → s.exchanges j = .inFlight id → i = j
  /-- A response is delivered only to an exchange with its identifier. -/
  delivered : ∀ i message, s.responses i = some message →
    (s.exchanges i).queryId? = some (idOf message)
  search : ∃ result, UDPTransport.search (fun id => (s.callbacks id).isSome) s.queryId 65536
    s.queryId = some result ∧ (result = none ↔ ∀ id, ∃ j, s.exchanges j = .inFlight id)
  allocate : ∀ i, s.exchanges i = .unstarted →
    ((s.allocate i).exchanges i = .failed ↔ ∀ id, ∃ j, s.exchanges j = .inFlight id)

lemma safe_of_inv (h : Inv idOf s) : Safe idOf s := by
  have hused : (∀ id, (s.callbacks id).isSome) ↔
      ∀ id, ∃ j, s.exchanges j = .inFlight id := by
    simp [Option.isSome_iff_exists, h.callbacks]
  have hsearch := search_all (fun id => (s.callbacks id).isSome) s.queryId
  refine ⟨fun i j id hi hj => ?_, h.responses, ?_, fun i hi => ?_⟩
  · rw [← h.callbacks] at hi hj
    exact Option.some.inj (hi.symm.trans hj)
  · rw [← hused]
    rcases hsearch with ⟨id, hid, hsearch⟩ | ⟨hall, hsearch⟩
    · exact ⟨_, hsearch, by simpa using ⟨id, by simpa using hid⟩⟩
    · exact ⟨_, hsearch, iff_of_true rfl hall⟩
  · rw [← hused, State.allocate]
    rcases hsearch with ⟨id, hid, hsearch⟩ | ⟨hall, hsearch⟩
    · rw [hsearch]
      simpa using ⟨id, by simpa using hid⟩
    · rw [hsearch]
      simpa using hall

/-- In every run, with any last identifier at the start, states are safe. -/
theorem safe_of_exchanges {queryId : BitVec 16}
    (h : Run (step idOf) (fun _ _ => True) { queryId } s) : Safe idOf s :=
  safe_of_inv (h.invariant
    ⟨fun _ _ => ⟨nofun, nofun⟩, fun _ _ _ => nofun, fun _ _ => nofun⟩ fun _ action hs _ =>
      hs.step action)

theorem safe_of_exchanges_reused :
    let actions : List (Action (BitVec 16)) :=
      [.allocate 0, .allocate 1, .load 0 0xffff, .finish 0, .allocate 2, .deliver 0]
    let s := actions.foldl (step id) { queryId := 0xfffe }
    Safe id s ∧ s.exchanges 1 = .inFlight 0 ∧ s.responses 0 = some 0xffff ∧
      s.exchanges 2 = .inFlight 1 :=
  ⟨safe_of_exchanges (Run.foldl .start (by simp [Run.Allowed])), rfl, rfl, rfl⟩

/-- The callbacks are those of the exchanges in flight: none is left when all have returned. -/
theorem callbacks_of_exchanges {queryId : BitVec 16}
    (h : Run (step idOf) (fun _ _ => True) { queryId } s) :
    (∀ id i, s.callbacks id = some i ↔ s.exchanges i = .inFlight id) ∧
      ((∀ i id, s.exchanges i ≠ .inFlight id) → s.callbacks = fun _ => none) := by
  have hinv : Inv idOf s := h.invariant
    ⟨fun _ _ => ⟨nofun, nofun⟩, fun _ _ _ => nofun, fun _ _ => nofun⟩ fun _ action hs _ =>
      hs.step action
  refine ⟨hinv.callbacks, fun hnone => funext fun id => ?_⟩
  exact Option.eq_none_iff_forall_ne_some.2 fun i hi => hnone i id ((hinv.callbacks id i).1 hi)

theorem callbacks_of_exchanges_finished :
    let s := [.allocate 0, .load 0 0, .finish 0].foldl (step id) { queryId := 0xffff }
    s.loaded 0 = some (0, 0) ∧ (s.callbacks 0 = some 0 ↔ s.exchanges 0 = .inFlight 0) :=
  ⟨rfl, (callbacks_of_exchanges (Run.foldl .start (by simp [Run.Allowed]))).1 0 0⟩

end SingBox.UDPTransport

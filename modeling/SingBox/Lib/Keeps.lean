import Mathlib.Logic.Basic

/-!
# Computations that may panic

`Keeps I m`: from a state with `I` the computation does not panic and ends in one with `I`.
-/

def Keeps {σ α : Type} (I : σ → Prop) (m : StateT σ Option α) : Prop :=
  ∀ s, I s → ∃ a s', m.run s = some (a, s') ∧ I s'

namespace Keeps
variable {σ α β : Type} {I : σ → Prop}

lemma pure (a : α) : Keeps I (pure a : StateT σ Option α) :=
  fun s h => ⟨a, s, rfl, h⟩

lemma bind {m : StateT σ Option α} {f : α → StateT σ Option β} (hm : Keeps I m)
    (hf : ∀ a, Keeps I (f a)) : Keeps I (m >>= f) := by
  intro s h
  obtain ⟨a, s', hrun, h'⟩ := hm s h
  obtain ⟨b, s'', hrun', h''⟩ := hf a s' h'
  refine ⟨b, s'', ?_, h''⟩
  rw [StateT.run_bind, hrun]
  exact hrun'

lemma get_bind {f : σ → StateT σ Option β} (hf : ∀ s, I s → Keeps I (f s)) : Keeps I (get >>= f) :=
  fun s h => hf s h s h

lemma set {s' : σ} (h : I s') : Keeps I (set s' : StateT σ Option PUnit) :=
  fun _ _ => ⟨⟨⟩, s', rfl, h⟩

lemma modify {f : σ → σ} (hf : ∀ s, I s → I (f s)) : Keeps I (modify f : StateT σ Option PUnit) :=
  fun s h => ⟨⟨⟩, f s, rfl, hf s h⟩

end Keeps

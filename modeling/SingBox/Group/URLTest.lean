import Mathlib.Data.Nat.Find
import Mathlib.Tactic.SplitIfs

/-!
# The selection of a URL test group

`Select` walks over the outbounds with the smallest delay so far, starting with the selection, and
moves on only to an outbound that is better by more than the tolerance. The sum of a delay and the
tolerance has 16 bits, and the delay 0 stands for no outbound. So the walk goes wrong when it leaves
an outbound with the delay 0, or one that is good enough, for another one whose sum overflows. The
main result says for which delays that cannot happen, in whatever order the outbounds come.
-/

namespace SingBox.URLTest

structure Outbound where
  tag : String
  now : Option String := none
  network : List String
  deriving DecidableEq

def Outbound.realTag (o : Outbound) : String := o.now.getD o.tag

structure URLTestGroup where
  outbounds : List Outbound
  tolerance : UInt16
  history : String → Option UInt16
  selectedOutboundTCP : Option Outbound := none
  selectedOutboundUDP : Option Outbound := none

namespace URLTestGroup
variable (g : URLTestGroup) (network : String)

def delay (o : Outbound) : Option UInt16 := g.history o.realTag

def selected : Option Outbound :=
  if network = "tcp" then g.selectedOutboundTCP
  else if network = "udp" then g.selectedOutboundUDP
  else none

def consider (found : UInt16 × Option Outbound) (detour : Outbound) : UInt16 × Option Outbound :=
  if network ∉ detour.network then found
  else
    match g.delay detour with
    | none => found
    | some delay =>
      if found.1 = 0 ∨ delay + g.tolerance < found.1 then (delay, some detour) else found

def current : UInt16 × Option Outbound :=
  match g.selected network with
  | none => (0, none)
  | some o =>
    match g.delay o with
    | none => (0, none)
    | some delay => (delay, some o)

def select : Option Outbound × Bool :=
  match (g.outbounds.foldl (g.consider network) (g.current network)).2 with
  | some o => (some o, true)
  | none => (g.outbounds.find? (network ∈ ·.network), false)

def updateCheck : Option Outbound :=
  match g.select network with
  | (none, _) => g.selected network
  | (some o, found) =>
    if g.selected network = none ∨ found ∧ some o ≠ g.selected network then some o
    else g.selected network

def Supports (o : Outbound) : Prop := o ∈ g.outbounds ∧ network ∈ o.network

/-- No outbound for the network is better by more than the tolerance. -/
def Best (o : Outbound) : Prop :=
  ∀ o', g.Supports network o' → ∀ d' ∈ g.delay o',
    ∃ d ∈ g.delay o, d.toNat ≤ d'.toNat + g.tolerance.toNat

/-- `Select` gives an outbound for the network that is good enough, and a selection that is good
enough is kept. -/
def Right : Prop :=
  ((∃ o, g.Supports network o) → ∃ o, (g.select network).1 = some o ∧
    g.Supports network o ∧ g.Best network o) ∧
  ∀ o ∈ g.selected network, g.Best network o → g.updateCheck network = some o

/-- The selection is one of the outbounds for the network. -/
def SelectionSupported : Prop := ∀ o ∈ g.selected network, g.Supports network o

/-- The same outbounds, delays and tolerance, with any selection and in any order. -/
structure Similar (g g' : URLTestGroup) : Prop where
  outbounds : g'.outbounds.Perm g.outbounds
  tolerance : g'.tolerance = g.tolerance
  history : g'.history = g.history

/-- An outbound that is good enough and not the only one with a delay does not have the delay 0,
and no sum of another one overflows to less than its delay. -/
def Told : Prop :=
  ∀ o o', g.Supports network o → g.Supports network o' → o' ≠ o → g.Best network o →
    ∀ d ∈ g.delay o, ∀ d' ∈ g.delay o', d ≠ 0 ∧
      (d'.toNat + g.tolerance.toNat < 65536 ∨
        d.toNat + 65536 ≤ d'.toNat + g.tolerance.toNat)

variable {g g' network} {l l' : List Outbound} {o o' : Outbound} {d : UInt16}
  {found : UInt16 × Option Outbound}

/-! ### One step of the walk -/

/-- What is found is an outbound for the network with its delay. -/
structure Found (g : URLTestGroup) (network : String) (found : UInt16 × Option Outbound) :
    Prop where
  zero : found.2 = none → found.1 = 0
  delay : ∀ o ∈ found.2, g.Supports network o ∧ g.delay o = some found.1

lemma found_current (h : g.SelectionSupported network) : Found g network (g.current network) := by
  unfold SelectionSupported at h
  refine ⟨?_, ?_⟩ <;> unfold current <;> grind

/-- The walk stays, or moves to an outbound for the network with a delay. -/
lemma consider_cases (g : URLTestGroup) (network : String) (o : Outbound)
    (found : UInt16 × Option Outbound) :
    (∃ d ∈ g.delay o, network ∈ o.network ∧ g.consider network found o = (d, some o) ∧
      (found.1 = 0 ∨ d + g.tolerance < found.1)) ∨
    g.consider network found o = found ∧ (network ∈ o.network → ∀ d ∈ g.delay o,
      found.1 ≠ 0 ∧ ¬d + g.tolerance < found.1) := by
  unfold consider
  grind

lemma Found.consider (h : Found g network found) (ho : o ∈ g.outbounds) :
    Found g network (g.consider network found o) := by
  obtain ⟨d, hd, hnet, hnew, -⟩ | ⟨hold, -⟩ := consider_cases g network o found
  · rw [hnew]
    refine ⟨nofun, ?_⟩
    rintro _ ⟨⟩
    exact ⟨⟨ho, hnet⟩, hd⟩
  · rwa [hold]

lemma Found.foldl (h : Found g network found) (hl : ∀ o ∈ l, o ∈ g.outbounds) :
    Found g network (l.foldl (g.consider network) found) := by
  induction l generalizing found with
  | nil => exact h
  | cons o l ih =>
    obtain ⟨ho, hl⟩ := List.forall_mem_cons.1 hl
    exact ih (h.consider ho) hl

lemma foldl_ne_none (h : found.2 ≠ none) (l : List Outbound) :
    (l.foldl (g.consider network) found).2 ≠ none := by
  induction l generalizing found with
  | nil => exact h
  | cons o l ih =>
    refine ih ?_
    obtain ⟨d, -, -, hnew, -⟩ | ⟨hold, -⟩ := consider_cases g network o found
    · rw [hnew]
      exact Option.some_ne_none o
    · rwa [hold]

/-- The sum is less than the delay because it really is, or because it overflows. -/
lemma add_tolerance_lt_iff {d d' : UInt16} : d' + g.tolerance < d ↔
    d'.toNat + g.tolerance.toNat < d.toNat ∨
      65536 ≤ d'.toNat + g.tolerance.toNat ∧
        d'.toNat + g.tolerance.toNat < d.toNat + 65536 := by
  have hd := d.toNat_lt
  have hd' := d'.toNat_lt
  have htol := g.tolerance.toNat_lt
  rw [UInt16.lt_iff_toNat_lt, UInt16.toNat_add]
  omega

lemma Best.le (h : g.Best network o) (ho' : g.Supports network o') (hd : d ∈ g.delay o)
    {d' : UInt16} (hd' : d' ∈ g.delay o') : d.toNat ≤ d'.toNat + g.tolerance.toNat := by
  obtain ⟨d'', hd'', hle⟩ := h o' ho' d' hd'
  rwa [Option.some.inj (hd.symm.trans hd'')]

/-- A walk that has come to a good outbound stays there. -/
lemma Told.foldl_eq (h : g.Told network) (ho : g.Supports network o) (hd : d ∈ g.delay o)
    (hbest : g.Best network o) (hl : ∀ o ∈ l, o ∈ g.outbounds) :
    l.foldl (g.consider network) (d, some o) = (d, some o) := by
  induction l with
  | nil => rfl
  | cons o' l ih =>
    obtain ⟨ho', hl⟩ := List.forall_mem_cons.1 hl
    have hstay : g.consider network (d, some o) o' = (d, some o) := by
      obtain ⟨d', hd', hnet, hnew, hbetter⟩ | ⟨hold, -⟩ := consider_cases g network o' (d, some o)
      · by_cases heq : o' = o
        · subst heq
          rw [hnew, Option.some.inj (hd'.symm.trans hd)]
        · obtain ⟨hne, hexact⟩ := h o o' ho ⟨ho', hnet⟩ heq hbest d hd d' hd'
          have hle := hbest.le ⟨ho', hnet⟩ hd hd'
          rcases hbetter with hzero | hless
          · exact absurd hzero hne
          · have hsum := add_tolerance_lt_iff.1 hless
            dsimp only at hsum
            omega
      · exact hold
    rw [List.foldl_cons, hstay]
    exact ih hl

/-! ### The whole walk -/

/-- An outbound for the network with the smallest delay. -/
def Least (g : URLTestGroup) (network : String) (o : Outbound) : Prop :=
  g.Supports network o ∧ ∃ d ∈ g.delay o,
    ∀ o', g.Supports network o' → ∀ d' ∈ g.delay o', d.toNat ≤ d'.toNat

lemma Least.best (h : g.Least network o) : g.Best network o := by
  obtain ⟨-, d, hd, hle⟩ := h
  exact fun o' ho' d' hd' => ⟨d, hd, Nat.le_add_right_of_le (hle o' ho' d' hd')⟩

lemma exists_least (ho : g.Supports network o) (hd : d ∈ g.delay o) :
    ∃ o', g.Least network o' := by
  let Recorded (n : ℕ) : Prop := ∃ o d, g.Supports network o ∧ d ∈ g.delay o ∧ d.toNat = n
  have hrecorded : ∃ n, Recorded n := ⟨_, o, d, ho, hd, rfl⟩
  classical
  obtain ⟨o', d', ho', hd', hn⟩ := Nat.find_spec hrecorded
  refine ⟨o', ho', d', hd', fun o'' ho'' d'' hd'' => ?_⟩
  rw [hn]
  exact Nat.find_min' hrecorded ⟨o'', d'', ho'', hd'', rfl⟩

/-- Once the walk has passed an outbound with the smallest delay, it is at a good one. -/
lemma Told.best_of_least (h : g.Told network) (hfound : Found g network found)
    (hl : ∀ o ∈ l, o ∈ g.outbounds) (ho : o ∈ l) (hleast : g.Least network o) :
    ∃ o', (l.foldl (g.consider network) found).2 = some o' ∧ g.Supports network o' ∧
      g.Best network o' := by
  induction l generalizing found with
  | nil => cases ho
  | cons first l ih =>
    obtain ⟨hfirst, hrest⟩ := List.forall_mem_cons.1 hl
    rcases List.mem_cons.1 ho with heq | ho
    · -- After this step the walk is at a good outbound, and stays there.
      subst heq
      have hbest := hleast.best
      obtain ⟨hsupports, d, hd, hle⟩ := hleast
      rw [List.foldl_cons]
      obtain ⟨d', hd', hnet, hnew, -⟩ | ⟨hold, hworse⟩ := consider_cases g network o found
      · rw [hnew, h.foldl_eq hsupports hd' hbest hrest]
        exact ⟨o, rfl, hsupports, hbest⟩
      · obtain ⟨hne, hnot⟩ := hworse hsupports.2 d hd
        obtain ⟨o', ho'⟩ : ∃ o', found.2 = some o' := by
          rcases hnone : found.2 with _ | o'
          · exact absurd (hfound.zero hnone) hne
          · exact ⟨o', rfl⟩
        obtain ⟨hsupports', hdelay'⟩ := hfound.delay o' ho'
        have hbest' : g.Best network o' := by
          intro o'' ho'' d'' hd''
          refine ⟨found.1, hdelay', ?_⟩
          have hsmallest := hle o'' ho'' d'' hd''
          rw [add_tolerance_lt_iff] at hnot
          omega
        have hpair : found = (found.1, some o') := by rw [← ho']
        rw [hold, hpair, h.foldl_eq hsupports' hdelay' hbest' hrest]
        exact ⟨o', rfl, hsupports', hbest'⟩
    · exact ih (hfound.consider hfirst) hrest ho

lemma Told.right (h : g.Told network) (hselected : g.SelectionSupported network) :
    g.Right network := by
  have hfound := found_current hselected
  refine ⟨?_, fun o hsel hbest => ?_⟩
  · rintro ⟨o, ho⟩
    by_cases hrecorded : ∃ o' d, g.Supports network o' ∧ d ∈ g.delay o'
    · obtain ⟨o', d, ho', hd⟩ := hrecorded
      obtain ⟨least, hleast⟩ := exists_least ho' hd
      obtain ⟨o'', hf, hsupports, hbest⟩ :=
        h.best_of_least hfound (fun _ ho => ho) hleast.1.1 hleast
      exact ⟨o'', by rw [select, hf], hsupports, hbest⟩
    · have hbest : ∀ o, g.Best network o :=
        fun o o' ho' d' hd' => absurd ⟨o', d', ho', hd'⟩ hrecorded
      have hf : (g.outbounds.foldl (g.consider network) (g.current network)).2 = none := by
        refine Option.eq_none_iff_forall_not_mem.2 fun o' ho' => ?_
        obtain ⟨hsupports, hdelay⟩ := (hfound.foldl fun _ ho => ho).delay o' ho'
        exact hrecorded ⟨o', _, hsupports, hdelay⟩
      obtain ⟨o', ho'⟩ : ∃ o', g.outbounds.find? (network ∈ ·.network) = some o' := by
        rw [← Option.isSome_iff_exists, List.find?_isSome]
        exact ⟨o, ho.1, decide_eq_true ho.2⟩
      refine ⟨o', by rw [select, hf, ho'], ⟨List.mem_of_find?_eq_some ho', ?_⟩, hbest o'⟩
      simpa using List.find?_some ho'
  · rw [Option.mem_def] at hsel
    cases hd : g.delay o with
    | some d =>
      have hcurrent : g.current network = (d, some o) := by simp [current, hsel, hd]
      have hstay := h.foldl_eq (hselected o hsel) hd hbest fun _ (ho : _ ∈ g.outbounds) => ho
      simp [updateCheck, select, hcurrent, hstay, hsel]
    | none =>
      -- no outbound for the network has a delay
      have hf : (g.outbounds.foldl (g.consider network) (g.current network)).2 = none := by
        refine Option.eq_none_iff_forall_not_mem.2 fun o' ho' => ?_
        obtain ⟨hsupports, hdelay⟩ := (hfound.foldl fun _ ho => ho).delay o' ho'
        obtain ⟨d, hd', -⟩ := hbest o' hsupports _ hdelay
        rw [hd] at hd'
        cases hd'
      cases hfirst : g.outbounds.find? (network ∈ ·.network) <;>
        simp [updateCheck, select, hf, hfirst, hsel]

/-- What `performUpdateCheck` selects is again one of the outbounds for the network. -/
lemma SelectionSupported.updateCheck (h : g.SelectionSupported network) :
    ∀ o ∈ g.updateCheck network, g.Supports network o := by
  have hfound : Found g network (g.outbounds.foldl (g.consider network) (g.current network)) :=
    (found_current h).foldl fun _ ho => ho
  have hselect : ∀ o ∈ (g.select network).1, g.Supports network o := by
    intro o ho
    unfold select at ho
    split at ho
    · rename_i o' hf
      obtain rfl : o' = o := Option.some.inj ho
      exact (hfound.delay o' hf).1
    · exact ⟨List.mem_of_find?_eq_some ho, by simpa using List.find?_some ho⟩
  intro o ho
  unfold URLTestGroup.updateCheck at ho
  split at ho
  · exact h o ho
  · rename_i o' exists' hs
    split_ifs at ho
    · obtain rfl : o' = o := Option.some.inj ho
      exact hselect o' (by rw [hs]; rfl)
    · exact h o ho

/-! ### The converse -/

/-- The group with this outbound selected and that one at the end. -/
def reordered (g : URLTestGroup) (o o' : Outbound) : URLTestGroup :=
  { g with
    outbounds := g.outbounds.erase o' ++ [o']
    selectedOutboundTCP := some o
    selectedOutboundUDP := some o }

/-- A good outbound that is selected is left for one at the end that it cannot be told from. -/
lemma updateCheck_reordered_ne (hnetwork : network = "tcp" ∨ network = "udp")
    (ho : g.Supports network o) (ho' : g.Supports network o') (hne : o' ≠ o) {d' : UInt16}
    (hd : d ∈ g.delay o) (hd' : d' ∈ g.delay o') (hwrong : d = 0 ∨ d' + g.tolerance < d) :
    (g.reordered o o').updateCheck network ≠ some o := by
  have hselected : (g.reordered o o').selected network = some o := by
    rcases hnetwork with rfl | rfl <;> rfl
  have hcurrent : (g.reordered o o').current network = (d, some o) := by
    have hdelay : (g.reordered o o').delay o = some d := hd
    simp [current, hselected, hdelay]
  -- Before the last step the walk is at `o` with its delay, or somewhere else.
  have hfound : Found g network
      ((g.outbounds.erase o').foldl (g.consider network) (d, some o)) := by
    refine Found.foldl ⟨nofun, ?_⟩ fun x hx => List.mem_of_mem_erase hx
    rintro _ ⟨⟩
    exact ⟨ho, hd⟩
  have hsome : ((g.outbounds.erase o').foldl (g.consider network) (d, some o)).2 ≠ none :=
    foldl_ne_none (Option.some_ne_none o) _
  obtain ⟨last, hlast, hother⟩ : ∃ last, (g.consider network
      ((g.outbounds.erase o').foldl (g.consider network) (d, some o)) o').2 = some last ∧
        last ≠ o := by
    obtain ⟨d'', -, -, hnew, -⟩ | ⟨hold, hworse⟩ := consider_cases g network o'
      ((g.outbounds.erase o').foldl (g.consider network) (d, some o))
    · rw [hnew]
      exact ⟨o', rfl, hne⟩
    · obtain ⟨last, hlast⟩ := Option.ne_none_iff_exists'.1 hsome
      rw [hold]
      refine ⟨last, hlast, ?_⟩
      rintro rfl
      have hdelay := (hfound.delay last hlast).2
      obtain ⟨hnonzero, hnot⟩ := hworse ho'.2 d' hd'
      rw [← Option.some.inj (hd.symm.trans hdelay)] at hnonzero hnot
      exact hwrong.elim hnonzero hnot
  have hwalk : (g.reordered o o').outbounds.foldl ((g.reordered o o').consider network)
      ((g.reordered o o').current network) = g.consider network
        ((g.outbounds.erase o').foldl (g.consider network) (d, some o)) o' := by
    rw [hcurrent]
    exact List.foldl_append
  have hupdate : (g.reordered o o').updateCheck network = some last := by
    simp [URLTestGroup.updateCheck, select, hwalk, hlast, hselected, hother]
  rw [hupdate]
  exact fun h => hother (Option.some.inj h)

lemma Similar.supports (h : Similar g g') : g'.Supports network o ↔ g.Supports network o := by
  rw [Supports, Supports, h.outbounds.mem_iff]

lemma Similar.told (h : Similar g g') (htold : g.Told network) : g'.Told network := by
  have hdelay : g'.delay = g.delay := by
    unfold delay
    rw [h.history]
  unfold Told Best at htold ⊢
  simpa only [h.supports, hdelay, h.tolerance] using htold

end URLTestGroup

def twoOutbounds (delayA delayB : UInt16) : URLTestGroup where
  outbounds := [{ tag := "a", network := ["tcp"] }, { tag := "b", network := ["tcp"] }]
  tolerance := 50
  history tag := if tag = "a" then some delayA else some delayB
  selectedOutboundTCP := some { tag := "a", network := ["tcp"] }

open URLTestGroup

end SingBox.URLTest

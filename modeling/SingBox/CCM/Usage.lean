import Mathlib.Data.List.Basic
import SingBox.Lib.Run

/-!
# The usage file

Saves share one temporary file and no lock. Statistics are numbered by the calls of `AddUsage`.
-/

namespace SingBox.CCM
open List Function

/-- Files are numbered, since one may be renamed while it is written. -/
structure Disk where
  tmp : Option ℕ := none
  file : Option ℕ := none
  contents : ℕ → List ℕ := fun _ => []
  files : ℕ := 0
  /-- What the file has been replaced by, the last one first. -/
  replaced : List (List ℕ) := []

inductive Save
  | create (data : ℕ)
  | write (data n : ℕ)
  | rename (data : ℕ)
  | remove

/-- `os.WriteFile` creates or truncates the file and then writes it. -/
def Save.next (d : Disk) : Save → Disk × Option Save
  | create data =>
    let n := d.tmp.getD d.files
    let files := d.tmp.elim (d.files + 1) fun _ => d.files
    ({ d with tmp := some n, contents := update d.contents n [], files }, some (write data n))
  | write data n =>
    ({ d with contents := update d.contents n (d.contents n ++ [data]) }, some (rename data))
  | rename _ =>
    match d.tmp with
    | none => (d, none)
    | some n =>
      ({ d with tmp := none, file := some n, replaced := d.contents n :: d.replaced }, some remove)
  | remove => ({ d with tmp := none }, none)

/-- Calls of `scheduleSave` and `saveAsync` not begun are counted. -/
structure AggregatedUsage where
  usage : ℕ := 0
  schedules : ℕ := 0
  pendingSave : Bool := false
  asyncs : ℕ := 0
  saves : List Save := []
  disk : Disk := {}

inductive Action
  | addUsage
  | scheduleSave (elapsed : Bool)
  | timer
  | save
  | move (i : ℕ)

/-- `elapsed` says that the last save was a minute ago. -/
def AggregatedUsage.step (u : AggregatedUsage) : Action → AggregatedUsage
  | .addUsage => { u with usage := u.usage + 1, schedules := u.schedules + 1 }
  | .scheduleSave elapsed =>
    if u.schedules = 0 then u
    else
      let u := { u with schedules := u.schedules - 1 }
      if elapsed then { u with asyncs := u.asyncs + 1 } else { u with pendingSave := true }
  | .timer =>
    if u.pendingSave then { u with pendingSave := false, asyncs := u.asyncs + 1 } else u
  | .save =>
    if u.asyncs = 0 then u
    else { u with asyncs := u.asyncs - 1, saves := u.saves ++ [.create u.usage] }
  | .move i =>
    match u.saves[i]? with
    | none => u
    | some save =>
      let (disk, next) := save.next u.disk
      { u with disk, saves := next.elim (u.saves.eraseIdx i) (u.saves.set i) }

open AggregatedUsage

def Alone (u : AggregatedUsage) : Action → Prop
  | .save => u.saves = []
  | _ => True

def Idle (u : AggregatedUsage) : Prop :=
  u.schedules = 0 ∧ u.pendingSave = false ∧ u.asyncs = 0 ∧ u.saves = []

/-- The snapshots that replaced the file, in order. -/
structure Disk.Sound (d : Disk) (usage : ℕ) (l : List ℕ) : Prop where
  replaced : d.replaced = l.map ([·])
  file : d.file.map d.contents = d.replaced.head?
  lt : ∀ n ∈ d.file, n < d.files
  sorted : (usage :: l).Pairwise (· ≥ ·)

def Save.Good (d : Disk) (usage : ℕ) (l : List ℕ) : Save → Prop
  | create data => d.tmp = none ∧ (usage :: data :: l).Pairwise (· ≥ ·)
  | write data n => (d.tmp = some n ∧ n < d.files ∧ d.file ≠ some n ∧ d.contents n = []) ∧
      (usage :: data :: l).Pairwise (· ≥ ·)
  | rename data => (∃ n, d.tmp = some n ∧ n < d.files ∧ d.contents n = [data]) ∧
      (usage :: data :: l).Pairwise (· ≥ ·)
  | remove => True

def Save.Saves (usage : ℕ) : Save → Prop
  | create data | write data _ | rename data => data = usage
  | remove => False

structure Inv (u : AggregatedUsage) (l : List ℕ) : Prop where
  sound : u.disk.Sound u.usage l
  saves : u.saves = [] ∧ u.disk.tmp = none ∨ ∃ save, u.saves = [save] ∧ save.Good u.disk u.usage l
  fresh : u.usage = 0 ∨ 0 < u.schedules ∨ u.pendingSave ∨ 0 < u.asyncs ∨
    (∃ save ∈ u.saves, save.Saves u.usage) ∨ l.head? = some u.usage

variable {u : AggregatedUsage} {d : Disk} {save : Save} {m n : ℕ} {l : List ℕ}

lemma pairwise_mono (h : (m :: l).Pairwise (· ≥ ·)) (hmn : m ≤ n) : (n :: l).Pairwise (· ≥ ·) :=
  pairwise_cons.2 ⟨fun _ hk => Nat.le_trans (rel_of_pairwise_cons h hk) hmn, (pairwise_cons.1 h).2⟩

lemma Disk.Sound.update (h : d.Sound m l) (hn : d.file ≠ some n) (data : List ℕ) (tmp : Option ℕ)
    {files : ℕ} (hfiles : d.files ≤ files) :
    ({ d with tmp, files, contents := update d.contents n data } : Disk).Sound m l := by
  refine ⟨h.replaced, ?_, fun k hk => Nat.lt_of_lt_of_le (h.lt k hk) hfiles, h.sorted⟩
  rw [← h.file]
  refine Option.map_congr fun k hk => update_of_ne ?_ _ _
  rintro rfl
  exact hn hk

lemma Save.Good.mono (h : save.Good d m l) (hmn : m ≤ n) : save.Good d n l := by
  cases save with
  | create | write | rename => exact h.imp_right fun hl => pairwise_mono hl hmn
  | remove => trivial

lemma next_spec (hd : d.Sound m l) (h : save.Good d m l) : ∃ l', (save.next d).1.Sound m l' ∧
    ((save.next d).2 = none → (save.next d).1.tmp = none) ∧
    (∀ new ∈ (save.next d).2, new.Good (save.next d).1 m l') ∧
    (save.Saves m ∨ l.head? = some m →
        (∃ new ∈ (save.next d).2, new.Saves m) ∨ l'.head? = some m) := by
  cases save with
  | create data =>
    obtain ⟨htmp, hsorted⟩ := h
    have hfile : d.file ≠ some d.files := fun heq => Nat.lt_irrefl _ (hd.lt _ heq)
    simp only [Save.next, htmp, Option.getD, Option.elim]
    refine ⟨l, hd.update hfile [] _ d.files.le_succ, nofun, ?_, .imp_left fun h => ⟨_, rfl, h⟩⟩
    rintro new ⟨⟩
    exact ⟨⟨rfl, Nat.le_refl _, hfile, update_self ..⟩, hsorted⟩
  | write data n =>
    obtain ⟨⟨htmp, hlt, hfile, hempty⟩, hsorted⟩ := h
    refine ⟨l, hd.update hfile _ _ (Nat.le_refl _), nofun, ?_, .imp_left fun h => ⟨_, rfl, h⟩⟩
    rintro new ⟨⟩
    exact ⟨⟨n, htmp, hlt, by simp [Save.next, hempty]⟩, hsorted⟩
  | rename data =>
    obtain ⟨⟨n, htmp, hlt, hdata⟩, hsorted⟩ := h
    simp only [Save.next, htmp]
    refine ⟨data :: l, ⟨?_, rfl, ?_, hsorted⟩, nofun, ?_, fun hlast => .inr (congrArg some ?_)⟩
    · simp [hdata, hd.replaced]
    · rintro k ⟨⟩
      exact hlt
    · rintro new ⟨⟩
      trivial
    · obtain ⟨hm, hl⟩ := pairwise_cons.1 hsorted
      refine hlast.elim id fun hhead => Nat.le_antisymm (hm data mem_cons_self) ?_
      exact (pairwise_cons.1 hl).1 m (mem_of_mem_head? hhead)
  | remove =>
    exact ⟨l, ⟨hd.replaced, hd.file, hd.lt, hd.sorted⟩, fun _ => rfl, nofun,
      fun h => .inr (h.resolve_left id)⟩

lemma inv_step (h : Inv u l) {action : Action} (ha : Alone u action) :
    ∃ l, Inv (u.step action) l := by
  have hsound := h.sound
  cases action with
  | addUsage =>
    refine ⟨l, { hsound with sorted := pairwise_mono hsound.sorted u.usage.le_succ }, ?_,
      .inr (.inl u.schedules.succ_pos)⟩
    exact h.saves.imp_right fun ⟨save, heq, hgood⟩ => ⟨save, heq, hgood.mono u.usage.le_succ⟩
  | scheduleSave elapsed =>
    refine ⟨l, ?_⟩
    rw [step]
    split_ifs
    · exact h
    all_goals exact ⟨hsound, h.saves, by simp⟩
  | timer =>
    refine ⟨l, ?_⟩
    rw [step]
    split_ifs
    · exact ⟨hsound, h.saves, by simp⟩
    · exact h
  | save =>
    have hnone : u.saves = [] := ha
    have htmp : u.disk.tmp = none := by simpa [hnone] using h.saves
    refine ⟨l, ?_⟩
    rw [step]
    split_ifs
    · exact h
    · refine ⟨hsound, .inr ⟨.create u.usage, by simp [hnone], htmp, ?_⟩, by simp [Save.Saves]⟩
      exact pairwise_cons.2 ⟨by simpa using (pairwise_cons.1 hsound.sorted).1, hsound.sorted⟩
  | move i =>
    rw [step]
    cases hi : u.saves[i]? with
    | none => exact ⟨l, h⟩
    | some save =>
      obtain ⟨hnil, -⟩ | ⟨only, honly, hgood⟩ := h.saves
      · simp [hnil] at hi
      · obtain ⟨rfl, rfl⟩ : i = 0 ∧ only = save := by
          cases i <;> simp_all
        obtain ⟨l', hsound', htmp, hgood', hlast⟩ := next_spec hsound hgood
        have hfresh := h.fresh
        simp only [honly, mem_singleton, exists_eq_left] at hfresh
        refine ⟨l', hsound', ?_, hfresh.imp_right (.imp_right (.imp_right (.imp_right ?_)))⟩
        all_goals
          cases hnext : (only.next u.disk).2 with
          | none => simp_all
          | some new => simp_all

/-- If no two saves overlap, the file gets the last statistics, is never replaced by older ones, and
no save renames what another is writing. -/
theorem saved_alone (h : Run step Alone {} u) :
    (Idle u → 0 < u.usage → u.disk.file.map u.disk.contents = some [u.usage]) ∧
    (∃ l : List ℕ, u.disk.replaced = l.map ([·]) ∧ l.Pairwise (· ≥ ·)) ∧
    ∀ data other n, .rename data ∈ u.saves → u.disk.tmp = some n → .write other n ∉ u.saves := by
  obtain ⟨l, hinv⟩ := h.invariant (I := fun u => ∃ l, Inv u l)
    ⟨[], ⟨rfl, rfl, nofun, by simp⟩, .inl ⟨rfl, rfl⟩, .inl rfl⟩ fun _ _ ⟨_, h⟩ => inv_step h
  have hsound := hinv.sound
  refine ⟨fun ⟨hschedules, hpending, hasyncs, hsaves⟩ hpos => ?_,
    ⟨l, hsound.replaced, (pairwise_cons.1 hsound.sorted).2⟩, fun _ _ _ hrename _ hwrite => ?_⟩
  · have hhead : l.head? = some u.usage := by
      simpa [hschedules, hpending, hasyncs, hsaves, Nat.ne_of_gt hpos] using hinv.fresh
    rw [hsound.file, hsound.replaced, head?_map, hhead]
    rfl
  · obtain ⟨hnil, -⟩ | ⟨save, hsave, -⟩ := hinv.saves
    · simp [hnil] at hrename
    · rw [hsave, mem_singleton] at hrename hwrite
      cases hrename.trans hwrite.symm

/-- The second save begins after the first has ended. -/
theorem saved_alone_twice :
    let u : AggregatedUsage := [.addUsage, .scheduleSave true, .save, .move 0, .move 0, .move 0,
      .move 0, .addUsage, .scheduleSave true, .save, .move 0, .move 0, .move 0,
      .move 0].foldl step {}
    Idle u ∧ u.disk.replaced = [[2], [1]] ∧ u.disk.file.map u.disk.contents = some [2] := by
  intro u
  have hrun : Run step Alone {} u :=
    .foldl .start ⟨trivial, trivial, rfl, trivial, trivial, trivial, trivial, trivial, trivial, rfl,
      trivial, trivial, trivial, trivial, trivial⟩
  have hidle : Idle u := ⟨rfl, rfl, rfl, rfl⟩
  exact ⟨hidle, rfl, (saved_alone hrun).1 hidle Nat.two_pos⟩

/-- An older snapshot replaces a newer one; a file is renamed while written. -/
theorem not_saved :
    let u : AggregatedUsage := [.addUsage, .scheduleSave true, .save, .addUsage,
      .scheduleSave true, .save].foldl step {}
    let old := [.move 1, .move 1, .move 1, .move 1, .move 0, .move 0, .move 0, .move 0].foldl step u
    let torn := [.move 0, .move 0, .move 1].foldl step u
    (Idle old ∧ old.usage = 2 ∧ old.disk.replaced = [[1], [2]]) ∧
      torn.saves = [.rename 1, .write 2 0] ∧ torn.disk.tmp = some 0 ∧
      (torn.step (.move 0)).disk.replaced = [[]] :=
  ⟨⟨⟨rfl, rfl, rfl, rfl⟩, rfl, rfl⟩, rfl, rfl, rfl⟩

end SingBox.CCM

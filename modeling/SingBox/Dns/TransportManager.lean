import SingBox.Adapter.OutboundManager

/-!
# The DNS transport manager

A FakeIP server may not be the default one, and there may be only one. Both are checked after it has
been entered.
-/

namespace SingBox
open ManagerTables

structure TransportManager extends ManagerTables where
  defaultTransport : Option Managed := none
  fakeIPTransport : Option Managed := none
  nextId : ℕ := 0

inductive TransportCall where
  | create (call : CreateCall)
  | remove (tag : String)

namespace TransportManager

def texts : StartTexts := ⟨"dns/", "server"⟩

def dnsTypeFakeIP : String := "fakeip"

variable (defaultTag : String) (m : TransportManager) (tag : String) (o : Managed)

def createFakeIP : TransportManager × Option ManagerError :=
  if o.type = dnsTypeFakeIP then
    if m.fakeIPTransport ≠ none then
      (m, some (.conflict "multiple fakeip server are not supported"))
    else ({ m with fakeIPTransport := some o }, none)
  else (m, none)

def create (call : CreateCall) : TransportManager × Option ManagerError :=
  match m.prepare texts m.nextId call with
  | .error error => (m, some error)
  | .ok o =>
    let entered : TransportManager := { m with toManagerTables := m.put o, nextId := m.nextId + 1 }
    if Elected defaultTag call.tag m.defaultTransport then
      if o.type = dnsTypeFakeIP then
        (entered, some (.conflict "default server cannot be fakeip"))
      else createFakeIP { entered with defaultTransport := some o } o
    else createFakeIP entered o

def removeDependencies : TransportManager × Option ManagerError :=
  if dependents m.dependByTag tag ≠ [] then
    (m, some (.conflict (texts.dependedBy tag (dependents m.dependByTag tag))))
  else ({ m with toManagerTables := m.forget o }, none)

def remove : TransportManager × Option ManagerError :=
  match m.takeOut tag with
  | .error error => (m, some error)
  | .ok (o, rest) =>
    let taken : TransportManager := { m with toManagerTables := rest }
    if m.defaultTransport = some o then
      match rest.elements with
      | next :: _ =>
        if next.type ≠ dnsTypeFakeIP then
          (taken, some (.conflict "default server cannot be fakeip"))
        else removeDependencies { taken with defaultTransport := some next } tag o
      | [] => removeDependencies { taken with defaultTransport := none } tag o
    else removeDependencies taken tag o

def call : TransportCall → TransportManager × Option ManagerError
  | .create call => m.create defaultTag call
  | .remove tag => m.remove tag

def after (c : TransportCall) : TransportManager := (m.call defaultTag c).1

def Reachable (defaultTag : String) (m : TransportManager) : Prop :=
  Run (after defaultTag) (fun _ _ => True) {} m

/-! ### What a call can do -/

lemma createFakeIP_cases : ∃ fakeIP, m.createFakeIP o = ({ m with fakeIPTransport := fakeIP },
      if o.type = dnsTypeFakeIP ∧ m.fakeIPTransport ≠ none then
        some (.conflict "multiple fakeip server are not supported") else none) := by
  unfold createFakeIP
  by_cases htype : o.type = dnsTypeFakeIP
  · by_cases hfakeIP : m.fakeIPTransport = none
    · exact ⟨some o, by simp [htype, hfakeIP]⟩
    · exact ⟨m.fakeIPTransport, by simp [htype, hfakeIP]⟩
  · exact ⟨m.fakeIPTransport, by simp [htype]⟩

lemma create_cases (call : CreateCall) : (∃ error, m.prepare texts m.nextId call = .error error ∧
        m.create defaultTag call = (m, some error)) ∨
    ∃ o, m.prepare texts m.nextId call = .ok o ∧ ∃ default fakeIP error,
    m.create defaultTag call = (⟨m.put o, default, fakeIP, m.nextId + 1⟩, error) ∧
    (Elected defaultTag call.tag m.defaultTransport ∧ o.type = dnsTypeFakeIP ∧
              default = m.defaultTransport ∧
              error = some (.conflict "default server cannot be fakeip") ∨
            (Elected defaultTag call.tag m.defaultTransport → o.type ≠ dnsTypeFakeIP) ∧
              default = (if Elected defaultTag call.tag m.defaultTransport then some o
                else m.defaultTransport) ∧
              error = if o.type = dnsTypeFakeIP ∧ m.fakeIPTransport ≠ none then
                some (.conflict "multiple fakeip server are not supported") else none) := by
  rw [create]
  cases hprep : m.prepare texts m.nextId call with
  | error error => exact .inl ⟨error, rfl, rfl⟩
  | ok o =>
    refine .inr ⟨o, rfl, ?_⟩
    dsimp only
    by_cases helected : Elected defaultTag call.tag m.defaultTransport
    · rw [if_pos helected]
      by_cases htype : o.type = dnsTypeFakeIP
      · rw [if_pos htype]
        exact ⟨_, _, _, rfl, .inl ⟨helected, htype, rfl, rfl⟩⟩
      · obtain ⟨fakeIP, hfakeIP⟩ := createFakeIP_cases
          ⟨m.put o, some o, m.fakeIPTransport, m.nextId + 1⟩ o
        rw [if_neg htype, hfakeIP]
        exact ⟨_, _, _, rfl, .inr ⟨fun _ => htype, (if_pos helected).symm, rfl⟩⟩
    · obtain ⟨fakeIP, hfakeIP⟩ := createFakeIP_cases
        ⟨m.put o, m.defaultTransport, m.fakeIPTransport, m.nextId + 1⟩ o
      rw [if_neg helected, hfakeIP]
      exact ⟨_, _, _, rfl, .inr ⟨fun h => absurd h helected, (if_neg helected).symm, rfl⟩⟩

/-- The default server is removed, and a FakeIP server does not follow. -/
def DefaultConflict (rest : ManagerTables) : Prop := m.defaultTransport = some o ∧
    ∃ next, rest.elements.head? = some next ∧ next.type ≠ dnsTypeFakeIP

lemma removeDependencies_cases :
    ∃ rest' error, m.removeDependencies tag o = ({ m with toManagerTables := rest' }, error) ∧
    (dependents m.dependByTag tag ≠ [] ∧ rest' = m.toManagerTables ∧
          error = some (.conflict (texts.dependedBy tag (dependents m.dependByTag tag))) ∨
        dependents m.dependByTag tag = [] ∧ rest' = m.forget o ∧ error = none) := by
  rw [removeDependencies]
  by_cases hnil : dependents m.dependByTag tag = []
  · rw [if_neg (not_not_intro hnil)]
    exact ⟨_, _, rfl, .inr ⟨hnil, rfl, rfl⟩⟩
  · rw [if_pos hnil]
    exact ⟨_, _, rfl, .inl ⟨hnil, rfl, rfl⟩⟩

lemma remove_cases : (∃ error, m.takeOut tag = .error error ∧ m.remove tag = (m, some error)) ∨
    ∃ o rest, m.takeOut tag = .ok (o, rest) ∧
    (m.DefaultConflict o rest ∧ m.remove tag = ({ m with toManagerTables := rest },
            some (.conflict "default server cannot be fakeip")) ∨
          ¬m.DefaultConflict o rest ∧ ∃ rest' error,
            m.remove tag = (⟨rest', if m.defaultTransport = some o then rest.elements.head?
              else m.defaultTransport, m.fakeIPTransport, m.nextId⟩, error) ∧
            (dependents m.dependByTag tag ≠ [] ∧ rest' = rest ∧
                error = some (.conflict (texts.dependedBy tag (dependents m.dependByTag tag))) ∨
              dependents m.dependByTag tag = [] ∧ rest' = rest.forget o ∧ error = none)) := by
  rw [remove]
  cases htake : m.takeOut tag with
  | error error => exact .inl ⟨error, rfl, rfl⟩
  | ok taken =>
    obtain ⟨o, rest⟩ := taken
    have hdeps := dependByTag_takeOut htake
    have hend : ∀ default, ∃ rest' error,
        removeDependencies ⟨rest, default, m.fakeIPTransport, m.nextId⟩ tag o =
          (⟨rest', default, m.fakeIPTransport, m.nextId⟩, error) ∧
        (dependents m.dependByTag tag ≠ [] ∧ rest' = rest ∧
            error = some (.conflict (texts.dependedBy tag (dependents m.dependByTag tag))) ∨
          dependents m.dependByTag tag = [] ∧ rest' = rest.forget o ∧ error = none) := by
      intro default
      rw [← hdeps]
      exact removeDependencies_cases ⟨rest, default, m.fakeIPTransport, m.nextId⟩ tag o
    refine .inr ⟨o, rest, rfl, ?_⟩
    dsimp only
    by_cases hdef : m.defaultTransport = some o
    · rw [if_pos hdef, if_pos hdef]
      cases hrest : rest.elements with
      | nil => exact .inr ⟨by simp [DefaultConflict, hrest], hend none⟩
      | cons next elements =>
        dsimp only
        by_cases htype : next.type = dnsTypeFakeIP
        · rw [if_neg (not_not_intro htype)]
          exact .inr ⟨by simp [DefaultConflict, hrest, htype], hend (some next)⟩
        · rw [if_pos htype]
          exact .inl ⟨⟨hdef, next, by simp [hrest], htype⟩, rfl⟩
    · rw [if_neg hdef, if_neg hdef]
      exact .inr ⟨fun h => hdef h.1, hend m.defaultTransport⟩

/-! ### Conflicts -/

/-- List and map agree, and every created server is a new object. -/
structure Sound (m : TransportManager) : Prop where
  listed : m.Listed
  fresh : ∀ o ∈ m.elements, o.id < m.nextId

variable {defaultTag m}

lemma sound_empty : Sound {} := ⟨listed_empty, fun o ho => by cases ho⟩

namespace Sound

lemma create (h : Sound m) (call : CreateCall) : Sound (m.create defaultTag call).1 := by
  obtain ⟨error, -, hcr⟩ | ⟨o, hprep, default, fakeIP, error, hcr, -⟩ :=
    create_cases defaultTag m call
  · rw [hcr]
    exact h
  · obtain ⟨-, -, hid⟩ := prepare_cases hprep
    rw [hcr]
    refine ⟨h.listed.put o, fun o' ho' => ?_⟩
    rcases (h.listed.mem_put o o').1 ho' with rfl | ⟨ho', -⟩
    · exact hid ▸ Nat.lt_succ_self _
    · exact Nat.lt_succ_of_lt (h.fresh o' ho')

lemma remove (h : Sound m) (tag : String) : Sound (m.remove tag).1 := by
  obtain ⟨error, -, hrm⟩ | ⟨o, rest, htake, ⟨-, hrm⟩ | ⟨-, rest', error, hrm, hrest⟩⟩ :=
    remove_cases m tag
  · rw [hrm]
    exact h
  all_goals
    have hls : rest.Listed := h.listed.takeOut htake
    have hfresh : ∀ o' ∈ rest.elements, o'.id < m.nextId := by
      obtain ⟨-, -, rfl⟩ := takeOut_cases htake
      exact fun o' ho' => h.fresh o' ((h.listed.mem_others tag o').1 ho').1
    rw [hrm]
  · exact ⟨hls, hfresh⟩
  · obtain ⟨-, rfl, -⟩ | ⟨-, rfl, -⟩ := hrest
    · exact ⟨hls, hfresh⟩
    · exact ⟨hls.forget o, hfresh⟩

end Sound

lemma Reachable.sound (h : Reachable defaultTag m) : Sound m := by
  refine h.invariant sound_empty fun m c hm _ => ?_
  cases c with
  | create call => exact hm.create call
  | remove tag => exact hm.remove tag

def observed (m : TransportManager) : List Managed × Table String Managed × Option Managed ×
    (String → List String) × Option Managed :=
  (m.elements, m.byTag, m.defaultTransport, dependents m.dependByTag, m.fakeIPTransport)

lemma remove_conflict_iff (h : m.Listed) (tag : String) :
    ((∃ text, (m.remove tag).2 = some (.conflict text)) → (m.remove tag).1.observed = m.observed) ↔
    ∀ o, m.byTag tag = some o → dependents m.dependByTag tag = [] ∧ (m.defaultTransport = some o →
          ∀ next, (m.others tag).head? = some next → next.type = dnsTypeFakeIP) := by
  obtain ⟨error, htake, hrm⟩ | ⟨o, rest, htake, hcases⟩ := remove_cases m tag
  · rw [hrm]
    refine iff_of_true (fun _ => rfl) fun o hfound => ?_
    rw [(h.takeOut_error htake).1] at hfound
    cases hfound
  obtain ⟨hfound, -, hothers⟩ := takeOut_cases htake
  have hchg : rest.elements ≠ m.elements := by
    rw [hothers]
    exact h.others_ne hfound
  have helts : rest.elements = m.others tag := by rw [hothers]
  obtain ⟨⟨hdef, next, hnext, htype⟩, hrm⟩ | ⟨hno, rest', error, hrm, hrest⟩ := hcases
  · rw [hrm]
    refine iff_of_false (fun hsame => hchg (congrArg Prod.fst (hsame ⟨_, rfl⟩))) fun hall => ?_
    exact htype ((hall o hfound).2 hdef next (helts ▸ hnext))
  · rw [hrm]
    obtain ⟨hdep, rfl, rfl⟩ | ⟨hfree, -, rfl⟩ := hrest
    · refine iff_of_false (fun hsame => hchg (congrArg Prod.fst (hsame ⟨_, rfl⟩)))
        fun hall => hdep (hall o hfound).1
    · refine iff_of_true (fun hconf => ?_) fun o' hfound' => ⟨hfree, fun hdef next hnext => ?_⟩
      · obtain ⟨text, hconf⟩ := hconf
        cases hconf
      · by_contra htype
        obtain rfl : o = o' := Option.some.inj (hfound.symm.trans hfound')
        exact hno ⟨hdef, next, helts ▸ hnext, htype⟩

lemma create_conflict_iff (h : Sound m) (call : CreateCall) :
    ((∃ text, (m.create defaultTag call).2 = some (.conflict text)) →
        (m.create defaultTag call).1.observed = m.observed) ↔
    ∀ o, m.prepare texts m.nextId call = .ok o → o.type = dnsTypeFakeIP →
    ¬Elected defaultTag call.tag m.defaultTransport ∧ m.fakeIPTransport = none := by
  obtain ⟨error, hprep, hcr⟩ | ⟨o, hprep, default, fakeIP, error, hcr, hcases⟩ :=
    create_cases defaultTag m call
  · rw [hcr]
    refine iff_of_true (fun _ => rfl) fun o hok => ?_
    rw [hprep] at hok
    cases hok
  obtain ⟨-, -, hid⟩ := prepare_cases hprep
  have hchg : (m.put o).elements ≠ m.elements := by
    intro hsame
    have ho : o ∈ (m.put o).elements := (h.listed.mem_put o o).2 (.inl rfl)
    rw [hsame] at ho
    exact absurd (h.fresh o ho) (hid ▸ lt_irrefl _)
  have hall : (∀ o', m.prepare texts m.nextId call = .ok o' → o'.type = dnsTypeFakeIP →
        ¬Elected defaultTag call.tag m.defaultTransport ∧ m.fakeIPTransport = none) ↔
      (o.type = dnsTypeFakeIP →
        ¬Elected defaultTag call.tag m.defaultTransport ∧ m.fakeIPTransport = none) := by
    rw [hprep]
    exact ⟨fun h => h o rfl, fun h o' ho' => Except.ok.inj ho' ▸ h⟩
  rw [hall, hcr]
  obtain ⟨helected, htype, -, rfl⟩ | ⟨hok, -, rfl⟩ := hcases
  · exact iff_of_false (fun hsame => hchg (congrArg Prod.fst (hsame ⟨_, rfl⟩)))
      fun hno => (hno htype).1 helected
  · by_cases hsnd : o.type = dnsTypeFakeIP ∧ m.fakeIPTransport ≠ none
    · rw [if_pos hsnd]
      exact iff_of_false (fun hsame => hchg (congrArg Prod.fst (hsame ⟨_, rfl⟩)))
        fun hno => hsnd.2 (hno hsnd.1).2
    · rw [if_neg hsnd]
      refine iff_of_true (fun hconf => ?_) fun htype => ⟨fun helected => hok helected htype, ?_⟩
      · obtain ⟨text, hconf⟩ := hconf
        cases hconf
      · by_contra hfakeIP
        exact hsnd ⟨htype, hfakeIP⟩

/-- A call changes nothing exactly if there is no conflict. -/
theorem conflict_unchanged_iff {env : OutboundEnv} {outbounds : OutboundManager}
    (houtbounds : OutboundManager.Reachable env outbounds) (h : Reachable defaultTag m) :
    (∀ tag started close,
      ((∃ text, (outbounds.remove tag started close).2 = some (.conflict text)) →
          (outbounds.remove tag started close).1.observed = outbounds.observed) ↔
        (outbounds.byTag tag ≠ none → dependents outbounds.dependByTag tag = [])) ∧
    (∀ tag, ((∃ text, (m.remove tag).2 = some (.conflict text)) →
          (m.remove tag).1.observed = m.observed) ↔
        ∀ o, m.byTag tag = some o → dependents m.dependByTag tag = [] ∧
          (m.defaultTransport = some o →
            ∀ next, (m.others tag).head? = some next → next.type = dnsTypeFakeIP)) ∧
    (∀ call, ((∃ text, (m.create defaultTag call).2 = some (.conflict text)) →
          (m.create defaultTag call).1.observed = m.observed) ↔
        ∀ o, m.prepare texts m.nextId call = .ok o → o.type = dnsTypeFakeIP →
          ¬Elected defaultTag call.tag m.defaultTransport ∧ m.fakeIPTransport = none) :=
  ⟨OutboundManager.remove_conflict_iff houtbounds.sound.listed,
    remove_conflict_iff h.sound.listed, create_conflict_iff h.sound⟩

theorem conflict_unchanged_iff_free : let env : OutboundEnv := ⟨"", Table.empty⟩
    let outbounds := OutboundManager.after env {}
      (.create ⟨"direct", .ok ("direct", []), true, none, none⟩)
    let m := [TransportCall.create ⟨"remote", .ok ("udp", []), true, none, none⟩,
      .create ⟨"fake", .ok ("fakeip", []), true, none, none⟩].foldl (after "") {}
    ((∃ text, (outbounds.remove "direct" true none).2 = some (.conflict text)) →
        (outbounds.remove "direct" true none).1.observed = outbounds.observed) ∧
      ((∃ text, (m.remove "fake").2 = some (.conflict text)) →
        (m.remove "fake").1.observed = m.observed) := by
  intro env outbounds m
  have houtbounds : OutboundManager.Reachable env outbounds := Run.start.step trivial
  have hm : Reachable "" m := Run.start.foldl ⟨trivial, trivial, trivial⟩
  obtain ⟨hfst, hsnd, -⟩ := conflict_unchanged_iff houtbounds hm
  have hfree : dependents m.dependByTag "fake" = [] := by decide +kernel
  have hdef : m.defaultTransport ≠ m.byTag "fake" := by decide +kernel
  refine ⟨(hfst "direct" true none).2 fun _ => by decide +kernel, (hsnd "fake").2 ?_⟩
  exact fun o ho => ⟨hfree, fun hsame => absurd (hsame.trans ho.symm) hdef⟩

/-- An outbound that is needed is gone, the default server is gone, and a FakeIP server is the only
one. -/
theorem conflict_changed : let env : OutboundEnv := ⟨"", Table.empty⟩
    let outbounds := [OutboundCall.create ⟨"server", .ok ("socks", []), true, none, none⟩,
      .create ⟨"select", .ok ("selector", ["server"]), true, none, none⟩].foldl
        (OutboundManager.after env) {}
    let m := [TransportCall.create ⟨"remote", .ok ("udp", []), true, none, none⟩,
      .create ⟨"local", .ok ("local", []), true, none, none⟩].foldl (after "") {}
    let call : CreateCall := ⟨"fake", .ok ("fakeip", []), true, none, none⟩
    ((outbounds.remove "server" true none).2 =
          some (.conflict "outbound[server] is depended by select") ∧
        (outbounds.remove "server" true none).1.byTag "server" = none ∧
        outbounds.byTag "server" ≠ none) ∧
      ((m.remove "remote").2 = some (.conflict "default server cannot be fakeip") ∧
        (m.remove "remote").1.byTag "remote" = none ∧ m.byTag "remote" ≠ none) ∧
      (create "" {} call).2 = some (.conflict "default server cannot be fakeip") ∧
        (create "" {} call).1.byTag "fake" ≠ none := by
  decide +kernel

/-! ### The default transport -/

/-- The default server is not a FakeIP server, and without a configured tag there is one as soon as
possible. -/
structure DefaultServed (defaultTag : String) (m : TransportManager) : Prop where
  ne_fakeIP : ∀ o, m.defaultTransport = some o → o.type ≠ dnsTypeFakeIP
  served : defaultTag = "" → (∃ o ∈ m.elements, o.type ≠ dnsTypeFakeIP) →
    ∃ o ∈ m.elements, m.defaultTransport = some o

/-- The default server is not replaced unless a tag is configured, and removed only as the last one
or, with a tag, before one that is not a FakeIP server. -/
def Careful (defaultTag : String) (m : TransportManager) : TransportCall → Prop
  | .create call => defaultTag = "" → ∀ o, m.prepare texts m.nextId call = .ok o →
      ∀ o' ∈ m.elements, o'.tag = call.tag → m.defaultTransport ≠ some o'
  | .remove tag => ∀ o ∈ m.elements, o.tag = tag → m.defaultTransport = some o →
      ∀ next ∈ (m.others tag).head?, defaultTag ≠ "" ∧ next.type ≠ dnsTypeFakeIP

instance : ∀ c, Decidable (Careful defaultTag m c)
  | .create call => inferInstanceAs (Decidable (defaultTag = "" →
      ∀ o, m.prepare texts m.nextId call = .ok o →
        ∀ o' ∈ m.elements, o'.tag = call.tag → m.defaultTransport ≠ some o'))
  | .remove tag => inferInstanceAs (Decidable (∀ o ∈ m.elements, o.tag = tag →
      m.defaultTransport = some o →
        ∀ next ∈ (m.others tag).head?, defaultTag ≠ "" ∧ next.type ≠ dnsTypeFakeIP))

/-- The default is one of the servers, or all are FakeIP servers. -/
structure Good (defaultTag : String) (m : TransportManager) : Prop where
  ne_fakeIP : ∀ o, m.defaultTransport = some o → o.type ≠ dnsTypeFakeIP
  mem : defaultTag = "" → ∀ o, m.defaultTransport = some o → o ∈ m.elements
  all_fakeIP : defaultTag = "" → m.defaultTransport = none →
    ∀ o ∈ m.elements, o.type = dnsTypeFakeIP

namespace Good

lemma served (h : Good defaultTag m) : DefaultServed defaultTag m where
  ne_fakeIP := h.ne_fakeIP
  served htag := by
    rintro ⟨o, ho, htype⟩
    cases hdef : m.defaultTransport with
    | none => exact absurd (h.all_fakeIP htag hdef o ho) htype
    | some d => exact ⟨d, h.mem htag d hdef, rfl⟩

lemma create (h : Good defaultTag m) (hls : m.Listed) {call : CreateCall}
    (hcare : Careful defaultTag m (.create call)) :
    Good defaultTag (m.create defaultTag call).1 := by
  obtain ⟨error, -, hcr⟩ | ⟨o, hprep, default, fakeIP, error, hcr, hcases⟩ :=
    create_cases defaultTag m call
  · rw [hcr]
    exact h
  obtain ⟨hne, htag, -⟩ := prepare_cases hprep
  -- the default server of a manager without a configured tag is not replaced
  have hkept : defaultTag = "" → ∀ d, m.defaultTransport = some d → d ∈ (m.put o).elements := by
    intro hemp d hd
    have hmem := h.mem hemp d hd
    refine (hls.mem_put o d).2 (.inr ⟨hmem, fun hsame => ?_⟩)
    exact hcare hemp o hprep d hmem (hsame.trans htag) hd
  have hnone : defaultTag = "" → m.defaultTransport = none → o.type = dnsTypeFakeIP →
      ∀ o' ∈ (m.put o).elements, o'.type = dnsTypeFakeIP := by
    intro hemp hnone htype o' ho'
    rcases (hls.mem_put o o').1 ho' with rfl | ⟨ho', -⟩
    · exact htype
    · exact h.all_fakeIP hemp hnone o' ho'
  rw [hcr]
  obtain ⟨-, htype, rfl, -⟩ | ⟨hok, rfl, -⟩ := hcases
  · exact ⟨h.ne_fakeIP, hkept, fun hemp hdef => hnone hemp hdef htype⟩
  · by_cases helected : Elected defaultTag call.tag m.defaultTransport
    · rw [if_pos helected]
      refine ⟨fun d hd => ?_, fun _ d hd => ?_, fun _ hdef => by cases hdef⟩
      · exact Option.some.inj hd ▸ hok helected
      · exact (hls.mem_put o d).2 (.inl (Option.some.inj hd).symm)
    · rw [if_neg helected]
      exact ⟨h.ne_fakeIP, hkept, fun hemp hdef =>
        absurd (.inr ⟨hemp, hdef⟩) helected⟩

lemma remove (h : Good defaultTag m) (hls : m.Listed) {tag : String}
    (hcare : Careful defaultTag m (.remove tag)) : Good defaultTag (m.remove tag).1 := by
  obtain ⟨error, -, hrm⟩ | ⟨o, rest, htake, hcases⟩ := remove_cases m tag
  · rw [hrm]
    exact h
  obtain ⟨hfound, ho, hothers⟩ := takeOut_cases htake
  obtain ⟨-, htag⟩ := (hls.byTag tag o).1 hfound
  have helts : rest.elements = m.others tag := by rw [hothers]
  have hmem : ∀ o', o' ∈ rest.elements ↔ o' ∈ m.elements ∧ o'.tag ≠ tag := by
    rw [helts]
    exact hls.mem_others tag
  have hnext := hcare o ho htag
  rw [← helts] at hnext
  obtain ⟨⟨hdef, next, hhead, -⟩, hrm⟩ | ⟨hno, rest', error, hrm, hrest⟩ := hcases
  · -- the configured default server stays the default server
    obtain ⟨hconf, -⟩ := hnext hdef next hhead
    rw [hrm]
    exact ⟨h.ne_fakeIP, fun hemp => absurd hemp hconf, fun hemp => absurd hemp hconf⟩
  · have hsame : rest'.elements = rest.elements := by
      obtain ⟨-, rfl, -⟩ | ⟨-, rfl, -⟩ := hrest <;> rfl
    rw [hrm]
    by_cases hdef : m.defaultTransport = some o
    · -- no server is left
      have hemp : rest.elements = [] := by
        rw [← List.head?_eq_none_iff, Option.eq_none_iff_forall_not_mem]
        intro next hhead
        exact hno ⟨hdef, next, hhead, (hnext hdef next hhead).2⟩
      rw [if_pos hdef, hemp]
      refine ⟨fun d hd => (by cases hd), fun _ d hd => (by cases hd), fun _ _ o' ho' => ?_⟩
      rw [hsame, hemp] at ho'
      cases ho'
    · rw [if_neg hdef]
      refine ⟨h.ne_fakeIP, fun hemp d hd => ?_, fun hemp hnone o' ho' => ?_⟩
      · rw [hsame, hmem]
        have hd' := h.mem hemp d hd
        refine ⟨hd', fun heq => hdef ?_⟩
        rw [hd, hls.eq_of_tag hd' ho (heq.trans htag.symm)]
      · rw [hsame, hmem] at ho'
        exact h.all_fakeIP hemp hnone o' ho'.1

end Good

lemma good_empty : Good defaultTag {} where
  ne_fakeIP o ho := by cases ho
  mem _ o ho := by cases ho
  all_fakeIP _ _ o ho := by cases ho

/-- In a run of careful calls the default server is right. -/
theorem defaultServed_of_careful {m : TransportManager}
    (h : Run (after defaultTag) (Careful defaultTag) {} m) : DefaultServed defaultTag m := by
  have hboth : Good defaultTag m ∧ Sound m := by
    refine h.invariant (I := fun m => Good defaultTag m ∧ Sound m) ⟨good_empty, sound_empty⟩
      fun m c hm hcare => ?_
    cases c with
    | create call => exact ⟨hm.1.create hm.2.listed hcare, hm.2.create call⟩
    | remove tag => exact ⟨hm.1.remove hm.2.listed hcare, hm.2.remove tag⟩
  exact hboth.1.served

theorem defaultServed_of_careful_fakeIP :
    let calls : List TransportCall := [.create ⟨"remote", .ok ("udp", []), true, none, none⟩,
      .create ⟨"fake", .ok ("fakeip", []), true, none, none⟩, .remove "fake"]
    DefaultServed "" (calls.foldl (after "") {}) ∧
      (calls.foldl (after "") {}).defaultTransport = some ⟨0, "udp", "remote", []⟩ := by
  intro calls
  exact ⟨defaultServed_of_careful (Run.start.foldl (by decide +kernel)), by decide +kernel⟩

/-- A FakeIP server becomes the default, or the removed one stays it. -/
theorem not_defaultServed_removed :
    let remote : TransportCall := .create ⟨"remote", .ok ("udp", []), true, none, none⟩
    let fake : TransportCall := .create ⟨"fake", .ok ("fakeip", []), true, none, none⟩
    let other : TransportCall := .create ⟨"local", .ok ("local", []), true, none, none⟩
    let m := [remote, fake, .remove "remote"].foldl (after "") {}
    let m' := [remote, other, .remove "remote"].foldl (after "") {}
    (¬DefaultServed "" m ∧ m.defaultTransport = some ⟨1, "fakeip", "fake", []⟩) ∧
      ¬DefaultServed "" m' ∧ m'.defaultTransport = some ⟨0, "udp", "remote", []⟩ ∧
        m'.elements = [⟨1, "local", "local", []⟩] := by
  intro remote fake other m m'
  refine ⟨⟨fun h => ?_, by decide +kernel⟩, fun h => ?_, by decide +kernel, by decide +kernel⟩
  · exact h.ne_fakeIP ⟨1, "fakeip", "fake", []⟩ (by decide +kernel) rfl
  · have hserved := h.served rfl (by decide +kernel)
    revert hserved
    decide +kernel

end TransportManager

end SingBox

import SingBox.Dns.Message

/-!
# Setting the client subnet

The search forgets an `OPT` record without a subnet that is not the last additional record, and a
second one is added.
-/

namespace SingBox
open List

/-- The message afterwards and the result. `OPT` is changed in place unless it is copied. -/
def setClientSubnetRef (message : Msg) (clientSubnet : IPPrefix) (clone : Bool) : Msg × Msg :=
  let result := setClientSubnet message clientSubnet
  if (findSubnet message.extra 0 none).isNone then (message, result)
  -- the call on `message.Copy()` changes the copy in place
  else if clone then (message, result)
  else (result, result)

def RR.isOPT (record : RR) : Bool :=
  match record.data with
  | .opt _ => true
  | _ => false

def NoOPT (records : List RR) : Prop := ∀ record ∈ records, record.isOPT = false

def NoSubnet (option : List EDNS0) : Prop := ∀ o ∈ option, o.isSubnet = false

lemma findSubnet_append {before : List RR} (h : NoOPT before) (after : List RR) (index : ℕ) :
    findSubnet (before ++ after) index none = findSubnet after (index + before.length) none := by
  induction before generalizing index with
  | nil => rfl
  | cons record before ih =>
    obtain ⟨hrecord, hbefore⟩ := forall_mem_cons.1 h
    rw [length_cons, add_comm before.length, ← add_assoc, ← ih hbefore]
    obtain ⟨hdr, data⟩ := record
    cases data with
    | opt option => cases hrecord
    | _ => rfl

lemma modify_append_cons {α : Type} (l l' : List α) (a : α) (f : α → α) :
    (l ++ a :: l').modify l.length f = l ++ f a :: l' := by
  induction l with
  | nil => rfl
  | cons b l ih => simp [ih]

lemma findIdx?_isSubnet {option option' : List EDNS0} {family mask scope : ℕ}
    {address : List UInt8} (h : NoSubnet option) :
    (option ++ .subnet family mask scope address :: option').findIdx? EDNS0.isSubnet =
    some option.length := by
  have hnone : option.findIdx? EDNS0.isSubnet = none := findIdx?_eq_none_iff.2 h
  simp [findIdx?_append, hnone, findIdx?_cons, EDNS0.isSubnet]

variable {message : Msg} {before after : List RR} {hdr : RRHeader} {option option' : List EDNS0}

/-! ### The additional records of the result -/

lemma extra_of_noOPT (h : NoOPT message.extra) (clientSubnet : IPPrefix) :
    (setClientSubnet message clientSubnet).extra =
      message.extra ++ [⟨⟨".", dnsTypeOPT, 0, 0⟩, .opt [newSubnet clientSubnet]⟩] := by
  have hfind : findSubnet message.extra 0 none = none := by
    rw [← append_nil message.extra, findSubnet_append h]
    rfl
  rw [setClientSubnet, hfind]

/-- A record behind the `OPT` record hides it. -/
lemma extra_of_hidden (hextra : message.extra = before ++ ⟨hdr, .opt option⟩ :: after)
    (h : NoOPT before) (hafter : NoOPT after) (hne : after ≠ []) (hoption : NoSubnet option)
    (clientSubnet : IPPrefix) : (setClientSubnet message clientSubnet).extra =
      message.extra ++ [⟨⟨".", dnsTypeOPT, 0, 0⟩, .opt [newSubnet clientSubnet]⟩] := by
  have hfind : findSubnet message.extra 0 none = none := by
    rw [hextra, findSubnet_append h]
    obtain ⟨⟨hdr', data⟩, records, rfl⟩ := exists_cons_of_ne_nil hne
    obtain ⟨hfirst, hrecords⟩ := forall_mem_cons.1 hafter
    have hrest := findSubnet_append hrecords [] (0 + before.length + 1 + 1)
    rw [append_nil] at hrest
    simp only [findSubnet, findIdx?_eq_none_iff.2 hoption]
    cases data with
    | opt option => cases hfirst
    | _ => exact hrest
  rw [setClientSubnet, hfind]

lemma extra_of_last (hextra : message.extra = before ++ [⟨hdr, .opt option⟩])
    (h : NoOPT before) (hoption : NoSubnet option) (clientSubnet : IPPrefix) :
    (setClientSubnet message clientSubnet).extra =
      before ++ [⟨hdr, .opt (option ++ [newSubnet clientSubnet])⟩] := by
  have hfind : findSubnet message.extra 0 none = some (before.length, none) := by
    rw [hextra, findSubnet_append h]
    simp [findSubnet, findIdx?_eq_none_iff.2 hoption]
  rw [setClientSubnet, hfind, hextra]
  exact modify_append_cons ..

lemma extra_of_subnet {family mask scope : ℕ} {address : List UInt8} (hextra : message.extra =
      before ++ ⟨hdr, .opt (option ++ .subnet family mask scope address :: option')⟩ :: after)
    (h : NoOPT before) (hoption : NoSubnet option) (clientSubnet : IPPrefix) :
    (setClientSubnet message clientSubnet).extra = before ++ ⟨hdr, .opt (option ++
      .subnet clientSubnet.addr.family clientSubnet.bits scope clientSubnet.addr.asSlice ::
        option')⟩ :: after := by
  have hfind : findSubnet message.extra 0 none = some (before.length, some option.length) := by
    rw [hextra, findSubnet_append h]
    simp [findSubnet, findIdx?_isSubnet hoption]
  rw [setClientSubnet, hfind, hextra]
  simp [modify_append_cons, RR.modifyOptions, EDNS0.withSubnet]

/-! ### When the subnet is set as asked -/

def RR.options (record : RR) : List EDNS0 :=
  match record.data with
  | .opt option => option
  | _ => []

/-- One `OPT` record carries the subnet, once. Everything else is as it was: the other sections and
records, the header of the `OPT` record and its other options. -/
structure SubnetSet (message result : Msg) (clientSubnet : IPPrefix) : Prop where
  sections : result = { message with extra := result.extra }
  records : result.extra.filter (!·.isOPT) = message.extra.filter (!·.isOPT)
  single : ∃ record scope, result.extra.filter RR.isOPT = [record] ∧
    record.options.filter EDNS0.isSubnet =
      [.subnet clientSubnet.addr.family clientSubnet.bits scope clientSubnet.addr.asSlice] ∧
    (∀ old ∈ message.extra, old.isOPT → old.hdr = record.hdr)
  options : result.extra.flatMap (·.options.filter (!·.isSubnet)) =
    message.extra.flatMap (·.options.filter (!·.isSubnet))

/-- An `OPT` record is the last record or has a subnet, and does not have two. -/
def SubnetPlaced (extra : List RR) : Prop :=
  ∀ before hdr option after, extra = before ++ ⟨hdr, .opt option⟩ :: after →
    (after = [] ∨ ∃ o ∈ option, o.isSubnet) ∧ option.countP EDNS0.isSubnet ≤ 1

lemma NoOPT.filter_isOPT {records : List RR} (h : NoOPT records) : records.filter RR.isOPT = [] :=
  filter_eq_nil_iff.2 fun record hrecord => by simp [h record hrecord]

lemma NoOPT.filter_split (h : NoOPT before) (hdr : RRHeader) (option : List EDNS0)
    (after : List RR) : (before ++ ⟨hdr, .opt option⟩ :: after).filter RR.isOPT =
      ⟨hdr, .opt option⟩ :: after.filter RR.isOPT := by
  rw [filter_append, h.filter_isOPT, nil_append, filter_cons_of_pos rfl]

lemma NoSubnet.filter_isSubnet (h : NoSubnet option) : option.filter EDNS0.isSubnet = [] :=
  filter_eq_nil_iff.2 fun o ho => by simp [h o ho]

lemma noSubnet_or_exists (option : List EDNS0) : NoSubnet option ∨
    ∃ front family mask scope address back,
      option = front ++ .subnet family mask scope address :: back ∧ NoSubnet front := by
  cases hfind : option.find? EDNS0.isSubnet with
  | none => exact .inl (by simpa [NoSubnet] using hfind)
  | some o =>
    obtain ⟨hsubnet, front, back, rfl, hfront⟩ := find?_eq_some_iff_append.1 hfind
    cases o with
    | subnet family mask scope address =>
      exact .inr ⟨front, family, mask, scope, address, back, rfl, by simpa [NoSubnet] using hfront⟩
    | _ => cases hsubnet

lemma noOPT_of_split (hone : message.extra.countP RR.isOPT ≤ 1)
    (hextra : message.extra = before ++ ⟨hdr, .opt option⟩ :: after) :
    NoOPT before ∧ NoOPT after := by
  have hnone : ∀ records : List RR, records.countP RR.isOPT = 0 → NoOPT records := by
    intro records hzero record hrecord
    simpa using countP_eq_zero.1 hzero record hrecord
  have hopt : (⟨hdr, .opt option⟩ : RR).isOPT = true := rfl
  rw [hextra, countP_append, countP_cons, if_pos hopt] at hone
  exact ⟨hnone before (by omega), hnone after (by omega)⟩

lemma noOPT_or_exists (hone : message.extra.countP RR.isOPT ≤ 1) : NoOPT message.extra ∨
    ∃ before hdr option after, message.extra = before ++ ⟨hdr, .opt option⟩ :: after ∧
      NoOPT before ∧ NoOPT after := by
  by_cases h : NoOPT message.extra
  · exact .inl h
  obtain ⟨⟨hdr, data⟩, hmem, hopt⟩ : ∃ record ∈ message.extra, record.isOPT = true := by
    simpa [NoOPT] using h
  obtain ⟨before, after, hextra⟩ := append_of_mem hmem
  cases data with
  | opt option => exact .inr ⟨before, hdr, option, after, hextra, noOPT_of_split hone hextra⟩
  | _ => cases hopt

/-- What is set in a single `OPT` record. -/
lemma subnetSet_of_split {clientSubnet : IPPrefix} (scope : ℕ) {result : Msg}
    (hrest : result = { message with extra := result.extra })
    (hextra : message.extra = before ++ ⟨hdr, .opt option⟩ :: after)
    (hresult : result.extra = before ++ ⟨hdr, .opt option'⟩ :: after)
    (h : NoOPT before) (hafter : NoOPT after)
    (hsubnet : option'.filter EDNS0.isSubnet =
      [.subnet clientSubnet.addr.family clientSubnet.bits scope clientSubnet.addr.asSlice])
    (hothers : option'.filter (!·.isSubnet) = option.filter (!·.isSubnet)) :
    SubnetSet message result clientSubnet where
  sections := hrest
  records := by simp [hextra, hresult, RR.isOPT]
  single := by
    refine ⟨⟨hdr, .opt option'⟩, scope, ?_, hsubnet, ?_⟩
    · rw [hresult, h.filter_split, hafter.filter_isOPT]
    · rw [hextra]
      rintro old hold hopt
      rcases mem_append.1 hold with hmem | hmem
      · rw [h old hmem] at hopt
        cases hopt
      · rcases mem_cons.1 hmem with rfl | hmem
        · rfl
        · rw [hafter old hmem] at hopt
          cases hopt
  options := by simp [hextra, hresult, RR.options, hothers]

/-- For a message with at most one `OPT` record the input is left alone, and the subnet is set as
asked exactly if the `OPT` record is the last one or has a subnet already, and has not two. -/
theorem setClientSubnetRef_eq (message : Msg) (clientSubnet : IPPrefix)
    (hone : message.extra.countP RR.isOPT ≤ 1) :
    ∃ result, setClientSubnetRef message clientSubnet true = (message, result) ∧
      (SubnetSet message result clientSubnet ↔ SubnetPlaced message.extra) := by
  refine ⟨setClientSubnet message clientSubnet, ?_, fun hset => ?_, fun hplaced => ?_⟩
  · simp only [setClientSubnetRef, if_true, ite_self]
  · intro before hdr option after hextra
    obtain ⟨hbefore, hafter⟩ := noOPT_of_split hone hextra
    obtain ⟨record, scope, hsingle, hsubnet, -⟩ := hset.single
    rcases noSubnet_or_exists option with
      hnone | ⟨front, family, mask, scope', address, back, rfl, hfront⟩
    · refine ⟨.inl ?_, (countP_eq_zero.2 fun o ho => by simp [hnone o ho]).trans_le (Nat.zero_le 1)⟩
      -- A hidden record would leave two of them.
      by_contra hne
      rw [extra_of_hidden hextra hbefore hafter hne hnone, hextra, filter_append,
        hbefore.filter_split, hafter.filter_isOPT] at hsingle
      cases hsingle
    · refine ⟨.inr ⟨_, mem_append_cons_self, rfl⟩, ?_⟩
      rw [extra_of_subnet hextra hbefore hfront, hbefore.filter_split,
        hafter.filter_isOPT] at hsingle
      obtain rfl := (cons.inj hsingle).1
      have hlen := congrArg length hsubnet
      simp only [RR.options, ← countP_eq_length_filter, countP_append, countP_cons] at hlen ⊢
      exact hlen.le
  · rcases noOPT_or_exists hone with hnone | ⟨before, hdr, option, after, hextra, hbefore, hafter⟩
    · have hextra := extra_of_noOPT hnone clientSubnet
      refine ⟨rfl, by simp [hextra, RR.isOPT],
        ⟨⟨⟨".", dnsTypeOPT, 0, 0⟩, .opt [newSubnet clientSubnet]⟩, 0, ?_, ?_, ?_⟩, ?_⟩
      · rw [hextra, filter_append, hnone.filter_isOPT, nil_append]
        rfl
      · rfl
      · intro old hold hopt
        rw [hnone old hold] at hopt
        cases hopt
      · rw [hextra, flatMap_append]
        simp [RR.options, newSubnet, EDNS0.isSubnet]
    · obtain ⟨hseen, hcount⟩ := hplaced before hdr option after hextra
      rcases noSubnet_or_exists option with
        hnone | ⟨front, family, mask, scope, address, back, rfl, hfront⟩
      · obtain rfl : after = [] := hseen.resolve_right fun ⟨o, ho, hsubnet⟩ => by
          rw [hnone o ho] at hsubnet
          cases hsubnet
        refine subnetSet_of_split 0 rfl hextra (extra_of_last hextra hbefore hnone clientSubnet)
          hbefore hafter ?_ ?_
        · rw [filter_append, hnone.filter_isSubnet]
          rfl
        · simp [newSubnet, EDNS0.isSubnet]
      · have hback : back.filter EDNS0.isSubnet = [] := by
          rw [countP_append, countP_cons] at hcount
          simp only [EDNS0.isSubnet, if_true] at hcount
          exact filter_eq_nil_iff.2 (countP_eq_zero.1 (by omega))
        refine subnetSet_of_split scope rfl hextra
          (extra_of_subnet hextra hbefore hfront clientSubnet) hbefore hafter ?_ ?_
        · rw [filter_append, hfront.filter_isSubnet, nil_append, filter_cons_of_pos rfl, hback]
        · simp [EDNS0.isSubnet]

theorem setClientSubnetRef_eq_last :
    let opt : RR := ⟨⟨".", dnsTypeOPT, 1232, 0⟩, .opt [.padding [0], .other 3 [1]]⟩
    let message : Msg := ⟨{}, [], [], [], [⟨⟨"a.", 1, 1, 60⟩, .a [1, 2, 3, 4]⟩, opt]⟩
    ∃ result, setClientSubnetRef message ⟨.v4 0x01020300, 24⟩ true = (message, result) ∧
      SubnetSet message result ⟨.v4 0x01020300, 24⟩ := by
  intro opt message
  obtain ⟨result, hresult, hiff⟩ := setClientSubnetRef_eq message ⟨.v4 0x01020300, 24⟩ (by decide)
  refine ⟨result, hresult, hiff.2 fun before hdr option after hextra => ?_⟩
  rcases before with _ | ⟨first, _ | ⟨second, before⟩⟩
  · cases hextra
  · have hlast := (cons.inj (cons.inj hextra).2)
    obtain rfl : option = [.padding [0], .other 3 [1]] := by
      have hopt := congrArg RR.options hlast.1
      exact hopt.symm
    exact ⟨.inl hlast.2.symm, by decide⟩
  · simp [message] at hextra

/-- An `OPT` record without a subnet comes first: a second one is added. -/
theorem not_setClientSubnetRef_first :
    (setClientSubnetRef ⟨{}, [], [], [], [⟨⟨".", 41, 1232, 0⟩, .opt []⟩,
        ⟨⟨"a.", 1, 1, 60⟩, .a [1, 2, 3, 4]⟩]⟩ ⟨.v4 0, 0⟩ true).2.extra.countP RR.isOPT = 2 := by
  decide +kernel

end SingBox

import SingBox.Dns.SystemTransports

/-!
# Merging the responses of multicast DNS

One table of texts serves all sections, so a record that has come as an additional one is missing
among the answers.
-/

namespace SingBox.SystemTransports.MDNS
open Resolving List Returned
variable {ε : Type} (t : MDNS ε)

def mergeAll (packets : List Msg) (s : Msg × List String) : Msg × List String :=
  packets.foldl (fun s packet => t.mergeResponse s.1 packet s.2) s

def exchangeTarget (query : Query) (packets : List Msg) (readErr : Option ε) : Returned ε :=
  let response := (t.mergeAll packets (newResponse query, [])).1
  match readErr with
  | some err => ⟨none, some err⟩
  | none =>
    if response.answer ≠ [] ∨ response.ns ≠ [] ∨ response.extra ≠ [] then ⟨some response, none⟩
    else ⟨none, none⟩

def answering (query : Query) (targets : List (List Msg × Option ε)) : MDNS ε :=
  { t with targets := targets.map fun target => t.exchangeTarget query target.1 target.2 }

def accepted (targets : List (List Msg × Option ε)) : List Msg :=
  targets.flatMap fun target => if target.2.isNone then target.1 else []

def texts (records : List RR) : List String := records.map t.text

def InOther (packet : Msg) (x : String) : Prop := x ∈ t.texts packet.ns ∨ x ∈ t.texts packet.extra

variable {t} {destination source : List RR} {seen : List String} {x : String}

lemma appendRecords_cons (record : RR) : t.appendRecords destination (record :: source) seen =
    if t.text record ∈ seen then t.appendRecords destination source seen
    else t.appendRecords (destination ++ [record]) source (seen ++ [t.text record]) := by
  unfold appendRecords
  rw [foldl_cons]
  dsimp only
  split_ifs <;> rfl

lemma mem_seen_appendRecords :
    x ∈ (t.appendRecords destination source seen).2 ↔ x ∈ seen ∨ x ∈ t.texts source := by
  induction source generalizing destination seen with
  | nil => simp [appendRecords, texts]
  | cons record source ih =>
    rw [appendRecords_cons]
    split_ifs with hseen <;> rw [ih] <;> simp [texts] <;> grind

lemma mem_appendRecords : x ∈ t.texts (t.appendRecords destination source seen).1 ↔
    x ∈ t.texts destination ∨ x ∈ t.texts source ∧ x ∉ seen := by
  induction source generalizing destination seen with
  | nil => simp [appendRecords, texts]
  | cons record source ih =>
    rw [appendRecords_cons]
    split_ifs with hseen <;> rw [ih] <;> simp [texts] <;> grind

lemma mem_answer_mergeResponse {merged packet : Msg} :
    x ∈ t.texts (t.mergeResponse merged packet seen).1.answer ↔
    x ∈ t.texts merged.answer ∨ x ∈ t.texts packet.answer ∧ x ∉ seen :=
  mem_appendRecords

lemma nodup_appendRecords (h : (t.texts destination).Nodup)
    (hseen : ∀ x ∈ t.texts destination, x ∈ seen) :
    (t.texts (t.appendRecords destination source seen).1).Nodup := by
  induction source generalizing destination seen with
  | nil => exact h
  | cons record source ih =>
    rw [appendRecords_cons]
    split_ifs with hmem
    · exact ih h hseen
    · simp only [texts] at h hseen ih ⊢
      refine ih ?_ ?_ <;> rw [map_append] <;> grind

/-- What is gathered from the packets; `other` are texts that are no answers. -/
structure Gathered (t : MDNS ε) (other : String → Prop) (packets : List Msg)
    (s : Msg × List String) : Prop where
  nodup : (t.texts s.1.answer).Nodup
  answer : ∀ x, x ∈ t.texts s.1.answer ↔ ∃ packet ∈ packets, x ∈ t.texts packet.answer
  others : ∀ x, t.InOther s.1 x → ∃ packet ∈ packets, t.InOther packet x
  isSeen : ∀ x ∈ t.texts s.1.answer, x ∈ s.2
  seen : ∀ x ∈ s.2, x ∈ t.texts s.1.answer ∨ other x

/-- A packet with the text of an answer in another section has it among its own answers too. -/
def Separate (t : MDNS ε) (packets : List Msg) : Prop :=
  ∀ packet ∈ packets, ∀ packet' ∈ packets, ∀ x ∈ t.texts packet.answer,
    t.InOther packet' x → x ∈ t.texts packet'.answer

variable {other : String → Prop} {packets : List Msg} {s : Msg × List String} {query : Query}

lemma Gathered.merge {packet : Msg} (h : Gathered t other packets s)
    (hanswer : ∀ x ∈ t.texts packet.answer, ¬other x)
    (hother : ∀ x, t.InOther packet x → x ∈ t.texts packet.answer ∨ other x) :
    Gathered t other (packets ++ [packet]) (t.mergeResponse s.1 packet s.2) := by
  constructor
  · exact nodup_appendRecords h.nodup h.isSeen
  · intro x
    -- An answer that has been seen is already among the answers.
    have hold : x ∈ t.texts packet.answer → x ∈ s.2 → x ∈ t.texts s.1.answer :=
      fun hmem hin => (h.seen x hin).resolve_right (hanswer x hmem)
    have hbefore := h.answer x
    rw [mem_answer_mergeResponse]
    grind
  · intro x hx
    have hbefore := h.others x
    simp only [InOther, mergeResponse, mem_appendRecords] at hx hbefore ⊢
    grind
  · intro x hx
    have hbefore := h.isSeen x
    simp only [mergeResponse, mem_seen_appendRecords, mem_appendRecords] at hx ⊢
    grind
  · intro x hx
    have hbefore := h.seen x
    have hnew := hother x
    simp only [InOther, mergeResponse, mem_seen_appendRecords, mem_appendRecords] at hx hnew ⊢
    grind

variable (t packets) in
def NoAnswer (x : String) : Prop := ∀ packet ∈ packets, x ∉ t.texts packet.answer

lemma Gathered.mergeAll (hsep : t.Separate packets) {before after : List Msg}
    (h : Gathered t (t.NoAnswer packets) before s) (heq : packets = before ++ after) :
    Gathered t (t.NoAnswer packets) packets (t.mergeAll after s) := by
  induction after generalizing before s with
  | nil =>
    rw [append_nil] at heq
    exact heq ▸ h
  | cons packet after ih =>
    have hmem : packet ∈ packets := by simp [heq]
    refine ih (h.merge (fun x hx hno => hno packet hmem hx) fun x hx => ?_) (by simp [heq])
    by_cases hno : t.NoAnswer packets x
    · exact .inr hno
    · simp only [NoAnswer, not_forall, not_not] at hno
      obtain ⟨packet', hmem', hx'⟩ := hno
      exact .inl (hsep packet' hmem' packet hmem x hx' hx)

lemma gathered_newResponse : Gathered t other [] (newResponse query, []) := by
  constructor <;> simp [newResponse, texts, InOther]

variable (query) in
lemma gathered_mergeAll (hsep : t.Separate packets) :
    Gathered t (t.NoAnswer packets) packets (t.mergeAll packets (newResponse query, [])) :=
  gathered_newResponse.mergeAll hsep rfl

lemma gather_eq (h : ∀ target ∈ t.targets, target.err.isSome → target.response = none) :
    (t.gather query).1 = (t.mergeAll (t.targets.filterMap response) (newResponse query, [])).1 := by
  unfold gather
  generalize t.targets = targets, newResponse query = response, ([] : List String) = seen,
    (none : Option ε) = lastErr at h ⊢
  induction targets generalizing response seen lastErr with
  | nil => rfl
  | cons target targets ih =>
    have hrest := fun target hmem => h target (mem_cons_of_mem _ hmem)
    rw [foldl_cons]
    cases herr : target.err with
    | some err =>
      rw [filterMap_cons_none (h target mem_cons_self (by simp [herr]))]
      exact ih _ _ _ hrest
    | none =>
      cases hresponse : target.response with
      | none =>
        rw [filterMap_cons_none hresponse]
        exact ih _ _ _ hrest
      | some source =>
        rw [filterMap_cons_some hresponse]
        exact ih _ _ _ hrest

variable {targets : List (List Msg × Option ε)}

lemma mem_accepted {packet : Msg} :
    packet ∈ accepted targets ↔ ∃ target ∈ targets, target.2 = none ∧ packet ∈ target.1 := by
  simp only [accepted, mem_flatMap, Option.isNone_iff_eq_none]
  grind

lemma mem_responses {r : Msg} : r ∈ (t.answering query targets).targets.filterMap response ↔
    ∃ target ∈ targets, target.2 = none ∧ r = (t.mergeAll target.1 (newResponse query, [])).1 ∧
    (r.answer ≠ [] ∨ r.ns ≠ [] ∨ r.extra ≠ []) := by
  simp only [answering, exchangeTarget, mem_filterMap, mem_map, exists_exists_and_eq_and]
  grind

section
variable (query) (hsep : t.Separate (accepted targets))
include hsep

lemma gathered_target {target : List Msg × Option ε}
    (hmem : target ∈ targets) (htarget : target.2 = none) :
    Gathered t (t.NoAnswer target.1) target.1 (t.mergeAll target.1 (newResponse query, [])) :=
  gathered_mergeAll query fun packet hpacket packet' hpacket' =>
    hsep packet (mem_accepted.2 ⟨target, hmem, htarget, hpacket⟩)
      packet' (mem_accepted.2 ⟨target, hmem, htarget, hpacket'⟩)

lemma separate_responses :
    t.Separate ((t.answering query targets).targets.filterMap response) := by
  intro r hr r' hr' x hx hx'
  obtain ⟨target, hmem, htarget, rfl, -⟩ := mem_responses.1 hr
  obtain ⟨target', hmem', htarget', rfl, -⟩ := mem_responses.1 hr'
  obtain ⟨packet, hpacket, hanswer⟩ := ((gathered_target query hsep hmem htarget).answer x).1 hx
  obtain ⟨packet', hpacket', hother⟩ := (gathered_target query hsep hmem' htarget').others x hx'
  have hown := hsep packet (mem_accepted.2 ⟨target, hmem, htarget, hpacket⟩)
    packet' (mem_accepted.2 ⟨target', hmem', htarget', hpacket'⟩) x hanswer hother
  exact ((gathered_target query hsep hmem' htarget').answer x).2 ⟨packet', hpacket', hown⟩

lemma mem_answer_responses :
    (∃ r ∈ (t.answering query targets).targets.filterMap response,
      x ∈ t.texts r.answer) ↔ ∃ packet ∈ accepted targets, x ∈ t.texts packet.answer := by
  constructor
  · rintro ⟨r, hr, hx⟩
    obtain ⟨target, hmem, htarget, rfl, -⟩ := mem_responses.1 hr
    obtain ⟨packet, hpacket, hanswer⟩ := ((gathered_target query hsep hmem htarget).answer x).1 hx
    exact ⟨packet, mem_accepted.2 ⟨target, hmem, htarget, hpacket⟩, hanswer⟩
  · rintro ⟨packet, hpacket, hx⟩
    obtain ⟨target, hmem, htarget, hin⟩ := mem_accepted.1 hpacket
    have hanswer := ((gathered_target query hsep hmem htarget).answer x).2 ⟨packet, hin, hx⟩
    refine ⟨_, mem_responses.2 ⟨target, hmem, htarget, rfl, .inl fun hempty => ?_⟩, hanswer⟩
    simp [texts, hempty] at hanswer

lemma gathered_gather :
    (t.texts ((t.answering query targets).gather query).1.answer).Nodup ∧
    ∀ x, x ∈ t.texts ((t.answering query targets).gather query).1.answer ↔
    ∃ packet ∈ accepted targets, x ∈ t.texts packet.answer := by
  have hall := gathered_mergeAll query (separate_responses query hsep)
  rw [gather_eq (by simp only [answering, exchangeTarget, mem_map]; grind)]
  exact ⟨hall.nodup, fun x => (hall.answer x).trans (mem_answer_responses query hsep)⟩

end

/-! ### A packet that comes first -/

lemma notMem_mergeAll (hseen : x ∈ s.2) (hanswer : x ∉ t.texts s.1.answer) :
    x ∉ t.texts (t.mergeAll packets s).1.answer := by
  induction packets generalizing s with
  | nil => exact hanswer
  | cons packet packets ih =>
    refine ih ?_ ?_
    · simp only [mergeResponse, mem_seen_appendRecords]
      exact .inl (.inl (.inl hseen))
    · exact fun h => (mem_answer_mergeResponse.1 h).elim hanswer fun h => h.2 hseen

/-- A text that comes first in another section only is not among the answers. -/
lemma notMem_mergeAll_cons {packet : Msg} (hother : t.InOther packet x)
    (hanswer : x ∉ t.texts packet.answer) :
    x ∉ t.texts (t.mergeAll (packet :: packets) (newResponse query, [])).1.answer := by
  refine notMem_mergeAll (s := t.mergeResponse (newResponse query) packet []) ?_ ?_
  · rcases hother with h | h <;> simp [mergeResponse, mem_seen_appendRecords, h]
  · rw [mem_answer_mergeResponse]
    exact fun h => h.elim (by simp [newResponse, texts]) fun h => hanswer h.1

lemma notMem_gather {packet : Msg} (hother : t.InOther packet x)
    (hanswer : x ∉ t.texts packet.answer) :
    x ∉ t.texts ((t.answering query [(packet :: packets, none)]).gather query).1.answer := by
  have hfirst : x ∉ t.texts (t.mergeAll (packet :: packets) (newResponse query, [])).1.answer :=
    notMem_mergeAll_cons hother hanswer
  rw [gather_eq (by simp only [answering, exchangeTarget, mem_map]; grind)]
  have hall : ∀ r ∈ (t.answering query [(packet :: packets, none)]).targets.filterMap response,
      x ∉ t.texts r.answer := by
    intro r hr
    obtain ⟨target, hmem, -, rfl, -⟩ := mem_responses.1 hr
    rwa [mem_singleton.1 hmem]
  have hnew : x ∉ t.texts (newResponse query).answer := by simp [newResponse, texts]
  generalize (t.answering query [(packet :: packets, none)]).targets.filterMap response = rs,
    newResponse query = merged, ([] : List String) = seen at hall hnew
  induction rs generalizing merged seen with
  | nil => exact hnew
  | cons r rs ih =>
    obtain ⟨hr, hrs⟩ := forall_mem_cons.1 hall
    refine ih _ _ hrs ?_
    exact fun h => (mem_answer_mergeResponse.1 h).elim hnew fun h => hr h.1

/-- In every order of the accepted packets and for every distribution over the interfaces the
answers are those of the accepted packets, once, exactly if a packet with the text of an answer in
another section has it among its answers too. -/
theorem answer_gather (t : MDNS ε) (query : Query) (targets : List (List Msg × Option ε)) :
    (∀ targets', accepted targets' ~ accepted targets →
      (t.texts ((t.answering query targets').gather query).1.answer).Nodup ∧
      ∀ x, x ∈ t.texts ((t.answering query targets').gather query).1.answer ↔
        ∃ packet ∈ accepted targets, x ∈ t.texts packet.answer) ↔
    t.Separate (accepted targets) := by
  constructor
  · intro h packet hmem packet' hmem' x hx hx'
    by_contra hown
    -- With this packet first, the answer is left out.
    obtain ⟨before, after, hsplit⟩ := append_of_mem hmem'
    have hperm : accepted [(packet' :: (before ++ after), (none : Option ε))] ~
        accepted targets := by
      rw [hsplit]
      simpa [accepted] using perm_middle.symm
    exact notMem_gather hx' hown (((h _ hperm).2 x).2 ⟨packet, hmem, hx⟩)
  · intro hsep targets' hperm
    have hsep' : t.Separate (accepted targets') := fun packet hp packet' hp' =>
      hsep packet (hperm.mem_iff.1 hp) packet' (hperm.mem_iff.1 hp')
    obtain ⟨hnodup, hmem⟩ := gathered_gather query hsep'
    refine ⟨hnodup, fun x => ?_⟩
    rw [hmem]
    simp [hperm.mem_iff]

/-- The text of a `TXT` record with an empty string. -/
def presentation (record : RR) : String :=
  record.hdr.name ++ "\t" ++ toString record.hdr.ttl ++ "\tIN\tTXT\t\"\""

def textTransport : MDNS String := { onionLocal.mdnsTransport with text := presentation }

def textRecord : RR := ⟨⟨"x.onion.", 16, 1, 120⟩, .other [0]⟩

def answerPacket : Msg := { newResponse onionQuery with answer := [textRecord] }

def extraPacket : Msg := { newResponse onionQuery with extra := [textRecord] }

/-- The answer has come before as an additional record, and is left out. -/
theorem answer_gather_extra :
    ((textTransport.answering onionQuery [([extraPacket, answerPacket], none)]).gather
      onionQuery).1.answer = [] ∧
    ((textTransport.answering onionQuery [([answerPacket, extraPacket], none)]).gather
      onionQuery).1.answer = [textRecord] := by
  decide +kernel

end SingBox.SystemTransports.MDNS

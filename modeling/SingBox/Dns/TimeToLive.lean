import SingBox.Dns.Client
import Mathlib

/-!
# The time to live of a response

The client keeps one time to live for a response: the smallest positive one of its records. It
writes this into all records but `OPT` ones, before the response is stored and returned. Without
answers the time to live is taken from the first `SOA` record, so the order of these matters.
-/

namespace SingBox
open List

def positiveTTLs (records : List RR) : Set ℕ :=
  {ttl | 0 < ttl ∧ ∃ record ∈ records, record.hdr.rrtype ≠ dnsTypeOPT ∧ record.hdr.ttl = ttl}

lemma positiveTTLs_cons (record : RR) (records : List RR) :
    positiveTTLs (record :: records) = positiveTTLs [record] ∪ positiveTTLs records := by
  ext ttl
  simp only [positiveTTLs, exists_mem_cons_iff, Set.mem_union, Set.mem_ofPred_eq,
    not_mem_nil, false_and, exists_false, or_false]
  exact and_or_left

lemma minTTL_sInf {ttls : Set ℕ} (h : ∀ ttl ∈ ttls, 0 < ttl) (record : RR) :
    minTTL (sInf ttls) record = sInf (ttls ∪ positiveTTLs [record]) := by
  by_cases hrec : record.hdr.rrtype ≠ dnsTypeOPT ∧ 0 < record.hdr.ttl
  · have hsingle : positiveTTLs [record] = {record.hdr.ttl} := by
      ext ttl
      simp only [positiveTTLs, mem_singleton, exists_eq_left, Set.mem_ofPred_eq,
        Set.mem_singleton_iff]
      exact ⟨fun hmem => hmem.2.2.symm, by rintro rfl; exact ⟨hrec.2, hrec.1, rfl⟩⟩
    rw [minTTL, if_neg hrec.1, hsingle]
    rcases ttls.eq_empty_or_nonempty with rfl | hne
    · simp
    · have hpos := h _ (Nat.sInf_mem hne)
      rw [csInf_union (OrderBot.bddBelow _) hne (OrderBot.bddBelow _) (Set.singleton_nonempty _),
        csInf_singleton]
      split_ifs with hless
      · exact (min_eq_right (by omega)).symm
      · exact (min_eq_left (by omega)).symm
  · have hnone : positiveTTLs [record] = ∅ := by
      refine Set.eq_empty_of_forall_notMem fun ttl hmem => ?_
      simp only [positiveTTLs, mem_singleton, exists_eq_left, Set.mem_ofPred_eq] at hmem
      exact hrec ⟨hmem.2.1, hmem.2.2 ▸ hmem.1⟩
    rw [hnone, Set.union_empty, minTTL]
    split_ifs with hopt hless
    · rfl
    · have hzero : record.hdr.ttl = 0 := Nat.eq_zero_of_not_pos fun hpos => hrec ⟨hopt, hpos⟩
      omega
    · rfl

lemma foldl_minTTL (records : List RR) {ttls : Set ℕ} (h : ∀ ttl ∈ ttls, 0 < ttl) :
    records.foldl minTTL (sInf ttls) = sInf (ttls ∪ positiveTTLs records) := by
  induction records generalizing ttls with
  | nil => simp [positiveTTLs]
  | cons record records ih =>
    rw [foldl_cons, minTTL_sInf h, ih, Set.union_assoc, ← positiveTTLs_cons]
    rintro ttl (hmem | hmem)
    · exact h ttl hmem
    · exact hmem.1

def RR.negativeTTL (record : RR) : Option ℕ :=
  match record.data with
  | .soa minttl _ => some (if record.hdr.ttl < minttl then record.hdr.ttl else minttl)
  | _ => none

def negativeTTLs (response : Msg) : List ℕ := response.ns.filterMap RR.negativeTTL

def allRecords (response : Msg) : List RR := response.answer ++ response.ns ++ response.extra

lemma computeTimeToLive_eq (response : Msg) : computeTimeToLive response =
    (if response.answer = [] then (negativeTTLs response).head? else none).getD
    (sInf (positiveTTLs (allRecords response))) := by
  have hsoa : extractNegativeTTL response = (negativeTTLs response).head? := (head?_filterMap).symm
  have hmin : (allRecords response).foldl minTTL 0 = sInf (positiveTTLs (allRecords response)) := by
    have hfold : (allRecords response).foldl minTTL (sInf ∅) = _ := foldl_minTTL _ (by simp)
    rwa [Nat.sInf_empty, Set.empty_union] at hfold
  rw [computeTimeToLive, ← allRecords, hmin, ← hsoa]
  simp only [List.isEmpty_iff]
  cases (if response.answer = [] then extractNegativeTTL response else none) <;> rfl

/-- The same records in another order, and the same `SOA` records. -/
structure Reordered (response response' : Msg) : Prop where
  answer : response.answer = [] ↔ response'.answer = []
  soa : (negativeTTLs response).Perm (negativeTTLs response')
  records : (allRecords response).Perm (allRecords response')

lemma Reordered.timeToLive_eq {response response' : Msg} (h : Reordered response response')
    (hsoa : response.answer = [] → (negativeTTLs response).Pairwise (· = ·)) :
    computeTimeToLive response' = computeTimeToLive response := by
  have hpos : positiveTTLs (allRecords response') = positiveTTLs (allRecords response) := by
    simp [positiveTTLs, h.records.mem_iff]
  rw [computeTimeToLive_eq, computeTimeToLive_eq, hpos]
  by_cases hans : response.answer = []
  · have hsame := h.soa.eq_of_pairwise (fun _ _ _ _ heq _ => heq) (hsoa hans)
      (h.soa.pairwise (hsoa hans) fun heq => heq.symm)
    rw [if_pos hans, if_pos (h.answer.1 hans), hsame]
  · rw [if_neg hans, if_neg fun hans' => hans (h.answer.2 hans')]

lemma computeTimeToLive_filterHints (question : Question) (options : DNSQueryOptions)
    (response : Msg) :
    computeTimeToLive (filterHints question options response) = computeTimeToLive response := by
  have hhdr : ∀ record : RR, (record.filterHints options.strategy).hdr = record.hdr := by
    intro record
    unfold RR.filterHints
    split <;> rfl
  have hmin : ∀ n (record : RR), minTTL n (record.filterHints options.strategy) =
      minTTL n record := fun n record => by simp [minTTL, hhdr]
  unfold filterHints
  split_ifs
  · simp [computeTimeToLive, extractNegativeTTL, foldl_map, hmin]
  · rfl

/-! ### The messages that are stored and returned -/

/-- All records but `OPT` ones have this time to live. -/
def HasTTL (message : Msg) (ttl : ℕ) : Prop :=
  ∀ record ∈ allRecords message, record.hdr.rrtype ≠ dnsTypeOPT → record.hdr.ttl = ttl

/-- The entry holds the message, in memory or packed for the file. -/
def ClientConfig.Holds (c : ClientConfig) (entry : CacheEntry) (message : Msg) : Prop :=
  entry.stored = .message message ∨
    ∃ rawMessage, c.pack message = some rawMessage ∧ entry.stored = .packed rawMessage

section Stored
variable {message request : Msg} {ttl : ℕ}

lemma applyResponseOptions_ttl (question : Question) (response : Msg) (options : DNSQueryOptions) :
    (applyResponseOptions question response options).2 =
      options.rewriteTTL.getD (computeTimeToLive response) := by
  rw [applyResponseOptions, computeTimeToLive_filterHints]
  cases options.rewriteTTL <;> rfl

lemma hasTTL_applyResponseOptions (question : Question) (response : Msg)
    (options : DNSQueryOptions) : HasTTL (applyResponseOptions question response options).1
      (options.rewriteTTL.getD (computeTimeToLive response)) := by
  intro record hrec hopt
  rw [← applyResponseOptions_ttl question]
  simp only [allRecords, applyResponseOptions, normalizeTTL, ← map_append] at hrec
  obtain ⟨original, -, rfl⟩ := mem_map.1 hrec
  rw [RR.setTTL_rrtype] at hopt
  rw [RR.setTTL, if_neg hopt]
  rfl

/-- Only `OPT` records are removed and added. -/
lemma HasTTL.adaptEdns0 (h : HasTTL message ttl) : HasTTL (adaptEdns0 request message) ttl := by
  have hwithout : HasTTL message.withoutOPT ttl := by
    intro record hrec
    refine h record ?_
    simp only [allRecords, Msg.withoutOPT, mem_append, mem_filter] at hrec ⊢
    exact hrec.imp_right And.left
  unfold SingBox.adaptEdns0
  split
  · exact h
  · split
    · exact hwithout
    · split_ifs
      · intro record hrec hopt
        simp only [allRecords, Msg.setEdns0, ← append_assoc, mem_append, mem_singleton] at hrec
        rcases hrec with hrec | rfl
        · exact hwithout record (by simpa [allRecords, or_assoc] using hrec) hopt
        · exact absurd rfl hopt
      · exact h

lemma HasTTL.withId (h : HasTTL message ttl) (id : ℕ) : HasTTL (message.withId id) ttl := h

lemma storeCache_cases {c : ClientConfig} {now : ℕ} {key key' : CacheKey} {state : ClientState}
    {entry : CacheEntry} (h : (storeCache c now key message ttl state).cache key' = some entry) :
    state.cache key' = some entry ∨ c.Holds entry message := by
  have hinsert : ∀ entry', (state.cache.insert key entry') key' = some entry →
      state.cache key' = some entry ∨ entry' = entry := by
    intro entry' hent
    by_cases hkey : key' = key
    · subst hkey
      rw [Table.insert_self] at hent
      exact .inr (Option.some.inj hent)
    · rw [Table.insert_of_ne _ _ hkey] at hent
      exact .inl hent
  unfold storeCache at h
  dsimp only at h
  split_ifs at h
  · exact .inl h
  · cases hpack : c.pack message with
    | none =>
      rw [hpack] at h
      exact .inl h
    | some packed =>
      rw [hpack] at h
      exact (hinsert _ h).imp id fun hent => .inr ⟨packed, hpack, by rw [← hent]⟩
  · exact .inl h
  · exact (hinsert _ h).imp id fun hent => .inl (by rw [← hent])

end Stored

/-- The smallest positive time to live of all records but `OPT`, or zero; without answers, that of
the first `SOA` record. What an exchange with the transport returns and stores has this time to
live, or the one that the options ask for. -/
theorem timeToLive_spec (response : Msg) : computeTimeToLive response =
        (if response.answer = [] then (negativeTTLs response).head? else none).getD
          (sInf (positiveTTLs (allRecords response))) ∧
      (∀ response', Reordered response response' →
        (response.answer = [] → (negativeTTLs response).Pairwise (· = ·)) →
          computeTimeToLive response' = computeTimeToLive response) ∧
      ∀ c now call question message disableCache transport state result state',
        exchangeToTransport transport message = some response →
        exchangeMiss c now call question message disableCache transport state =
          (.ok result, state') →
        HasTTL result (call.options.rewriteTTL.getD (computeTimeToLive response)) ∧
          ∀ key entry, state'.cache key = some entry → state.cache key = some entry ∨
            ∃ stored, c.Holds entry stored ∧
              HasTTL stored (call.options.rewriteTTL.getD (computeTimeToLive response)) := by
  refine ⟨computeTimeToLive_eq response, fun _ h => h.timeToLive_eq, ?_⟩
  intro c now call question message disableCache transport state result state' hresponse hmiss
  have happlied := hasTTL_applyResponseOptions question response call.options
  unfold exchangeMiss at hmiss
  rw [hresponse] at hmiss
  dsimp only at hmiss
  split_ifs at hmiss
  · cases hmiss
  · cases hmiss
  · cases hmiss
  · cases hmiss
  · obtain ⟨hresult, rfl⟩ := Prod.mk.inj hmiss
    obtain rfl := Except.ok.inj hresult
    exact ⟨(happlied.withId _).adaptEdns0, fun _ _ hent => .inl hent⟩
  · obtain ⟨hresult, rfl⟩ := Prod.mk.inj hmiss
    obtain rfl := Except.ok.inj hresult
    exact ⟨(happlied.withId _).adaptEdns0, fun _ _ hent =>
      (storeCache_cases hent).imp id fun hholds => ⟨_, hholds, happlied⟩⟩

def negativeResponse (ns : List RR) : Msg := ⟨{}, [], [], ns, []⟩

def soaRecord (ttl : ℕ) : RR := ⟨⟨"example.", 6, 1, ttl⟩, .soa 900 []⟩

theorem timeToLive_spec_negative : let other : RR := ⟨⟨"example.", 47, 1, 60⟩, .other []⟩
    let response := negativeResponse [other, soaRecord 300]
    let response' := negativeResponse [soaRecord 300, other]
    let question : Question := ⟨"example.", dnsTypeA, dnsClassINET⟩
    let call : Call := ⟨"dns", ⟨{}, [question], [], [], []⟩, {}, none, none⟩
    computeTimeToLive response = 300 ∧ computeTimeToLive response' = computeTimeToLive response ∧
      ∃ result state', exchangeMiss {} 0 call question call.message false
          (fun _ => .ok response) .initial = (.ok result, state') ∧ HasTTL result 300 ∧
        ∃ entry stored, state'.cache (ClientConfig.cacheKey {} "dns" question) = some entry ∧
          ClientConfig.Holds {} entry stored ∧ HasTTL stored 300 := by
  intro other response response' question call
  obtain ⟨-, hreordered, happlied⟩ := timeToLive_spec response
  refine ⟨rfl, hreordered response' ⟨Iff.rfl, by decide, by decide⟩ (by decide), _, _, rfl, ?_⟩
  obtain ⟨hresult, hstored⟩ := happlied {} 0 call question call.message false
    (fun _ => .ok response) .initial _ _ rfl rfl
  obtain hbefore | ⟨stored, hholds, hstored⟩ := hstored
    (ClientConfig.cacheKey {} "dns" question) _ rfl
  · cases hbefore
  · exact ⟨hresult, _, stored, rfl, hholds, hstored⟩

/-- Of two `SOA` records that disagree the first one counts. -/
theorem not_timeToLive_of_two_soa : let response := negativeResponse [soaRecord 300, soaRecord 600]
    let response' := negativeResponse [soaRecord 600, soaRecord 300]
    Reordered response response' ∧ computeTimeToLive response = 300 ∧
      computeTimeToLive response' = 600 :=
  ⟨⟨Iff.rfl, by decide, by decide⟩, rfl, rfl⟩

end SingBox

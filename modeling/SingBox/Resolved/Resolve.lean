import SingBox.Resolved.Service

/-!
# The methods of the resolved service that resolve something

They do not release the lock if there is no interface. Two wrap a nil pointer instead of the error,
and panic.
-/

namespace SingBox.Resolved
open List

/-! ### The calls -/

variable {ε α : Type}

inductive GoError (ε : Type)
  | nil
  | nilPointer
  | some (err : ε)

inductive BusError (ε : Type)
  | failed (err : ε)
  | rcode (code : ℕ)
deriving DecidableEq

structure SRV where
  priority : ℕ
  weight : ℕ
  port : ℕ
  target : String

structure Router (ε : Type) where
  lookup : String → DomainStrategy → Except ε (List Addr)
  exchange : Question → Except ε Msg
  rcode : ε → Option ℕ
  invalidAddress : ε
  packRR : RR → List UInt8 × Option ε
  ptr : RR → Option String
  srv : RR → Option SRV
  cname : RR → Option String

abbrev Method (ε α : Type) := Except Unit (α × Option (BusError ε))

structure Address where
  ifIndex : ℤ
  family : ℕ
  address : Addr

def Address.of (ifIndex : ℤ) (address : Addr) : Address :=
  ⟨ifIndex, if address.is4 then 2 else 10, address⟩

structure ResourceRecord where
  ifIndex : ℤ
  rrtype : ℕ
  rrclass : ℕ
  data : List UInt8

structure SRVRecord extends SRV where
  addresses : List Address
  cname : String

variable (router : Router ε) (ifIndex : ℤ)

/-- `MakeFailedError` asks the error for its text. -/
def wrapError : GoError ε → Except Unit (Option (BusError ε))
  | .nil => .ok none
  | .nilPointer => .error ()
  | .some err => .ok (some ((router.rcode err).elim (.failed err) .rcode))

def failed (value : α) (err : GoError ε) : Method ε α := (wrapError router err).map (value, ·)

def answered (exchanged : Except ε Msg) (wrapped : ε → GoError ε) (value : α)
    (next : Msg → Method ε α) : Method ε α :=
  match exchanged with
  | .error err => failed router value (wrapped err)
  | .ok response =>
    if response.hdr.rcode = rcodeSuccess then next response
    else .ok (value, some (.rcode response.hdr.rcode))

def strategyOf (family : ℤ) : DomainStrategy :=
  if family = 2 then .ipv4Only else if family = 10 then .ipv6Only else .asIS

def canonicalName (name : String) : List Char := (fqdn name).toList.map Char.toLower

def resolveHostname (hostname : String) (family : ℤ) : Method ε (List Address × List Char) :=
  match router.lookup hostname (strategyOf family) with
  | .error _ => failed router ([], []) .nilPointer
  | .ok addresses => .ok ((addresses.map (.of ifIndex), canonicalName hostname), none)

def ptrQuestion (address : List UInt8) : Question :=
  let nibbles := address.reverse.flatMap fun b =>
    [b.toNat % 16, b.toNat / 16].map fun n => String.ofList (Nat.toDigits 16 n)
  let zone := if address.length = 4 then ".in-addr.arpa." else ".ip6.arpa."
  { name := fqdn (".".intercalate nibbles ++ zone), qtype := 12, qclass := dnsClassINET }

def resolveAddress (address : List UInt8) : Method ε (List (ℤ × String)) :=
  match Addr.addrFromIP address with
  | none => failed router [] (.some router.invalidAddress)
  | some _ =>
    answered router (router.exchange (ptrQuestion address)) (fun _ => .nilPointer) []
      fun response => .ok ((response.answer.filterMap router.ptr).map (ifIndex, ·), none)

def resolveRecord (question : Question) : Method ε (List ResourceRecord) :=
  let question := { question with name := fqdn question.name }
  answered router (router.exchange question) .some [] fun response =>
    let records := response.answer.map fun rr =>
      ⟨ifIndex, rr.hdr.rrtype, rr.hdr.rrclass, (router.packRR rr).1⟩
    match (response.answer.filterMap fun rr => (router.packRR rr).2).getLast? with
    | none => .ok (records, none)
    | some err => failed router records (.some err)

def serviceQuestion (hostname sType domain : String) (qtype : ℕ) : Question :=
  let dotted := fun name : String => if name.endsWith "." then name else name ++ "."
  let first := if hostname = "" then "" else dotted hostname
  { name := dotted (dotted (first ++ sType) ++ domain), qtype, qclass := dnsClassINET }

def srvRecord (family : ℤ) (response : Msg) (srv : SRV) : SRVRecord :=
  let addresses := (router.lookup srv.target (strategyOf family)).toOption.getD []
  let cname := response.answer.findSome? fun rr =>
    if rr.hdr.name = srv.target then router.cname rr else none
  { srv with addresses := addresses.map (.of ifIndex), cname := cname.getD "" }

/-- The errors of looking up the targets are ignored, as is the second code. -/
def resolveService (hostname sType domain : String) (family : ℤ) :
    Method ε (List SRVRecord × List (List UInt8) × List (List Char)) :=
  let question := serviceQuestion hostname sType domain
  answered router (router.exchange (question 33)) .some ([], [], []) fun srvResponse =>
    match router.exchange (question 16) with
    | .error err => failed router ([], [], []) (.some err)
    | .ok txtResponse =>
      let txt := (txtResponse.answer.filter (·.hdr.rrtype = 16)).map router.packRR
      .ok (((srvResponse.answer.filterMap router.srv).map
          (srvRecord router ifIndex family srvResponse),
        (txt.filter (·.2.isNone)).map Prod.fst,
        [hostname, sType, domain].map canonicalName), none)

inductive Resolve
  | hostname (name : String) (family : ℤ)
  | address (bytes : List UInt8)
  | record (question : Question)
  | service (name sType domain : String) (family : ℤ)

def Resolve.err (router : Router ε) (ifIndex : ℤ) : Resolve → Except Unit (Option (BusError ε))
  | .hostname name family => (resolveHostname router ifIndex name family).map Prod.snd
  | .address bytes => (resolveAddress router ifIndex bytes).map Prod.snd
  | .record question => (resolveRecord router ifIndex question).map Prod.snd
  | .service name sType domain family =>
    (resolveService router ifIndex name sType domain family).map Prod.snd

/-- `finderErr` is the error if there is no interface. -/
def State.call (s : State) (iif : Option Interface) (finderErr : ε) (call : Resolve) :
    State × Except Unit (Option (BusError ε)) :=
  match s.getLink ifIndex iif with
  | (s, none) => ({ s with locked := true }, wrapError router (.some finderErr))
  | (s, some id) =>
    match (s.objects id).iif with
    | none => (s, .error ())
    | some _ => (s, call.err router ifIndex)

/-! ### Careful calls -/

def Succeeds (exchanged : Except ε Msg) : Prop :=
  ∃ response, exchanged = .ok response ∧ response.hdr.rcode = rcodeSuccess

/-- The arguments or the DNS router fail. -/
def Resolve.Fails (router : Router ε) : Resolve → Prop
  | .hostname name family => ∀ addresses, router.lookup name (strategyOf family) ≠ .ok addresses
  | .address bytes =>
    Addr.addrFromIP bytes = none ∨ ¬Succeeds (router.exchange (ptrQuestion bytes))
  | .record question => ¬Succeeds (router.exchange { question with name := fqdn question.name })
  | .service name sType domain _ =>
    ¬Succeeds (router.exchange (serviceQuestion name sType domain 33)) ∨
      ¬Succeeds (router.exchange (serviceQuestion name sType domain 16))

/-- What the methods do not report as they should: no nil pointer is wrapped, every record of the
answer can be packed, and the code of the second response is success. -/
def Resolve.Careful (router : Router ε) : Resolve → Prop
  | .hostname name family => ∃ addresses, router.lookup name (strategyOf family) = .ok addresses
  | .address bytes => Addr.addrFromIP bytes = none ∨
      ∃ response, router.exchange (ptrQuestion bytes) = .ok response
  | .record question => ∀ response,
      router.exchange { question with name := fqdn question.name } = .ok response →
      response.hdr.rcode = rcodeSuccess → ∀ rr ∈ response.answer, (router.packRR rr).2 = none
  | .service name sType domain _ =>
    Succeeds (router.exchange (serviceQuestion name sType domain 33)) → ∀ response,
      router.exchange (serviceQuestion name sType domain 16) = .ok response →
      response.hdr.rcode = rcodeSuccess

/-- The link of the index is in the table with its interface, or can be made. -/
def State.Linked (s : State) (ifIndex : ℤ) (iif : Option Interface) : Prop :=
  (∃ id, s.links.get? ifIndex = some id ∧ (s.objects id).iif.isSome) ∨
    s.links.get? ifIndex = none ∧ iif.isSome

/-- The call returns with the lock free, and with an error exactly if the lookup of the interface,
the arguments or the DNS router have failed. -/
def State.Right (router : Router ε) (s : State) (ifIndex : ℤ) (iif : Option Interface)
    (finderErr : ε) (call : Resolve) : Prop :=
  (s.call router ifIndex iif finderErr call).1.locked = false ∧
    ∃ err, (s.call router ifIndex iif finderErr call).2 = .ok err ∧
      (err.isSome ↔ s.links.get? ifIndex = none ∧ iif = none ∨ call.Fails router)

/-! ### What each method reports -/

variable {router ifIndex} {exchanged : Except ε Msg} {wrapped : ε → GoError ε} {value : α}
  {next : Msg → Method ε α}

/-- The method returns, with an error exactly if something fails. -/
def Reports (result : Method ε α) (fails : Prop) : Prop :=
  ∃ err, result.map Prod.snd = .ok err ∧ (err.isSome ↔ fails)

lemma reports_failed_iff (value : α) (err : GoError ε) :
    Reports (failed router value err) True ↔ ∃ e, err = .some e := by
  cases err with
  | nil => simp [Reports, failed, wrapError, Except.map]
  | nilPointer => simp [Reports, failed, wrapError, Except.map]
  | some e => simp [Reports, failed, wrapError, Except.map]

lemma reports_ok_iff (value : α) (err : Option (BusError ε)) (fails : Prop) :
    Reports (.ok (value, err)) fails ↔ (err.isSome ↔ fails) := by
  simp [Reports, Except.map]

lemma reports_answered_iff {fails : Prop} :
    Reports (answered router exchanged wrapped value next) (¬Succeeds exchanged ∨ fails) ↔
      (∀ err, exchanged = .error err → ∃ e, wrapped err = .some e) ∧
      ∀ response, exchanged = .ok response → response.hdr.rcode = rcodeSuccess →
        Reports (next response) fails := by
  unfold answered Succeeds
  cases exchanged with
  | error err => simpa using reports_failed_iff value (wrapped err)
  | ok response =>
    by_cases hcode : response.hdr.rcode = rcodeSuccess
    · simp [hcode]
    · simp [hcode, reports_ok_iff]

lemma reports_resolveHostname_iff {name : String} {family : ℤ} :
    Reports (resolveHostname router ifIndex name family)
      (Resolve.Fails router (.hostname name family)) ↔
      Resolve.Careful router (.hostname name family) := by
  unfold resolveHostname
  cases hlookup : router.lookup name (strategyOf family) with
  | error err => simp [Resolve.Careful, hlookup, Reports, failed, wrapError, Except.map]
  | ok addresses => simp [Resolve.Fails, Resolve.Careful, hlookup, reports_ok_iff]

lemma reports_resolveAddress_iff {bytes : List UInt8} :
    Reports (resolveAddress router ifIndex bytes) (Resolve.Fails router (.address bytes)) ↔
      Resolve.Careful router (.address bytes) := by
  dsimp only [resolveAddress, Resolve.Fails, Resolve.Careful]
  cases Addr.addrFromIP bytes with
  | none =>
    have hreports : Reports (failed router ([] : List (ℤ × String)) (.some router.invalidAddress))
        True := (reports_failed_iff _ _).2 ⟨_, rfl⟩
    simpa using hreports
  | some addr =>
    simp only [reduceCtorEq, false_or]
    rw [← or_false (¬Succeeds _), reports_answered_iff]
    cases router.exchange (ptrQuestion bytes) <;> simp [reports_ok_iff]

lemma reports_resolveRecord_iff {question : Question} :
    Reports (resolveRecord router ifIndex question) (Resolve.Fails router (.record question)) ↔
      Resolve.Careful router (.record question) := by
  dsimp only [resolveRecord, Resolve.Fails, Resolve.Careful]
  rw [← or_false (¬Succeeds _), reports_answered_iff]
  refine ⟨fun h response hresponse hcode rr hrr => ?_,
    fun h => ⟨fun err _ => ⟨err, rfl⟩, fun response hresponse hcode => ?_⟩⟩
  · -- An error of packing would be the one that is returned.
    have hreports := h.2 response hresponse hcode
    cases hlast : (response.answer.filterMap fun rr => (router.packRR rr).2).getLast? with
    | none =>
      rw [getLast?_eq_none_iff, filterMap_eq_nil_iff] at hlast
      exact hlast rr hrr
    | some err => simp [hlast, Reports, failed, wrapError, Except.map] at hreports
  · have hnil : response.answer.filterMap (fun rr => (router.packRR rr).2) = [] :=
      filterMap_eq_nil_iff.2 (h response hresponse hcode)
    simp [hnil, reports_ok_iff]

lemma reports_resolveService_iff {name sType domain : String} {family : ℤ} :
    Reports (resolveService router ifIndex name sType domain family)
      (Resolve.Fails router (.service name sType domain family)) ↔
      Resolve.Careful router (.service name sType domain family) := by
  dsimp only [resolveService, Resolve.Fails, Resolve.Careful]
  rw [reports_answered_iff]
  cases htxt : router.exchange (serviceQuestion name sType domain 16) with
  | error err =>
    have hfails : ¬Succeeds (.error err) := fun ⟨_, h, _⟩ => by cases h
    simp [hfails, reports_failed_iff]
  | ok txtResponse =>
    have hsucceeds : Succeeds (ε := ε) (.ok txtResponse) ↔
        txtResponse.hdr.rcode = rcodeSuccess := by simp [Succeeds]
    simp only [reports_ok_iff, Option.isSome_none, hsucceeds]
    constructor
    · rintro ⟨-, h⟩ ⟨response, hresponse, hcode⟩ _ ⟨⟩
      simpa using h response hresponse hcode
    · intro h
      refine ⟨fun err _ => ⟨err, rfl⟩, fun response hresponse hcode => ?_⟩
      simpa using h ⟨response, hresponse, hcode⟩ txtResponse rfl

variable (ifIndex) in
lemma reports_err_iff (call : Resolve) :
    (∃ err, call.err router ifIndex = .ok err ∧ (err.isSome ↔ call.Fails router)) ↔
      call.Careful router := by
  cases call with
  | hostname name family => exact reports_resolveHostname_iff
  | address bytes => exact reports_resolveAddress_iff
  | record question => exact reports_resolveRecord_iff
  | service name sType domain family => exact reports_resolveService_iff

lemma getLink_locked (s : State) (iif : Option Interface) :
    (s.getLink ifIndex iif).1.locked = s.locked := by
  unfold State.getLink
  split
  · rfl
  · split <;> rfl

/-! ### The calls -/

lemma call_of_linked {s : State} {iif : Option Interface} (h : s.Linked ifIndex iif)
    (finderErr : ε) (call : Resolve) : s.call router ifIndex iif finderErr call =
      ((s.getLink ifIndex iif).1, call.err router ifIndex) := by
  unfold State.call
  rcases h with ⟨id, hid, hiif⟩ | ⟨hnone, hiif⟩
  · obtain ⟨found, hfound⟩ := Option.isSome_iff_exists.1 hiif
    simp [State.getLink, hid, hfound]
  · obtain ⟨found, rfl⟩ := Option.isSome_iff_exists.1 hiif
    simp [State.getLink, hnone, State.setObject]

def emptyRouter : Router ℕ where
  lookup _ _ := .error 0
  exchange _ := .ok ⟨{}, [], [], [], []⟩
  rcode _ := none
  invalidAddress := 1
  packRR _ := ([], none)
  ptr _ := none
  srv _ := none
  cname _ := none

def nibbleLabels (b : UInt8) : List Char :=
  [Nat.digitChar (b.toNat % 16), '.', Nat.digitChar (b.toNat / 16), '.']

/-- The standard name, which has decimal labels for IPv4. -/
def reverseName (address : List UInt8) : List Char :=
  if address.length = 4 then
    address.reverse.flatMap (fun b => Nat.toDigits 10 b.toNat ++ ['.']) ++ "in-addr.arpa.".toList
  else address.reverse.flatMap nibbleLabels ++ "ip6.arpa.".toList

def digitValue (c : Char) : ℕ := if c.isDigit then c.toNat - 48 else c.toNat - 87

def decodeName : List Char → List UInt8
  | low :: '.' :: high :: '.' :: name =>
    decodeName name ++ [UInt8.ofNat (16 * digitValue high + digitValue low)]
  | _ => []

lemma toList_intercalate_nibbles {bytes : List UInt8} (h : bytes ≠ []) :
    (".".intercalate (bytes.flatMap fun b => [b.toNat % 16, b.toNat / 16].map
      fun n => String.ofList (Nat.toDigits 16 n))).toList ++ ['.'] =
    bytes.flatMap nibbleLabels := by
  induction bytes with
  | nil => exact absurd rfl h
  | cons b bytes ih =>
    have hlow : b.toNat % 16 < 16 := Nat.mod_lt _ (by decide)
    have hhigh : b.toNat / 16 < 16 := Nat.div_lt_of_lt_mul b.toNat_lt
    rw [flatMap_cons, flatMap_cons]
    by_cases hbytes : bytes = []
    · simp [hbytes, nibbleLabels, Nat.toDigits_of_lt_base, hlow, hhigh]
    · rw [← ih hbytes, String.intercalate_append_of_ne_nil (by simp)
        (by simpa using exists_mem_of_ne_nil _ hbytes)]
      simp [nibbleLabels, Nat.toDigits_of_lt_base, hlow, hhigh]

lemma toList_name_ptrQuestion {address : List UInt8} (h : address ≠ []) :
    (ptrQuestion address).name.toList = address.reverse.flatMap nibbleLabels ++
    if address.length = 4 then "in-addr.arpa.".toList else "ip6.arpa.".toList := by
  unfold ptrQuestion fqdn isFqdn
  rw [← toList_intercalate_nibbles (reverse_ne_nil_iff.2 h)]
  split_ifs <;> simp

lemma decodeName_append {tail : List Char} (h : decodeName tail = []) (bytes : List UInt8) :
    decodeName (bytes.flatMap nibbleLabels ++ tail) = bytes.reverse := by
  have hdigit : ∀ n < 16, digitValue (Nat.digitChar n) = n := by decide
  induction bytes with
  | nil => exact h
  | cons b bytes ih =>
    have hlow : b.toNat % 16 < 16 := Nat.mod_lt _ (by decide)
    have hhigh : b.toNat / 16 < 16 := Nat.div_lt_of_lt_mul b.toNat_lt
    rw [flatMap_cons, nibbleLabels]
    simp only [cons_append, nil_append, decodeName, ih, reverse_cons, hdigit _ hlow,
      hdigit _ hhigh]
    rw [Nat.div_add_mod, UInt8.ofNat_toNat]

lemma count_dot_flatMap {labels : UInt8 → List Char} {k : ℕ}
    (h : ∀ b, (labels b).count '.' = k) (bytes : List UInt8) :
    (bytes.flatMap labels).count '.' = k * bytes.length := by
  induction bytes with
  | nil => rfl
  | cons b bytes ih =>
    rw [flatMap_cons, count_append, h, ih, length_cons, Nat.mul_add_one, add_comm]

/-- Two labels for each byte are too many for an IPv4 address. -/
lemma name_ptrQuestion_ne {address : List UInt8} (h : address.length = 4) :
    (ptrQuestion address).name.toList ≠ reverseName address := by
  have hnibbles : ∀ b, (nibbleLabels b).count '.' = 2 := by
    have hdigit : ∀ n < 16, Nat.digitChar n ≠ '.' := by decide
    intro b
    have hlow := hdigit (b.toNat % 16) (Nat.mod_lt _ (by decide))
    have hhigh := hdigit (b.toNat / 16) (Nat.div_lt_of_lt_mul b.toNat_lt)
    simp [nibbleLabels, hlow, hhigh]
  have hdecimal : ∀ b : UInt8, (Nat.toDigits 10 b.toNat ++ ['.']).count '.' = 1 := by
    have hdigits : ∀ n < 256, (Nat.toDigits 10 n).count '.' = 0 := by decide +kernel
    intro b
    rw [count_append, hdigits b.toNat b.toNat_lt]
    rfl
  intro heq
  have hcount := congrArg (count '.') heq
  rw [toList_name_ptrQuestion (ne_nil_of_length_pos (by omega)), reverseName, if_pos h, if_pos h,
    count_append, count_append, count_dot_flatMap hnibbles, count_dot_flatMap hdecimal,
    length_reverse, h] at hcount
  omega

/-- The name is the standard one exactly for an IPv6 address, and names are read back. -/
theorem ptrQuestion_name {address : List UInt8} (h : address.length = 4 ∨ address.length = 16) :
    ((ptrQuestion address).name.toList = reverseName address ↔ address.length = 16) ∧
      decodeName (ptrQuestion address).name.toList = address ∧
      ∀ address', address'.length = 4 ∨ address'.length = 16 →
        (ptrQuestion address').name = (ptrQuestion address).name → address' = address := by
  have hdecode {address : List UInt8} (h : address.length = 4 ∨ address.length = 16) :
      decodeName (ptrQuestion address).name.toList = address := by
    rw [toList_name_ptrQuestion (ne_nil_of_length_pos (by omega)), decodeName_append,
      reverse_reverse]
    split_ifs <;> rfl
  refine ⟨⟨fun hname => ?_, fun hsix => ?_⟩, hdecode h, fun address' h' heq => ?_⟩
  · exact h.resolve_left fun hfour => name_ptrQuestion_ne hfour hname
  · rw [toList_name_ptrQuestion (ne_nil_of_length_pos (by omega)), reverseName, hsix]
    rfl
  · rw [← hdecode h', heq, hdecode h]

theorem ptrQuestion_name_loopback :
    let address : List UInt8 := replicate 15 0 ++ [1]
    ((ptrQuestion address).name.toList = reverseName address ↔ address.length = 16) ∧
      decodeName (ptrQuestion address).name.toList = address ∧
      ∀ address', address'.length = 4 ∨ address'.length = 16 →
        (ptrQuestion address').name = (ptrQuestion address).name → address' = address :=
  ptrQuestion_name (.inr rfl)

/-- The labels of an IPv4 address are nibbles. -/
theorem ptrQuestion_name_ipv4 :
    (ptrQuestion [192, 0, 2, 1]).name = "1.0.2.0.0.0.0.c.in-addr.arpa." ∧
      reverseName [192, 0, 2, 1] = "1.2.0.192.in-addr.arpa.".toList := by
  decide +kernel

end SingBox.Resolved

import SingBox.TLSFragment.Index

/-!
# Where the server name is

The first part says on the bytes what is accepted of a ClientHello up to an extension; the parser of
the fingerprint asks the same. The second part follows the loop over the extensions. It adds the
header to the length of an extension in 16 bits, while its index grows by the whole sum, so after an
overflow the index is ahead of the place (`shift`), and an extension of 2¹⁶ - 4 bytes leads back to
itself. The length of the name is not that of the rest of the extension but the number before it.
`indexTLSServerName_slice` is exact: under which bytes the function ends with the right answer.
-/

namespace SingBox.TLSFragment
open Slice List

/-! ### The layout of a ClientHello -/

def IsTLSVersion (version : ℕ) : Prop :=
  version &&& tlsVersionBitmask = 0x0300 ∨ version = tls13

/-- The handshake is accepted up to the compression methods, and behind them is this. -/
structure HandshakeOf (hs exs : List UInt8) : Prop where
  header : 39 ≤ hs.length
  handshakeType : hs[0]? = some handshakeType
  length : ∃ b1 b2 b3, hs[1]? = some b1 ∧ hs[2]? = some b2 ∧ hs[3]? = some b3 ∧
    hs.length = 4 + (b1.toNat * 65536 + b2.toNat * 256 + b3.toNat)
  version : ∃ version, uint16At hs 4 = some version ∧ IsTLSVersion version
  rest : ∃ sessionIDLen cs csLen compressMethodLen, hs[38]? = some sessionIDLen ∧
    slice hs (39 + sessionIDLen.toNat) hs.length = some cs ∧ uint16At cs 0 = some csLen ∧
    cs[2 + csLen]? = some compressMethodLen ∧
    slice cs (2 + csLen + 1 + compressMethodLen.toNat) cs.length = some exs

/-- The extensions behind their length, which is not more than there is. -/
def Listed (exs list : List UInt8) : Prop :=
  ∃ n, uint16At exs 0 = some n ∧ slice exs extensionsHeaderLen exs.length = some list ∧
    n ≤ list.length

/-- The list begins with this extension. -/
structure Begins (exs : List UInt8) (exType : ℕ) (sex rest : List UInt8) : Prop where
  exType : uint16At exs 0 = some exType
  exLen : uint16At exs 2 = some sex.length
  data : slice exs extensionHeaderLen (extensionHeaderLen + sex.length) = some sex
  rest : slice exs (4 + sex.length) exs.length = some rest

variable {b exs sex rest payload : List UInt8} {exType : ℕ}

lemma lt_of_uint16At {i n : ℕ} (h : uint16At b i = some n) : i + 1 < b.length := by
  by_contra hle
  have hnone : b[i + 1]? = none := getElem?_eq_none (by omega)
  cases hi : b[i]? <;> simp [uint16At, hnone, hi] at h

lemma length_of_slice {i k : ℕ} (h : slice b i k = some exs) :
    i ≤ k ∧ k ≤ b.length ∧ exs.length = k - i := by
  unfold slice at h
  split_ifs at h with hbounds
  cases h
  refine ⟨hbounds.1, hbounds.2, ?_⟩
  rw [length_drop, length_take]
  omega

lemma isTLSVersion_iff {version : ℕ} : IsTLSVersion version ↔
    ¬(version &&& tlsVersionBitmask ≠ 0x0300 ∧ version ≠ tls13) := by
  unfold IsTLSVersion
  tauto

lemma Begins.length_le (h : Begins exs exType sex rest) : 4 + sex.length ≤ exs.length :=
  (length_of_slice h.data).2.1

lemma Begins.unique {exType' : ℕ} {sex' rest' : List UInt8} (h : Begins exs exType sex rest)
    (h' : Begins exs exType' sex' rest') : exType = exType' ∧ sex = sex' := by
  have hlength : sex.length = sex'.length := Option.some.inj (h.exLen.symm.trans h'.exLen)
  refine ⟨Option.some.inj (h.exType.symm.trans h'.exType), ?_⟩
  have hdata := h.data
  rw [hlength] at hdata
  exact Option.some.inj (hdata.symm.trans h'.data)

lemma exists_begins {exLen : ℕ} (hexLen : uint16At exs 2 = some exLen)
    (hle : 4 + exLen ≤ exs.length) : ∃ exType sex rest, Begins exs exType sex rest := by
  obtain ⟨exType, htype, -⟩ := returns_uint16At (b := exs) (i := 0) (by omega)
  obtain ⟨sex, hsex, hlength⟩ := returns_slice (b := exs) (Nat.le_add_right 4 exLen) hle
  obtain ⟨rest, hrest, -⟩ := returns_slice_length hle
  obtain rfl : sex.length = exLen := by omega
  exact ⟨exType, sex, rest, htype, hexLen, hsex, hrest⟩

/-- The record and the handshake are accepted, and these are the extensions. -/
structure Opens (payload list : List UInt8) : Prop where
  contentType : payload[0]? = some contentType
  segmentLen : ∃ n, uint16At payload 3 = some n ∧ recordLayerHeaderLen + n ≤ payload.length
  handshake : ∃ hs exs, slice payload recordLayerHeaderLen payload.length = some hs ∧
    HandshakeOf hs exs ∧ Listed exs list

/-! ### The way of the loop -/

/-- The loop comes from one place to another. The index is ahead of the first by `shift`, and of the
second by what has overflowed in addition. -/
inductive Comes : List UInt8 → ℕ → List UInt8 → ℕ → Prop
  | here {exs shift} : Comes exs shift exs shift
  | there {exs shift exType sex rest exs' shift'} (h : Begins exs exType sex rest)
    (hne : exType ≠ sniExtensionType) (h' : Comes (exs.drop ((4 + sex.length) % 2 ^ 16))
      (shift + (4 + sex.length) / 2 ^ 16 * 2 ^ 16) exs' shift') : Comes exs shift exs' shift'

/-- The extension holds a name of a host. -/
structure IsHostname (sex : List UInt8) : Prop where
  header : sniExtensionHeaderLen ≤ sex.length
  sniType : sex[2]? = some sniNameDNSHostnameType

/-- The loop gets past an extension, and a name has the length that stands before it. Where the
index is ahead, the same name must stand there too. -/
structure ExtensionFits (payload exs : List UInt8) (shift exType : ℕ) (sex : List UInt8) :
    Prop where
  ends : exType ≠ sniExtensionType → 4 + sex.length ≠ 2 ^ 16
  length : exType = sniExtensionType → IsHostname sex →
    uint16At sex 3 = some (sex.length - sniExtensionHeaderLen)
  place : exType = sniExtensionType → IsHostname sex → shift ≠ 0 →
    slice payload (payload.length - exs.length + 9 + shift)
      (payload.length - exs.length + 4 + sex.length + shift) = some (sex.drop 5)

/-- Every extension fits that the loop comes to. -/
def Fits (payload list : List UInt8) (shift : ℕ) : Prop :=
  ∀ exs shift', Comes list shift exs shift' → ∀ exType sex rest, Begins exs exType sex rest →
    ExtensionFits payload exs shift' exType sex

variable {shift : ℕ}

lemma fits_of_end (h : ¬∃ exType sex rest, Begins exs exType sex rest) :
    Fits payload exs shift := by
  intro exs' shift' hcomes exType sex rest hbegins
  cases hcomes with
  | here => exact absurd ⟨exType, sex, rest, hbegins⟩ h
  | there hfirst => exact absurd ⟨_, _, _, hfirst⟩ h

/-- The name ends the loop, so it alone must fit. -/
lemma Begins.fits_sni (h : Begins exs sniExtensionType sex rest) :
    Fits payload exs shift ↔ ExtensionFits payload exs shift sniExtensionType sex := by
  refine ⟨fun hfits => hfits exs shift .here _ _ _ h, fun hfits exs' shift' hcomes => ?_⟩
  intro exType' sex' rest' hbegins
  cases hcomes with
  | here =>
    obtain ⟨rfl, rfl⟩ := h.unique hbegins
    exact hfits
  | there hfirst hne => exact absurd (h.unique hfirst).1.symm hne

lemma Begins.fits_next (h : Begins exs exType sex rest) (hne : exType ≠ sniExtensionType) :
    Fits payload exs shift ↔ 4 + sex.length ≠ 2 ^ 16 ∧
      Fits payload (exs.drop ((4 + sex.length) % 2 ^ 16))
        (shift + (4 + sex.length) / 2 ^ 16 * 2 ^ 16) := by
  constructor
  · intro hfits
    refine ⟨(hfits exs shift .here _ _ _ h).ends hne, fun exs' shift' hcomes => ?_⟩
    exact hfits exs' shift' (.there h hne hcomes)
  · rintro ⟨hends, hfits⟩ exs' shift' hcomes exType' sex' rest' hbegins
    cases hcomes with
    | here =>
      obtain ⟨rfl, rfl⟩ := h.unique hbegins
      exact ⟨fun _ => hends, fun heq => absurd heq hne, fun heq => absurd heq hne⟩
    | there hfirst _ hcomes =>
      obtain ⟨rfl, rfl⟩ := h.unique hfirst
      exact hfits exs' shift' hcomes exType' sex' rest' hbegins

/-! ### One round -/

variable {fuel currentIndex start : ℕ}

lemma indexExtensions_end (h : ¬∃ exType sex rest, Begins exs exType sex rest) :
    indexExtensions (fuel + 1) currentIndex exs = some none := by
  rw [indexExtensions]
  split_ifs with hempty hheader
  · rfl
  · rfl
  rw [extensionHeaderLen] at hheader
  obtain ⟨exType, htype, -⟩ := returns_uint16At (b := exs) (i := 0) (by omega)
  obtain ⟨exLen, hexLen, -⟩ := returns_uint16At (b := exs) (i := 2) (by omega)
  have hshort : exs.length < extensionHeaderLen + exLen := by
    by_contra hle
    exact h (exists_begins hexLen (Nat.le_of_not_lt hle))
  rw [htype, hexLen]
  exact if_pos hshort

/-- What the loop does with a complete extension. -/
lemma Begins.indexExtensions_eq (h : Begins exs exType sex rest) :
    indexExtensions (fuel + 1) currentIndex exs =
      if exType = sniExtensionType then
        if sex.length < sniExtensionHeaderLen then some none
        else do
          let sniType ← sex[2]?
          if sniType ≠ sniNameDNSHostnameType then some none
          else do
            let sniLen ← uint16At sex 3
            let sex ← slice sex sniExtensionHeaderLen sex.length
            some (some {
              index := currentIndex + extensionHeaderLen + sniExtensionHeaderLen
              length := sniLen
              serverName := sex })
      else indexExtensions fuel (currentIndex + 4 + sex.length)
        (exs.drop ((4 + sex.length) % 2 ^ 16)) := by
  have hle := h.length_le
  have hmod := Nat.mod_le (4 + sex.length) (2 ^ 16)
  have hrest : slice exs ((4 + sex.length) % 2 ^ 16) exs.length =
      some (exs.drop ((4 + sex.length) % 2 ^ 16)) := by
    rw [slice_eq (by omega) le_rfl, take_length]
  rw [indexExtensions, if_neg (by omega), if_neg (by rw [extensionHeaderLen]; omega), h.exType,
    h.exLen]
  change (if exs.length < 4 + sex.length then _ else _) = _
  rw [if_neg (by omega), h.data]
  change (if exType = sniExtensionType then _ else _) = _
  rw [hrest]
  rfl

/-- What is said of a name that is found: of its index, counted from `start`, and its length. -/
def At (Q : ℕ → GoString → ℕ → Prop) (start : ℕ) (found : Option MyServerName) : Prop :=
  ∀ serverName ∈ found, Q (start + serverName.index) serverName.serverName serverName.length

/-- The name is at the index, and the length is that of the name. -/
def IsName (payload : List UInt8) (index : ℕ) (name : GoString) (length : ℕ) : Prop :=
  slice payload index (index + name.length) = some name ∧ length = name.length

variable {Q : ℕ → GoString → ℕ → Prop}

lemma returns_none : Returns (some none) (At Q start) := .of_some nofun

/-- The name is in the payload behind the two headers. -/
lemma Begins.slice_name (h : Begins exs exType sex rest) (hsuffix : exs <:+ payload)
    (hheader : 5 ≤ sex.length) :
    slice payload (payload.length - exs.length + 9)
      (payload.length - exs.length + (4 + sex.length)) = some (sex.drop 5) := by
  obtain ⟨before, rfl⟩ := hsuffix
  have hle := h.length_le
  have hdata := h.data
  rw [extensionHeaderLen, slice_eq (Nat.le_add_right _ _) hle] at hdata
  rw [length_append, Nat.add_sub_cancel_right]
  refine slice_drop (by rw [length_append]; omega) ?_
  have hname := congrArg (drop 5) (Option.some.inj hdata)
  rw [drop_drop] at hname
  rw [drop_left, slice_eq (by omega) hle, ← hname]

lemma Begins.returns_sni (h : Begins exs sniExtensionType sex rest) (hsuffix : exs <:+ payload)
    (hindex : start + currentIndex = payload.length - exs.length + shift) :
    Returns (indexExtensions (fuel + 1) currentIndex exs) (At (IsName payload) start) ↔
      ExtensionFits payload exs shift sniExtensionType sex := by
  have hconst : sniExtensionHeaderLen = 5 ∧ extensionHeaderLen = 4 := ⟨rfl, rfl⟩
  rw [h.indexExtensions_eq, if_pos rfl]
  have hother : ¬IsHostname sex → ExtensionFits payload exs shift sniExtensionType sex :=
    fun hnot => ⟨nofun, fun _ hhost => absurd hhost hnot, fun _ hhost => absurd hhost hnot⟩
  by_cases hheader : sex.length < sniExtensionHeaderLen
  · rw [if_pos hheader]
    exact iff_of_true returns_none (hother fun hhost => Nat.not_le.2 hheader hhost.header)
  rw [if_neg hheader]
  obtain ⟨sniType, hsniType, -⟩ := returns_getElem? (b := sex) (i := 2) (by omega)
  obtain ⟨sniLen, hsniLen, -⟩ := returns_uint16At (b := sex) (i := 3) (by omega)
  obtain ⟨name, hname, rfl⟩ := returns_slice_length (Nat.le_of_not_lt hheader)
  rw [hsniType, hsniLen, hname]
  change Returns (if sniType ≠ sniNameDNSHostnameType then _ else _) _ ↔ _
  by_cases hdns : sniType ≠ sniNameDNSHostnameType
  · rw [if_pos hdns]
    refine iff_of_true returns_none (hother fun hhost => hdns ?_)
    exact Option.some.inj (hsniType.symm.trans hhost.sniType)
  rw [if_neg hdns]
  have hhost : IsHostname sex := ⟨Nat.le_of_not_lt hheader, by rw [hsniType, not_not.1 hdns]⟩
  have hlength : (sex.drop sniExtensionHeaderLen).length = sex.length - sniExtensionHeaderLen :=
    length_drop
  have hplace : start + (currentIndex + extensionHeaderLen + sniExtensionHeaderLen) =
      payload.length - exs.length + 9 + shift := by omega
  have hend : start + (currentIndex + extensionHeaderLen + sniExtensionHeaderLen) +
      (sex.drop sniExtensionHeaderLen).length =
        payload.length - exs.length + 4 + sex.length + shift := by omega
  constructor
  · rintro ⟨_, ⟨⟩, hnames⟩
    obtain ⟨hslice, hsniEq⟩ := hnames _ rfl
    dsimp only at hslice hsniEq
    rw [hend, hplace] at hslice
    exact ⟨nofun, fun _ _ => by rw [hsniLen, hsniEq, hlength], fun _ _ _ => hslice⟩
  · intro hfits
    refine .of_some ?_
    rintro _ ⟨⟩
    unfold IsName
    refine ⟨?_, ?_⟩
    · rw [hend, hplace]
      obtain rfl | hshift := Nat.eq_zero_or_pos shift
      · rw [add_zero, add_zero, add_assoc _ 4]
        exact h.slice_name hsuffix (Nat.le_of_not_lt hheader)
      · exact hfits.place rfl hhost hshift.ne'
    · rw [hlength]
      exact Option.some.inj (hsniLen.symm.trans (hfits.length rfl hhost))

/-! ### The whole function -/

/-- The extension leads back to itself. -/
lemma Begins.indexExtensions_stuck (h : Begins exs exType sex rest)
    (hne : exType ≠ sniExtensionType) (hlen : 4 + sex.length = 2 ^ 16) (fuel currentIndex : ℕ) :
    indexExtensions fuel currentIndex exs = none := by
  induction fuel generalizing currentIndex with
  | zero => rfl
  | succ fuel ih =>
    rw [h.indexExtensions_eq, if_neg hne, hlen, Nat.mod_self, drop_zero]
    exact ih _

lemma returns_indexExtensions_iff (hfuel : exs.length < fuel) (hsuffix : exs <:+ payload)
    (hindex : start + currentIndex = payload.length - exs.length + shift) :
    Returns (indexExtensions fuel currentIndex exs) (At (IsName payload) start) ↔
      Fits payload exs shift := by
  induction fuel generalizing currentIndex exs shift with
  | zero => omega
  | succ fuel ih =>
    by_cases hbegins : ∃ exType sex rest, Begins exs exType sex rest
    · obtain ⟨exType, sex, rest, h⟩ := hbegins
      by_cases htype : exType = sniExtensionType
      · subst htype
        rw [h.fits_sni]
        exact h.returns_sni hsuffix hindex
      rw [h.fits_next htype]
      by_cases hstuck : 4 + sex.length = 2 ^ 16
      · rw [h.indexExtensions_stuck htype hstuck]
        exact iff_of_false (fun ⟨_, hnone, _⟩ => nomatch hnone) fun hfits => hfits.1 hstuck
      -- The rest is shorter also after an overflow, and the index is ahead by so much more.
      have hle := h.length_le
      have hsuffix' := (drop_suffix ((4 + sex.length) % 2 ^ 16) exs).trans hsuffix
      have hlength := hsuffix.length_le
      have hmod : 0 < (4 + sex.length) % 2 ^ 16 := by
        obtain ⟨n, hn, hlt⟩ := returns_uint16At (b := exs) (i := 2) (by omega)
        have hn : sex.length = n := Option.some.inj (h.exLen.symm.trans hn)
        omega
      rw [h.indexExtensions_eq, if_neg htype, and_iff_right hstuck]
      refine ih (by rw [length_drop]; omega) hsuffix' ?_
      rw [length_drop]
      omega
    · rw [indexExtensions_end hbegins]
      exact iff_of_true returns_none (fits_of_end hbegins)

lemma returns_indexTLSServerNameFromExtensions_iff :
    Returns (indexTLSServerNameFromExtensions exs) (At Q start) ↔ ∀ list, Listed exs list →
      Returns (indexExtensions (list.length + 1) extensionsHeaderLen list) (At Q start) := by
  have hconst : extensionsHeaderLen = 2 := rfl
  rw [indexTLSServerNameFromExtensions]
  by_cases hheader : exs.length < extensionsHeaderLen
  · rw [if_pos hheader, ite_self]
    refine iff_of_true returns_none ?_
    rintro list ⟨n, hn, -, -⟩
    have hlt := lt_of_uint16At hn
    omega
  rw [if_neg (by omega), if_neg hheader]
  obtain ⟨exsLen, hexsLen, -⟩ := returns_uint16At (b := exs) (i := 0) (by omega)
  obtain ⟨list, hlist, rfl⟩ := returns_slice_length (Nat.le_of_not_lt hheader)
  rw [Returns.read_iff hexsLen, Returns.read_iff hlist]
  by_cases hshort : (exs.drop extensionsHeaderLen).length < exsLen
  · rw [if_pos hshort]
    refine iff_of_true returns_none ?_
    rintro list ⟨n, hn, hlist', hle⟩
    obtain rfl := Option.some.inj (hlist.symm.trans hlist')
    obtain rfl := Option.some.inj (hexsLen.symm.trans hn)
    omega
  rw [if_neg hshort]
  constructor
  · rintro hreturns list ⟨n, hn, hlist', hle⟩
    rwa [← Option.some.inj (hlist.symm.trans hlist')]
  · exact fun h => h _ ⟨exsLen, hexsLen, hlist, Nat.le_of_not_lt hshort⟩

/-- The callers add their own position to the index. -/
lemma returns_moved_iff {m : Option (Option MyServerName)} (n : ℕ)
    (listIndex : MyServerName → ℕ) :
    Returns (do match ← m with
      | none => some none
      | some serverName => some (some { serverName with
          index := serverName.index + n
          extensionsListLengthIndex := listIndex serverName })) (At Q start) ↔
      Returns m (At Q (start + n)) := by
  rcases m with _ | _ | serverName
  · simp [Returns]
  · exact iff_of_true returns_none returns_none
  · simp [Returns, At, add_assoc, add_comm n]

/-- A handshake that is not accepted has no name. -/
lemma returns_none_of_not_handshakeOf {hs : List UInt8} (hnot : ∀ exs, ¬HandshakeOf hs exs) :
    Returns (indexTLSServerNameFromHandshake hs) (At Q start) := by
  have hsum : handshakeHeaderLen + randomDataLen + sessionIDHeaderLen = 39 := rfl
  have hconst : cipherSuiteHeaderLen = 2 ∧ compressMethodHeaderLen = 1 := ⟨rfl, rfl⟩
  refine .ite (fun _ => returns_none) fun hheader => ?_
  refine (returns_getElem? (by omega)).bind fun typ htype => .ite (fun _ => returns_none) ?_
  refine fun hshake => (returns_getElem? (by omega)).bind fun b1 h1 => ?_
  refine (returns_getElem? (by omega)).bind fun b2 h2 => ?_
  refine (returns_getElem? (by omega)).bind fun b3 h3 => ?_
  refine (returns_slice (by omega) le_rfl).bind fun body hbody => .ite (fun _ => returns_none) ?_
  refine fun hlength => (returns_uint16At (by omega)).self.bind fun version hversion => ?_
  refine .ite (fun _ => returns_none) fun htls => ?_
  refine (returns_getElem? (by omega)).bind fun sessionIDLen hid => .ite (fun _ => returns_none) ?_
  refine fun hstart => (returns_slice (Nat.le_of_not_lt hstart) le_rfl).self.bind fun cs hcs => ?_
  refine .ite (fun _ => returns_none) fun hcipher => ?_
  refine (returns_uint16At (by omega)).self.bind fun csLen hcsLen => .ite (fun _ => returns_none) ?_
  refine fun hsuites => (returns_getElem? (by omega)).bind fun methods hmethods => ?_
  refine .ite (fun _ => returns_none) fun hcompress => ?_
  obtain ⟨exs, hexs, -⟩ := returns_slice_length (b := cs) (i := 2 + csLen + 1 + methods.toNat)
    (by omega)
  refine absurd ⟨by omega, htype.trans (congrArg some (not_not.1 hshake)),
    ⟨b1, b2, b3, h1, h2, h3, by omega⟩, ⟨version, hversion.1, isTLSVersion_iff.2 htls⟩,
    ⟨sessionIDLen, cs, csLen, methods, hid, hcs.1, hcsLen.1, hmethods, hexs⟩⟩ (hnot exs)

lemma HandshakeOf.suffix {hs : List UInt8} (h : HandshakeOf hs exs) :
    exs <:+ hs ∧ exs.length + 39 ≤ hs.length := by
  obtain ⟨sessionIDLen, cs, csLen, methods, -, hcs, -, -, hexs⟩ := h.rest
  obtain ⟨hstart, -, hlen⟩ := length_of_slice hcs
  obtain ⟨hstart', -, hlen'⟩ := length_of_slice hexs
  rw [slice_eq hstart le_rfl, take_length] at hcs
  rw [slice_eq hstart' le_rfl, take_length] at hexs
  refine ⟨?_, by omega⟩
  rw [← Option.some.inj hexs, ← Option.some.inj hcs]
  exact (drop_suffix _ _).trans (drop_suffix _ _)

lemma Listed.suffix {list : List UInt8} (h : Listed exs list) :
    list <:+ exs ∧ list.length + extensionsHeaderLen = exs.length := by
  obtain ⟨n, hn, hlist, -⟩ := h
  obtain ⟨hle, -, hlength⟩ := length_of_slice hlist
  rw [slice_eq hle le_rfl, take_length] at hlist
  refine ⟨?_, by omega⟩
  rw [← Option.some.inj hlist]
  exact drop_suffix _ _

lemma Opens.suffix {list : List UInt8} (h : Opens payload list) :
    list <:+ payload ∧ list.length + 46 ≤ payload.length := by
  have hconst : recordLayerHeaderLen = 5 ∧ extensionsHeaderLen = 2 := ⟨rfl, rfl⟩
  obtain ⟨hs, exs, hslice, hshake, hlisted⟩ := h.handshake
  obtain ⟨hle, -, hlength⟩ := length_of_slice hslice
  rw [slice_eq hle le_rfl, take_length] at hslice
  obtain rfl := Option.some.inj hslice
  obtain ⟨hexs, hexsLen⟩ := hshake.suffix
  obtain ⟨hlist, hlistLen⟩ := hlisted.suffix
  exact ⟨hlist.trans (hexs.trans (drop_suffix _ _)), by omega⟩

/-- The function goes on with the extensions of an accepted handshake. -/
lemma HandshakeOf.returns_iff {hs : List UInt8} (h : HandshakeOf hs exs) :
    Returns (indexTLSServerNameFromHandshake hs) (At Q start) ↔
      Returns (indexTLSServerNameFromExtensions exs)
        (At Q (start + (hs.length - exs.length))) := by
  obtain ⟨b1, b2, b3, h1, h2, h3, hbody⟩ := h.length
  obtain ⟨version, hversion, htls⟩ := h.version
  obtain ⟨sessionIDLen, cs, csLen, methods, hid, hcs, hsuites, hmethods, hexs⟩ := h.rest
  have hsum : handshakeHeaderLen + randomDataLen + sessionIDHeaderLen = 39 := rfl
  have hconst : cipherSuiteHeaderLen = 2 ∧ compressMethodHeaderLen = 1 := ⟨rfl, rfl⟩
  have hheader := h.header
  obtain ⟨hstart, -, hcsLen⟩ := length_of_slice hcs
  obtain ⟨hexsStart, -, hexsLen⟩ := length_of_slice hexs
  have hcsHeader := lt_of_uint16At hsuites
  have hslice : slice hs 4 hs.length = some (hs.drop 4) := by
    rw [slice_eq (by omega) le_rfl, take_length]
  have hall : slice hs (39 + sessionIDLen.toNat + (2 + csLen + 1 + methods.toNat)) hs.length =
      some exs := by
    rw [slice_eq hstart le_rfl, take_length] at hcs
    rw [← Option.some.inj hcs] at hexs
    have hdrop := slice_drop hstart hexs
    rwa [length_drop, Nat.add_sub_cancel' hstart] at hdrop
  have hindex : hs.length - exs.length =
      39 + sessionIDLen.toNat + (2 + csLen + 1 + methods.toNat) := by omega
  have hcheck : ¬(hs.drop 4).length ≠ b1.toNat * 65536 + b2.toNat * 256 + b3.toNat := by
    rw [length_drop]
    omega
  rw [hindex, indexTLSServerNameFromHandshake, if_neg (by rw [hsum]; omega),
    Returns.read_iff h.handshakeType, if_neg (not_not.2 rfl), Returns.read_iff h1,
    Returns.read_iff h2, Returns.read_iff h3, Returns.read_iff hslice, if_neg hcheck,
    Returns.read_iff hversion, if_neg (isTLSVersion_iff.1 htls), Returns.read_iff hid, hsum]
  dsimp only
  rw [if_neg (by omega), Returns.read_iff hcs, if_neg (by omega), Returns.read_iff hsuites,
    if_neg (by omega), hconst.1, Returns.read_iff hmethods, hconst.2, if_neg (by omega),
    Returns.read_iff hall]
  exact returns_moved_iff _ _

/-- The results are those of the loop over the extensions, if the payload is accepted up to them. -/
lemma returns_indexTLSServerName_iff (payload : List UInt8) :
    Returns (indexTLSServerName payload) (At Q 0) ↔ ∀ list, Opens payload list →
      Returns (indexExtensions (list.length + 1) extensionsHeaderLen list)
        (At Q (payload.length - list.length - extensionsHeaderLen)) := by
  have hconst : recordLayerHeaderLen = 5 := rfl
  rw [indexTLSServerName]
  by_cases hheader : payload.length < recordLayerHeaderLen
  · rw [if_pos hheader]
    exact iff_of_true returns_none fun list hopens => by have := hopens.suffix.2; omega
  obtain ⟨typ, htype, -⟩ := returns_getElem? (b := payload) (i := 0) (by omega)
  obtain ⟨segmentLen, hsegment, -⟩ := returns_uint16At (b := payload) (i := 3) (by omega)
  obtain ⟨hs, hslice, rfl⟩ := returns_slice_length (Nat.le_of_not_lt hheader)
  rw [if_neg hheader, Returns.read_iff htype]
  by_cases hcontent : typ ≠ contentType
  · rw [if_pos hcontent]
    refine iff_of_true returns_none fun list hopens => absurd ?_ hcontent
    exact Option.some.inj (htype.symm.trans hopens.contentType)
  rw [if_neg hcontent, Returns.read_iff hsegment]
  by_cases hshort : payload.length < recordLayerHeaderLen + segmentLen
  · rw [if_pos hshort]
    refine iff_of_true returns_none fun list hopens => ?_
    obtain ⟨n, hn, hle⟩ := hopens.segmentLen
    obtain rfl := Option.some.inj (hsegment.symm.trans hn)
    omega
  rw [if_neg hshort, Returns.read_iff hslice]
  refine (returns_moved_iff _ _).trans ?_
  -- An extension list of the handshake is one of the payload, at the same place.
  have hplace : ∀ exs list, HandshakeOf (payload.drop recordLayerHeaderLen) exs →
      Listed exs list → payload.length - list.length - extensionsHeaderLen =
        0 + recordLayerHeaderLen + ((payload.drop recordLayerHeaderLen).length - exs.length) := by
    intro exs list hshake hlisted
    have hlength := hlisted.suffix.2
    have hle := hshake.suffix.2
    rw [length_drop] at hle ⊢
    omega
  constructor
  · rintro hreturns list ⟨-, -, hs, exs, hslice', hshake, hlisted⟩
    obtain rfl := Option.some.inj (hslice.symm.trans hslice')
    rw [hshake.returns_iff, returns_indexTLSServerNameFromExtensions_iff] at hreturns
    rw [hplace exs list hshake hlisted]
    exact hreturns list hlisted
  · intro hreturns
    by_cases hexists : ∃ exs, HandshakeOf (payload.drop recordLayerHeaderLen) exs
    · obtain ⟨exs, hshake⟩ := hexists
      rw [hshake.returns_iff, returns_indexTLSServerNameFromExtensions_iff]
      intro list hlisted
      rw [← hplace exs list hshake hlisted]
      exact hreturns list ⟨htype.trans (congrArg some (not_not.1 hcontent)),
        ⟨segmentLen, hsegment, Nat.le_of_not_lt hshort⟩, ⟨_, exs, hslice, hshake, hlisted⟩⟩
    · exact returns_none_of_not_handshakeOf fun exs h => hexists ⟨exs, h⟩

/-- A complete record has a name within it, if any. -/
lemma returns_indexTLSServerName (h : Complete payload) :
    Returns (indexTLSServerName payload) (Found (recordLayerHeaderLen + 1) payload.length) := by
  have hconst : recordLayerHeaderLen = 5 ∧ extensionsHeaderLen = 2 := ⟨rfl, rfl⟩
  have hlength := h.length_lt
  have hloop : Returns (indexTLSServerName payload) (At (fun index name _ =>
      recordLayerHeaderLen + 1 ≤ index ∧ index + name.length ≤ payload.length) 0) := by
    refine (returns_indexTLSServerName_iff payload).2 fun list hopens => ?_
    have hle := hopens.suffix.2
    refine (returns_indexExtensions (Nat.lt_succ_self _) (by omega)).imp ?_
    intro found hfound serverName hname
    have hbounds := hfound serverName hname
    omega
  refine hloop.imp fun found hfound serverName hname => ?_
  have hbounds := hfound serverName hname
  rwa [zero_add] at hbounds

/-- The function returns, with a name only at its index and with its length, exactly if every
extension fits that it comes to. -/
theorem indexTLSServerName_slice (payload : List UInt8) :
    Returns (indexTLSServerName payload) (fun found => ∀ serverName ∈ found,
      slice payload serverName.index (serverName.index + serverName.serverName.length) =
        some serverName.serverName ∧ serverName.length = serverName.serverName.length) ↔
      ∀ list, Opens payload list → Fits payload list 0 := by
  have hat : ∀ found, At (IsName payload) 0 found ↔ ∀ serverName ∈ found,
      slice payload serverName.index (serverName.index + serverName.serverName.length) =
        some serverName.serverName ∧ serverName.length = serverName.serverName.length := by
    simp only [At, IsName, zero_add, implies_true]
  simp only [← hat]
  refine (returns_indexTLSServerName_iff payload).trans (forall_congr' fun list => ?_)
  refine imp_congr_right fun hopens => ?_
  have hconst : extensionsHeaderLen = 2 := rfl
  obtain ⟨hsuffix, hle⟩ := hopens.suffix
  exact returns_indexExtensions_iff (Nat.lt_succ_self _) hsuffix (by omega)

def helloOf (length : UInt8) : List UInt8 :=
  [22, 3, 1, 0, 54, 1, 0, 0, 50, 3, 3] ++ replicate 32 0 ++
    [0, 0, 0, 0, 0, 10, 0, 0, 0, 6, 0, 4, 0, 0, length, 97]

example : indexTLSServerName (helloOf 1) = some (some ⟨58, 1, [97], 47⟩) := by decide +kernel

def overflowing : List UInt8 := [0, 1, 0xff, 0xfc] ++ replicate 65532 0

lemma begins_overflowing : Begins overflowing 1 (replicate 65532 0) [] := by
  have hlength : overflowing.length = 65536 := by
    rw [overflowing, length_append, length_replicate]
    rfl
  refine ⟨rfl, by rw [length_replicate]; rfl, ?_, ?_⟩
  · have hdata : slice overflowing 4 overflowing.length = some (replicate 65532 0) :=
      slice_append rfl
    rw [hlength] at hdata
    rw [length_replicate]
    exact hdata
  · rw [length_replicate, hlength, slice_eq le_rfl hlength.ge]
    exact congrArg some (drop_eq_nil_of_le (by rw [length_take]; omega))

/-- The length is not that of the name; the loop need not end. -/
theorem not_indexTLSServerName_slice :
    indexTLSServerName (helloOf 9) = some (some ⟨58, 9, [97], 47⟩) ∧
      ∀ fuel, indexExtensions fuel extensionsHeaderLen overflowing = none :=
  ⟨by decide +kernel, fun fuel => begins_overflowing.indexExtensions_stuck (by decide)
    (by rw [length_replicate]; rfl) fuel _⟩

end SingBox.TLSFragment

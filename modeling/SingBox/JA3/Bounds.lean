import SingBox.JA3.Message
import SingBox.TLSFragment.Place

/-!
# The bounds of the JA3 parser

The lengths of the lists in the supported versions and the signature algorithms are not checked.
`ListsFit` asks for them in the extensions that the parser comes to, and is exact.
-/

namespace SingBox.JA3
open Slice TLSFragment List

/-! ### What the parser comes to

The conditions are on the bytes. Each stage of the parser hands a part of them to the next one if
its own checks pass.
-/

/-- The header of the record is accepted, and the handshake is this. -/
structure RecordOf (segment hs : List UInt8) : Prop where
  header : recordLayerHeaderLen ≤ segment.length
  contentType : segment[0]? = some contentType
  version : ∃ version, uint16At segment 1 = some version ∧ IsTLSVersion version
  body : ∃ n, uint16At segment 3 = some n ∧
    slice segment recordLayerHeaderLen (recordLayerHeaderLen + n) = some hs

/-- What is asked of an extension, apart from the lengths of the two lists. -/
def Accepted (exType : ℕ) (sex : List UInt8) : Prop :=
  if exType = sniExtensionType then
    sex[2]? = some sniNameDNSHostnameType ∧ uint16At sex 3 = some (sex.length - 5)
  else if exType = ecExtensionType then uint16At sex 0 = some (sex.length - 2)
  else if exType = ecpfExtensionType then sex[0]?.map UInt8.toNat = some (sex.length - 1)
  else if exType = versionExtensionType then 1 ≤ sex.length
  else if exType = signatureAlgorithmsExtensionType then 2 ≤ sex.length
  else True

/-- The loop comes to this extension, since all extensions before it are accepted. -/
inductive Reached : List UInt8 → ℕ → List UInt8 → Prop
  | here {exs exType sex rest} (h : Begins exs exType sex rest) : Reached exs exType sex
  | there {exs exType sex rest exType' sex'} (h : Begins exs exType sex rest)
    (haccepted : Accepted exType sex) (h' : Reached rest exType' sex') : Reached exs exType' sex'

/-- The list has the length that stands before it. -/
def ListFits (exType : ℕ) (sex : List UInt8) : Prop := (exType = versionExtensionType →
    ∀ n, sex[0]? = some n → 1 + 2 * ((n.toNat + 1) / 2) ≤ sex.length) ∧
  (exType = signatureAlgorithmsExtensionType →
    ∀ n, uint16At sex 0 = some n → 2 + 2 * ((n + 1) / 2) ≤ sex.length)

def ExtensionsFit (exs : List UInt8) : Prop :=
  ∀ exType sex, Reached exs exType sex → ListFits exType sex

/-- The two lists have their lengths in every extension that the parser comes to. -/
def ListsFit (payload : List UInt8) : Prop :=
  ∀ hs exs list, RecordOf payload hs → HandshakeOf hs exs → Listed exs list → ExtensionsFit list

variable {b exs sex : List UInt8} {exType : ℕ} (j : ClientHello)

/-! ### Single extensions -/

/-- The parser returns, and without an error exactly under the condition. -/
def Decides (m : Parser ClientHello) (accepted : Prop) : Prop :=
  Ends m fun r => (∃ j, r = .ok j) ↔ accepted

lemma decides_error {e : ParseError} {accepted : Prop} (h : ¬accepted) :
    (∃ j, (.error e : Except ParseError ClientHello) = .ok j) ↔ accepted :=
  iff_of_false nofun h

lemma decides_pure {accepted : Prop} (h : accepted) : Decides (pure j) accepted :=
  .pure (iff_of_true ⟨j, rfl⟩ h)

lemma decides_parseServerName : Decides (parseServerName j sex)
    (sex[2]? = some sniNameDNSHostnameType ∧ uint16At sex 3 = some (sex.length - 5)) := by
  unfold parseServerName
  by_cases hlen : sex.length < 5
  · refine .check_error hlen (decides_error fun h => ?_)
    have hlt := lt_of_uint16At h.2
    omega
  refine .check hlen (.lift_bind (returns_byteAt (by omega)) fun sniType htype => ?_)
  refine .lift_bind (returns_uint16At (by omega)).self fun sniLen hsni => ?_
  refine .lift_bind (returns_slice_length (Nat.le_of_not_lt hlen)) fun name hname => ?_
  have hlength : name.length = sex.length - 5 := by rw [hname, length_drop]; rfl
  by_cases hne : name.length ≠ sniLen
  · refine .check_error hne (decides_error fun h => hne ?_)
    rw [hlength]
    exact Option.some.inj (h.2.symm.trans hsni.1)
  refine .check hne ?_
  by_cases hhost : sniType ≠ sniNameDNSHostnameType
  · exact .check_error hhost (decides_error fun h => hhost
      (Option.some.inj (htype.symm.trans h.1)))
  · refine .check hhost (decides_pure _ ⟨htype.trans (congrArg some (not_not.1 hhost)), ?_⟩)
    rw [hsni.1, ← hlength, not_not.1 hne]

lemma decides_parseSupportedGroups :
    Decides (parseSupportedGroups j sex) (uint16At sex 0 = some (sex.length - 2)) := by
  unfold parseSupportedGroups
  by_cases hlen : sex.length < 2
  · refine .check_error hlen (decides_error fun h => ?_)
    have hlt := lt_of_uint16At h
    omega
  refine .check hlen (.lift_bind (returns_uint16At (by omega)).self fun ecsLen hecs => ?_)
  refine .lift_bind (returns_slice_length (Nat.le_of_not_lt hlen)) fun curves hcurves => ?_
  have hlength : curves.length = sex.length - 2 := by rw [hcurves, length_drop]; rfl
  by_cases hne : curves.length ≠ ecsLen
  · refine .check_error hne (decides_error fun h => hne ?_)
    rw [hlength]
    exact Option.some.inj (h.symm.trans hecs.1)
  refine .check hne (.lift_bind (returns_uint16s (by omega)) fun _ _ => decides_pure _ ?_)
  rw [hecs.1, ← hlength, not_not.1 hne]

lemma decides_parseECPointFormats : Decides (parseECPointFormats j sex)
    (sex[0]?.map UInt8.toNat = some (sex.length - 1)) := by
  unfold parseECPointFormats
  by_cases hlen : sex.length < 1
  · have hnil : sex = [] := length_eq_zero_iff.1 (by omega)
    exact .check_error hlen (decides_error (by simp [hnil]))
  refine .check hlen (.lift_bind (returns_byteAt (by omega)) fun ecpfsLen hbyte => ?_)
  refine .lift_bind (returns_slice_length (Nat.le_of_not_lt hlen)) fun formats hformats => ?_
  have hlength : formats.length = sex.length - 1 := by rw [hformats, length_drop]; rfl
  rw [hbyte, Option.map_some, Option.some_inj, ← hlength]
  by_cases hne : formats.length ≠ ecpfsLen.toNat
  · exact .check_error hne (decides_error fun h => hne h.symm)
  refine .check hne ?_
  have hbytes : ∀ i ∈ range ecpfsLen.toNat, Returns (byteAt formats i) fun _ => True := by
    intro i hi
    have hlt := mem_range.1 hi
    exact (returns_byteAt (by omega)).imp fun _ _ => trivial
  exact .bind (Ends.mapM_lift hbytes) fun _ _ => decides_pure _ (not_not.1 hne).symm

lemma decides_parseSupportedVersions (h : ListFits versionExtensionType sex) :
    Decides (parseSupportedVersions j sex) (1 ≤ sex.length) := by
  unfold parseSupportedVersions
  by_cases hlen : sex.length < 1
  · exact .check_error hlen (decides_error (by omega))
  refine .check hlen (.lift_bind (returns_byteAt (by omega)) fun versionsLen hversions => ?_)
  have hfits := h.1 rfl versionsLen hversions
  exact .lift_bind (returns_uint16s hfits) fun _ _ => decides_pure _ (by omega)

lemma decides_parseSignatureAlgorithms (h : ListFits signatureAlgorithmsExtensionType sex) :
    Decides (parseSignatureAlgorithms j sex) (2 ≤ sex.length) := by
  unfold parseSignatureAlgorithms
  by_cases hlen : sex.length < 2
  · exact .check_error hlen (decides_error (by omega))
  refine .check hlen (.lift_bind (returns_uint16At (by omega)).self fun ssaLen hssa => ?_)
  have hfits := h.2 rfl ssaLen hssa.1
  exact .lift_bind (returns_uint16s hfits) fun _ _ => decides_pure _ (by omega)

lemma decides_parseExtension (h : ListFits exType sex) :
    Decides (parseExtension j exType sex) (Accepted exType sex) := by
  unfold parseExtension Accepted
  split_ifs with hsni hgroups hformats hversions halgorithms
  · exact decides_parseServerName j
  · exact decides_parseSupportedGroups j
  · exact decides_parseECPointFormats j
  · exact decides_parseSupportedVersions j (hversions ▸ h)
  · exact decides_parseSignatureAlgorithms j (halgorithms ▸ h)
  · exact decides_pure j trivial

lemma isSome_of_mapM {α β : Type} {f : α → Option β} {l : List α} {bs : List β}
    (h : l.mapM f = some bs) : ∀ a ∈ l, ∃ b, f a = some b := by
  induction l generalizing bs with
  | nil => exact forall_mem_nil _
  | cons a l ih =>
    rw [mapM_cons] at h
    obtain ⟨b, hb, h⟩ := Option.bind_eq_some_iff.1 h
    obtain ⟨bs, hbs, -⟩ := Option.bind_eq_some_iff.1 h
    exact forall_mem_cons.2 ⟨⟨b, hb⟩, ih hbs⟩

lemma le_of_uint16s {start n : ℕ} {l : List ℕ} (h : uint16s b start n = some l)
    (hstart : start ≤ b.length) : start + 2 * n ≤ b.length := by
  cases n with
  | zero => exact hstart
  | succ n =>
    obtain ⟨value, hvalue⟩ := isSome_of_mapM h n (mem_range.2 (Nat.lt_succ_self n))
    have hlt := lt_of_uint16At hvalue
    omega

/-- Without all bytes of the list there is no result. -/
lemma listFits_of_total (h : Total (parseExtension j exType sex) fun _ => True) :
    ListFits exType sex := by
  constructor
  · rintro rfl n hn
    obtain ⟨hlt, -⟩ := List.getElem?_eq_some_iff.1 hn
    have h : Total (parseSupportedVersions j sex) fun _ => True := h
    unfold parseSupportedVersions at h
    obtain ⟨l, hl, -⟩ := ((h.of_check (Nat.not_lt.2 hlt)).of_read hn).of_lift_bind
    exact le_of_uint16s hl hlt
  · rintro rfl n hn
    have hlt := lt_of_uint16At hn
    have h : Total (parseSignatureAlgorithms j sex) fun _ => True := h
    unfold parseSignatureAlgorithms at h
    obtain ⟨l, hl, -⟩ := ((h.of_check (Nat.not_lt.2 hlt)).of_read hn).of_lift_bind
    exact le_of_uint16s hl hlt

/-! ### The list of extensions -/

variable {fuel : ℕ} {rest : List UInt8}

/-- Each round takes a header at least, so the fuel is enough. -/
lemma total_parseExtensionList (hfuel : exs.length < fuel) (hlen : exs.length < 2 ^ 16)
    (h : ExtensionsFit exs) : Total (parseExtensionList fuel j exs) fun _ => True := by
  induction fuel generalizing j exs with
  | zero => omega
  | succ fuel ih =>
    refine .ite (fun _ => .pure trivial) fun hne => .check fun hheader => ?_
    rw [extensionHeaderLen] at hheader
    refine (returns_uint16At (by omega)).self.lift_bind fun exType htype => ?_
    refine (returns_uint16At (by omega)).self.lift_bind fun exLen hexLen => ?_
    refine .check fun hdata => ?_
    rw [extensionHeaderLen] at hdata
    refine (returns_slice (Nat.le_add_right _ _) (by
      rw [extensionHeaderLen]; omega)).self.lift_bind fun sex hsex => ?_
    obtain rfl : sex.length = exLen := by rw [hsex.2, Nat.add_sub_cancel_left]
    obtain ⟨rest, hrest, hrestLen⟩ := returns_slice (b := exs) (i := 4 + sex.length)
      (j := exs.length) (by omega) le_rfl
    have hbegins : Begins exs exType sex rest := ⟨htype.1, hexLen.1, hsex.1, hrest⟩
    obtain ⟨r, hr, hdecides⟩ := decides_parseExtension
      { j with extensions := j.extensions ++ [exType] } (h exType sex (.here hbegins))
    have haccepted : Total (parseExtension { j with extensions := j.extensions ++ [exType] } exType
      sex) fun _ => Accepted exType sex := ⟨r, hr, fun j' hj' => hdecides.1 ⟨j', hj'⟩⟩
    refine haccepted.bind fun j' haccepted => ?_
    -- The length of the message leaves no room for an overflow.
    have hmod : (4 + sex.length) % 2 ^ 16 = 4 + sex.length := Nat.mod_eq_of_lt (by omega)
    rw [hmod, hrest]
    exact ih j' (by omega) (by omega) fun exType' sex' h' => h exType' sex' (.there hbegins
      haccepted h')

/-- The loop parses the extension and goes on. -/
lemma total_of_begins (hbegins : Begins exs exType sex rest) (hlen : exs.length < 2 ^ 16)
    (h : Total (parseExtensionList (fuel + 1) j exs) fun _ => True) :
    Total (parseExtension { j with extensions := j.extensions ++ [exType] } exType sex)
    fun j' => Total (parseExtensionList fuel j' rest) fun _ => True := by
  obtain ⟨-, hle, -⟩ := length_of_slice hbegins.data
  rw [extensionHeaderLen] at hle
  have hmod : (4 + sex.length) % 2 ^ 16 = 4 + sex.length := Nat.mod_eq_of_lt (by omega)
  rw [parseExtensionList, if_neg (by omega)] at h
  have hnext := ((h.of_check (by rw [extensionHeaderLen]; omega)).of_read
    hbegins.exType).of_read hbegins.exLen
  have hparsed := ((hnext.of_check (by rw [extensionHeaderLen]; omega)).of_read
    hbegins.data).of_bind
  refine hparsed.imp fun r hr j' hj' => ?_
  have hafter := hr j' hj'
  rw [hmod] at hafter
  exact hafter.of_read hbegins.rest

lemma Reached.listFits (h : Reached exs exType sex) (hfuel : exs.length < fuel)
    (hlen : exs.length < 2 ^ 16) (htotal : Total (parseExtensionList fuel j exs) fun _ => True) :
    ListFits exType sex := by
  induction h generalizing fuel j with
  | here hbegins =>
    obtain ⟨fuel, rfl⟩ := Nat.exists_eq_succ_of_ne_zero (Nat.ne_zero_of_lt hfuel)
    exact listFits_of_total _ ((total_of_begins j hbegins hlen htotal).imp fun _ _ _ _ => trivial)
  | there hbegins haccepted _ ih =>
    obtain ⟨fuel, rfl⟩ := Nat.exists_eq_succ_of_ne_zero (Nat.ne_zero_of_lt hfuel)
    have hnext := total_of_begins j hbegins hlen htotal
    have hfits := listFits_of_total _ (hnext.imp fun _ _ _ _ => trivial)
    obtain ⟨r, hr, hdecides⟩ := decides_parseExtension _ hfits
    obtain ⟨j', rfl⟩ := hdecides.2 haccepted
    obtain ⟨r', hr', hafter⟩ := hnext
    obtain rfl := Option.some.inj (hr.symm.trans hr')
    obtain ⟨hle, -, hrest⟩ := length_of_slice hbegins.rest
    exact ih j' (by omega) (by omega) (hafter j' rfl)

lemma total_parseExtensions (hlen : exs.length < 2 ^ 16) :
    Total (parseExtensions j exs) (fun _ => True) ↔
    ∀ list, Listed exs list → ExtensionsFit list := by
  constructor
  · rintro h list ⟨n, hn, hlist, hle⟩ exType sex hreached
    have hlt := lt_of_uint16At hn
    obtain ⟨-, -, hlength⟩ := length_of_slice hlist
    rw [parseExtensions, if_neg (by omega)] at h
    have hnext := ((h.of_check (Nat.not_lt.2 hlt)).of_read hn).of_read hlist
    exact hreached.listFits j (Nat.lt_succ_self _) (by omega) (hnext.of_check (Nat.not_lt.2 hle))
  · intro h
    refine .ite (fun _ => .pure trivial) fun _ => .check fun hheader => ?_
    rw [extensionsHeaderLen] at hheader
    refine (returns_uint16At (by omega)).self.lift_bind fun exsLen hn => ?_
    refine (returns_slice (Nat.le_of_not_lt hheader) le_rfl).self.lift_bind
      fun list hlist => .check fun hle => ?_
    exact total_parseExtensionList j (Nat.lt_succ_self _) (by omega)
      (h list ⟨exsLen, hn.1, hlist.1, Nat.le_of_not_lt hle⟩)

/-! ### The headers -/

lemma total_parseHandshake (hlen : b.length < 2 ^ 16) :
    Total (parseHandshake j b) (fun _ => True) ↔
    ∀ exs list, HandshakeOf b exs → Listed exs list → ExtensionsFit list := by
  have hconst : cipherSuiteHeaderLen = 2 ∧ compressMethodHeaderLen = 1 := ⟨rfl, rfl⟩
  have hsum : handshakeHeaderLen + randomDataLen + sessionIDHeaderLen = 39 := rfl
  constructor
  · rintro h exs list hshake hlisted
    obtain ⟨b1, b2, b3, h1, h2, h3, hbody⟩ := hshake.length
    obtain ⟨version, hversion, htls⟩ := hshake.version
    obtain ⟨sessionIDLen, cs, csLen, compressMethodLen, hid, hcs, hsuites, hmethods, hexs⟩ :=
      hshake.rest
    have hheader := hshake.header
    have hslice : slice b 4 b.length = some (b.drop 4) := by
      rw [slice_eq (by omega) le_rfl, take_length]
    obtain ⟨hstart, -, hcsLen⟩ := length_of_slice hcs
    obtain ⟨hexsStart, -, hexsLen⟩ := length_of_slice hexs
    have hcsHeader := lt_of_uint16At hsuites
    unfold parseHandshake at h
    have h := (h.of_check (by omega)).of_read hshake.handshakeType
    have h := ((((h.of_check (not_not.2 rfl)).of_read h1).of_read h2).of_read h3).of_read hslice
    have h := (h.of_check (by rw [length_drop]; omega)).of_read hversion
    have h := (h.of_check (isTLSVersion_iff.1 htls)).of_read hid
    have h := (h.of_check (by omega)).of_read hcs
    have h := (h.of_check (by omega)).of_read hsuites
    obtain ⟨suites, -, h⟩ := (h.of_check (by omega)).of_lift_bind
    have h := (h.of_read hmethods).of_check (by omega)
    exact (total_parseExtensions _ (by omega)).1 (h.of_read hexs) list hlisted
  · intro h
    unfold parseHandshake
    refine .check fun hheader => ?_
    rw [hsum] at hheader
    refine (returns_byteAt (by omega)).lift_bind fun handshType htype => .check fun hshake => ?_
    refine (returns_byteAt (by omega)).lift_bind fun b1 h1 => ?_
    refine (returns_byteAt (by omega)).lift_bind fun b2 h2 => ?_
    refine (returns_byteAt (by omega)).lift_bind fun b3 h3 => ?_
    refine (returns_slice (by omega) le_rfl).lift_bind fun body hbody => .check fun hlength => ?_
    refine (returns_uint16At (by omega)).self.lift_bind fun version hversion => ?_
    refine .check fun htls => ?_
    refine (returns_byteAt (by omega)).lift_bind fun sessionIDLen hid => .check fun hstart => ?_
    refine (returns_slice (Nat.le_of_not_lt hstart) le_rfl).self.lift_bind fun cs hcs => ?_
    refine .check fun hcipher => ?_
    rw [cipherSuiteHeaderLen] at hcipher
    refine (returns_uint16At (by omega)).self.lift_bind fun csLen hcsLen => .check fun hsuites => ?_
    refine (returns_uint16s (by omega)).lift_bind fun _ _ => ?_
    refine (returns_byteAt (by omega)).lift_bind fun methods hmethods => .check fun hcompress => ?_
    refine (returns_slice (Nat.le_of_not_lt hcompress) le_rfl).self.lift_bind fun exs hexs => ?_
    refine (total_parseExtensions _ (by omega)).2 fun list hlisted => h exs list ?_ hlisted
    exact ⟨by omega, htype.trans (congrArg some (not_not.1 hshake)),
      ⟨b1, b2, b3, h1, h2, h3, by omega⟩, ⟨version, hversion.1, isTLSVersion_iff.2 htls⟩,
      ⟨sessionIDLen, cs, csLen, methods, hid, hcs.1, hcsLen.1, hmethods, hexs.1⟩⟩

lemma total_parseSegment (payload : List UInt8) :
    Total (parseSegment j payload) (fun _ => True) ↔ ListsFit payload := by
  have hconst : recordLayerHeaderLen = 5 := rfl
  constructor
  · rintro h hs exs list hrecord hshake hlisted
    obtain ⟨version, hversion, htls⟩ := hrecord.version
    obtain ⟨n, hn, hhs⟩ := hrecord.body
    have hheader := hrecord.header
    obtain ⟨-, hle, hlength⟩ := length_of_slice hhs
    have hn' : n < 2 ^ 16 := by
      obtain ⟨n', hsome, hlt⟩ := returns_uint16At (lt_of_uint16At hn)
      rwa [← Option.some.inj (hn.symm.trans hsome)] at hlt
    have hslice : slice payload recordLayerHeaderLen payload.length =
        some (payload.drop recordLayerHeaderLen) := by
      rw [slice_eq hheader le_rfl, take_length]
    unfold parseSegment at h
    have h := (h.of_check (Nat.not_lt.2 hheader)).of_read hrecord.contentType
    have h := (h.of_check (not_not.2 rfl)).of_read hversion
    have h := ((h.of_check (isTLSVersion_iff.1 htls)).of_read hn).of_read hslice
    have h := (h.of_check (by rw [length_drop]; omega)).of_read hhs
    exact (total_parseHandshake _ (by omega)).1 h exs list hshake hlisted
  · intro h
    unfold parseSegment
    refine .check fun hheader => ?_
    refine (returns_byteAt (by omega)).lift_bind fun contType htype => .check fun hcontent => ?_
    refine (returns_uint16At (by omega)).self.lift_bind fun version hversion => ?_
    refine .check fun htls => ?_
    refine (returns_uint16At (by omega)).self.lift_bind fun segmentLen hsegment => ?_
    refine (returns_slice (by omega) le_rfl).lift_bind fun body hbody => .check fun hlen => ?_
    refine (returns_slice (Nat.le_add_right _ _) (by omega)).self.lift_bind fun hs hhs => ?_
    refine (total_parseHandshake _ (by omega)).2 fun exs list => h hs exs list ?_
    exact ⟨by omega, htype.trans (congrArg some (not_not.1 hcontent)),
      ⟨version, hversion.1, isTLSVersion_iff.2 htls⟩, ⟨segmentLen, hsegment.1, hhs.1⟩⟩

lemma isSome_compute (payload : List UInt8) : (compute payload).isSome = true ↔
    Total (parseSegment {} payload) fun _ => True := by
  rw [Option.isSome_iff_exists]
  exact exists_congr fun r => (and_iff_left fun _ _ => trivial).symm

/-- The parser returns exactly if the two lists are as long as they say in every extension that it
comes to. -/
theorem compute_isSome (payload : List UInt8) :
    (compute payload).isSome = true ↔ ListsFit payload := by
  rw [isSome_compute, total_parseSegment]

def helloWith (extensions : List UInt8) : List UInt8 :=
  let body := [3, 3] ++ replicate 32 0 ++ [0, 0, 2, 19, 1, 1, 0] ++ extensions
  let hs := [1, 0, 0, UInt8.ofNat body.length] ++ body
  [22, 3, 1, 0, UInt8.ofNat hs.length] ++ hs

/-- The supported versions say two bytes, but there are none. -/
theorem compute_eq_none : compute (helloWith [0, 5, 0, 43, 0, 1, 2]) = none := by
  decide +kernel

end SingBox.JA3

import SingBox.JA3.Parser

/-!
# The ClientHello message

The parser reads the server name of a ClientHello and rejects every proper initial part.
-/

namespace SingBox.JA3
open Slice TLSFragment List UInt8
variable (l : List UInt16)

def uint16Bytes : List UInt8 := l.flatMap fun n => bytesOfNat 2 n.toNat

lemma length_uint16Bytes : (uint16Bytes l).length = 2 * l.length := by
  rw [uint16Bytes, length_flatMap]
  simp [mul_comm]

/-! ### Messages -/

/-- The parser looks into all extensions but the last ones. -/
inductive Extension where
  | serverName (name : List UInt8) (length_lt : name.length + 5 < 2 ^ 16)
  | supportedGroups (groups : List UInt16) (length_lt : 2 * groups.length + 2 < 2 ^ 16)
  | ecPointFormats (formats : List UInt8) (length_lt : formats.length < 2 ^ 8)
  | supportedVersions (versions : List UInt16) (length_lt : 2 * versions.length < 2 ^ 8)
  | signatureAlgorithms (algorithms : List UInt16) (length_lt : 2 * algorithms.length + 2 < 2 ^ 16)
  | other (type : UInt16) (data : List UInt8) (length_lt : data.length < 2 ^ 16)
      (ne : type.toNat ∉ [sniExtensionType, ecExtensionType, ecpfExtensionType,
        versionExtensionType, signatureAlgorithmsExtensionType])

namespace Extension

def type : Extension → ℕ
  | serverName .. => sniExtensionType
  | supportedGroups .. => ecExtensionType
  | ecPointFormats .. => ecpfExtensionType
  | supportedVersions .. => versionExtensionType
  | signatureAlgorithms .. => signatureAlgorithmsExtensionType
  | other type .. => type.toNat

def data : Extension → List UInt8
  | serverName name _ =>
    bytesOfNat 2 (name.length + 3) ++ sniNameDNSHostnameType :: (bytesOfNat 2 name.length ++ name)
  | supportedGroups groups _ => bytesOfNat 2 (2 * groups.length) ++ uint16Bytes groups
  | ecPointFormats formats _ => ofNat formats.length :: formats
  | supportedVersions versions _ => ofNat (2 * versions.length) :: uint16Bytes versions
  | signatureAlgorithms algorithms _ =>
    bytesOfNat 2 (2 * algorithms.length) ++ uint16Bytes algorithms
  | other _ data .. => data

def encode (e : Extension) : List UInt8 :=
  bytesOfNat 2 e.type ++ (bytesOfNat 2 e.data.length ++ e.data)

def addName (name : List UInt8) : Extension → List UInt8
  | serverName name _ => name
  | _ => name

end Extension

open Extension

structure Message where
  minor : ℕ
  random : List UInt8
  sessionID : List UInt8
  cipherSuites : List UInt16
  compressionMethods : List UInt8
  extensions : List Extension
  minor_le : minor ≤ 3
  length_random : random.length = 32
  length_sessionID : sessionID.length ≤ 32
  length_cipherSuites : 2 * cipherSuites.length < 2 ^ 16
  length_compressionMethods : compressionMethods.length < 2 ^ 8
  length_extensions : (extensions.flatMap encode).length < 2 ^ 16

namespace Message
variable (m : Message)

def version : ℕ := 0x0300 + m.minor

def serverName : List UInt8 := m.extensions.foldl addName []

def extensionBytes : List UInt8 := m.extensions.flatMap encode

def cipherSuiteBytes : List UInt8 :=
  bytesOfNat 2 (2 * m.cipherSuites.length) ++ (uint16Bytes m.cipherSuites ++
    (ofNat m.compressionMethods.length :: (m.compressionMethods ++
      (bytesOfNat 2 m.extensionBytes.length ++ m.extensionBytes))))

def body : List UInt8 := bytesOfNat 2 m.version ++ (m.random ++
    (ofNat m.sessionID.length :: (m.sessionID ++ m.cipherSuiteBytes)))

def encode : List UInt8 := handshakeType :: (bytesOfNat 3 m.body.length ++ m.body)

lemma length_cipherSuiteBytes :
    m.cipherSuiteBytes.length = 2 + 2 * m.cipherSuites.length + 1 + m.compressionMethods.length +
    2 + m.extensionBytes.length := by
  simp only [cipherSuiteBytes, length_append, length_cons, length_bytesOfNat, length_uint16Bytes]
  omega

lemma length_body : m.body.length = 35 + m.sessionID.length + m.cipherSuiteBytes.length := by
  simp only [body, length_append, length_cons, length_bytesOfNat, m.length_random]
  omega

lemma length_encode : m.encode.length = 4 + m.body.length := by
  simp only [encode, length_append, length_cons, length_bytesOfNat]
  omega

lemma take_encode {n : ℕ} (h : 4 ≤ n) :
    m.encode.take n = handshakeType :: (bytesOfNat 3 m.body.length ++ m.body.take (n - 4)) := by
  obtain ⟨k, rfl⟩ := Nat.exists_eq_add_of_le h
  rw [encode, Nat.add_sub_cancel_left, add_comm, take_succ_cons, List.take_append,
    length_bytesOfNat, take_of_length_le (by rw [length_bytesOfNat]; omega),
    Nat.add_sub_cancel]

lemma length_body_lt : m.body.length < 2 ^ 24 := by
  have hsessionID := m.length_sessionID
  have hcipherSuites := m.length_cipherSuites
  have hcompressionMethods := m.length_compressionMethods
  have hexts : m.extensionBytes.length < 2 ^ 16 := m.length_extensions
  rw [length_body, length_cipherSuiteBytes]
  omega

end Message

variable {n length : ℕ} {es : List Extension}

lemma returns_uint16s {b : List UInt8} {start : ℕ} (h : start + 2 * n ≤ b.length) :
    Returns (uint16s b start n) fun _ => True := by
  refine .mapM fun i hi => ?_
  have hi' : i < n := mem_range.1 hi
  exact (returns_uint16At (by omega)).imp fun _ _ => trivial

lemma toNat_ofNat_lt (h : n < 2 ^ 8) : (ofNat n).toNat = n := by
  rw [toNat_ofNat', Nat.mod_eq_of_lt h]

/-! ### Reading them -/

variable (j : ClientHello) (name : List UInt8) (r : Except ParseError ClientHello)

/-- The parser returns a value whose server name is this one. -/
def Names : Prop := ∃ j, r = .ok j ∧ j.serverName = name

lemma names_parseServerName (h : name.length < 2 ^ 16) (n : ℕ) :
    Ends (parseServerName j (bytesOfNat 2 n ++
      sniNameDNSHostnameType :: (bytesOfNat 2 name.length ++ name))) (Names name) := by
  unfold parseServerName
  refine .check (by simp [sniExtensionHeaderLen]; omega) ?_
  refine .read (byteAt_append (length_bytesOfNat 2 n)) ?_
  refine .read (b := name.length) ?_ ?_
  · rw [append_cons]
    exact uint16At_append (by simp) h
  refine .read (b := name) ?_ ?_
  · rw [← cons_append, ← append_assoc]
    exact slice_append (by simp [sniExtensionHeaderLen])
  refine .check (fun hne => hne rfl) (.check (fun hne => hne rfl) ?_)
  exact .pure ⟨_, rfl, rfl⟩

lemma names_parseSupportedGroups (groups : List UInt16) (h : 2 * groups.length < 2 ^ 16) :
    Ends (parseSupportedGroups j (bytesOfNat 2 (2 * groups.length) ++ uint16Bytes groups))
    (Names j.serverName) := by
  have hgroups := length_uint16Bytes groups
  unfold parseSupportedGroups
  refine .check ?_ ?_
  · simp only [ecExtensionHeaderLen, length_append, length_bytesOfNat]
    omega
  refine .read (uint16At_zero h) ?_
  refine .read (slice_append (length_bytesOfNat 2 _)) ?_
  refine .check (fun hne => hne hgroups) ?_
  refine .lift_bind (returns_uint16s (by omega)) fun _ _ => ?_
  exact .pure ⟨_, rfl, rfl⟩

lemma names_parseECPointFormats (formats : List UInt8) (h : formats.length < 2 ^ 8) :
    Ends (parseECPointFormats j (ofNat formats.length :: formats)) (Names j.serverName) := by
  have hslice : slice ([ofNat formats.length] ++ formats) ecpfExtensionHeaderLen _ =
      some formats := slice_append rfl
  unfold parseECPointFormats
  refine .check (by simp [ecpfExtensionHeaderLen]) ?_
  refine .read (b := ofNat formats.length) rfl ?_
  refine .read hslice ?_
  rw [toNat_ofNat_lt h]
  refine .check (fun hne => hne rfl) ?_
  refine .bind (.mapM_lift fun i hi => ?_) fun _ _ => .pure ⟨_, rfl, rfl⟩
  exact (returns_byteAt (mem_range.1 hi)).imp fun _ _ => trivial

lemma names_parseSupportedVersions (versions : List UInt16) (h : 2 * versions.length < 2 ^ 8) :
    Ends (parseSupportedVersions j (ofNat (2 * versions.length) :: uint16Bytes versions))
    (Names j.serverName) := by
  have hversions := length_uint16Bytes versions
  unfold parseSupportedVersions
  refine .check (by simp [versionExtensionHeaderLen]) ?_
  refine .read (b := ofNat (2 * versions.length)) rfl ?_
  rw [toNat_ofNat_lt h]
  refine .lift_bind (returns_uint16s ?_) fun _ _ => .pure ⟨_, rfl, rfl⟩
  rw [length_cons]
  omega

lemma names_parseSignatureAlgorithms (algorithms : List UInt16)
    (h : 2 * algorithms.length < 2 ^ 16) :
    Ends (parseSignatureAlgorithms j
      (bytesOfNat 2 (2 * algorithms.length) ++ uint16Bytes algorithms)) (Names j.serverName) := by
  unfold parseSignatureAlgorithms
  refine .check ?_ ?_
  · simp only [signatureAlgorithmsExtensionHeaderLen, length_append, length_bytesOfNat]
    omega
  refine .read (uint16At_zero h) ?_
  refine .lift_bind (returns_uint16s ?_) fun _ _ => .pure ⟨_, rfl, rfl⟩
  rw [length_append, length_bytesOfNat, length_uint16Bytes]
  omega

variable (e : Extension)

lemma names_parseExtension :
    Ends (parseExtension j e.type e.data) (Names (e.addName j.serverName)) := by
  cases e with
  | serverName name length_lt => exact names_parseServerName j name (by omega) _
  | supportedGroups groups length_lt => exact names_parseSupportedGroups j groups (by omega)
  | ecPointFormats formats length_lt => exact names_parseECPointFormats j formats length_lt
  | supportedVersions versions length_lt =>
    exact names_parseSupportedVersions j versions length_lt
  | signatureAlgorithms algorithms length_lt =>
    exact names_parseSignatureAlgorithms j algorithms (by omega)
  | other type data length_lt ne =>
    simp only [mem_cons, not_mem_nil, or_false, not_or] at ne
    obtain ⟨hsni, hec, hecpf, hver, hsignature⟩ := ne
    have hpure : parseExtension j (other type data length_lt (by simp [*])).type data = pure j := by
      unfold parseExtension Extension.type
      rw [if_neg hsni, if_neg hec, if_neg hecpf, if_neg hver, if_neg hsignature]
    rw [Extension.data, hpure]
    exact .pure ⟨j, rfl, rfl⟩

lemma Extension.type_lt : e.type < 2 ^ 16 := by
  cases e with
  | other type data length_lt ne => exact type.toNat_lt
  | _ => exact of_decide_eq_true rfl

lemma Extension.length_encode : e.encode.length = 4 + e.data.length := by
  rw [encode, length_append, length_append, length_bytesOfNat, length_bytesOfNat]
  omega

lemma names_parseExtensionList {fuel : ℕ}
    (hfuel : es.length < fuel) (hlen : (es.flatMap encode).length < 2 ^ 16) :
    Ends (parseExtensionList fuel j (es.flatMap encode))
    (Names (es.foldl addName j.serverName)) := by
  induction es generalizing j fuel with
  | nil =>
    obtain ⟨fuel, rfl⟩ := Nat.exists_eq_add_one_of_ne_zero (Nat.ne_zero_of_lt hfuel)
    rw [flatMap_nil, parseExtensionList, if_pos length_nil]
    exact .pure ⟨j, rfl, rfl⟩
  | cons e es ih =>
    obtain ⟨fuel, rfl⟩ := Nat.exists_eq_add_one_of_ne_zero (Nat.ne_zero_of_lt hfuel)
    have hheader : extensionHeaderLen = 4 := rfl
    -- the extension with what follows it
    have hfront : (e :: es).flatMap encode = bytesOfNat 2 e.type ++
        (bytesOfNat 2 e.data.length ++ (e.data ++ es.flatMap encode)) := by
      simp [encode]
    have hexs : ((e :: es).flatMap encode).length =
        4 + e.data.length + (es.flatMap encode).length := by
      rw [flatMap_cons, length_append, e.length_encode]
    have hnext : (4 + e.data.length) % 2 ^ 16 = e.encode.length := by
      rw [e.length_encode, Nat.mod_eq_of_lt (by omega)]
    rw [parseExtensionList, if_neg (by omega)]
    refine .check (by omega) ?_
    refine .read (b := e.type) ?_ ?_
    · rw [hfront]
      exact uint16At_zero e.type_lt
    refine .read (b := e.data.length) ?_ ?_
    · rw [hfront]
      exact uint16At_append (length_bytesOfNat 2 e.type) (by omega)
    refine .check (by omega) ?_
    refine .read (b := e.data) ?_ ?_
    · rw [hfront, ← append_assoc]
      exact slice_append_middle (by simp [hheader]) rfl
    refine .bind (names_parseExtension _ e) fun j' hj' => ?_
    refine .read (b := es.flatMap encode) ?_ ?_
    · rw [hnext, flatMap_cons]
      exact slice_append rfl
    rw [foldl_cons, ← hj']
    exact ih j' (Nat.lt_of_succ_lt_succ hfuel) (by omega)

lemma names_parseExtensions (h : (es.flatMap encode).length < 2 ^ 16) :
    Ends (parseExtensions j (bytesOfNat 2 (es.flatMap encode).length ++
      es.flatMap encode)) (Names (es.foldl addName j.serverName)) := by
  have hfuel : es.length < (es.flatMap encode).length + 1 := by
    refine Nat.lt_succ_of_le ?_
    clear h
    induction es with
    | nil => exact Nat.zero_le _
    | cons e es ih =>
      rw [flatMap_cons, length_append, e.length_encode, length_cons]
      omega
  rw [parseExtensions, if_neg (by simp)]
  refine .check ?_ ?_
  · simp only [extensionsHeaderLen, length_append, length_bytesOfNat]
    omega
  refine .read (uint16At_zero h) ?_
  refine .read (slice_append (length_bytesOfNat 2 _)) ?_
  exact .check (lt_irrefl _) (names_parseExtensionList j hfuel h)

def Rejected : Prop := ∃ error, r = .error error

lemma bytesOfNat_three (h : n < 2 ^ 24) : ∃ b1 b2 b3 : UInt8,
    bytesOfNat 3 n = [b1, b2, b3] ∧ b1.toNat * 65536 + b2.toNat * 256 + b3.toNat = n := by
  refine ⟨ofNat (n / 65536 % 256), ofNat (n / 256 % 256), ofNat (n % 256), ?_, ?_⟩
  · simp [bytesOfNat]
  · rw [toNat_ofNat', toNat_ofNat', toNat_ofNat']
    omega

lemma rejected_of_length_lt {hs : List UInt8} (h : hs.length < 39) :
    Ends (parseHandshake j hs) Rejected := by
  have hcheck3 : hs.length < handshakeHeaderLen + randomDataLen + sessionIDHeaderLen := h
  unfold parseHandshake
  exact .check_error hcheck3 ⟨_, rfl⟩

lemma rejected_parseHandshake (h : n < 2 ^ 24) {rest : List UInt8} (hne : rest.length ≠ n) :
    Ends (parseHandshake j (handshakeType :: (bytesOfNat 3 n ++ rest))) Rejected := by
  obtain ⟨b1, b2, b3, hbytes, hval⟩ := bytesOfNat_three h
  rw [hbytes]
  by_cases hshort : (handshakeType :: ([b1, b2, b3] ++ rest)).length < 39
  · exact rejected_of_length_lt j hshort
  · unfold parseHandshake
    have hslice : slice ([handshakeType, b1, b2, b3] ++ rest) 4
        ([handshakeType, b1, b2, b3] ++ rest).length = some rest := slice_append rfl
    refine .check hshort ?_
    refine .read (b := handshakeType) rfl ?_
    refine .check (fun hne => hne rfl) ?_
    refine .read (b := b1) rfl ?_
    refine .read (b := b2) rfl ?_
    refine .read (b := b3) rfl ?_
    refine .read hslice ?_
    refine .check_error ?_ ⟨_, rfl⟩
    rw [hval]
    exact hne

lemma Message.version_mask (m : Message) : m.version &&& tlsVersionBitmask = 0x0300 := by
  obtain ⟨minor, -, -, -, -, -, minor_le, -⟩ := m
  have hminor : ∀ n ≤ 3, (0x0300 + n) &&& tlsVersionBitmask = 0x0300 := by decide
  exact hminor minor minor_le

lemma names_parseHandshake (m : Message) :
    Ends (parseHandshake {} m.encode) (Names m.serverName) := by
  obtain ⟨b1, b2, b3, hbytes, hval⟩ := bytesOfNat_three m.length_body_lt
  have hencode : m.encode = [handshakeType, b1, b2, b3] ++ m.body := by
    rw [Message.encode, hbytes]
    rfl
  have hlen : m.encode.length = 4 + m.body.length := m.length_encode
  rw [hencode] at hlen
  have hbody := m.length_body
  have hsessionID := m.length_sessionID
  have hsuites := m.length_cipherSuiteBytes
  have hheader : handshakeHeaderLen + randomDataLen + sessionIDHeaderLen = 39 := rfl
  have hsuite : cipherSuiteHeaderLen = 2 := rfl
  have hmethod : compressMethodHeaderLen = 1 := rfl
  have hver : m.version < 2 ^ 16 := by
    have hminor := m.minor_le
    rw [Message.version]
    omega
  rw [hencode]
  unfold parseHandshake
  refine .check (by omega) ?_
  refine .read (b := handshakeType) rfl ?_
  refine .check (fun hne => hne rfl) ?_
  refine .read (b := b1) rfl ?_
  refine .read (b := b2) rfl ?_
  refine .read (b := b3) rfl ?_
  refine .read (slice_append rfl) ?_
  refine .check (fun hne => hne hval.symm) ?_
  refine .read (uint16At_append rfl hver) ?_
  refine .check (fun hne => hne.1 m.version_mask) ?_
  refine .read (b := ofNat m.sessionID.length) ?_ ?_
  · rw [Message.body, ← append_assoc, ← append_assoc]
    exact byteAt_append (by simp [m.length_random])
  rw [toNat_ofNat_lt (by omega)]
  refine .check (by omega) ?_
  refine .read (b := m.cipherSuiteBytes) ?_ ?_
  · rw [Message.body, ← cons_append, ← append_assoc, ← append_assoc, ← append_assoc]
    refine slice_append ?_
    simp only [length_append, length_cons, length_nil, length_bytesOfNat, m.length_random]
    omega
  refine .check (by omega) ?_
  refine .read (uint16At_zero m.length_cipherSuites) ?_
  refine .check (by omega) ?_
  refine .lift_bind (returns_uint16s (by omega)) fun cipherSuites _ => ?_
  refine .read (b := ofNat m.compressionMethods.length) ?_ ?_
  · rw [Message.cipherSuiteBytes, ← append_assoc]
    refine byteAt_append ?_
    rw [length_append, length_bytesOfNat, length_uint16Bytes, hsuite]
  rw [toNat_ofNat_lt m.length_compressionMethods]
  refine .check (by omega) ?_
  refine .read (b := bytesOfNat 2 m.extensionBytes.length ++ m.extensionBytes) ?_ ?_
  · rw [Message.cipherSuiteBytes, ← cons_append, ← append_assoc, ← append_assoc]
    refine slice_append ?_
    simp only [length_append, length_cons, length_bytesOfNat, length_uint16Bytes]
    omega
  exact names_parseExtensions _ m.length_extensions

def record (length : ℕ) (data : List UInt8) : List UInt8 :=
  contentType :: (bytesOfNat 2 0x0303 ++ (bytesOfNat 2 (length % 2 ^ 16) ++ data))

lemma ends_parseSegment {data : List UInt8} {R : Except ParseError ClientHello → Prop}
    (hshort : data.length < length % 2 ^ 16 → R (.error (.lengthErr 2)))
    (hlong : length % 2 ^ 16 ≤ data.length →
      Ends (parseHandshake {} (data.take (length % 2 ^ 16))) R) :
    Ends (parseSegment {} (record length data)) R := by
  have hlt : length % 2 ^ 16 < 2 ^ 16 := Nat.mod_lt _ (Nat.two_pow_pos 16)
  have hheader : recordLayerHeaderLen = 5 := rfl
  have hrec : record length data = [contentType, 3, 3] ++
      (bytesOfNat 2 (length % 2 ^ 16) ++ data) := rfl
  have hdata : record length data = ([contentType, 3, 3] ++ bytesOfNat 2 (length % 2 ^ 16)) ++
      data := rfl
  have hlen : (record length data).length = 5 + data.length := by
    simp only [hrec, length_append, length_cons, length_nil, length_bytesOfNat]
    omega
  have hslice : slice (record length data) recordLayerHeaderLen (record length data).length =
      some data := by
    rw [hdata]
    exact slice_append rfl
  unfold parseSegment
  refine .check (by omega) ?_
  refine .read (b := contentType) rfl ?_
  refine .check (fun hne => hne rfl) ?_
  refine .read (b := 0x0303) rfl ?_
  refine .check (fun hne => hne.1 rfl) ?_
  refine .read (uint16At_append rfl hlt) ?_
  refine .read hslice ?_
  by_cases hle : data.length < length % 2 ^ 16
  · exact .check_error hle (hshort hle)
  · refine .check hle ?_
    refine .read (b := data.take (length % 2 ^ 16)) ?_ ?_
    · have hsplit : record length data = ([contentType, 3, 3] ++ bytesOfNat 2 (length % 2 ^ 16)) ++
            (data.take (length % 2 ^ 16) ++ data.drop (length % 2 ^ 16)) := by
        rw [hdata, take_append_drop]
      rw [hsplit]
      refine slice_append_middle rfl ?_
      rw [length_take, Nat.min_eq_left (by omega)]
    exact hlong (by omega)

lemma names_compute (m : Message) (h : m.encode.length < 2 ^ 16) :
    Returns (compute (record m.encode.length m.encode)) (Names m.serverName) := by
  have hmod : m.encode.length % 2 ^ 16 = m.encode.length := Nat.mod_eq_of_lt h
  refine ends_parseSegment (fun hlt => by omega) fun _ => ?_
  rw [hmod, take_length]
  exact names_parseHandshake m

lemma rejected_compute (m : Message) (h : length % 2 ^ 16 < m.encode.length) :
    Returns (compute (record length (m.encode.take n))) Rejected := by
  refine ends_parseSegment (fun _ => ⟨_, rfl⟩) fun hle => ?_
  rw [length_take] at hle
  rw [take_take, Nat.min_eq_left (by omega)]
  by_cases hshort : length % 2 ^ 16 < 39
  · exact rejected_of_length_lt {} ((length_take_le _ _).trans_lt hshort)
  · rw [m.take_encode (by omega)]
    refine rejected_parseHandshake {} m.length_body_lt ?_
    rw [length_take]
    rw [m.length_encode] at h
    omega

end SingBox.JA3

import SingBox.Lib.Codec
import SingBox.Lib.OrderedMap
import Mathlib.Data.List.Sort

/-!
# Files of geosite lists

The content starts where the index ends, without the bytes that are still in the buffer.
-/

namespace SingBox.Geosite
open Codec List Function OrderedMap

abbrev Bytes := List UInt8

/-! ### Writing -/

structure Item where
  type : UInt8
  value : Bytes

abbrev Domains := OrderedMap Bytes (List Item)

abbrev Index := OrderedMap Bytes ℕ

def writeItem (item : Item) : Bytes := item.type :: writeBytes item.value

variable (domains : Domains)

def Domains.items (code : Bytes) : List Item := (domains.get? code).getD []

def Domains.keys : List Bytes := (domains.entries.map Prod.fst).insertionSort (· ≤ ·)

def Domains.add (content : Bytes × Index) (code : Bytes) : Bytes × Index :=
  (content.1 ++ (domains.items code).flatMap writeItem, content.2.put code content.1.length)

def Domains.content : Bytes × Index := domains.keys.foldl domains.add ([], {})

def Domains.index (code : Bytes) : ℕ := (domains.content.2.get? code).getD 0

def Domains.writeEntry (code : Bytes) : Bytes :=
  writeBytes code ++ (writeUvarint (domains.index code) ++ writeUvarint (domains.items code).length)

def Domains.metadata : Bytes :=
  [0] ++ (writeUvarint domains.keys.length ++ domains.keys.flatMap domains.writeEntry)

def write : Bytes := domains.metadata ++ domains.content.1

variable {domains}

lemma Domains.perm_keys : domains.keys.Perm (domains.entries.map Prod.fst) := perm_insertionSort _ _

variable {code : Bytes} {codes : List Bytes} {content : Bytes × Index} {r : FileReader}

lemma Domains.mem_keys : code ∈ domains.keys ↔ ∃ items, domains.get? code = some items := by
  rw [domains.perm_keys.mem_iff]
  simp [get?_eq_some_iff]

structure Domains.Fits (domains : Domains) : Prop where
  keys : domains.keys.length < 2 ^ 63
  code : ∀ code ∈ domains.keys, code.length < 2 ^ 63
  index : ∀ code ∈ domains.keys, domains.index code < 2 ^ 63
  items : ∀ code ∈ domains.keys, (domains.items code).length < 2 ^ 63
  value : ∀ code ∈ domains.keys, ∀ item ∈ domains.items code, item.value.length < 2 ^ 63

def Domains.Placed (codes : List Bytes) (content : Bytes × Index) : Prop :=
  ∀ code ∈ codes, ∃ before after,
    content.1 = before ++ ((domains.items code).flatMap writeItem ++ after) ∧
      content.2.get? code = some before.length

lemma Domains.placed_add (h : domains.Placed codes content) (code : Bytes) :
    domains.Placed (codes ++ [code]) (domains.add content code) := by
  intro code' hcode'
  rcases eq_or_ne code' code with rfl | hne
  · exact ⟨content.1, [], by simp [Domains.add], by simp [Domains.add, get?_put]⟩
  · have hmem : code' ∈ codes := by simpa [hne] using hcode'
    obtain ⟨before, after, hcont, hidx⟩ := h code' hmem
    refine ⟨before, after ++ (domains.items code).flatMap writeItem, ?_, ?_⟩
    · simp [Domains.add, hcont]
    · simpa [Domains.add, get?_put, hne] using hidx

lemma Domains.placed_foldl {codes' : List Bytes} (h : domains.Placed codes' content) :
    domains.Placed (codes' ++ codes) (codes.foldl domains.add content) := by
  induction codes generalizing codes' content with
  | nil => simpa using h
  | cons code codes ih =>
    rw [foldl_cons, append_cons]
    exact ih (domains.placed_add h code)

lemma Domains.content_eq (hcode : code ∈ domains.keys) : ∃ before after, domains.content.1 =
    before ++ ((domains.items code).flatMap writeItem ++ after) ∧
    domains.index code = before.length := by
  have h : domains.Placed ([] ++ domains.keys) domains.content :=
    Domains.placed_foldl (fun _ h => nomatch h)
  obtain ⟨before, after, hcont, hidx⟩ := h code hcode
  exact ⟨before, after, hcont, by simp [Domains.index, hidx]⟩

/-! ### Buffered reads -/

structure Buffered where
  base : ℕ := 0
  count : ℕ := 0
  buffer : Bytes := []
  reads : ℕ := 0

variable (file : Bytes) (sizes : ℕ → ℕ)

def Buffered.fill (s : Buffered) : Buffered :=
  let data := (file.drop (s.base + s.count)).take (min 4096 (sizes s.reads + 1))
  { s with count := s.count + data.length, buffer := data, reads := s.reads + 1 }

def Buffered.readByte (s : Buffered) : Option UInt8 × Buffered :=
  let s := if s.buffer.isEmpty then s.fill file sizes else s
  (s.buffer.head?, { s with buffer := s.buffer.tail })

def Buffered.left (s : Buffered) : Bytes := s.buffer ++ file.drop (s.base + s.count)

def Buffered.run {α : Type} (read : Reader α) (s : Buffered) : Except String (α × Buffered) :=
  match read (s.left file) with
  | .error error => .error error
  | .ok (a, rest) =>
    .ok (a, (fun s => (s.readByte file sizes).2)^[(s.left file).length - rest.length] s)

variable {file sizes} {s : Buffered} {n : ℕ}

structure Buffered.At (file : Bytes) (s : Buffered) (n : ℕ) : Prop where
  place : n + s.buffer.length = s.base + s.count
  left : s.left file = file.drop n

lemma Buffered.At.fill (h : s.At file n) (hbuf : s.buffer = []) :
    (s.fill file sizes).At file n := by
  obtain rfl : n = s.base + s.count := by simpa [hbuf] using h.place
  refine ⟨by simp only [Buffered.fill]; omega, ?_⟩
  have happend := prefix_iff_eq_append.1
    ( take_prefix (min 4096 (sizes s.reads + 1)) (file.drop (s.base + s.count)))
  rw [drop_drop, add_assoc] at happend
  exact happend

lemma Buffered.At.tail (h : s.At file n) (hbuf : s.buffer ≠ []) :
    ({ s with buffer := s.buffer.tail } : Buffered).At file (n + 1) := by
  have hpos : s.buffer.length ≠ 0 := by simpa using hbuf
  refine ⟨?_, ?_⟩
  · have hplace := h.place
    simp only [length_tail]
    omega
  · rw [← tail_drop, ← h.left, Buffered.left, Buffered.left, tail_append_of_ne_nil hbuf]

lemma Buffered.At.readByte (h : s.At file n) (hn : n < file.length) :
    (s.readByte file sizes).1 = (file.drop n).head? ∧
    (s.readByte file sizes).2.At file (n + 1) := by
  have hne : file.drop n ≠ [] := by simpa using hn
  have hmain : ∀ s' : Buffered, s'.At file n → s'.buffer ≠ [] →
      s'.buffer.head? = (file.drop n).head? ∧
        ({ s' with buffer := s'.buffer.tail } : Buffered).At file (n + 1) := by
    intro s' hs' hbuf
    exact ⟨by rw [← hs'.left, Buffered.left, head?_append_of_ne_nil _ hbuf], hs'.tail hbuf⟩
  rw [Buffered.readByte]
  split_ifs with hbuf
  · have hbuf : s.buffer = [] := by simpa using hbuf
    refine hmain _ (h.fill hbuf) ?_
    have hplace : n = s.base + s.count := by simpa [hbuf] using h.place
    simp only [Buffered.fill, ← hplace, ne_eq, take_eq_nil_iff, hne, or_false]
    omega
  · exact hmain s h (by simpa using hbuf)

lemma Buffered.base_readByte : (s.readByte file sizes).2.base = s.base := by
  rw [Buffered.readByte]
  split_ifs <;> rfl

lemma Buffered.At.iterate (h : s.At file n) {k : ℕ} (hk : n + k ≤ file.length) :
    ((fun s => (s.readByte file sizes).2)^[k] s).At file (n + k) ∧
    ((fun s => (s.readByte file sizes).2)^[k] s).base = s.base := by
  induction k with
  | zero => exact ⟨h, rfl⟩
  | succ k ih =>
    obtain ⟨hat, hbase⟩ := ih (by omega)
    rw [iterate_succ_apply']
    exact ⟨(hat.readByte (by omega)).2, Buffered.base_readByte.trans hbase⟩

lemma Buffered.At.run {α : Type} {read : Reader α} {before bytes after : Bytes} {a : α}
    (h : s.At file before.length) (sizes : ℕ → ℕ) (hread : Decodes read bytes a)
    (hfile : file = before ++ (bytes ++ after)) :
    ∃ s', s.run file sizes read = .ok (a, s') ∧ s'.At file (before.length + bytes.length) ∧
    s'.base = s.base := by
  have hleft : s.left file = bytes ++ after := by
    rw [h.left, hfile, drop_left]
  have hlen : (s.left file).length - after.length = bytes.length := by simp [hleft]
  have hend : before.length + bytes.length ≤ file.length := by simp [hfile]
  refine ⟨(fun s => (s.readByte file sizes).2)^[bytes.length] s, ?_, h.iterate hend⟩
  have hread : read (s.left file) = .ok (a, after) := by rw [hleft, hread after]
  simp [Buffered.run, hread, hlen]

/-! ### Reading -/

def readString : Reader Bytes := do
  let length ← readUvarint
  readMany (fun _ error => error) readByte length 0

def readEntry : Reader (Bytes × ℕ × ℕ) := do
  let code ← readString
  let codeIndex ← readUvarint
  let codeLength ← readUvarint
  return (code, codeIndex, codeLength)

def readMetadata : Reader (List (Bytes × ℕ × ℕ)) := do
  let version ← readByte
  if version ≠ 0 then fail "unknown version"
  let entryLength ← readUvarint
  readMany (fun _ error => error) readEntry entryLength 0

def readItem : Reader Item := do
  let type ← readByte
  let value ← readString
  return ⟨type, value⟩

structure FileReader where
  metadataIndex : ℕ
  domainIndex : Index
  domainLength : Index
  bufferedReader : Buffered

variable (file sizes) in
def newReader : Except String (FileReader × List Bytes) :=
  match ({} : Buffered).run file sizes readMetadata with
  | .error error => .error error
  | .ok (entries, s) =>
    let domainIndex := putAll {} (entries.map fun entry => (entry.1, entry.2.1))
    let domainLength := putAll {} (entries.map fun entry => (entry.1, entry.2.2))
    .ok (⟨s.count - s.buffer.length, domainIndex, domainLength, s⟩,
      domainIndex.entries.map Prod.fst)

inductive ReadError where
  | notExists (code : Bytes)
  | read (error : String)

variable (file sizes) in
/-- `Read` seeks and resets the reader, whatever was read before. -/
def FileReader.read (r : FileReader) (code : Bytes) : Except ReadError (List Item) × FileReader :=
  match r.domainIndex.get? code with
  | none => (.error (.notExists code), r)
  | some index =>
    let s : Buffered := { base := r.metadataIndex + index, reads := r.bufferedReader.reads }
    let length := (r.domainLength.get? code).getD 0
    match s.run file sizes (readMany (fun _ error => error) readItem length 0) with
    | .error error => (.error (.read error), { r with bufferedReader := s })
    | .ok (itemList, s) => (.ok itemList, { r with bufferedReader := s })

variable (file sizes) in
def FileReader.readAll (r : FileReader) : List Bytes → List (Except ReadError (List Item))
  | [] => []
  | code :: codes => (r.read file sizes code).1 :: (r.read file sizes code).2.readAll codes

/-! ### Both together -/

lemma decodes_readString {value : Bytes} (h : value.length < 2 ^ 63) :
    Decodes readString (writeBytes value) value := by
  refine (decodes_readUvarint (by omega)).bind ?_
  have hmany : Decodes (readMany (fun _ error => error) readByte value.length 0)
      (value.flatMap fun b => [b]) value := decodes_readMany value (fun b _ => decodes_readByte b) 0
  simpa using hmany

lemma decodes_readItem {item : Item} (h : item.value.length < 2 ^ 63) :
    Decodes readItem (writeItem item) item :=
  (decodes_readByte item.type).bind ((decodes_readString h).bind_pure _)

lemma decodes_readEntry (h : domains.Fits) (hcode : code ∈ domains.keys) :
    Decodes readEntry (domains.writeEntry code)
    (code, domains.index code, (domains.items code).length) := by
  have hidx := h.index code hcode
  have hlen := h.items code hcode
  exact (decodes_readString (h.code code hcode)).bind ((decodes_readUvarint (by omega)).bind
    ((decodes_readUvarint (by omega)).bind_pure _))

lemma decodes_readMetadata (h : domains.Fits) :
    Decodes readMetadata domains.metadata (domains.keys.map fun code =>
      (code, domains.index code, (domains.items code).length)) := by
  refine (decodes_readByte 0).bind (.check (by simp) ?_)
  have hkeys := h.keys
  exact (decodes_readUvarint (by omega)).bind
    (decodes_readMany_map _ (fun _ hcode => decodes_readEntry h hcode) 0)

def Opened (domains : Domains) (r : FileReader) : Prop := ∀ code,
    (code ∉ domains.keys → r.domainIndex.get? code = none) ∧
    (code ∈ domains.keys → ∃ index before after, r.domainIndex.get? code = some index ∧
      r.domainLength.get? code = some (domains.items code).length ∧
      r.metadataIndex + index = before.length ∧
      write domains = before ++ ((domains.items code).flatMap writeItem ++ after))

lemma nodup_keys : domains.keys.Nodup := Domains.perm_keys.nodup_iff.2 domains.nodup

lemma entries_putAll_keys {ε : Type} (f : Bytes → ε) :
    (putAll {} (domains.keys.map fun code => (code, f code))).entries =
    domains.keys.map fun code => (code, f code) := by
  refine entries_putAll _ _ ?_
  simpa [comp_def] using nodup_keys

lemma newReader_write (sizes : ℕ → ℕ) (h : domains.Fits) :
    ∃ r codes, newReader (write domains) sizes = .ok (r, codes) ∧
    codes.Perm (domains.entries.map Prod.fst) ∧ Opened domains r := by
  have hstart : Buffered.At (write domains) {} ([] : Bytes).length := ⟨rfl, rfl⟩
  obtain ⟨s, hrun, hat, hbase⟩ := hstart.run sizes (decodes_readMetadata h) rfl
  simp only [newReader, hrun, map_map, comp_def]
  refine ⟨_, _, rfl, ?_, fun code => ⟨fun hcode => ?_, fun hcode => ?_⟩⟩
  · rw [entries_putAll_keys, map_map]
    simpa [comp_def] using Domains.perm_keys
  · refine Option.eq_none_iff_forall_ne_some.2 fun index hidx => hcode ?_
    rw [get?_eq_some_iff, entries_putAll_keys] at hidx
    obtain ⟨code', hcode', heq⟩ := mem_map.1 hidx
    cases heq
    exact hcode'
  · obtain ⟨before, after, hcont, hidx⟩ := Domains.content_eq hcode
    refine ⟨domains.index code, domains.metadata ++ before, after, ?_, ?_, ?_, ?_⟩
    · rw [get?_eq_some_iff, entries_putAll_keys]
      exact mem_map_of_mem hcode
    · rw [get?_eq_some_iff, entries_putAll_keys]
      exact mem_map_of_mem hcode
    · have hplace := hat.place
      have hbase : s.base = 0 := hbase
      show s.count - s.buffer.length + domains.index code = _
      rw [length_append, hidx]
      simp only [length_nil] at hplace
      omega
    · rw [write, hcont, append_assoc]

def answer (domains : Domains) (code : Bytes) : Except ReadError (List Item) :=
  match domains.get? code with
  | none => .error (.notExists code)
  | some items => .ok items

lemma Opened.read (sizes : ℕ → ℕ) (h : domains.Fits) (hr : Opened domains r) (code : Bytes) :
    (r.read (write domains) sizes code).1 = answer domains code ∧
    Opened domains (r.read (write domains) sizes code).2 := by
  rw [FileReader.read, answer]
  cases hget : domains.get? code with
  | none =>
    have hcode : code ∉ domains.keys := by simp [Domains.mem_keys, hget]
    rw [(hr code).1 hcode]
    exact ⟨rfl, hr⟩
  | some items =>
    have hcode : code ∈ domains.keys := Domains.mem_keys.2 ⟨items, hget⟩
    have hitems : domains.items code = items := by simp [Domains.items, hget]
    obtain ⟨index, before, after, hidx, hlen, hplace, hfile⟩ := (hr code).2 hcode
    have hval := h.value code hcode
    rw [hitems] at hlen hfile hval
    have hat : Buffered.At (write domains)
        { base := r.metadataIndex + index, reads := r.bufferedReader.reads } before.length :=
      ⟨hplace.symm, by rw [← hplace]; rfl⟩
    have hmany : Decodes (readMany (fun _ error => error) readItem items.length 0)
        (items.flatMap writeItem) items :=
      decodes_readMany items (fun item hitem => decodes_readItem (hval item hitem)) 0
    obtain ⟨s, hrun, -⟩ := hat.run sizes hmany hfile
    simp only [hidx, hlen, Option.getD_some, hrun]
    exact ⟨trivial, hr⟩

lemma Opened.readAll (sizes : ℕ → ℕ) (h : domains.Fits)
    (hr : Opened domains r) (codes : List Bytes) :
    r.readAll (write domains) sizes codes = codes.map (answer domains) := by
  induction codes generalizing r with
  | nil => rfl
  | cons code codes ih =>
    obtain ⟨hread, hopened⟩ := hr.read sizes h code
    rw [FileReader.readAll, hread, ih hopened, map_cons]

/-- A map that was written is read back, however the file is read. -/
theorem readAll_write (domains : Domains) (sizes : ℕ → ℕ) (h : domains.Fits) :
    ∃ r codes, newReader (write domains) sizes = .ok (r, codes) ∧
      codes.Perm (domains.entries.map Prod.fst) ∧
      ∀ calls, r.readAll (write domains) sizes calls = calls.map (answer domains) := by
  obtain ⟨r, codes, hnew, hcodes, hopened⟩ := newReader_write sizes h
  exact ⟨r, codes, hnew, hcodes, hopened.readAll sizes h⟩

theorem readAll_write_empty :
    let domains : Domains := ⟨[([97], [⟨1, [98, 99]⟩, ⟨0, []⟩]), ([], [])], by decide⟩
    ∃ r codes, newReader (write domains) (fun _ => 0) = .ok (r, codes) ∧ codes.Perm [[97], []] ∧
      r.readAll (write domains) (fun _ => 0) [[97], [], [98], [97]] =
        [.ok [⟨1, [98, 99]⟩, ⟨0, []⟩], .ok [], .error (.notExists [98]),
          .ok [⟨1, [98, 99]⟩, ⟨0, []⟩]] := by
  intro domains
  obtain ⟨r, codes, hnew, hcodes, hreads⟩ := readAll_write domains (fun _ => 0)
    ⟨by decide, by decide, by decide, by decide, by decide⟩
  exact ⟨r, codes, hnew, hcodes, hreads _⟩

end SingBox.Geosite

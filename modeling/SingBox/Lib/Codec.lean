import Mathlib.Tactic.Ring

/-!
# Reading what has been written

`Decodes read bytes a`: the reader reads exactly these bytes, whatever follows, and returns `a`.
-/

namespace Codec
open List UInt8
variable {ε : Type*} {bytes' input rest : List UInt8} {n x s : ℕ}

lemma map_eq_ok {α β : Type*} {x : Except ε α} {f : α → β} {b : β} (h : x.map f = .ok b) :
    ∃ a, x = .ok a ∧ f a = b := by
  cases x with
  | error => cases h
  | ok a => exact ⟨a, rfl, Except.ok.inj h⟩

lemma bind_eq_ok {α β : Type*} {x : Except ε α} {f : α → Except ε β} {b : β}
    (h : x.bind f = .ok b) : ∃ a, x = .ok a ∧ f a = .ok b := by
  cases x with
  | error => cases h
  | ok a => exact ⟨a, rfl, h⟩

abbrev Reader (α : Type) := StateT (List UInt8) (Except String) α

def fail {α : Type} (error : String) : Reader α := fun _ => .error error

/-- The reader takes exactly these bytes and returns `a`. -/
def Decodes {α : Type} (read : Reader α) (bytes : List UInt8) (a : α) : Prop :=
  ∀ rest, read (bytes ++ rest) = .ok (a, rest)

variable {α β : Type}

lemma Decodes.pure (a : α) : Decodes (Pure.pure a) [] a := fun _ => rfl

variable {read : Reader α} {bytes : List UInt8} {next : α → Reader β}

lemma Decodes.bind {a : α} (h : Decodes read bytes a) {b : β} (h' : Decodes (next a) bytes' b) :
    Decodes (read >>= next) (bytes ++ bytes') b := by
  intro rest
  have hread : read (bytes ++ (bytes' ++ rest)) = .ok (a, bytes' ++ rest) := h _
  rw [append_assoc]
  show (read (bytes ++ (bytes' ++ rest))).bind (fun p => next p.1 p.2) = _
  rw [hread]
  exact h' rest

lemma Decodes.bind_pure {a : α} (h : Decodes read bytes a)
    (f : α → β) : Decodes (read >>= fun a => Pure.pure (f a)) bytes (f a) := by
  have hbind : Decodes (read >>= fun a => Pure.pure (f a)) (bytes ++ []) (f a) :=
    h.bind (Decodes.pure (f a))
  rwa [append_nil] at hbind

lemma Decodes.check {c : Prop} [Decidable c] {error : String} {next : Unit → Reader α}
    {a : α} (hc : ¬c) (h : Decodes (next ()) bytes a) :
    Decodes (if c then fail error >>= next else next ()) bytes a := by
  rwa [if_neg hc]

lemma bind_ok {b : β} (h : (read >>= next) input = .ok (b, rest)) :
    ∃ a mid, read input = .ok (a, mid) ∧ next a mid = .ok (b, rest) := by
  change (read input).bind (fun p => next p.1 p.2) = .ok (b, rest) at h
  cases hread : read input with
  | error error =>
    rw [hread] at h
    cases h
  | ok p =>
    rw [hread] at h
    exact ⟨p.1, p.2, rfl, h⟩

def Consumes (read : Reader α) : Prop :=
  ∀ input a rest, read input = .ok (a, rest) → rest.length ≤ input.length

namespace Consumes

lemma pure (a : α) : Consumes (Pure.pure a : Reader α) := by
  rintro input _ _ ⟨⟩
  exact le_rfl

lemma fail (error : String) : Consumes (fail error : Reader α) := by
  rintro input _ _ ⟨⟩

lemma bind (h : Consumes read) (h' : ∀ a, Consumes (next a)) : Consumes (read >>= next) := by
  intro input b rest hb
  obtain ⟨a, mid, hread, hnext⟩ := bind_ok hb
  exact (h' a mid b rest hnext).trans (h input a mid hread)

variable {c : Prop}

lemma ite [Decidable c] {read read' : Reader α} (h : Consumes read)
    (h' : Consumes read') : Consumes (if c then read else read') := by
  split_ifs
  · exact h
  · exact h'

lemma check [Decidable c] {error : String} {next : Unit → Reader α} (h : Consumes (next ())) :
    Consumes (if c then Codec.fail error >>= next else next ()) :=
  ite (bind (fail error) fun _ => h) h

end Consumes

def readByte : Reader UInt8
  | [] => .error "EOF"
  | b :: rest => .ok (b, rest)

def readFull (n : ℕ) : Reader (List UInt8) := fun input =>
  if n ≤ input.length then .ok (input.take n, input.drop n)
  else if input.isEmpty then .error "EOF"
  else .error "unexpected EOF"

lemma decodes_readByte (b : UInt8) : Decodes readByte [b] b := fun _ => rfl

lemma decodes_readFull (bytes : List UInt8) : Decodes (readFull bytes.length) bytes bytes := by
  intro rest
  have hle : bytes.length ≤ (bytes ++ rest).length := by simp
  rw [readFull, if_pos hle, take_left', drop_left']
  · rfl
  · rfl

lemma consumes_readByte : Consumes readByte := by
  intro input b rest h
  cases input with
  | nil => cases h
  | cons b' rest' =>
    cases h
    exact Nat.le_succ _

lemma readFull_ok (h : readFull n input = .ok (bytes, rest)) :
    n ≤ input.length ∧ bytes = input.take n ∧ rest = input.drop n := by
  unfold readFull at h
  split_ifs at h with hle
  cases h
  exact ⟨hle, rfl, rfl⟩

lemma consumes_readFull (n : ℕ) : Consumes (readFull n) := by
  intro input bytes rest h
  obtain ⟨-, -, rfl⟩ := readFull_ok h
  rw [length_drop]
  exact Nat.sub_le _ _

def readBool : Reader Bool := do
  let b ← readByte
  return b != 0

def writeBool (b : Bool) : UInt8 := if b then 1 else 0

lemma decodes_readBool (b : Bool) : Decodes readBool [writeBool b] b := by
  have h := (decodes_readByte (writeBool b)).bind_pure (fun b => b != 0)
  cases b <;> exact h

/-- Write a number in at most `k + 1` bytes. -/
def writeUvarintAux : ℕ → ℕ → List UInt8
  | 0, x => [ofNat x]
  | k + 1, x =>
    if 128 ≤ x then ofNat (x % 128 + 128) :: writeUvarintAux k (x / 128)
    else [ofNat x]

def writeUvarint (x : ℕ) : List UInt8 := writeUvarintAux 9 x

def readUvarintAux : ℕ → ℕ → ℕ → Reader ℕ
  | 0, _, _, _ => .error "binary: varint overflows a 64-bit integer"
  | _ + 1, _, s, [] => .error (if s = 0 then "EOF" else "unexpected EOF")
  | k + 1, x, s, b :: rest =>
    if b < 128 then
      -- the tenth byte has room for one bit
      if k = 0 ∧ 1 < b then .error "binary: varint overflows a 64-bit integer"
      else .ok (x ||| b.toNat <<< s, rest)
    else readUvarintAux k (x ||| (b.toNat % 128) <<< s) (s + 7) rest

def readUvarint : Reader ℕ := readUvarintAux 10 0 0

lemma or_shiftLeft (h : x < 2 ^ s) (n : ℕ) : x ||| n <<< s = x + n * 2 ^ s := by
  rw [Nat.shiftLeft_eq, Nat.or_comm, mul_comm n, ← Nat.two_pow_add_eq_or_of_lt h]
  omega

lemma readUvarintAux_last {k : ℕ} (hx : x < 2 ^ s) (hn : n < 128) (hk : k = 0 → n < 2)
    (rest : List UInt8) :
    readUvarintAux (k + 1) x s (ofNat n :: rest) = .ok (x + n * 2 ^ s, rest) := by
  have hnat : (ofNat n).toNat = n := by
    rw [toNat_ofNat']
    exact Nat.mod_eq_of_lt (by omega)
  have hsmall : ofNat n < 128 := by
    rw [lt_iff_toNat_lt, hnat]
    exact hn
  have hbit : ¬(k = 0 ∧ 1 < ofNat n) := by
    rintro ⟨hzero, hone⟩
    rw [lt_iff_toNat_lt, hnat] at hone
    have hone' : 1 < n := hone
    omega
  rw [readUvarintAux, if_pos hsmall, if_neg hbit, hnat, or_shiftLeft hx]

lemma decodes_readUvarintAux (k : ℕ) (hx : x < 2 ^ s) (hn : n < 2 * 128 ^ k) :
    Decodes (readUvarintAux (k + 1) x s) (writeUvarintAux k n) (x + n * 2 ^ s) := by
  induction k generalizing x s n with
  | zero =>
    intro rest
    exact readUvarintAux_last hx (by omega) (fun _ => by omega) rest
  | succ k ih =>
    intro rest
    rw [writeUvarintAux]
    split_ifs with hbig
    · -- a byte with seven bits, and the rest of the number
      have hnat : (ofNat (n % 128 + 128)).toNat = n % 128 + 128 := by
        rw [toNat_ofNat']
        exact Nat.mod_eq_of_lt (by omega)
      have hlarge : ¬ofNat (n % 128 + 128) < 128 := by
        rw [lt_iff_toNat_lt, hnat]
        show ¬n % 128 + 128 < 128
        omega
      have hlow : (n % 128 + 128) % 128 = n % 128 := by omega
      have hx' : x + n % 128 * 2 ^ s < 2 ^ (s + 7) := by
        have hmod : n % 128 ≤ 127 := by omega
        have hmul : n % 128 * 2 ^ s ≤ 127 * 2 ^ s := Nat.mul_le_mul_right _ hmod
        have hpow : 2 ^ (s + 7) = 128 * 2 ^ s := by ring
        omega
      have hn' : n / 128 < 2 * 128 ^ k := by
        have hpow : 2 * 128 ^ (k + 1) = 2 * 128 ^ k * 128 := by ring
        rw [hpow] at hn
        exact Nat.div_lt_of_lt_mul (by rwa [mul_comm] at hn)
      have hval : x + n % 128 * 2 ^ s + n / 128 * 2 ^ (s + 7) = x + n * 2 ^ s := by
        have hsplit : n = n / 128 * 128 + n % 128 := by omega
        have hpow : 2 ^ (s + 7) = 128 * 2 ^ s := by ring
        calc x + n % 128 * 2 ^ s + n / 128 * 2 ^ (s + 7)
            = x + (n / 128 * 128 + n % 128) * 2 ^ s := by
              rw [hpow]
              ring
          _ = x + n * 2 ^ s := by rw [← hsplit]
      have hrest := ih hx' hn' rest
      rw [hval] at hrest
      rw [cons_append, readUvarintAux, if_neg hlarge, hnat, hlow, or_shiftLeft hx]
      exact hrest
    · exact readUvarintAux_last hx (by omega) (fun h => by omega) rest

lemma decodes_readUvarint (h : n < 2 ^ 64) : Decodes readUvarint (writeUvarint n) n := by
  have hbd : n < 2 * 128 ^ 9 := by
    norm_num at h ⊢
    omega
  have hdec := decodes_readUvarintAux 9 (x := 0) (s := 0) (by norm_num) hbd
  rwa [pow_zero, Nat.mul_one, Nat.zero_add] at hdec

def readMany (wrap : ℕ → String → String) (read : Reader α) : ℕ → ℕ → Reader (List α)
  | 0, _ => Pure.pure []
  | n + 1, i => fun input =>
    match read input with
    | .error error => .error (wrap i error)
    | .ok (a, input) =>
      match readMany wrap read n (i + 1) input with
      | .error error => .error error
      | .ok (rest, input) => .ok (a :: rest, input)

lemma decodes_readMany_nil (wrap : ℕ → String → String) (read : Reader α) (i : ℕ) :
    Decodes (readMany wrap read 0 i) [] [] := fun _ => rfl

variable {wrap : ℕ → String → String}

lemma decodes_readMany_cons {i : ℕ} {a : α} {as : List α} (h : Decodes read bytes a)
    (h' : Decodes (readMany wrap read n (i + 1)) bytes' as) :
    Decodes (readMany wrap read (n + 1) i) (bytes ++ bytes') (a :: as) := by
  intro rest
  have hread : read (bytes ++ (bytes' ++ rest)) = .ok (a, bytes' ++ rest) := h _
  have hmany : readMany wrap read n (i + 1) (bytes' ++ rest) = .ok (as, rest) := h' _
  rw [append_assoc, readMany]
  simp [hread, hmany]

lemma decodes_readMany_map {read : Reader β} {write : α → List UInt8} {value : α → β} (as : List α)
    (h : ∀ a ∈ as, Decodes read (write a) (value a)) (i : ℕ) :
    Decodes (readMany wrap read as.length i) (as.flatMap write) (as.map value) := by
  induction as generalizing i with
  | nil => exact decodes_readMany_nil wrap read i
  | cons a as ih =>
    rw [flatMap_cons, length_cons, map_cons]
    have hhead : Decodes read (write a) (value a) := h a mem_cons_self
    exact decodes_readMany_cons hhead (ih (fun b hb => h b (mem_cons_of_mem _ hb)) (i + 1))

lemma decodes_readMany {write : α → List UInt8}
    (as : List α) (h : ∀ a ∈ as, Decodes read (write a) a) (i : ℕ) :
    Decodes (readMany wrap read as.length i) (as.flatMap write) as := by
  have hmap : Decodes (readMany wrap read as.length i) (as.flatMap write) (as.map id) :=
    decodes_readMany_map as h i
  rwa [map_id] at hmap

def readBytes : Reader (List UInt8) := do
  let length ← readUvarint
  readFull length

def writeBytes (bytes : List UInt8) : List UInt8 := writeUvarint bytes.length ++ bytes

lemma decodes_readBytes (h : bytes.length < 2 ^ 64) : Decodes readBytes (writeBytes bytes) bytes :=
  (decodes_readUvarint h).bind (decodes_readFull bytes)

end Codec

import Mathlib.Data.List.Basic
import ModuleGlue.Proofs.Outcome
import ModuleGlue.Text.Utf8

/-!
Contract: which bytes can be read.

Bytes can be read exactly if they are those of a text, and then they are read as that text. The
first byte of a character tells how many follow it, and in which range the next one is; the others
are only bounded by the format.

Main statement: `decode_eq_ok_iff`.

Owns: the bytes of a character, as they are read one by one.

Does not own: what is said of bytes that cannot be read.
-/

namespace ModuleGlue.Text.Utf8

/-! ## Characters that are begun -/

/-- The bits of a character, with those of the bytes behind its first one. -/
def bitsWith (bits : Nat) (tail : List UInt8) : Nat :=
  tail.foldl (fun bits byte => bits * 0x40 + (byte.toNat - 0x80)) bits

/-- The bytes complete a character: the first of them is within some bounds, and `owed` others are
within those that hold for all. -/
inductive Completes : (low high owed : Nat) → List UInt8 → Prop where
  | last {low high : Nat} {byte : UInt8} (within : low ≤ byte.toNat ∧ byte.toNat ≤ high) :
      Completes low high 0 [byte]
  | more {low high owed : Nat} {byte : UInt8} {tail : List UInt8}
      (within : low ≤ byte.toNat ∧ byte.toNat ≤ high) (others : Completes 0x80 0xBF owed tail) :
      Completes low high (owed + 1) (byte :: tail)

theorem completes_zero_iff {low high : Nat} {tail : List UInt8} :
    Completes low high 0 tail ↔
      ∃ byte, tail = [byte] ∧ low ≤ byte.toNat ∧ byte.toNat ≤ high := by
  constructor
  · rintro ⟨within⟩
    exact ⟨_, rfl, within⟩
  · rintro ⟨byte, rfl, within⟩
    exact .last within

theorem completes_succ_iff {low high owed : Nat} {tail : List UInt8} :
    Completes low high (owed + 1) tail ↔
      ∃ byte rest, tail = byte :: rest ∧ (low ≤ byte.toNat ∧ byte.toNat ≤ high) ∧
        Completes 0x80 0xBF owed rest := by
  constructor
  · intro completes
    cases completes with
    | more within others => exact ⟨_, _, rfl, within, others⟩
  · rintro ⟨byte, rest, rfl, within, others⟩
    exact .more within others

theorem bitsWith_cons (bits : Nat) (byte : UInt8) (tail : List UInt8) :
    bitsWith bits (byte :: tail) = bitsWith (bits * 0x40 + (byte.toNat - 0x80)) tail := by
  unfold bitsWith
  rw [List.foldl_cons]

/-! ## Reading on -/

def Reader.readAll (reader : Reader) (bytes : List UInt8) : Except Fault (List Char) :=
  (bytes.foldlM Reader.read reader).bind Reader.finish

theorem readAll_cons (reader : Reader) (byte : UInt8) (rest : List UInt8) :
    reader.readAll (byte :: rest) = (reader.read byte).bind fun next => next.readAll rest := by
  unfold Reader.readAll
  rw [List.foldlM_cons]
  cases reader.read byte <;> rfl

/-- A character that is begun cannot end here. -/
theorem readAll_pending_nil {text acc : List Char} {position : Nat} {pending : Pending} :
    (⟨acc, position, some pending⟩ : Reader).readAll [] ≠ .ok text := by
  intro impossible
  cases impossible

theorem not_completes_nil {low high owed : Nat} {more : List UInt8 → List UInt8 → Prop} :
    ¬ ∃ tail rest, [] = tail ++ rest ∧ Completes low high owed tail ∧ more tail rest := by
  rintro ⟨tail, rest, empty, completes, -⟩
  obtain ⟨rfl, -⟩ := List.append_eq_nil_iff.1 empty.symm
  cases completes

/-- A character that is begun is read to its last byte, and then what is behind it. -/
theorem readAll_pending_iff {text acc : List Char} {position : Nat} {pending : Pending}
    {bytes : List UInt8} :
    (⟨acc, position, some pending⟩ : Reader).readAll bytes = .ok text ↔
      ∃ tail rest, bytes = tail ++ rest ∧ Completes pending.low pending.high pending.owed tail ∧
        (⟨Char.ofNat (bitsWith pending.bits tail) :: acc, position + tail.length, none⟩ :
          Reader).readAll rest = .ok text := by
  obtain ⟨lead, first, taken, owed, low, high, bits⟩ := pending
  dsimp only
  induction owed generalizing bytes position taken low high bits with
  | zero =>
      cases bytes with
      | nil => exact iff_of_false readAll_pending_nil not_completes_nil
      | cons byte rest =>
          simp only [completes_zero_iff]
          rw [readAll_cons, Reader.read]
          dsimp only
          split
          · rename_i within
            constructor
            · intro read
              exact ⟨[byte], rest, rfl, ⟨byte, rfl, within⟩, read⟩
            · rintro ⟨tail, others, whole, ⟨other, rfl, -⟩, read⟩
              obtain ⟨rfl, rfl⟩ := List.cons.inj whole
              exact read
          · rename_i outside
            constructor
            · intro impossible
              cases impossible
            · rintro ⟨tail, others, whole, ⟨other, rfl, within⟩, -⟩
              obtain ⟨rfl, -⟩ := List.cons.inj whole
              exact absurd within outside
  | succ owed inductionHypothesis =>
      cases bytes with
      | nil => exact iff_of_false readAll_pending_nil not_completes_nil
      | cons byte rest =>
          simp only [completes_succ_iff]
          rw [readAll_cons, Reader.read]
          dsimp only
          split
          · rename_i within
            refine Iff.trans (inductionHypothesis _ _ _ _) ?_
            constructor
            · rintro ⟨tail, others, rfl, completes, read⟩
              refine ⟨byte :: tail, others, rfl, ⟨byte, tail, rfl, within, completes⟩, ?_⟩
              rw [bitsWith_cons, List.length_cons, Nat.add_comm tail.length, ← Nat.add_assoc]
              exact read
            · rintro ⟨_, others, whole, ⟨other, tail, rfl, -, completes⟩, read⟩
              obtain ⟨rfl, rfl⟩ := List.cons.inj whole
              refine ⟨tail, others, rfl, completes, ?_⟩
              rw [bitsWith_cons, List.length_cons, Nat.add_comm tail.length, ← Nat.add_assoc] at read
              exact read
          · rename_i outside
            constructor
            · intro impossible
              cases impossible
            · rintro ⟨_, others, whole, ⟨other, tail, rfl, within, -⟩, -⟩
              obtain ⟨rfl, -⟩ := List.cons.inj whole
              exact absurd within outside

/-! ## First bytes -/

/-- What a first byte tells of its character: how many bytes are owed behind the next one, the
bounds of the next one, and the bits of the first. Overlong forms, surrogates and what is beyond the
last character are kept out by the bounds. -/
inductive Leads (byte : Nat) : (owed low high bits : Nat) → Prop where
  | two (range : 0xC2 ≤ byte ∧ byte ≤ 0xDF) : Leads byte 0 0x80 0xBF (byte - 0xC0)
  | three (range : 0xE0 ≤ byte ∧ byte ≤ 0xEF) :
      Leads byte 1 (if byte = 0xE0 then 0xA0 else 0x80) (if byte = 0xED then 0x9F else 0xBF)
        (byte - 0xE0)
  | four (range : 0xF0 ≤ byte ∧ byte ≤ 0xF4) :
      Leads byte 2 (if byte = 0xF0 then 0x90 else 0x80) (if byte = 0xF4 then 0x8F else 0xBF)
        (byte - 0xF0)

theorem ofLead?_eq_some_iff {byte : UInt8} {first : Nat} {pending : Pending} :
    Pending.ofLead? byte first = some pending ↔
      ∃ owed low high bits, Leads byte.toNat owed low high bits ∧
        pending = ⟨byte, first, 1, owed, low, high, bits⟩ := by
  unfold Pending.ofLead?
  dsimp only
  constructor
  · intro begun
    split at begun
    · rename_i range
      exact ⟨_, _, _, _, .two range, (Option.some.inj begun).symm⟩
    split at begun
    · rename_i lowest
      refine ⟨_, _, _, _, .three (by omega), ?_⟩
      rw [← Option.some.inj begun, if_pos lowest, if_neg (by omega), lowest]
    split at begun
    · rename_i surrogates
      refine ⟨_, _, _, _, .three (by omega), ?_⟩
      rw [← Option.some.inj begun, if_neg (by omega), if_pos surrogates, surrogates]
    split at begun
    · refine ⟨_, _, _, _, .three (by omega), ?_⟩
      rw [← Option.some.inj begun, if_neg (by omega), if_neg (by omega)]
    split at begun
    · rename_i lowest
      refine ⟨_, _, _, _, .four (by omega), ?_⟩
      rw [← Option.some.inj begun, if_pos lowest, if_neg (by omega), lowest]
    split at begun
    · rename_i highest
      refine ⟨_, _, _, _, .four (by omega), ?_⟩
      rw [← Option.some.inj begun, if_neg (by omega), if_pos highest, highest]
    split at begun
    · refine ⟨_, _, _, _, .four (by omega), ?_⟩
      rw [← Option.some.inj begun, if_neg (by omega), if_neg (by omega)]
    · cases begun
  · rintro ⟨owed, low, high, bits, leads, rfl⟩
    cases leads with
    | two range => rw [if_pos range]
    | three range =>
        by_cases lowest : byte.toNat = 0xE0
        · simp [lowest]
        by_cases surrogates : byte.toNat = 0xED
        · simp [surrogates]
        · rw [if_neg (by omega), if_neg lowest, if_neg surrogates, if_pos (by omega), if_neg lowest,
            if_neg surrogates]
    | four range =>
        by_cases lowest : byte.toNat = 0xF0
        · simp [lowest]
        by_cases highest : byte.toNat = 0xF4
        · simp [highest]
        · rw [if_neg (by omega), if_neg (by omega), if_neg (by omega), if_neg (by omega),
            if_neg lowest, if_neg highest, if_pos (by omega), if_neg lowest, if_neg highest]

/-! ## The bytes of a character -/

/-- What a first byte and the bytes behind it stand for. -/
inductive StandsFor : UInt8 → List UInt8 → Char → Prop where
  | single {byte : UInt8} (small : byte.toNat < 0x80) : StandsFor byte [] (Char.ofNat byte.toNat)
  | several {byte : UInt8} {owed low high bits : Nat} {tail : List UInt8}
      (leads : Leads byte.toNat owed low high bits) (completes : Completes low high owed tail) :
      StandsFor byte tail (Char.ofNat (bitsWith bits tail))

theorem toNat_ofNat_of_valid {n : Nat} (valid : n.isValidChar) : (Char.ofNat n).toNat = n := by
  rw [Char.ofNat, dif_pos valid]
  rfl

theorem toNat_ofNat_of_lt {n : Nat} (small : n < 0x100) : (UInt8.ofNat n).toNat = n := by
  rw [UInt8.toNat_ofNat', Nat.mod_eq_of_lt small]

/-- The bytes of a character, one by one. The bounds on its number are those of each length. -/
theorem utf8EncodeChar_cases (c : Char) :
    (c.toNat < 0x80 ∧ String.utf8EncodeChar c = [UInt8.ofNat c.toNat]) ∨
    (0x80 ≤ c.toNat ∧ c.toNat < 0x800 ∧ String.utf8EncodeChar c =
      [UInt8.ofNat (c.toNat / 0x40 + 0xC0), UInt8.ofNat (c.toNat % 0x40 + 0x80)]) ∨
    (0x800 ≤ c.toNat ∧ c.toNat < 0x10000 ∧ ¬ (0xD800 ≤ c.toNat ∧ c.toNat < 0xE000) ∧
      String.utf8EncodeChar c = [UInt8.ofNat (c.toNat / 0x1000 + 0xE0),
        UInt8.ofNat (c.toNat / 0x40 % 0x40 + 0x80), UInt8.ofNat (c.toNat % 0x40 + 0x80)]) ∨
    (0x10000 ≤ c.toNat ∧ c.toNat < 0x110000 ∧ String.utf8EncodeChar c =
      [UInt8.ofNat (c.toNat / 0x40000 + 0xF0), UInt8.ofNat (c.toNat / 0x1000 % 0x40 + 0x80),
        UInt8.ofNat (c.toNat / 0x40 % 0x40 + 0x80), UInt8.ofNat (c.toNat % 0x40 + 0x80)]) := by
  have valid : c.toNat < 0xD800 ∨ 0xDFFF < c.toNat ∧ c.toNat < 0x110000 := c.valid
  have encoded : String.utf8EncodeChar c =
      if c.toNat ≤ 127 then [UInt8.ofNat c.toNat]
      else if c.toNat ≤ 2047 then
        [UInt8.ofNat (c.toNat / 64 % 32 + 192), UInt8.ofNat (c.toNat % 64 + 128)]
      else if c.toNat ≤ 65535 then
        [UInt8.ofNat (c.toNat / 4096 % 16 + 224), UInt8.ofNat (c.toNat / 64 % 64 + 128),
          UInt8.ofNat (c.toNat % 64 + 128)]
      else
        [UInt8.ofNat (c.toNat / 262144 % 8 + 240), UInt8.ofNat (c.toNat / 4096 % 64 + 128),
          UInt8.ofNat (c.toNat / 64 % 64 + 128), UInt8.ofNat (c.toNat % 64 + 128)] := rfl
  rw [encoded]
  generalize c.toNat = v at valid ⊢
  by_cases one : v < 0x80
  · left
    exact ⟨one, if_pos (by omega)⟩
  by_cases two : v < 0x800
  · right; left
    refine ⟨by omega, two, ?_⟩
    rw [if_neg (by omega), if_pos (by omega), Nat.mod_eq_of_lt (by omega : v / 64 < 32)]
  by_cases three : v < 0x10000
  · right; right; left
    refine ⟨by omega, three, by omega, ?_⟩
    rw [if_neg (by omega), if_neg (by omega), if_pos (by omega),
      Nat.mod_eq_of_lt (by omega : v / 4096 < 16)]
  · right; right; right
    refine ⟨by omega, by omega, ?_⟩
    rw [if_neg (by omega), if_neg (by omega), if_neg (by omega),
      Nat.mod_eq_of_lt (by omega : v / 262144 < 8)]

section
variable {n : Nat} {first second third fourth : UInt8}

theorem utf8EncodeChar_two (range : 0x80 ≤ n ∧ n < 0x800) (one : first.toNat = n / 0x40 + 0xC0)
    (two : second.toNat = n % 0x40 + 0x80) :
    String.utf8EncodeChar (Char.ofNat n) = [first, second] := by
  have same : (Char.ofNat n).toNat = n := toNat_ofNat_of_valid (Or.inl (by omega))
  have cases := utf8EncodeChar_cases (Char.ofNat n)
  rw [same, ← one, ← two, UInt8.ofNat_toNat, UInt8.ofNat_toNat] at cases
  rcases cases with cases | ⟨-, -, encoded⟩ | cases | cases
  · omega
  · exact encoded
  · omega
  · omega

theorem utf8EncodeChar_three (range : 0x800 ≤ n ∧ n < 0x10000)
    (noSurrogate : ¬ (0xD800 ≤ n ∧ n < 0xE000)) (one : first.toNat = n / 0x1000 + 0xE0)
    (two : second.toNat = n / 0x40 % 0x40 + 0x80) (three : third.toNat = n % 0x40 + 0x80) :
    String.utf8EncodeChar (Char.ofNat n) = [first, second, third] := by
  have valid : n.isValidChar := by
    unfold Nat.isValidChar
    omega
  have same : (Char.ofNat n).toNat = n := toNat_ofNat_of_valid valid
  have cases := utf8EncodeChar_cases (Char.ofNat n)
  rw [same, ← one, ← two, ← three, UInt8.ofNat_toNat, UInt8.ofNat_toNat, UInt8.ofNat_toNat]
    at cases
  rcases cases with cases | cases | ⟨-, -, -, encoded⟩ | cases
  · omega
  · omega
  · exact encoded
  · omega

theorem utf8EncodeChar_four (range : 0x10000 ≤ n ∧ n < 0x110000)
    (one : first.toNat = n / 0x40000 + 0xF0) (two : second.toNat = n / 0x1000 % 0x40 + 0x80)
    (three : third.toNat = n / 0x40 % 0x40 + 0x80) (four : fourth.toNat = n % 0x40 + 0x80) :
    String.utf8EncodeChar (Char.ofNat n) = [first, second, third, fourth] := by
  have valid : n.isValidChar := by
    unfold Nat.isValidChar
    omega
  have same : (Char.ofNat n).toNat = n := toNat_ofNat_of_valid valid
  have cases := utf8EncodeChar_cases (Char.ofNat n)
  rw [same, ← one, ← two, ← three, ← four, UInt8.ofNat_toNat, UInt8.ofNat_toNat,
    UInt8.ofNat_toNat, UInt8.ofNat_toNat] at cases
  rcases cases with cases | cases | cases | ⟨-, -, encoded⟩
  · omega
  · omega
  · omega
  · exact encoded

end

theorem bitsWith_one (bits : Nat) (first : UInt8) :
    bitsWith bits [first] = bits * 0x40 + (first.toNat - 0x80) := by
  rw [bitsWith_cons]
  rfl

theorem bitsWith_two (bits : Nat) (first second : UInt8) :
    bitsWith bits [first, second] =
      (bits * 0x40 + (first.toNat - 0x80)) * 0x40 + (second.toNat - 0x80) := by
  rw [bitsWith_cons, bitsWith_one]

theorem bitsWith_three (bits : Nat) (first second third : UInt8) :
    bitsWith bits [first, second, third] =
      ((bits * 0x40 + (first.toNat - 0x80)) * 0x40 + (second.toNat - 0x80)) * 0x40 +
        (third.toNat - 0x80) := by
  rw [bitsWith_cons, bitsWith_two]

theorem StandsFor.encoded {byte : UInt8} {tail : List UInt8} {c : Char}
    (stands : StandsFor byte tail c) : String.utf8EncodeChar c = byte :: tail := by
  cases stands with
  | single small =>
      have same : (Char.ofNat byte.toNat).toNat = byte.toNat :=
        toNat_ofNat_of_valid (Or.inl (by omega))
      have cases := utf8EncodeChar_cases (Char.ofNat byte.toNat)
      rw [same, UInt8.ofNat_toNat] at cases
      rcases cases with ⟨-, encoded⟩ | cases | cases | cases
      · exact encoded
      · omega
      · omega
      · omega
  | several leads completes =>
      cases leads with
      | two range =>
          obtain ⟨second, rfl, within⟩ := completes_zero_iff.1 completes
          rw [bitsWith_one]
          apply utf8EncodeChar_two <;> omega
      | three range =>
          obtain ⟨second, _, rfl, within, others⟩ := completes_succ_iff.1 completes
          obtain ⟨third, rfl, within'⟩ := completes_zero_iff.1 others
          rw [bitsWith_two]
          apply utf8EncodeChar_three <;> split at within <;> split at within <;> omega
      | four range =>
          obtain ⟨second, _, rfl, within, others⟩ := completes_succ_iff.1 completes
          obtain ⟨third, _, rfl, within', others⟩ := completes_succ_iff.1 others
          obtain ⟨fourth, rfl, within''⟩ := completes_zero_iff.1 others
          rw [bitsWith_three]
          apply utf8EncodeChar_four <;> split at within <;> split at within <;> omega

theorem StandsFor.of_bits {byte : UInt8} {tail : List UInt8} {n owed low high bits : Nat}
    (leads : Leads byte.toNat owed low high bits) (completes : Completes low high owed tail)
    (same : bitsWith bits tail = n) : StandsFor byte tail (Char.ofNat n) :=
  same ▸ .several leads completes

/-- The bytes of a character stand for it. -/
theorem standsFor_of_encoded {byte : UInt8} {tail : List UInt8} {c : Char}
    (encoded : String.utf8EncodeChar c = byte :: tail) : StandsFor byte tail c := by
  rw [← Char.ofNat_toNat c]
  rcases utf8EncodeChar_cases c with ⟨small, bytes⟩ | ⟨low, high, bytes⟩ |
    ⟨low, high, noSurrogate, bytes⟩ | ⟨low, high, bytes⟩
  all_goals
    rw [encoded] at bytes
    obtain ⟨rfl, rfl⟩ := List.cons.inj bytes
    clear encoded bytes
    generalize c.toNat = n at *
  · have first := toNat_ofNat_of_lt (by omega : n < 0x100)
    have stands := StandsFor.single (by omega : (UInt8.ofNat n).toNat < 0x80)
    rwa [first] at stands
  · have first := toNat_ofNat_of_lt (by omega : n / 0x40 + 0xC0 < 0x100)
    have second := toNat_ofNat_of_lt (by omega : n % 0x40 + 0x80 < 0x100)
    refine .of_bits (.two (by omega)) (.last (by omega)) ?_
    rw [bitsWith_one]
    omega
  · have first := toNat_ofNat_of_lt (by omega : n / 0x1000 + 0xE0 < 0x100)
    have second := toNat_ofNat_of_lt (by omega : n / 0x40 % 0x40 + 0x80 < 0x100)
    have third := toNat_ofNat_of_lt (by omega : n % 0x40 + 0x80 < 0x100)
    refine .of_bits (.three (by omega)) (.more ?_ (.last (by omega))) ?_
    · constructor <;> split <;> omega
    · rw [bitsWith_two]
      omega
  · have first := toNat_ofNat_of_lt (by omega : n / 0x40000 + 0xF0 < 0x100)
    have second := toNat_ofNat_of_lt (by omega : n / 0x1000 % 0x40 + 0x80 < 0x100)
    have third := toNat_ofNat_of_lt (by omega : n / 0x40 % 0x40 + 0x80 < 0x100)
    have fourth := toNat_ofNat_of_lt (by omega : n % 0x40 + 0x80 < 0x100)
    refine .of_bits (.four (by omega)) (.more ?_ (.more (by omega) (.last (by omega)))) ?_
    · constructor <;> split <;> omega
    · rw [bitsWith_three]
      omega

/-- What is read from between two characters: the next character, and what is behind it. -/
theorem readAll_cons_iff {text acc : List Char} {position : Nat} {byte : UInt8}
    {bytes : List UInt8} :
    (⟨acc, position, none⟩ : Reader).readAll (byte :: bytes) = .ok text ↔
      ∃ tail rest c, bytes = tail ++ rest ∧ StandsFor byte tail c ∧
        (⟨c :: acc, position + 1 + tail.length, none⟩ : Reader).readAll rest = .ok text := by
  rw [readAll_cons, Reader.read]
  dsimp only
  split
  · rename_i small
    constructor
    · intro read
      exact ⟨[], bytes, _, rfl, .single small, read⟩
    · rintro ⟨tail, rest, c, rfl, stands, read⟩
      cases stands with
      | single => exact read
      | several leads =>
          cases leads <;> omega
  · rename_i large
    constructor
    · intro read
      cases begun : Pending.ofLead? byte position with
      | none =>
          rw [begun] at read
          cases read
      | some pending =>
          rw [begun] at read
          obtain ⟨owed, low, high, bits, leads, rfl⟩ := ofLead?_eq_some_iff.1 begun
          obtain ⟨tail, rest, rfl, completes, read⟩ := readAll_pending_iff.1 read
          exact ⟨tail, rest, _, rfl, .several leads completes, read⟩
    · rintro ⟨tail, rest, c, rfl, stands, read⟩
      cases stands with
      | single small => exact absurd small large
      | several leads completes =>
          rw [ofLead?_eq_some_iff.2 ⟨_, _, _, _, leads, rfl⟩]
          exact readAll_pending_iff.2 ⟨tail, rest, rfl, completes, read⟩

/-! ## Texts -/

theorem encode_cons (c : Char) (text : List Char) :
    encode (c :: text) = String.utf8EncodeChar c ++ encode text :=
  rfl

theorem readAll_encode (text acc : List Char) (position : Nat) :
    (⟨acc, position, none⟩ : Reader).readAll (encode text) = .ok (acc.reverse ++ text) := by
  induction text generalizing acc position with
  | nil => exact congrArg Except.ok (List.append_nil _).symm
  | cons c rest inductionHypothesis =>
      rw [encode_cons]
      cases bytes : String.utf8EncodeChar c with
      | nil =>
          have cases := utf8EncodeChar_cases c
          simp [bytes] at cases
      | cons byte tail =>
          rw [List.cons_append, readAll_cons_iff]
          refine ⟨tail, encode rest, c, rfl, standsFor_of_encoded bytes, ?_⟩
          rw [inductionHypothesis, List.reverse_cons, List.append_assoc]
          rfl

theorem eq_encode_of_readAll {text acc : List Char} {position : Nat} {bytes : List UInt8}
    (read : (⟨acc, position, none⟩ : Reader).readAll bytes = .ok text) :
    ∃ rest, bytes = encode rest ∧ text = acc.reverse ++ rest := by
  -- Each round takes the bytes of one character.
  induction size : bytes.length using Nat.strongRecOn generalizing bytes acc position with
  | ind size inductionHypothesis =>
      subst size
      cases bytes with
      | nil => exact ⟨[], rfl, by rw [← Except.ok.inj read, List.append_nil]⟩
      | cons byte bytes =>
          obtain ⟨tail, others, c, rfl, stands, read⟩ := readAll_cons_iff.1 read
          have shorter : others.length < (byte :: (tail ++ others)).length := by
            rw [List.length_cons, List.length_append]
            omega
          obtain ⟨rest, rfl, rfl⟩ := inductionHypothesis _ shorter read rfl
          refine ⟨c :: rest, ?_, ?_⟩
          · rw [encode_cons, stands.encoded]
            rfl
          · rw [List.reverse_cons, List.append_assoc]
            rfl

/-- **Bytes can be read exactly if they are those of a text**, and they are read as that text. -/
theorem decode_eq_ok_iff {bytes : List UInt8} {text : List Char} :
    decode bytes = .ok text ↔ bytes = encode text := by
  constructor
  · intro read
    obtain ⟨rest, rfl, rfl⟩ := eq_encode_of_readAll read
    rfl
  · rintro rfl
    exact readAll_encode text [] 0

end ModuleGlue.Text.Utf8

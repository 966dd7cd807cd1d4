import Mathlib.Algebra.Group.Nat.Defs
import Mathlib.Data.List.Induction
import ChainReplica.Venue.Reserves

/-!
# The data of a `Sync` log

The reader of `Sync` logs undoes a writer: the data it accepts is what the two
numbers it gives are written as, each in 32 bytes, first byte most significant
(`Reserves.encodePair`). Bytes and numbers are in bijection, for `bytesOf` and `word`
undo each other on strings of one width (`word_bytesOf`, `bytesOf_word`). So no two
strings are read alike, and no bit of a word is passed over.
-/

namespace ChainReplica

namespace Reserves

/-! ## Numbers of one width -/

/-- The lowest `width` bytes of a number, most significant first. -/
def bytesOf (width n : Nat) : List UInt8 :=
  (List.range width).reverse.map fun place => UInt8.ofNat (n / 256 ^ place)

theorem length_bytesOf (width n : Nat) : (bytesOf width n).length = width := by
  simp [bytesOf]

theorem bytesOf_succ (width n : Nat) :
    bytesOf (width + 1) n = bytesOf width (n / 256) ++ [UInt8.ofNat n] := by
  simp [bytesOf, List.range_succ_eq_map, List.map_reverse, Nat.div_div_eq_div_mul, Nat.pow_succ']

theorem word_append_singleton (bytes : List UInt8) (b : UInt8) :
    word (bytes ++ [b]) = word bytes * 256 + b.toNat := by
  rw [word, List.map_append, List.map_singleton, Numeral.value_append_singleton, word]

/-- Reading undoes writing. -/
theorem word_bytesOf {width n : Nat} (h : n < 256 ^ width) : word (bytesOf width n) = n := by
  induction width generalizing n with
  | zero => exact (Nat.lt_one_iff.mp h).symm
  | succ width ih =>
      have hhigh : n / 256 < 256 ^ width :=
        Nat.div_lt_of_lt_mul (by rwa [← Nat.pow_succ'])
      rw [bytesOf_succ, word_append_singleton, ih hhigh, UInt8.toNat_ofNat']
      omega

/-- Writing undoes reading. -/
theorem bytesOf_word (bytes : List UInt8) : bytesOf bytes.length (word bytes) = bytes := by
  induction bytes using List.reverseRecOn with
  | nil => rfl
  | append_singleton front b ih =>
      have hb := b.toNat_lt
      have hhigh : (word front * 256 + b.toNat) / 256 = word front := by omega
      have hlow : UInt8.ofNat (word front * 256 + b.toNat) = b := by
        apply UInt8.toNat_inj.mp
        rw [UInt8.toNat_ofNat']
        omega
      rw [List.length_append, List.length_singleton, word_append_singleton, bytesOf_succ, hhigh,
        hlow, ih]

/-! ## Two words -/

def encodePair (r₀ r₁ : Nat) : List UInt8 := bytesOf 32 r₀ ++ bytesOf 32 r₁

variable {data : List UInt8} {r₀ r₁ : Nat} {log : Log}

theorem eq_encodePair_iff (h₀ : r₀ < 2 ^ 112) (h₁ : r₁ < 2 ^ 112) : data = encodePair r₀ r₁ ↔
    ∃ first second, data = first ++ second ∧ first.length = 32 ∧ second.length = 32
      ∧ word first = r₀ ∧ word second = r₁ := by
  have hwide : 2 ^ 112 ≤ 256 ^ 32 := by decide
  constructor
  · rintro rfl
    exact ⟨_, _, rfl, length_bytesOf _ _, length_bytesOf _ _,
      word_bytesOf (Nat.lt_of_lt_of_le h₀ hwide), word_bytesOf (Nat.lt_of_lt_of_le h₁ hwide)⟩
  · rintro ⟨first, second, rfl, hfirst, hsecond, rfl, rfl⟩
    calc first ++ second
        = bytesOf first.length (word first) ++ bytesOf second.length (word second) := by
          rw [bytesOf_word, bytesOf_word]
      _ = encodePair (word first) (word second) := by rw [hfirst, hsecond, encodePair]

/-- What is read are the two words of the data, if they are below the limit. -/
theorem decodeSync_eq_ok_iff : decodeSync log = .ok (r₀, r₁) ↔
    log.topics.head? = some syncTopic ∧ r₀ < 2 ^ 112 ∧ r₁ < 2 ^ 112
      ∧ ∃ first second, log.data = first ++ second ∧ first.length = 32 ∧ second.length = 32
        ∧ word first = r₀ ∧ word second = r₁ := by
  have hlimit : reserveLimit = 2 ^ 112 := by decide
  rw [decodeSync, hlimit]
  constructor
  · intro h
    split at h
    · rename_i hread
      obtain ⟨htopic, hlength, hfirst, hsecond⟩ := hread
      cases h
      exact ⟨htopic, hfirst, hsecond, _, _, (List.take_append_drop 32 _).symm, by simp [hlength],
        by simp [hlength], rfl, rfl⟩
    · cases h
  · rintro ⟨htopic, h₀, h₁, first, second, hdata, hfirst, hsecond, rfl, rfl⟩
    have hlength : log.data.length = 64 := by rw [hdata, List.length_append, hfirst, hsecond]
    have htake : log.data.take 32 = first := by rw [hdata, List.take_left' hfirst]
    have hdrop : log.data.drop 32 = second := by rw [hdata, List.drop_left' hfirst]
    rw [htake, hdrop, if_pos ⟨htopic, hlength, h₀, h₁⟩]

/-- Accepted are the logs whose data is two numbers of at most 112 bits, written in 32
bytes each, and what is read are these numbers. Of the topics only the first one counts. -/
theorem decodeSync_exact (log : Log) :
    (∀ r₀ r₁, decodeSync log = .ok (r₀, r₁) ↔
        log.topics.head? = some syncTopic ∧ r₀ < 2 ^ 112 ∧ r₁ < 2 ^ 112
          ∧ ∃ first second, log.data = first ++ second ∧ first.length = 32 ∧ second.length = 32
            ∧ word first = r₀ ∧ word second = r₁)
      ∧ (∀ r₀ r₁, decodeSync log = .ok (r₀, r₁) ↔
        log.topics.head? = some syncTopic ∧ r₀ < 2 ^ 112 ∧ r₁ < 2 ^ 112
          ∧ log.data = encodePair r₀ r₁)
      ∧ decodeSync log = decodeSync ⟨0, log.topics.take 1, log.data, none, none⟩ := by
  refine ⟨fun r₀ r₁ => decodeSync_eq_ok_iff, fun r₀ r₁ => ?_, ?_⟩
  · rw [decodeSync_eq_ok_iff]
    refine and_congr_right fun _ => and_congr_right fun h₀ => and_congr_right fun h₁ => ?_
    exact (eq_encodePair_iff h₀ h₁).symm
  · rw [decodeSync, decodeSync, List.head?_take]
    rfl

/-- The greatest number that is read, and the next one, which is not. -/
example : (decodeSync ⟨7, [syncTopic, 5], encodePair (2 ^ 112 - 1) 3, none, none⟩).toOption =
      some (2 ^ 112 - 1, 3)
    ∧ (decodeSync ⟨7, [syncTopic, 5], encodePair (2 ^ 112) 3, none, none⟩).toOption = none := by
  decide +kernel

end Reserves

end ChainReplica

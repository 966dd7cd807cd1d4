import ChainReplica.Proofs.ReadBack
import ChainReplica.Venue.Reserves

/-!
# Records of every kind of snapshot

The cache carries four kinds of snapshots (`SnapshotKind`): counts of logs, the
reserves of a pair, plain counts and plain texts. A record of each is read back
from the text that was written, so records with one text are one record
(`Record.decode_encode`).

Of the text itself `ReadBack` has disposed already: what is left is that the
literal of a snapshot is read as the snapshot (`Codec.Restores`). A word of 256
bits stands in such a literal as a string, with the shortest possible hexadecimal
numeral in it (`Numeral.Shortest`).
-/

namespace ChainReplica

/-! ## Words as strings -/

namespace Numeral

/-- A text is the marker and the hexadecimal digits of the number, in lower case
and without zeros in front. -/
def Shortest (n : Nat) (s : String) : Prop :=
  ∃ ds, s.toList = '0' :: 'x' :: ds ∧ read? 16 ds = some n
    ∧ (∀ c ∈ ds, c ∈ "0123456789abcdef".toList) ∧ (ds.head? = some '0' → ds = ['0'])

theorem mem_text {base n : Nat} {c : Char} (hbase : 2 ≤ base) (h : c ∈ text base n) :
    ∃ d < base, c = Nat.digitChar d := by
  obtain ⟨d, hd, rfl⟩ := List.mem_map.mp h
  exact ⟨d, lt_of_mem_digits hbase hd, rfl⟩

theorem text_of_head_zero {n : Nat} (h : (text 16 n).head? = some '0') : text 16 n = ['0'] := by
  have hzero : ∀ d < 16, Nat.digitChar d = '0' → d = 0 := by decide
  rw [text, List.head?_map, Option.map_eq_some_iff] at h
  obtain ⟨d, hd, hchar⟩ := h
  have hsmall : d < 16 := lt_of_mem_digits (by decide) (List.mem_of_head? hd)
  rw [hzero d hsmall hchar] at hd
  rw [text, digits_of_head_zero hd]
  rfl

theorem shortest_writeWord (n : Nat) : Shortest n (writeWord n) := by
  have hlower : ∀ d < 16, Nat.digitChar d ∈ "0123456789abcdef".toList := by decide
  refine ⟨text 16 n, String.toList_ofList, read?_text n (by decide) (by decide), ?_,
    text_of_head_zero⟩
  intro c hc
  obtain ⟨d, hd, rfl⟩ := mem_text (by decide) hc
  exact hlower d hd

/-- No underscore is among the digits, and the marker announces their base. -/
theorem readWord?_writeWord {n : Nat} (h : n < wordLimit) : readWord? (writeWord n) = some n := by
  have hdigit : ∀ d < 16, (Nat.digitChar d != '_') = true := by decide
  have hkept : (text 16 n).filter (· != '_') = text 16 n := by
    apply List.filter_eq_self.mpr
    intro c hc
    obtain ⟨d, hd, rfl⟩ := mem_text (by decide) hc
    exact hdigit d hd
  have hsplit : splitBase (writeWord n).toList = (16, text 16 n) := by
    rw [writeWord, String.toList_ofList, splitBase]
  rw [readWord?, hsplit]
  simp only [hkept, read?_text n (show 2 ≤ 16 by decide) (by decide), Option.filter_some, h,
    decide_true, if_true]

end Numeral

/-! ## Literals that are read as what was written -/

/-- Valid data is written without floating point numbers, and its literal is read
as the data. -/
def Codec.Restores {α : Type} (c : Codec α) (valid : α → Prop) : Prop :=
  ∀ x, valid x → (c.write x).exact = true ∧ c.read? (c.write x).literal = some x

theorem Codec.Restores.record {S : Type} {c : Codec S} {valid : S → Prop} (h : c.Restores valid) :
    (Record.codec c).Faithful fun r => r.block < Numeral.countLimit ∧ valid r.snapshot := by
  rintro ⟨block, x⟩ ⟨hblock, hvalid⟩
  obtain ⟨hexact, hread⟩ := h x hvalid
  have hdecode := Record.decode?_encode c (r := ⟨block, x⟩) hexact
  rw [if_pos hblock, hread] at hdecode
  exact hdecode

theorem Codec.Faithful.eq_of_encode {α : Type} {c : Codec α} {valid : α → Prop}
    (h : c.Faithful valid) {x y : α} (hx : valid x) (hy : valid y)
    (heq : c.encode x = c.encode y) : x = y := by
  have hread := h x hx
  rw [heq, h y hy] at hread
  exact (Option.some.inj hread).symm

theorem Codec.counted_restores : Codec.counted.Restores (· < Numeral.countLimit) := by
  intro n hn
  refine ⟨rfl, ?_⟩
  change (Json.Value.count n).literal.count? = some n
  rw [Json.count?_literal, if_pos hn]

theorem Codec.quoted_restores : Codec.quoted.Restores fun _ => True :=
  fun _ _ => ⟨rfl, rfl⟩

theorem Codec.worded_restores : Codec.worded.Restores (· < Numeral.wordLimit) :=
  fun _ hn => ⟨rfl, Numeral.readWord?_writeWord hn⟩

theorem Counter.codec_restores : Counter.codec.Restores (·.count < Numeral.countLimit) := by
  intro x hx
  refine ⟨Counter.exact_write x, ?_⟩
  rw [Counter.read?_write, if_pos hx]

theorem Reserves.codec_restores : Reserves.codec.Restores fun x =>
    x.reserve0 < Numeral.wordLimit ∧ x.reserve1 < Numeral.wordLimit := by
  rintro ⟨m, n⟩ ⟨hm, hn⟩
  refine ⟨rfl, ?_⟩
  simp only [Reserves.codec, Json.Value.record, Json.Value.literal, Json.memberLiterals,
    Json.field₂?_object (show "reserve0" ≠ "reserve1" by decide),
    (Codec.worded_restores m hm).2, (Codec.worded_restores n hn).2, Option.bind_some,
    Option.map_some]

/-! ## The kinds of snapshots -/

inductive SnapshotKind where
  | counter
  | reserves
  | count
  | text

namespace SnapshotKind

def Snapshot : SnapshotKind → Type
  | .counter => Counter
  | .reserves => Reserves
  | .count => Nat
  | .text => String

def codec : (kind : SnapshotKind) → Codec kind.Snapshot
  | .counter => Counter.codec
  | .reserves => Reserves.codec
  | .count => Codec.counted
  | .text => Codec.quoted

/-- The numbers in them fit 64 bits, reserves 256. -/
def Fits : (kind : SnapshotKind) → kind.Snapshot → Prop
  | .counter, x => x.count < Numeral.countLimit
  | .reserves, x => x.reserve0 < Numeral.wordLimit ∧ x.reserve1 < Numeral.wordLimit
  | .count, (n : Nat) => n < Numeral.countLimit
  | .text, _ => True

theorem codec_restores : ∀ kind : SnapshotKind, kind.codec.Restores kind.Fits
  | .counter => Counter.codec_restores
  | .reserves => Reserves.codec_restores
  | .count => Codec.counted_restores
  | .text => Codec.quoted_restores

end SnapshotKind

namespace Record

/-- Whether a record can be published: its block and its snapshot fit. -/
def Fits (kind : SnapshotKind) (r : Record kind.Snapshot) : Prop :=
  r.block < Numeral.countLimit ∧ kind.Fits r.snapshot

/-- Decoding undoes encoding, so no two records have one text. The words of
reserves are written in the shortest way. -/
theorem decode_encode (kind : SnapshotKind) (r : Record kind.Snapshot) (h : Fits kind r) :
    decode kind.codec (encode kind.codec r) = .ok r
      ∧ (∀ r' : Record kind.Snapshot, Fits kind r' →
        encode kind.codec r' = encode kind.codec r → r' = r)
      ∧ ∀ x : Reserves, ∃ first second,
        Reserves.codec.write x = .record [("reserve0", .string first), ("reserve1", .string second)]
          ∧ Numeral.Shortest x.reserve0 first ∧ Numeral.Shortest x.reserve1 second := by
  have hfaithful : (codec kind.codec).Faithful (Fits kind) := kind.codec_restores.record
  refine ⟨decode_eq_ok.mpr (hfaithful r h), ?_, ?_⟩
  · intro r' h' heq
    exact hfaithful.eq_of_encode h' h heq
  · intro x
    exact ⟨_, _, rfl, Numeral.shortest_writeWord _, Numeral.shortest_writeWord _⟩

/-- The greatest block, an empty reserve and the greatest one. -/
theorem decode_encode_extreme :
    let r : Record Reserves := ⟨Numeral.countLimit - 1, ⟨0, Numeral.wordLimit - 1⟩⟩
    decode Reserves.codec (encode Reserves.codec r) = .ok r := by
  intro r
  have hfits : Fits .reserves r := ⟨by decide, by decide, by decide⟩
  exact (decode_encode .reserves r hfits).1

end Record

end ChainReplica

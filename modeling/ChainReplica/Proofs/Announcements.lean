import ChainReplica.Cache.Record
import ChainReplica.Proofs.AnyDocument

/-!
# Announcements over the wire

An announcement carries any document that tells its pool from others. Its text is read
as its own literal, so what comes back is the announcement with the document that the
literal of its identifier says (`Announcement.decode?_encode`): the identifier itself if
and only if it is readable (`Announcement.decode?_encode_iff`).

The identifier is a field that may be missing. It is written whenever there is one, and
a `null` is read as none (`Announcement.settled`).
-/

namespace ChainReplica

namespace Announcement

variable {a : Announcement}

/-- The block is of 64 bits, and the identifier is a document as it is held. -/
structure Sound (a : Announcement) : Prop where
  block : a.block < Numeral.countLimit
  identifier : ∀ v ∈ a.identifier, v.sound = true

/-- The identifier is nested less than the reader goes down inside an announcement, and
no object in it begins with the key of carried documents. -/
def Readable (a : Announcement) : Prop :=
  ∀ v ∈ a.identifier, v.unmarked = true ∧ v.height < Json.depthLimit - 1

/-- The announcement with no identifier instead of a `null`. -/
def settled (a : Announcement) : Announcement :=
  match a.identifier with
  | some .null => { a with identifier := none }
  | _ => a

def field? (text : String) : Option Json.Literal :=
  (Json.readLiteral? text).bind fun l => l.member? "identifier"

theorem exact_write (h : a.Sound) : (codec.write a).exact = true := by
  obtain ⟨⟨group, name⟩, block, _ | v⟩ := a
  · rfl
  · have hv : v.exact = true := v.exact_of_sound (h.identifier v rfl)
    simp [codec, Json.Value.record, Json.Value.count, Json.Value.exact, Json.exactMembers, hv]

/-- The text has a field for the identifier if there is one, and it says what the
identifier says. -/
theorem field?_encode (h : a.Sound) :
    field? (codec.encode a) = a.identifier.map Json.Value.literal := by
  rw [field?, Codec.encode, Json.readLiteral?_text (exact_write h), Option.bind_some]
  obtain ⟨⟨group, name⟩, block, _ | v⟩ := a <;> rfl

theorem fields?_write (a : Announcement) :
    (codec.write a).literal.fields? ["groupKey", "name", "blockNumber", "identifier"] =
      some [some (.string (some a.subscription.group)), some (.string (some a.subscription.name)),
        some (Json.Value.count a.block).literal, a.identifier.map Json.Value.literal] := by
  obtain ⟨⟨group, name⟩, block, _ | v⟩ := a <;> rfl

theorem read?_of_fields {l : Json.Literal} {group name : String} {block : Nat}
    {l' : Json.Literal} {found : Option Json.Literal}
    (hfields : l.fields? ["groupKey", "name", "blockNumber", "identifier"] =
      some [some (.string (some group)), some (.string (some name)), some l', found])
    (hblock : l'.count? = some block) :
    codec.read? l = match found with
      | none | some .null => some ⟨⟨group, name⟩, block, none⟩
      | some l => (l.value? (Json.depthLimit - 1)).map fun w => ⟨⟨group, name⟩, block, some w⟩ := by
  simp only [codec, hfields, hblock, Json.Literal.text?]
  cases found with
  | none => rfl
  | some l =>
      cases l with
      | null => rfl
      | _ => exact (Option.bind_map ..).trans Option.map_eq_bind.symm

/-- Reading an announcement is a matter of its identifier. -/
theorem decode?_encode (h : a.Sound) : codec.decode? (codec.encode a) =
    match a.identifier with
    | none | some .null => some { a with identifier := none }
    | some v => (v.literal.value? (Json.depthLimit - 1)).map fun w =>
        { a with identifier := some w } := by
  have hblock := Json.count?_literal (n := a.block)
  rw [if_pos h.block] at hblock
  rw [Codec.decode?_encode _ (exact_write h), read?_of_fields (fields?_write a) hblock]
  obtain ⟨⟨group, name⟩, block, _ | v⟩ := a
  · rfl
  · have hv := h.identifier v rfl
    cases v with
    | number n => cases n with
      | binary bits => cases hv
      | _ => rfl
    | _ => rfl

theorem settled_of_null (h : a.identifier = some .null) :
    a.settled = { a with identifier := none } := by
  rw [settled, h]

theorem settled_of_ne (h : a.identifier ≠ some .null) : a.settled = a := by
  rw [settled]
  split
  · contradiction
  · rfl

theorem readable_of_null (h : a.identifier = some .null) : a.Readable := by
  intro v hv
  obtain rfl : Json.Value.null = v := Option.some.inj (h.symm.trans hv)
  exact ⟨rfl, by decide⟩

/-- An announcement comes back settled if it is readable, and only then. -/
theorem decode?_encode_iff (h : a.Sound) :
    codec.decode? (codec.encode a) = some a.settled ↔ a.Readable := by
  rw [decode?_encode h]
  split
  · rename_i hnone
    rw [settled_of_ne (by rw [hnone]; nofun)]
    exact iff_of_true (by rw [← hnone]) (by rw [Readable, hnone]; nofun)
  · rename_i hnull
    exact iff_of_true (by rw [settled_of_null hnull]) (readable_of_null hnull)
  · rename_i v hnull hsome
    have hne : a.identifier ≠ some .null := fun hv => hnull (Option.some.inj (hsome.symm.trans hv))
    have hsame : ∀ w, ({ a with identifier := some w } : Announcement) = a ↔ w = v := by
      obtain ⟨subscription, block, identifier⟩ := a
      obtain rfl : identifier = some v := hsome
      simp
    have hdepth : 0 < Json.depthLimit - 1 := by decide
    rw [settled_of_ne hne, Option.map_eq_some_iff]
    simp only [hsame, exists_eq_right,
      Json.Literal.value?_literal_iff (h.identifier v hsome) hdepth]
    simp [Readable, hsome]

/-- An announcement survives the wire. It comes back settled if and only if it is
readable; its text has a field for the identifier if and only if there is one; and what
came back is written as the same text, unless the identifier is a `null`: then it is
written without the field. -/
theorem survives_wire (a : Announcement) (h : a.Sound) :
    (codec.decode? (codec.encode a) = some a.settled ↔ a.Readable) ∧
    (field? (codec.encode a)).isSome = a.identifier.isSome ∧
    (a.Readable → (codec.decode? (codec.encode a)).map codec.encode =
      some (codec.encode a.settled)) ∧
    (a.identifier ≠ some .null → a.settled = a) ∧
    (a.identifier = some .null →
      a.settled = { a with identifier := none } ∧ field? (codec.encode a.settled) = none) := by
  refine ⟨decode?_encode_iff h, by rw [field?_encode h, Option.isSome_map], fun hreadable => ?_,
    settled_of_ne, fun hnull => ?_⟩
  · rw [(decode?_encode_iff h).mpr hreadable, Option.map_some]
  · have hbare : Sound { a with identifier := none } := ⟨h.block, nofun⟩
    rw [settled_of_null hnull]
    exact ⟨rfl, by rw [field?_encode hbare, Option.map_none]⟩

/-- The identifier of a pool with its fee and its tokens, one of them not known. -/
def pooled : Announcement where
  subscription := ⟨"mainnet", "pair"⟩
  block := 100
  identifier := some (.object [("fee", .count 3000), ("tokens", .array [.string "a\"b", .null])])

theorem survives_wire_pooled :
    pooled.Sound ∧ codec.decode? (codec.encode pooled) = some pooled := by
  have hsound : pooled.Sound := ⟨by decide, by rintro _ ⟨⟩; decide⟩
  have hreadable : pooled.Readable := by rintro _ ⟨⟩; decide
  exact ⟨hsound, (survives_wire pooled hsound).1.mpr hreadable⟩

/-- An identifier that is an object with the key of carried documents. -/
def marked : Announcement where
  subscription := ⟨"mainnet", "pair"⟩
  block := 1
  identifier := some (.object [(Json.carriedKey, .string "1")])

/-- It comes back as the number that the carried text says. -/
theorem marked_comes_back_changed :
    marked.Sound ∧ (∀ v ∈ marked.identifier, v.height < 100) ∧
    codec.decode? (codec.encode marked) = some { marked with identifier := some (.count 1) } ∧
    codec.decode? (codec.encode marked) ≠ some marked.settled := by
  have hsound : marked.Sound := ⟨by decide, by rintro _ ⟨⟩; decide⟩
  have hread : codec.decode? (codec.encode marked) =
      some { marked with identifier := some (.count 1) } := by
    rw [decode?_encode hsound]
    rfl
  refine ⟨hsound, by rintro _ ⟨⟩; decide, hread, ?_⟩
  rw [hread]
  intro h
  cases h

end Announcement

end ChainReplica

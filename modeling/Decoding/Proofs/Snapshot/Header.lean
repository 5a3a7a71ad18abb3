import Decoding.Proofs.Bytes
import Decoding.Proofs.Except
import Decoding.Session.Error

/-!
The header of a snapshot, written and read. A header is read exactly where one of this format was
written. Bytes that do not begin as the format does are told by the letters and the version alone,
so they are found to be foreign even where they end too early for a header; all others that end too
early are damaged.
-/

namespace Decoding.Snapshot

open Bytes

/-- The bytes begin as no snapshot of this format does: with other letters, or with the letters and
another version. How they go on, and whether they do, does not matter. -/
inductive Foreign (bs : Bytes) : FormatMismatch → Prop
  | magic (hlength : 4 ≤ bs.length) (h : bs.take 4 ≠ [0x53, 0x48, 0x4b, 0x56]) :
    Foreign bs (.magic (bs.take 4))
  | version {v : UInt32} (hlength : 8 ≤ bs.length) (hmagic : bs.take 4 = [0x53, 0x48, 0x4b, 0x56])
      (hv : v.toNat = field bs 4) (h : v ≠ 1) : Foreign bs (.version v)

theorem take_encode_append (h : Header) (payload : Bytes) :
    (h.encode ++ payload).take headerSize = h.encode := rfl
theorem drop_encode_append (h : Header) (payload : Bytes) :
    (h.encode ++ payload).drop headerSize = payload := rfl

namespace Header

variable {bs rest : Bytes} {h : Header} {cause : FormatMismatch}

theorem takeWord_eq_ok_iff {w : UInt32} :
    takeWord bs = .ok (w, rest) ↔ bs = Bytes.ofWord w ++ rest := by
  rw [← Bytes.takeWord_eq_some_iff, takeWord]
  cases Bytes.takeWord bs <;> simp

theorem takeWord_eq_ok_iff_field {w : UInt32} :
    takeWord bs = .ok (w, rest) ↔ 4 ≤ bs.length ∧ w.toNat = field bs 0 ∧ rest = bs.drop 4 := by
  rw [takeWord_eq_ok_iff, ← Bytes.takeWord_eq_some_iff, takeWord_eq_some_iff_field]

theorem takeWord_eq_error_iff {e : Fault} :
    takeWord bs = .error e ↔ bs.length < 4 ∧ .short = e := by
  rw [← takeWord_eq_none_iff, takeWord]
  cases Bytes.takeWord bs <;> simp

/-- A header that was read was written in front of the rest, in the only version there is. -/
theorem decode_eq_ok_iff :
    decode bs = .ok (h, rest) ↔ h.version = formatVersion ∧ bs = h.encode ++ rest := by
  constructor
  · intro hd
    simp only [decode, Except.bind_eq_ok_iff, Except.guard_eq_ok_iff, pure, Except.pure,
      Classical.not_not] at hd
    obtain ⟨-, hmagic, ⟨version, bs₁⟩, h₁, hv, ⟨position, bs₂⟩, h₂, ⟨payloadSize, bs₃⟩, h₃, hh⟩ :=
      hd
    cases hh
    simp only at hv h₁ h₂ h₃
    refine ⟨hv, ?_⟩
    rw [← List.take_append_drop 4 bs, hmagic, takeWord_eq_ok_iff.mp h₁, takeWord_eq_ok_iff.mp h₂,
      takeWord_eq_ok_iff.mp h₃]
    simp only [encode, List.append_assoc]
  · rintro ⟨hv, rfl⟩
    obtain ⟨version, position, payloadSize⟩ := h
    cases hv
    exact decode_encode_append position payloadSize rest

/-- What is foreign is reported as such, however short it is. -/
theorem decode_eq_mismatch_iff : decode bs = .error (.mismatch cause) ↔ Foreign bs cause := by
  -- the reads that come after the version report nothing but the end of the bytes
  simp only [decode, Except.bind_eq_error_iff, Except.guard_eq_error_iff, pure, Except.pure,
    takeWord_eq_error_iff, takeWord_eq_ok_iff_field, field_drop, List.length_drop, Prod.exists,
    reduceCtorEq, Fault.mismatch.injEq, and_false, false_or, or_false, exists_false, ne_eq,
    Nat.not_lt, Classical.not_not]
  constructor
  · rintro ⟨hlength, ⟨hmagic, rfl⟩ | ⟨hmagic, v, _, ⟨hword, hv, -⟩, hversion, rfl⟩⟩
    · exact .magic hlength hmagic
    · exact .version (by omega) hmagic hv hversion
  · rintro (⟨hlength, hmagic⟩ | ⟨hlength, hmagic, hv, hversion⟩)
    · exact ⟨hlength, .inl ⟨hmagic, rfl⟩⟩
    · exact ⟨by omega, .inr ⟨hmagic, _, _, ⟨by omega, hv, rfl⟩, hversion, rfl⟩⟩

/-- A header is read off the front if the bytes are long enough and not foreign. It is the one that
is written as these bytes. -/
theorem decode_eq_ok_iff_take :
    decode bs = .ok (h, rest) ↔
      headerSize ≤ bs.length ∧ (∀ cause, ¬ Foreign bs cause) ∧
        h.encode = bs.take headerSize ∧ rest = bs.drop headerSize := by
  constructor
  · intro hd
    obtain ⟨-, hbs⟩ := decode_eq_ok_iff.mp hd
    refine ⟨?_, ?_, ?_, ?_⟩
    · rw [hbs, List.length_append, length_encode]
      exact Nat.le_add_right _ _
    · intro cause hf
      rw [decode_eq_mismatch_iff.mpr hf] at hd
      cases hd
    · rw [hbs, take_encode_append]
    · rw [hbs, drop_encode_append]
  · rintro ⟨hlength, hf, he, rfl⟩
    have hbs : bs = h.encode ++ bs.drop headerSize := by rw [he, List.take_append_drop]
    refine decode_eq_ok_iff.mpr ⟨?_, hbs⟩
    by_contra hversion
    have hmagic : bs.take 4 = magic := by
      rw [hbs]
      rfl
    have hfield : field bs 4 = h.version.toNat := by
      rw [hbs]
      exact field_append magic rfl h.version _
    exact hf _ (.version (Nat.le_trans (by decide) hlength) hmagic hfield.symm hversion)

theorem length_lt_of_decode (h : decode bs = .error .short) : bs.length < headerSize := by
  simp only [decode, Except.bind_eq_error_iff, Except.guard_eq_error_iff, pure, Except.pure,
    takeWord_eq_error_iff, takeWord_eq_ok_iff_field, Prod.exists, reduceCtorEq, and_false,
    false_or, or_false, exists_false, and_true] at h
  rw [headerSize]
  -- one case for each of the four fields, by what is left of the bytes before it
  rcases h with h | ⟨-, -, h | ⟨_, _, ⟨-, -, rfl⟩, -, h | ⟨_, _, ⟨-, -, rfl⟩, h⟩⟩⟩
  · omega
  all_goals
    simp only [List.length_drop] at h
    omega

/-- What is not foreign is damaged if it ends before the header does. -/
theorem decode_eq_short_iff :
    decode bs = .error .short ↔ bs.length < headerSize ∧ ∀ cause, ¬ Foreign bs cause := by
  constructor
  · intro hd
    refine ⟨length_lt_of_decode hd, ?_⟩
    intro cause hf
    rw [decode_eq_mismatch_iff.mpr hf] at hd
    cases hd
  · rintro ⟨hlength, hf⟩
    cases hd : decode bs with
    | ok r =>
      obtain ⟨hle, -⟩ := decode_eq_ok_iff_take.mp hd
      omega
    | error fault =>
      cases fault with
      | mismatch cause => exact absurd (decode_eq_mismatch_iff.mp hd) (hf cause)
      | short => rfl

/-- Where the fields of a header stand. -/
theorem field_encode (h : Header) :
    field h.encode 8 = h.position.toNat ∧ field h.encode 12 = h.payloadSize.toNat := by
  constructor
  · exact field_append (magic ++ ofWord h.version) rfl h.position _
  · exact field_append (magic ++ ofWord h.version ++ ofWord h.position) rfl h.payloadSize []

end Header

/-- A header of the present version stands in sixteen bytes, the letters SHKV and three words, and
is read back from them whatever follows. Conversely, bytes are read as a header exactly if there are
sixteen of them and they are not foreign; then sixteen are taken, and the header is the one that is
written as these. Foreign bytes are reported as a mismatch of the format, however short they are,
and all others that are too short as a damaged snapshot. There are no other errors. -/
theorem headers_exact :
    (∀ (position payloadSize : UInt32) (rest : Bytes),
      let written := (Header.current position payloadSize).encode
      written.length = 16 ∧ written.take 8 = [0x53, 0x48, 0x4b, 0x56, 1, 0, 0, 0] ∧
        field written 8 = position.toNat ∧ field written 12 = payloadSize.toNat ∧
          Header.decode (written ++ rest) = .ok (Header.current position payloadSize, rest)) ∧
    ∀ bs : Bytes,
      let read := (Header.decode bs).mapError SessionError.ofHeader
      (∀ h rest, read = .ok (h, rest) ↔
        16 ≤ bs.length ∧ (∀ cause, ¬ Foreign bs cause) ∧
          h.encode = bs.take 16 ∧ rest = bs.drop 16) ∧
      ∀ e, read = .error e ↔
        (∃ cause, Foreign bs cause ∧ e = .formatMismatch cause) ∨
          bs.length < 16 ∧ (∀ cause, ¬ Foreign bs cause) ∧ e = .corrupted .shortHeader := by
  refine ⟨?_, ?_⟩
  · intro position payloadSize rest written
    have hformat : written.take 8 = magic ++ ofWord formatVersion := rfl
    obtain ⟨hposition, hsize⟩ := Header.field_encode (.current position payloadSize)
    exact ⟨rfl, hformat.trans (by decide), hposition, hsize,
      Header.decode_encode_append position payloadSize rest⟩
  · intro bs read
    refine ⟨?_, ?_⟩
    · intro h rest
      exact Except.mapError_eq_ok_iff.trans Header.decode_eq_ok_iff_take
    · intro e
      rw [Except.mapError_eq_error_iff]
      constructor
      · rintro ⟨fault, hd, rfl⟩
        cases fault with
        | mismatch cause => exact .inl ⟨cause, Header.decode_eq_mismatch_iff.mp hd, rfl⟩
        | short =>
          obtain ⟨hlength, hf⟩ := Header.decode_eq_short_iff.mp hd
          exact .inr ⟨hlength, hf, rfl⟩
      · rintro (⟨cause, hf, rfl⟩ | ⟨hlength, hf, rfl⟩)
        · exact ⟨_, Header.decode_eq_mismatch_iff.mpr hf, rfl⟩
        · exact ⟨_, Header.decode_eq_short_iff.mpr ⟨hlength, hf⟩, rfl⟩

/-- Another magic is told by its four bytes alone, another version only where all of it is there. -/
example :
    Header.decode [0x47, 0x47, 0x55, 0x46] =
        .error (.mismatch (.magic [0x47, 0x47, 0x55, 0x46])) ∧
      Header.decode [0x53, 0x48, 0x4b, 0x56, 2, 0, 0] = .error .short := by
  decide

end Decoding.Snapshot

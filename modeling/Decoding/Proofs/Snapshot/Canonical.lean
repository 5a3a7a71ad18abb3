import Decoding.Proofs.Bytes
import Decoding.Proofs.Simulation.RoundTrip

/-!
The format of the snapshots of stubs, read off the bytes: where each number stands, and
what it has to be. Such bytes are the snapshot of exactly one history, and a session
takes them and no others. What is wrong with other bytes is found out in a fixed order:
their length, the limit, the format, and then all the rest.
-/

namespace Decoding

namespace Snapshot

open Bytes

/-- The bytes begin with the letters SHKV and version one. -/
def HasFormat (bytes : Bytes) : Prop := bytes.take 8 = [0x53, 0x48, 0x4b, 0x56, 1, 0, 0, 0]

instance : DecidablePred HasFormat := fun bytes =>
  inferInstanceAs (Decidable (bytes.take 8 = [0x53, 0x48, 0x4b, 0x56, 1, 0, 0, 0]))

/-- What the numbers behind the format have to be for some tokens, which a stub with these bounds
can hold. -/
structure Spells (vocab window : Nat) (bytes : Bytes) (tokens : List UInt32) : Prop where
  length : bytes.length = 20 + 4 * tokens.length
  position : field bytes 8 = tokens.length
  payloadSize : field bytes 12 = bytes.length - 16
  count : field bytes 16 = tokens.length
  token : ∀ i (h : i < tokens.length), field bytes (20 + 4 * i) = tokens[i].toNat
  window : tokens.length ≤ window
  vocab : ∀ t ∈ tokens, t.toNat < vocab

section Envelope

variable {bytes : Bytes} {limit : Nat}

/-- Whatever is as long as a header is four bytes, three words and the rest. -/
theorem exists_words (bytes : Bytes) (h : headerSize ≤ bytes.length) :
    ∃ mark version position size rest, mark.length = 4 ∧
      bytes = mark ++ (ofWord version ++ (ofWord position ++ (ofWord size ++ rest))) := by
  simp only [headerSize] at h
  obtain ⟨version, more, hversion⟩ := exists_word (bytes.drop 4) (by
    rw [List.length_drop]
    omega)
  have hmore := congrArg List.length hversion
  rw [List.length_drop, List.length_append, length_ofWord] at hmore
  obtain ⟨position, more, rfl⟩ := exists_word more (by omega)
  rw [List.length_append, length_ofWord] at hmore
  obtain ⟨size, rest, rfl⟩ := exists_word more (by omega)
  refine ⟨bytes.take 4, version, position, size, rest, ?_, ?_⟩
  · rw [List.length_take]
    omega
  · rw [← hversion, List.take_append_drop]

theorem hasFormat_append_iff {mark : Bytes} {version : UInt32} {rest : Bytes}
    (hmark : mark.length = 4) :
    HasFormat (mark ++ (ofWord version ++ rest)) ↔ mark = magic ∧ version = formatVersion := by
  have htake : (mark ++ (ofWord version ++ rest)).take 8 = mark ++ ofWord version := by
    rw [← List.append_assoc, List.take_left' (by rw [List.length_append, hmark]; rfl)]
  rw [HasFormat, htake]
  constructor
  · intro h
    have hsame : mark ++ ofWord version = magic ++ ofWord formatVersion := h
    obtain ⟨h₁, h₂⟩ := List.append_inj hsame hmark
    exact ⟨h₁, ofWord_injective h₂⟩
  · rintro ⟨rfl, rfl⟩
    rfl

/-- Bytes that reach up to the version have the format if they are not foreign. -/
theorem hasFormat_iff (h : 8 ≤ bytes.length) :
    HasFormat bytes ↔ ∀ cause, ¬ Foreign bytes cause := by
  obtain ⟨version, rest, hrest⟩ := exists_word (bytes.drop 4) (by
    rw [List.length_drop]
    omega)
  have hbytes : bytes = bytes.take 4 ++ (ofWord version ++ rest) := by
    rw [← hrest, List.take_append_drop]
  have hmark : (bytes.take 4).length = 4 := List.length_take_of_le (by omega)
  have hfield : field bytes 4 = version.toNat := by
    rw [hbytes]
    exact field_append _ hmark version rest
  rw [hbytes, hasFormat_append_iff hmark, ← hbytes]
  constructor
  · rintro ⟨hm, hv⟩ cause (⟨-, hne⟩ | ⟨-, -, hv', hne⟩)
    · exact hne hm
    · apply hne
      rw [← UInt32.toNat_inj, hv', hfield, hv]
      rfl
  · intro hf
    have hm : bytes.take 4 = magic := by
      by_contra hm
      exact hf _ (.magic (by omega) hm)
    refine ⟨hm, ?_⟩
    by_contra hv
    exact hf _ (.version h hm hfield.symm hv)

/-- A header that is there is looked for in the first bytes alone, so they decide on the format. -/
theorem hasFormat_take_iff (h : headerSize ≤ bytes.length) :
    HasFormat bytes ↔ ∀ cause, ¬ Foreign (bytes.take headerSize) cause := by
  have hlength : 8 ≤ (bytes.take headerSize).length := by
    rw [List.length_take_of_le h]
    decide
  rw [← hasFormat_iff hlength, HasFormat, HasFormat, List.take_take]
  rfl

theorem checkEnvelope_of_short (h : bytes.length < headerSize) (limit : Nat) :
    checkEnvelope bytes limit = .error (.invalidArgument (.shortSnapshot bytes.length)) := by
  rw [checkEnvelope, if_pos h]
  rfl

theorem checkEnvelope_of_large (h : headerSize ≤ bytes.length) (hlimit : limit < bytes.length) :
    checkEnvelope bytes limit = .error (.limitExceeded bytes.length limit) := by
  rw [checkEnvelope, if_neg (Nat.not_lt_of_le h)]
  change (if bytes.length > limit then _ else _) = _
  rw [if_pos hlimit]
  rfl

/-- Bytes of another format are told by their first eight. -/
theorem checkEnvelope_of_not_hasFormat (h : headerSize ≤ bytes.length)
    (hlimit : bytes.length ≤ limit) (hf : ¬ HasFormat bytes) :
    ∃ cause, checkEnvelope bytes limit = .error (.formatMismatch cause) := by
  rw [hasFormat_take_iff h] at hf
  push Not at hf
  obtain ⟨cause, hcause⟩ := hf
  refine ⟨cause, ?_⟩
  rw [checkEnvelope, if_neg (Nat.not_lt_of_le h)]
  change (if _ > limit then _ else _) = _
  rw [if_neg (Nat.not_lt_of_le hlimit), Header.decode_eq_mismatch_iff.mpr hcause]
  rfl

/-- Bytes of the format have an envelope, or a wrong size in it. -/
theorem checkEnvelope_of_hasFormat (h : headerSize ≤ bytes.length)
    (hlimit : bytes.length ≤ limit) (hf : HasFormat bytes) :
    (∃ header, checkEnvelope bytes limit = .ok header) ∨
      ∃ cause, checkEnvelope bytes limit = .error (.corrupted cause) := by
  rw [hasFormat_take_iff h] at hf
  rw [checkEnvelope, if_neg (Nat.not_lt_of_le h)]
  change (∃ header, (if _ > limit then _ else _) = _) ∨ ∃ cause, (if _ > limit then _ else _) = _
  rw [if_neg (Nat.not_lt_of_le hlimit)]
  cases hd : Header.decode (bytes.take headerSize) with
  | ok r =>
    change (∃ header, (if Header.totalSize _ ≠ _ then _ else _) = _) ∨
      ∃ cause, (if Header.totalSize _ ≠ _ then _ else _) = _
    split
    · exact .inr ⟨_, rfl⟩
    · exact .inl ⟨_, rfl⟩
  | error fault =>
    cases fault with
    | mismatch cause => exact absurd (Header.decode_eq_mismatch_iff.mp hd) (hf cause)
    | short => exact .inr ⟨_, rfl⟩

end Envelope

section Spells

variable {vocab window limit : Nat} {bytes : Bytes} {tokens : List UInt32}

theorem image_eq (tokens : List UInt32) :
    History.image tokens =
      magic ++ (ofWord formatVersion ++ (ofWord (.ofNat tokens.length) ++
        (ofWord (.ofNat (4 + 4 * tokens.length)) ++
          (ofWord (.ofNat tokens.length) ++ ofWords tokens)))) := by
  simp only [History.image, Header.encode, Header.current, List.append_assoc]

/-- Bytes that spell tokens are the snapshot of these tokens. -/
theorem Spells.eq_image (hs : Spells vocab window bytes tokens) (hf : HasFormat bytes) :
    bytes = History.image tokens ∧ 4 + 4 * tokens.length ≤ maxPayload := by
  have hlength := hs.length
  obtain ⟨mark, version, position, size, rest, hmark, hbytes⟩ :=
    exists_words bytes (by simp only [headerSize]; omega)
  have hrest := congrArg List.length hbytes
  simp only [List.length_append, hmark, length_ofWord] at hrest
  obtain ⟨count, more, rfl⟩ := exists_word rest (by omega)
  rw [List.length_append, length_ofWord] at hrest
  rw [hbytes, hasFormat_append_iff hmark] at hf
  obtain ⟨rfl, rfl⟩ := hf
  -- each word is the number that stands in its place
  have hposition := field_append (magic ++ ofWord formatVersion) (rfl : _ = 8) position
    (ofWord size ++ (ofWord count ++ more))
  have hsize := field_append (magic ++ ofWord formatVersion ++ ofWord position)
    (rfl : _ = 12) size (ofWord count ++ more)
  have hcount := field_append
    (magic ++ ofWord formatVersion ++ ofWord position ++ ofWord size)
    (rfl : _ = 16) count more
  have htokens := field_append_add
    (magic ++ ofWord formatVersion ++ ofWord position ++ ofWord size ++ ofWord count)
    (rfl : _ = 20) more
  simp only [List.append_assoc, ← hbytes] at hposition hsize hcount htokens
  rw [hs.position] at hposition
  rw [hs.payloadSize, hlength] at hsize
  rw [hs.count] at hcount
  have hpayload : 4 + 4 * tokens.length = size.toNat := by omega
  have hmore : more = ofWords tokens := by
    apply eq_ofWords
    · omega
    · intro i hi
      rw [← htokens]
      exact hs.token i hi
  have hpositionWord : position = .ofNat tokens.length := by rw [hposition, UInt32.ofNat_toNat]
  have hsizeWord : size = .ofNat (4 + 4 * tokens.length) := by rw [hpayload, UInt32.ofNat_toNat]
  have hcountWord : count = .ofNat tokens.length := by rw [hcount, UInt32.ofNat_toNat]
  constructor
  · rw [hbytes, image_eq, hpositionWord, hsizeWord, hcountWord, hmore]
  · have := size.toNat_lt
    simp only [maxPayload]
    omega

theorem spells_image (hpayload : 4 + 4 * tokens.length ≤ maxPayload)
    (hwindow : tokens.length ≤ window) (hvocab : ∀ t ∈ tokens, t.toNat < vocab) :
    HasFormat (History.image tokens) ∧ Spells vocab window (History.image tokens) tokens := by
  have hlength : (History.image tokens).length = 20 + 4 * tokens.length := by
    rw [History.length_image, headerSize]
    omega
  have hcount : (UInt32.ofNat tokens.length).toNat = tokens.length := by
    apply UInt32.toNat_ofNat_of_lt'
    simp only [maxPayload, UInt32.size] at *
    omega
  have hsize : (UInt32.ofNat (4 + 4 * tokens.length)).toNat = 4 + 4 * tokens.length := by
    apply UInt32.toNat_ofNat_of_lt'
    simp only [maxPayload, UInt32.size] at *
    omega
  constructor
  · rw [image_eq, hasFormat_append_iff rfl]
    exact ⟨rfl, rfl⟩
  · refine ⟨hlength, ?_, ?_, ?_, ?_, hwindow, hvocab⟩
    · rw [image_eq]
      exact (field_append (magic ++ ofWord formatVersion) rfl _ _).trans hcount
    · rw [hlength, image_eq]
      exact (field_append (magic ++ ofWord formatVersion ++ ofWord _) rfl _ _).trans
        (hsize.trans (by omega))
    · rw [image_eq]
      exact (field_append (magic ++ ofWord formatVersion ++ ofWord _ ++ ofWord _) rfl _
        _).trans hcount
    · intro i hi
      rw [image_eq]
      exact (field_append_add
        (magic ++ ofWord formatVersion ++ ofWord _ ++ ofWord _ ++ ofWord _) rfl _ _).trans
        (field_ofWords hi)

/-- The machine takes the bytes that spell tokens within its bounds. -/
theorem restored_eq_some_iff_spells :
    History.restored vocab window bytes limit = some tokens ↔
      bytes.length ≤ limit ∧ HasFormat bytes ∧ Spells vocab window bytes tokens := by
  rw [History.restored_eq_some_iff]
  constructor
  · rintro ⟨rfl, hlimit, hpayload, hwindow, hvocab⟩
    exact ⟨hlimit, spells_image hpayload hwindow hvocab⟩
  · rintro ⟨hlimit, hf, hs⟩
    obtain ⟨hbytes, hpayload⟩ := hs.eq_image hf
    exact ⟨hbytes, hlimit, hpayload, hs.window, hs.vocab⟩

end Spells

end Snapshot

namespace Session

open Snapshot

section Refusals

variable {ω β : Type} [Device β] [Backend ω β] {w : ω} {s s' : Session β} {bytes : Bytes}
  {limit : Nat} {e : SessionError}

theorem eq_corrupted_of_takePayload {b b' : β} {payload : Bytes} {position : Nat}
    (h : takePayload w b payload position = (.error e, b')) : ∃ cause, e = .corrupted cause := by
  unfold takePayload at h
  split at h
  · cases h
  · cases h
    exact ⟨_, rfl⟩
  · simp only at h
    split at h
    · cases h
      exact ⟨_, rfl⟩
    · split at h
      · cases h
        exact ⟨_, rfl⟩
      · cases h

/-- Once the envelope has passed and the former state is saved, whatever is wrong is corrupt. -/
theorem eq_corrupted_of_restore {header : Header} {backup : Bytes}
    (hh : checkEnvelope bytes limit = .ok header) (hs : s.backup w = .ok backup)
    (h : s.restore w bytes limit = (.error e, s')) : ∃ cause, e = .corrupted cause := by
  have hr := s.restore_restored w bytes limit
  rw [h] at hr
  cases hr with
  | refused he =>
    rw [hh] at he
    cases he
  | unsaved hh' hs' ho => exact absurd hs (hs' backup)
  | putBack hh' hs' ht hp => exact eq_corrupted_of_takePayload ht
  | lost hh' hs' ht hf => exact eq_corrupted_of_takePayload ht

theorem restore_of_checkEnvelope (h : checkEnvelope bytes limit = .error e) :
    s.restore w bytes limit = (.error e, s) := by
  rw [restore, h]

end Refusals

variable {ω : Type} {c : Config} {s t : Session Stub}

/-- The session is one that calls lead to, over a new stub of either kind. -/
def OverStub (ω : Type) (c : Config) (s : Session Stub) : Prop :=
  ∃ b, (b = .deterministic c ∨ Stub.fixed c = .ok b) ∧
    Reachable (ω := ω) (· = b) (fun _ => True) (fun _ => True) s

theorem OverStub.exists_ofHistory (hc : c.window ≤ Config.maxCount) (h : OverStub ω c s) :
    ∃ (b : Stub) (held staged : List UInt32), b.vocab = c.vocab ∧ b.context.window = c.window ∧
      b.Fits held ∧ s = ofHistory b held staged := by
  obtain ⟨b, hb, hs⟩ := h
  obtain ⟨hvocab, hcontext⟩ := Stub.new_eq hb
  have hwindow : b.context.window = c.window := congrArg TokenContext.window hcontext
  obtain ⟨held, staged, rfl, hfits⟩ := Simulation.exists_ofHistory (by rw [hwindow]; exact hc)
    (congrArg TokenContext.tokens hcontext) hs
  exact ⟨b, held, staged, hvocab, hwindow, hfits, rfl⟩

/-- A session takes the bytes that spell tokens, and then exports the same bytes. -/
theorem OverStub.restore_of_spells (hc : c.window ≤ Config.maxCount) (h : OverStub ω c s) (w : ω)
    {bytes : Bytes} {limit : Nat} {tokens : List UInt32} (hlimit : bytes.length ≤ limit)
    (hf : HasFormat bytes) (hs : Spells c.vocab c.window bytes tokens) :
    (s.restore w bytes limit).1 = .ok () ∧ (s.restore w bytes limit).2.committed = tokens ∧
      (bytes.length ≤ maxSize →
        ∀ w' : ω, (s.restore w bytes limit).2.snapshot w' limit = .ok bytes) := by
  obtain ⟨b, held, staged, hvocab, hwindow, hfits, rfl⟩ := h.exists_ofHistory hc
  have hwindow' : b.context.window ≤ Config.maxCount := by rw [hwindow]; exact hc
  have hrestored : History.restored b.vocab b.context.window bytes limit = some tokens := by
    rw [hvocab, hwindow]
    exact restored_eq_some_iff_spells.mpr ⟨hlimit, hf, hs⟩
  obtain ⟨rfl, -, hpayload, hroom, hall⟩ := History.restored_eq_some_iff.mp hrestored
  rw [restore_of_restored w hwindow' hfits hrestored]
  refine ⟨rfl, rfl, ?_⟩
  intro hmax w'
  have hlength := History.length_image tokens
  have hsize : History.sizeWithin limit tokens = .ok (headerSize + (4 + 4 * tokens.length)) := by
    rw [History.sizeWithin, History.size, if_neg (Nat.not_lt_of_le hpayload), ← hlength,
      if_neg (Nat.not_lt_of_le hmax)]
    change (if _ > limit then _ else _) = _
    rw [if_neg (Nat.not_lt_of_le hlimit)]
    rfl
  rw [snapshot_ofHistory w' limit hwindow' ⟨hroom, hall⟩, hsize]
  rfl

/-- Whatever a session takes is within the limit, of the format, and spells its history. -/
theorem OverStub.spells_of_restore (hc : c.window ≤ Config.maxCount) (h : OverStub ω c s) {w : ω}
    {bytes : Bytes} {limit : Nat} (hok : (s.restore w bytes limit).1 = .ok ()) :
    bytes.length ≤ limit ∧ HasFormat bytes ∧
      Spells c.vocab c.window bytes (s.restore w bytes limit).2.committed := by
  obtain ⟨b, held, staged, hvocab, hwindow, hfits, rfl⟩ := h.exists_ofHistory hc
  have hwindow' : b.context.window ≤ Config.maxCount := by rw [hwindow]; exact hc
  cases hrestored : History.restored b.vocab b.context.window bytes limit with
  | none =>
    obtain ⟨e, he⟩ := restore_of_not_restored w staged hwindow' hfits hrestored
    rw [he] at hok
    cases hok
  | some tokens =>
    rw [restore_of_restored w hwindow' hfits hrestored]
    rw [hvocab, hwindow] at hrestored
    exact restored_eq_some_iff_spells.mp hrestored

/-- Bytes that are not of the right form, though long enough and of the format, are corrupt. -/
theorem OverStub.restore_of_not_spells (hc : c.window ≤ Config.maxCount) (h : OverStub ω c s)
    (w : ω) {bytes : Bytes} {limit : Nat} (hlength : headerSize ≤ bytes.length)
    (hlimit : bytes.length ≤ limit) (hf : HasFormat bytes)
    (hs : ∀ tokens, ¬ Spells c.vocab c.window bytes tokens) :
    ∃ cause, (s.restore w bytes limit).1 = .error (.corrupted cause) := by
  obtain ⟨b, held, staged, hvocab, hwindow, hfits, rfl⟩ := h.exists_ofHistory hc
  have hwindow' : b.context.window ≤ Config.maxCount := by rw [hwindow]; exact hc
  rcases checkEnvelope_of_hasFormat hlength hlimit hf with ⟨header, hh⟩ | ⟨cause, hcause⟩
  · have hnone : History.restored b.vocab b.context.window bytes limit = none := by
      rw [Option.eq_none_iff_forall_ne_some]
      intro tokens hsome
      rw [hvocab, hwindow] at hsome
      exact hs tokens (restored_eq_some_iff_spells.mp hsome).2.2
    obtain ⟨e, he⟩ := restore_of_not_restored w staged hwindow' hfits hnone
    obtain ⟨cause, rfl⟩ := eq_corrupted_of_restore hh (backup_ofHistory w staged hwindow' hfits) he
    exact ⟨cause, congrArg Prod.fst he⟩
  · exact ⟨cause, congrArg Prod.fst (restore_of_checkEnvelope hcause)⟩

/-- A session over a stub takes exactly one form of bytes. Too few bytes for a header are an invalid
argument; then too many for the limit are refused, then those that do not begin with the letters and
the version. All others are taken if they spell tokens that the stub can hold, and corrupt if they
do not. The tokens are the history of the session then, and it exports these bytes again; so there
is one form for each history. -/
theorem restore_accepts_exactly (hc : c.window ≤ Config.maxCount) (hs : OverStub ω c s) (w : ω)
    (bytes : Bytes) (limit : Nat) :
    let r := s.restore w bytes limit
    (bytes.length < 16 → ∃ reason, r.1 = .error (.invalidArgument reason)) ∧
      (16 ≤ bytes.length → limit < bytes.length →
        r.1 = .error (.limitExceeded bytes.length limit)) ∧
      (16 ≤ bytes.length → bytes.length ≤ limit → ¬ HasFormat bytes →
        ∃ cause, r.1 = .error (.formatMismatch cause)) ∧
      (16 ≤ bytes.length → bytes.length ≤ limit → HasFormat bytes →
        (r.1 = .ok () ↔ ∃ tokens, Spells c.vocab c.window bytes tokens) ∧
          (r.1 ≠ .ok () → ∃ cause, r.1 = .error (.corrupted cause))) ∧
      (r.1 = .ok () →
        Spells c.vocab c.window bytes r.2.committed ∧
          (bytes.length ≤ 2147483647 → ∀ w' : ω, r.2.snapshot w' limit = .ok bytes) ∧
            ∀ {c' : Config} {t : Session Stub}, c'.window ≤ Config.maxCount → OverStub ω c' t →
              ∀ (w' : ω) (bytes' : Bytes) (limit' : Nat),
                (t.restore w' bytes' limit').1 = .ok () →
                (t.restore w' bytes' limit').2.committed = r.2.committed → bytes' = bytes) := by
  intro r
  refine ⟨?_, ?_, ?_, ?_, ?_⟩
  · intro hshort
    exact ⟨_, congrArg Prod.fst (restore_of_checkEnvelope (checkEnvelope_of_short hshort limit))⟩
  · intro hlong hlimit
    exact congrArg Prod.fst (restore_of_checkEnvelope (checkEnvelope_of_large hlong hlimit))
  · intro hlong hlimit hf
    obtain ⟨cause, hcause⟩ := checkEnvelope_of_not_hasFormat hlong hlimit hf
    exact ⟨cause, congrArg Prod.fst (restore_of_checkEnvelope hcause)⟩
  · intro hlong hlimit hf
    have hiff : r.1 = .ok () ↔ ∃ tokens, Spells c.vocab c.window bytes tokens := by
      constructor
      · intro hok
        exact ⟨_, (hs.spells_of_restore hc hok).2.2⟩
      · rintro ⟨tokens, htokens⟩
        exact (hs.restore_of_spells hc w hlimit hf htokens).1
    refine ⟨hiff, ?_⟩
    intro hno
    apply hs.restore_of_not_spells hc w hlong hlimit hf
    intro tokens htokens
    exact hno (hiff.mpr ⟨tokens, htokens⟩)
  · intro hok
    obtain ⟨hlimit, hf, hspells⟩ := hs.spells_of_restore hc hok
    refine ⟨hspells, (hs.restore_of_spells hc w hlimit hf hspells).2.2, ?_⟩
    intro c' t hc' ht w' bytes' limit' hok' hsame
    obtain ⟨-, hf', hspells'⟩ := ht.spells_of_restore hc' hok'
    rw [(hspells'.eq_image hf').1, (hspells.eq_image hf).1, hsame]

/-- Two tokens from the outside. The count in one of the other strings is off. -/
theorem restore_accepts_exactly_two_tokens :
    let c : Config := { model := "m", vocab := 50, window := 4 }
    let s := ((Session.fresh (Stub.deterministic c)).perform () (.step [9])).2
    let bytes : Bytes := [0x53, 0x48, 0x4b, 0x56, 1, 0, 0, 0, 2, 0, 0, 0, 12, 0, 0, 0,
      2, 0, 0, 0, 7, 0, 0, 0, 8, 0, 0, 0]
    c.window ≤ Config.maxCount ∧ OverStub Unit c s ∧ Spells 50 4 bytes [7, 8] ∧
      (s.restore () bytes 28).2.committed = [7, 8] ∧
      (s.restore () bytes 28).2.snapshot () 28 = .ok bytes ∧
      (∃ cause, (s.restore () (bytes.set 8 1) 28).1 = .error (.corrupted cause)) ∧
      (∃ cause, (s.restore () (bytes.set 4 2) 28).1 = .error (.formatMismatch cause)) ∧
      (s.restore () bytes 27).1 = .error (.limitExceeded 28 27) := by
  intro c s bytes
  have hc : c.window ≤ Config.maxCount := by decide
  have hfresh : Reachable (ω := Unit) (· = Stub.deterministic c) (fun _ => True) (fun _ => True)
      (Session.fresh (Stub.deterministic c)) := .fresh rfl
  have hs : OverStub Unit c s :=
    ⟨_, .inl rfl, hfresh.call trivial
      (nofun : ∀ bytes limit, Call.step [9] ≠ .restore bytes limit)⟩
  have hok : (s.restore () bytes 28).1 = .ok () := by cbv
  have hcommitted : (s.restore () bytes 28).2.committed = [7, 8] := by cbv
  have hoff : (s.restore () (bytes.set 8 1) 28).1 ≠ .ok () := by
    cbv
    intro hrestored
    cases hrestored
  obtain ⟨-, -, -, -, htaken⟩ := restore_accepts_exactly hc hs () bytes 28
  obtain ⟨hspells, hsame, -⟩ := htaken hok
  obtain ⟨-, -, -, hcorrupt, -⟩ := restore_accepts_exactly hc hs () (bytes.set 8 1) 28
  obtain ⟨-, -, hforeign, -⟩ := restore_accepts_exactly hc hs () (bytes.set 4 2) 28
  obtain ⟨-, hlarge, -⟩ := restore_accepts_exactly hc hs () bytes 27
  rw [hcommitted] at hspells
  exact ⟨hc, hs, hspells, hcommitted, hsame (by decide) (),
    (hcorrupt (by decide) (by decide) (by decide)).2 hoff,
    hforeign (by decide) (by decide) (by decide), hlarge (by decide) (by decide)⟩

end Session

end Decoding

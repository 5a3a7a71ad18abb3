import Decoding.Proofs.Boundary.Buffers
import Decoding.Proofs.Session.Embedding

/-!
Texts across the boundary and back. The tokens of a text are its bytes, and on their way they are
bytes, words and signed integers in turn. A session over a stub gives one integer for each byte of a
text and the byte again for each of the integers, and neither call changes anything.
-/

namespace Decoding

namespace Text.Utf8

theorem encode_eq_flatMap (s : String) : encode s = s.toList.flatMap String.utf8EncodeChar := by
  rw [encode, ← String.utf8Encode_toList, List.utf8Encode]
  simp

/-- Only a NUL has a zero among its bytes. -/
theorem eq_nul_of_zero_mem {c : Char} (h : 0 ∈ String.utf8EncodeChar c) : c = '\x00' := by
  have hzero (n : Nat) : 0 = UInt8.ofNat n ↔ n % 256 = 0 := by
    rw [← UInt8.toNat_inj, UInt8.toNat_ofNat', eq_comm]
    rfl
  simp only [String.utf8EncodeChar] at h
  by_cases hshort : c.val.toNat ≤ 127
  · simp only [hshort, ↓reduceIte, List.mem_singleton, hzero] at h
    have hval : c.val.toNat = 0 := by omega
    exact Char.toNat_inj.mp hval
  · -- every byte of a longer sequence has its first bit set
    exfalso
    rw [if_neg hshort] at h
    split at h
    · simp only [List.mem_cons, List.not_mem_nil, hzero, or_false] at h
      omega
    · split at h
      · simp only [List.mem_cons, List.not_mem_nil, hzero, or_false] at h
        omega
      · simp only [List.mem_cons, List.not_mem_nil, hzero, or_false] at h
        omega

theorem zero_not_mem_encode {s : String} (h : '\x00' ∉ s.toList) : 0 ∉ encode s := by
  rw [encode_eq_flatMap, List.mem_flatMap]
  rintro ⟨c, hc, hzero⟩
  exact h (eq_nul_of_zero_mem hzero ▸ hc)

end Text.Utf8

/-- A word that a signed integer can express is this integer. -/
theorem toInt_toInt32 {id : UInt32} (h : id.toNat ≤ Config.maxCount) :
    id.toInt32.toInt = id.toNat := by
  change id.toBitVec.toInt = id.toBitVec.toNat
  have hn : id.toBitVec.toNat ≤ 2147483647 := h
  exact BitVec.toInt_eq_toNat_of_lt (by omega)

namespace Boundary

variable {ω β : Type} {b : Boundary ω β} {handle : UInt64}

theorem tokenId_toInt32 {id : UInt32} (h : id.toNat ≤ Config.maxCount) :
    tokenId id.toInt32 = .ok id := by
  have hpos : ¬ id.toInt32.toInt < 0 := by
    rw [toInt_toInt32 h]
    omega
  rw [tokenId, if_neg hpos, UInt32.toUInt32_toInt32]

theorem toNat_toUInt32_le (x : UInt8) : x.toUInt32.toNat ≤ Config.maxCount := by
  have := x.toNat_lt
  simp only [UInt8.toNat_toUInt32, Config.maxCount]
  omega

/-- A string ends where the text ends, or at the NUL behind it. -/
theorem readText_append (argument : String) {text : String} (htext : '\x00' ∉ text.toList)
    {behind : Bytes} (hbehind : ∀ x ∈ behind.head?, x = 0) :
    readText argument (Text.Utf8.encode text ++ behind) = .ok text := by
  have hzero := Text.Utf8.zero_not_mem_encode htext
  have hfront : ∀ x ∈ Text.Utf8.encode text, decide (x ≠ 0) := by
    intro x hx
    simp only [decide_eq_true_eq]
    rintro rfl
    exact hzero hx
  have hrest : behind.takeWhile (· ≠ 0) = [] := by
    cases behind with
    | nil => rfl
    | cons x rest => simp [hbehind x rfl]
  rw [readText, List.takeWhile_append_of_pos hfront, hrest, List.append_nil,
    Text.Utf8.decode_encode]
  rfl

variable [Device β] [Backend ω β] {embed : Stub → β}

/-- The handle stands for a session over a stub that can be called, faulted or not. -/
def ReachesStub (b : Boundary ω β) (embed : Stub → β) (handle : UInt64) : Prop :=
  ∃ s stub, b.Reaches handle s ∧ s.backend = embed stub

section Stub

variable (hembed : Backend.Embeds ω embed) (h : b.ReachesStub embed handle)

include hembed h

/-- The tokens of a text are stored if so many are allowed, and otherwise nothing is. -/
theorem tokenize_of_stub (w : ω) {text : String} (htext : '\x00' ∉ text.toList) {behind : Bytes}
    (hbehind : ∀ x ∈ behind.head?, x = 0) {buffer : List Int32} {limit : Int32}
    (hnatural : 0 ≤ limit.toInt) :
    let bytes := Text.Utf8.encode text
    let r := b.tokenize w handle (some (bytes ++ behind)) (some buffer) limit
    (bytes.length ≤ limit.toInt → bytes.length ≤ buffer.length →
      r = ((bytes.length : Int),
        (bytes.map fun x => x.toUInt32.toInt32) ++ buffer.drop bytes.length, b)) ∧
    (limit.toInt < bytes.length → r = (-3, buffer,
      b.setError (SessionError.bufferTooSmall bytes.length limit.toInt.toNat).message)) := by
  intro bytes r
  obtain ⟨s, stub, hs, hstub⟩ := h
  have hn : natural "max_tokens" limit = .ok limit.toInt.toNat :=
    natural_eq_ok_iff.mpr ⟨hnatural, rfl⟩
  have htokens : s.tokenize w text = .ok (bytes.map UInt8.toUInt32) := by
    rw [Session.tokenize, hstub, hembed.tokenize]
    rfl
  have hr : r = b.fill handle buffer
      fun s => tokensInto w s text buffer limit.toInt.toNat :=
    tokenize_eq_fill hn (readText_append "text" htext hbehind)
  have hinto : tokensInto w s text buffer limit.toInt.toNat =
      if bytes.length > limit.toInt.toNat then
        (.error (.bufferTooSmall bytes.length limit.toInt.toNat), buffer)
      else ((Outcome.ofExcept (storeTokens (bytes.map UInt8.toUInt32) buffer).1).map
          fun _ => bytes.length,
        (storeTokens (bytes.map UInt8.toUInt32) buffer).2) := by
    simp only [tokensInto, htokens, List.length_map]
  rw [hr]
  constructor
  · intro hlimit hroom
    have hfit : ∀ id ∈ bytes.map UInt8.toUInt32, id.toNat ≤ Config.maxCount := by
      intro id hid
      obtain ⟨x, -, rfl⟩ := List.mem_map.mp hid
      exact toNat_toUInt32_le x
    have hallowed : ¬ bytes.length > limit.toInt.toNat := by omega
    have hcount : bytes.length ≤ Config.maxCount := by
      have := toNat_le_maxCount limit
      omega
    have hfits : (bytes.map UInt8.toUInt32).length ≤ buffer.length := by rwa [List.length_map]
    rw [if_neg hallowed, storeTokens_of_fits hfit hfits] at hinto
    rw [fill_eq_of_reaches hs buffer hinto rfl]
    simp only [Outcome.map_ok, Outcome.ofExcept_ok, answer, if_pos hcount, List.length_map,
      List.map_map]
    rfl
  · intro hlimit
    have hmore : bytes.length > limit.toInt.toNat := by omega
    rw [if_pos hmore] at hinto
    rw [fill_eq_of_reaches hs buffer hinto rfl]
    rfl

/-- The piece of a byte's token is that byte. -/
theorem piece_of_stub (w : ω) (x : UInt8) (buffer : Bytes) {capacity : Int32}
    (hcapacity : 1 ≤ capacity.toInt) :
    b.piece w handle x.toUInt32.toInt32 (some buffer) capacity = (1, x :: buffer.drop 1, b) := by
  obtain ⟨s, stub, hs, hstub⟩ := h
  have hn : natural "buffer_size" capacity = .ok capacity.toInt.toNat :=
    natural_eq_ok_iff.mpr ⟨by omega, rfl⟩
  have hpiece : s.piece w x.toUInt32 = .ok [x] := by
    have hstubPiece : Backend.piece w stub x.toUInt32 = .ok [x] :=
      congrArg Outcome.ofExcept (ByteTokens.piece_toUInt32 x)
    rw [Session.piece, hstub, hembed.piece, hstubPiece]
    rfl
  have hroom : ¬ [x].length > capacity.toInt.toNat := by
    rw [List.length_singleton]
    omega
  have hinto : pieceInto w s x.toUInt32 buffer capacity.toInt.toNat =
      (.ok 1, x :: buffer.drop 1) := by
    simp only [pieceInto, hpiece, hroom, ↓reduceIte]
    rfl
  rw [piece_eq_fill (tokenId_toInt32 (toNat_toUInt32_le x)) hn, fill_eq_of_reaches hs buffer hinto rfl]
  rfl

end Stub

/-- Ask for the pieces of tokens one after another, each in its world and with a buffer and a
capacity of its own. -/
def pieceRequests (handle : UInt64) (ids : List Int32) (slots : List (ω × Bytes × Int32)) :
    List (ω × Request ω β) :=
  List.zipWith (fun id slot => (slot.1, .call handle (.piece id (some slot.2.1) slot.2.2)))
    ids slots

/-- The bytes that a call has written to the front of its buffer. -/
def Reply.written : Reply → Bytes
  | .answer n (.bytes buffer) => buffer.take n.toNat
  | _ => []

/-- The pieces of the tokens of bytes are these bytes, one each, and the rest of every buffer is as
it was. -/
theorem run_pieceRequests (hembed : Backend.Embeds ω embed) (h : b.ReachesStub embed handle)
    {bytes : Bytes} {slots : List (ω × Bytes × Int32)}
    (hcapacity : ∀ slot ∈ slots, 1 ≤ slot.2.2.toInt) :
    b.run (pieceRequests handle (bytes.map fun x => x.toUInt32.toInt32) slots) =
      (List.zipWith (fun x slot => .answer 1 (.bytes (x :: slot.2.1.drop 1))) bytes slots,
        b, []) := by
  induction bytes generalizing slots with
  | nil => rfl
  | cons x bytes ih =>
    cases slots with
    | nil => rfl
    | cons slot slots =>
      obtain ⟨hfirst, hrest⟩ := List.forall_mem_cons.mp hcapacity
      have hpiece := piece_of_stub hembed h slot.1 x slot.2.1 hfirst
      simp only [pieceRequests, List.map_cons, List.zipWith_cons_cons, run, serve, perform, hpiece]
      simp only [pieceRequests] at ih
      rw [ih hrest]
      rfl

theorem map_written_pieces {bytes : Bytes} {slots : List (ω × Bytes × Int32)}
    (hlength : slots.length = bytes.length) :
    (List.zipWith (fun x slot => Reply.answer 1 (.bytes (x :: slot.2.1.drop 1))) bytes slots).map
      Reply.written = bytes.map ([·]) := by
  induction bytes generalizing slots with
  | nil => rfl
  | cons x bytes ih =>
    cases slots with
    | nil => cases hlength
    | cons slot slots =>
      rw [List.zipWith_cons_cons, List.map_cons, ih (Nat.succ.inj hlength)]
      rfl

/-- **Texts come back.** A session over a stub that can be called, faulted or not, turns every text
without NUL into its bytes and back. As many tokens are answered and stored as the text has bytes,
if so many are allowed, and otherwise the call answers that the buffer is too small and leaves it as
it is. The pieces of these tokens, asked for in order, are the bytes of the text, one each, if the
buffers have room for a byte. No call changes the session. -/
theorem texts_round_trip (hembed : Backend.Embeds ω embed) (h : b.ReachesStub embed handle)
    {text : String} (htext : '\x00' ∉ text.toList) :
    let bytes := Text.Utf8.encode text
    let ids := bytes.map fun x => x.toUInt32.toInt32
    ids.map Int32.toInt = bytes.map (fun x => (x.toNat : Int)) ∧
    (∀ (w : ω) (behind : Bytes) (buffer : List Int32) (limit : Int32),
      (∀ x ∈ behind.head?, x = 0) → 0 ≤ limit.toInt →
        let r := b.tokenize w handle (some (bytes ++ behind)) (some buffer) limit
        (bytes.length ≤ limit.toInt → bytes.length ≤ buffer.length →
          r = ((bytes.length : Int), ids ++ buffer.drop bytes.length, b)) ∧
        (limit.toInt < bytes.length → r = (-3, buffer,
          b.setError (SessionError.bufferTooSmall bytes.length limit.toInt.toNat).message))) ∧
    ∀ slots : List (ω × Bytes × Int32), slots.length = bytes.length →
      (∀ slot ∈ slots, 1 ≤ slot.2.2.toInt) →
        let replies := List.zipWith
          (fun x slot => Reply.answer 1 (.bytes (x :: slot.2.1.drop 1))) bytes slots
        b.run (pieceRequests handle ids slots) = (replies, b, []) ∧
        replies.map Reply.written = bytes.map ([·]) ∧ replies.flatMap Reply.written = bytes := by
  intro bytes ids
  refine ⟨?_, ?_, ?_⟩
  · rw [List.map_map]
    refine List.map_congr_left fun x _ => ?_
    exact toInt_toInt32 (toNat_toUInt32_le x)
  · intro w behind buffer limit hbehind hnatural
    exact tokenize_of_stub hembed h w htext hbehind hnatural
  · intro slots hlength hcapacity replies
    have hwritten : replies.map Reply.written = bytes.map ([·]) := map_written_pieces hlength
    refine ⟨run_pieceRequests hembed h hcapacity, hwritten, ?_⟩
    rw [List.flatMap_def, hwritten, ← List.flatMap_def, List.flatMap_singleton']

/-- A session whose window of two tokens is full. -/
def filledWindow : Boundary Unit (Stub ⊕ Stub) :=
  (run { host := .standard .inl } [
    ((), .init (some (Text.Utf8.encode "deterministic:m?vocab=4&n_ctx=2"))),
    ((), .call 4294967296 (.eval (some [0, 3]) 2))]).2.1

theorem filledWindow_reachesStub : filledWindow.ReachesStub Sum.inl 4294967296 := by
  refine ⟨⟨.inl ⟨.ramp 4, ⟨[0, 3], 2⟩⟩, 2, [0, 3], [0, 3], none⟩, ⟨.ramp 4, ⟨[0, 3], 2⟩⟩,
    ⟨⟨0, 1⟩, { session := _, poisoned := false, family := "deterministic", serial := 0 }, rfl, ?_,
      rfl, rfl⟩, rfl⟩
  cbv

/-- Two characters are three tokens, two of them above 127, and a buffer of two is too small. -/
theorem texts_round_trip_accent :
    filledWindow.tokenize () 4294967296 (some ([104, 195, 169] ++ [0, 9])) (some [7, 7, 7, 7]) 3 =
      (3, [104, 195, 169, 7], filledWindow) ∧
    filledWindow.tokenize () 4294967296 (some ([104, 195, 169] ++ [0, 9])) (some [7, 7]) 2 =
      (-3, [7, 7], filledWindow.setError "buffer too small: need 3 bytes, have 2") ∧
    (filledWindow.run (pieceRequests 4294967296 [104, 195, 169]
      [((), [1], 1), ((), [1, 2], 2), ((), [1, 2], 1)])).1.flatMap Reply.written =
        [104, 195, 169] := by
  have htext : '\x00' ∉ "hé".toList := by decide
  have hbytes : Text.Utf8.encode "hé" = [104, 195, 169] := by cbv
  have h := texts_round_trip (ω := Unit) Backend.embeds_inl filledWindow_reachesStub htext
  rw [hbytes] at h
  obtain ⟨-, htokenize, hpieces⟩ := h
  have hbehind : ∀ x ∈ ([0, 9] : Bytes).head?, x = 0 := by simp
  have hcapacity : ∀ slot ∈ [((), ([1] : Bytes), (1 : Int32)), ((), [1, 2], 2), ((), [1, 2], 1)],
      1 ≤ slot.2.2.toInt := by
    simp only [List.mem_cons, List.not_mem_nil, or_false]
    rintro slot (rfl | rfl | rfl) <;> decide
  have hrun := hpieces [((), [1], 1), ((), [1, 2], 2), ((), [1, 2], 1)] rfl hcapacity
  refine ⟨?_, ?_, ?_⟩
  · exact (htokenize () [0, 9] [7, 7, 7, 7] 3 hbehind (by decide)).1 (by decide) (by decide)
  · exact (htokenize () [0, 9] [7, 7] 2 hbehind (by decide)).2 (by decide)
  · have hids : ([104, 195, 169] : Bytes).map (fun x => x.toUInt32.toInt32) = [104, 195, 169] := rfl
    rw [hids] at hrun
    rw [hrun.1]
    exact hrun.2.2

end Boundary

end Decoding

import Decoding.Proofs.Backend.Truncation
import Decoding.Proofs.Bytes

/-!
Runs of words behind a count that is not to be trusted. Whatever number a payload declares, a run is
read exactly if all its bytes are there, and then it is the numbers that stand there, in order, and
no byte behind them is touched. The length is checked once, in front of the loop; a run that passes
this check is there as a whole, so no round of the loop finds its element missing.
-/

namespace Decoding

open Bytes

namespace Payload

variable {n : Nat} {bs rest : Bytes}

/-- The bytes in front of the elements that the loop over `n` words comes to. It comes to the next
element if it finds the one before. -/
inductive Visits : Nat → Bytes → Bytes → Prop
  | first {n : Nat} {bs : Bytes} : Visits (n + 1) bs bs
  | later {n : Nat} {bs more rest : Bytes} {w : UInt32} (hw : takeWord bs = .ok (w, more))
      (h : Visits n more rest) : Visits (n + 1) bs rest

/-- The check speaks for the loop behind it: a run that passes is there as a whole, and every
element that the loop comes to is there. -/
structure Vouches (n : Nat) (bs : Bytes) : Prop where
  present (h : checkRun n bs = .ok ()) : 4 * n ≤ bs.length
  found (h : checkRun n bs = .ok ()) {rest : Bytes} (hv : Visits n bs rest) :
    ∃ r, takeWord rest = .ok r

theorem takeWord_eq_error_iff {e : BackendError} :
    takeWord bs = .error e ↔ bs.length < 4 ∧ .truncated 4 = e := by
  rw [← takeWord_eq_none_iff, takeWord]
  cases Bytes.takeWord bs <;> simp

theorem takeWord_eq_ok_iff_field {w : UInt32} :
    takeWord bs = .ok (w, rest) ↔ 4 ≤ bs.length ∧ w.toNat = field bs 0 ∧ rest = bs.drop 4 := by
  rw [takeWord_eq_ok_iff, ← takeWord_eq_some_iff, takeWord_eq_some_iff_field]

/-- The loop fails by an element that it comes to, and by nothing else. -/
theorem takeWords_eq_error_iff {e : BackendError} :
    takeWords n bs = .error e ↔ ∃ rest, Visits n bs rest ∧ takeWord rest = .error e := by
  induction n generalizing bs with
  | zero =>
    constructor
    · nofun
    · rintro ⟨_, ⟨⟩, _⟩
  | succ n ih =>
    simp only [takeWords, Except.bind_eq_error_iff, pure, Except.pure, reduceCtorEq, and_false,
      exists_false, or_false, ih, Prod.exists]
    constructor
    · rintro (h | ⟨w, more, hw, rest, hv, h⟩)
      · exact ⟨bs, .first, h⟩
      · exact ⟨rest, .later hw hv, h⟩
    · rintro ⟨rest, hv, h⟩
      cases hv with
      | first => exact .inl h
      | later hw hv => exact .inr ⟨_, _, hw, rest, hv, h⟩

theorem checkRun_eq_ok_iff : checkRun n bs = .ok () ↔ min (4 * n) maxSize ≤ bs.length := by
  simp only [checkRun]
  split <;> simp <;> omega

theorem checkRun_eq_error {e : BackendError} (h : checkRun n bs = .error e) :
    ∃ wanted, e = .truncated wanted := by
  simp only [checkRun] at h
  split at h
  · cases h
    exact ⟨_, rfl⟩
  · cases h

/-- A run can only be missing in part. -/
theorem takeRun_eq_error {e : BackendError} (h : takeRun n bs = .error e) :
    ∃ wanted, e = .truncated wanted := by
  rcases Except.bind_eq_error_iff.mp h with hc | ⟨_, -, hl⟩
  · exact checkRun_eq_error hc
  · obtain ⟨_, -, hw⟩ := takeWords_eq_error_iff.mp hl
    exact ⟨4, (takeWord_eq_error_iff.mp hw).2.symm⟩

/-- What a run that was read is, and what it leaves. -/
theorem numbers_of_takeRun {ws : List UInt32} (h : takeRun n bs = .ok (ws, rest)) :
    ws.length = n ∧ (∀ i (hi : i < ws.length), ws[i].toNat = field bs (4 * i)) ∧
      rest = bs.drop (4 * n) := by
  obtain ⟨rfl, rfl⟩ := takeRun_eq_ok_iff.mp h
  refine ⟨rfl, ?_, ?_⟩
  · intro i hi
    exact (field_ofWords_append hi rest).symm
  · rw [List.drop_left' (length_ofWords ws)]

theorem exists_takeRun_iff : (∃ r, takeRun n bs = .ok r) ↔ 4 * n ≤ bs.length := by
  constructor
  · rintro ⟨⟨ws, rest⟩, h⟩
    obtain ⟨rfl, rfl⟩ := takeRun_eq_ok_iff.mp h
    rw [List.length_append, length_ofWords]
    exact Nat.le_add_right _ _
  · intro h
    obtain ⟨ws, rest, rfl, rfl⟩ := exists_words h
    exact ⟨_, takeRun_ofWords_append ws rest⟩

theorem numbers_of_takeScores {ss : List Score} (h : takeScores n bs = .ok (ss, rest)) :
    ss.length = n ∧ (∀ i (hi : i < ss.length), ss[i].bits.toNat = field bs (4 * i)) ∧
      rest = bs.drop (4 * n) := by
  obtain ⟨⟨ws, _⟩, hws, hss⟩ := Except.map_eq_ok_iff.mp h
  cases hss
  obtain ⟨hlength, hnumbers, rfl⟩ := numbers_of_takeRun hws
  refine ⟨(List.length_map ..).trans hlength, ?_, rfl⟩
  intro i hi
  rw [List.getElem_map]
  exact hnumbers i (by rwa [List.length_map] at hi)

theorem exists_takeScores_iff : (∃ r, takeScores n bs = .ok r) ↔ 4 * n ≤ bs.length := by
  rw [← exists_takeRun_iff]
  simp only [takeScores, Except.map_eq_ok_iff]
  constructor
  · rintro ⟨_, r, h, -⟩
    exact ⟨r, h⟩
  · rintro ⟨r, h⟩
    exact ⟨_, r, h, rfl⟩

/-- No byte string is as long as the size at which the check stops counting, so a run passes only if
it is there. -/
theorem vouches (h : bs.length < maxSize ∨ 4 * n ≤ maxSize) : Vouches n bs := by
  have hpresent : checkRun n bs = .ok () → 4 * n ≤ bs.length := by
    intro hc
    have := checkRun_eq_ok_iff.mp hc
    omega
  refine ⟨hpresent, ?_⟩
  intro hc rest hv
  obtain ⟨ws, more, hlength, hbs⟩ := exists_words (hpresent hc)
  have hloop := takeWords_eq_ok_iff.mpr ⟨hlength, hbs⟩
  cases hw : takeWord rest with
  | ok r => exact ⟨r, rfl⟩
  | error e =>
    rw [takeWords_eq_error_iff.mpr ⟨rest, hv, hw⟩] at hloop
    cases hloop

theorem four_mul_le_maxSize (count : UInt32) : 4 * count.toNat ≤ maxSize := by
  have := count.toNat_lt
  simp only [maxSize, UInt64.size]
  omega

end Payload

open Payload

namespace TokenContext

variable {window : Nat} {bs rest : Bytes}

/-- A context is read as its count and then as a run of so many words. -/
theorem decode_eq_ok_iff_run {c : TokenContext} :
    decode window bs = .ok (c, rest) ↔
      4 ≤ bs.length ∧ field bs 0 ≤ window ∧ c.window = window ∧
        takeRun (field bs 0) (bs.drop 4) = .ok (c.tokens, rest) := by
  simp only [decode, Except.bind_eq_ok_iff, Except.guard_eq_ok_iff, pure, Except.pure,
    takeWord_eq_ok_iff_field, Except.ok.injEq, Prod.mk.injEq, Prod.exists, gt_iff_lt, Nat.not_lt]
  constructor
  · rintro ⟨count, _, ⟨hword, hcount, rfl⟩, hle, tokens, _, hr, rfl, rfl⟩
    rw [← hcount]
    exact ⟨hword, hle, rfl, hr⟩
  · rintro ⟨hword, hle, rfl, hr⟩
    obtain ⟨count, hcount⟩ := exists_toNat_eq_field hword
    rw [← hcount] at hle hr
    exact ⟨count, _, ⟨hword, hcount, rfl⟩, hle, c.tokens, rest, hr, rfl, rfl⟩

theorem exists_decode_iff :
    (∃ r, decode window bs = .ok r) ↔
      4 ≤ bs.length ∧ field bs 0 ≤ window ∧ 4 + 4 * field bs 0 ≤ bs.length := by
  constructor
  · rintro ⟨⟨c, rest⟩, h⟩
    obtain ⟨hword, hle, -, hr⟩ := decode_eq_ok_iff_run.mp h
    have hrun := exists_takeRun_iff.mp ⟨_, hr⟩
    rw [List.length_drop] at hrun
    exact ⟨hword, hle, by omega⟩
  · rintro ⟨hword, hle, hlength⟩
    have hrun : 4 * field bs 0 ≤ (bs.drop 4).length := by
      rw [List.length_drop]
      omega
    obtain ⟨⟨tokens, rest⟩, hr⟩ := exists_takeRun_iff.mpr hrun
    exact ⟨(⟨tokens, window⟩, rest), decode_eq_ok_iff_run.mpr ⟨hword, hle, rfl, hr⟩⟩

theorem numbers_of_decode {c : TokenContext} (h : decode window bs = .ok (c, rest)) :
    c.window = window ∧ c.length = field bs 0 ∧
      (∀ i (hi : i < c.tokens.length), c.tokens[i].toNat = field bs (4 + 4 * i)) ∧
        rest = bs.drop (4 + 4 * field bs 0) := by
  obtain ⟨-, -, hwindow, hr⟩ := decode_eq_ok_iff_run.mp h
  obtain ⟨hlength, hnumbers, hrest⟩ := numbers_of_takeRun hr
  refine ⟨hwindow, hlength, ?_, ?_⟩
  · intro i hi
    rw [hnumbers i hi, field_drop]
  · rw [hrest, List.drop_drop]

/-- A count beyond the window is the only thing that a context is refused for other than its
length. -/
theorem decode_eq_mismatch_iff {cause : StateMismatch} :
    decode window bs = .error (.mismatch cause) ↔
      4 ≤ bs.length ∧ window < field bs 0 ∧ .contextTooLong (field bs 0) window = cause := by
  simp only [decode, Except.bind_eq_error_iff, Except.guard_eq_error_iff, pure, Except.pure,
    takeWord_eq_error_iff, takeWord_eq_ok_iff_field, Prod.exists, reduceCtorEq, and_false, false_or,
    exists_false, or_false, BackendError.mismatch.injEq, gt_iff_lt]
  constructor
  · rintro ⟨count, _, ⟨hword, hcount, rfl⟩, ⟨hlarge, rfl⟩ | ⟨-, h⟩⟩
    · rw [← hcount]
      exact ⟨hword, hlarge, rfl⟩
    · obtain ⟨_, htruncated⟩ := takeRun_eq_error h
      cases htruncated
  · rintro ⟨hword, hlarge, rfl⟩
    obtain ⟨count, hcount⟩ := exists_toNat_eq_field hword
    refine ⟨count, _, ⟨hword, hcount, rfl⟩, .inl ⟨?_, ?_⟩⟩ <;> rw [hcount]
    exact hlarge

end TokenContext

/-- What a payload declares is bounded by the bytes there are. A run of scores is read exactly if
four bytes for each are there; then the scores are the bit patterns that stand there, in order, and
the bytes behind them are left. A context is read exactly if its count is there and within the
window, and four bytes for each token follow; then the tokens are what stands there, and the bytes
behind them are left. A count beyond the window is reported as such whatever follows it, and nothing
else is. The check in front of either loop vouches for all its elements; for a run of any length,
that takes a byte string shorter than a 64-bit machine can count. -/
theorem runs_within_bytes (bs : Bytes) :
    (∀ n : Nat,
      ((∃ r, takeScores n bs = .ok r) ↔ 4 * n ≤ bs.length) ∧
      (∀ ss rest, takeScores n bs = .ok (ss, rest) →
        ss.length = n ∧ (∀ i (h : i < ss.length), ss[i].bits.toNat = field bs (4 * i)) ∧
          rest = bs.drop (4 * n)) ∧
      (bs.length < maxSize → Vouches n bs)) ∧
    ∀ window : Nat,
      ((∃ r, TokenContext.decode window bs = .ok r) ↔
        4 ≤ bs.length ∧ field bs 0 ≤ window ∧ 4 + 4 * field bs 0 ≤ bs.length) ∧
      (∀ c rest, TokenContext.decode window bs = .ok (c, rest) →
        c.window = window ∧ c.length = field bs 0 ∧
          (∀ i (h : i < c.tokens.length), c.tokens[i].toNat = field bs (4 + 4 * i)) ∧
            rest = bs.drop (4 + 4 * field bs 0)) ∧
      (∀ cause, TokenContext.decode window bs = .error (.mismatch cause) ↔
        4 ≤ bs.length ∧ window < field bs 0 ∧
          .contextTooLong (field bs 0) window = cause) ∧
      ∀ count rest, Payload.takeWord bs = .ok (count, rest) → Vouches count.toNat rest := by
  constructor
  · intro n
    refine ⟨exists_takeScores_iff, fun _ _ => numbers_of_takeScores, ?_⟩
    intro hmax
    exact vouches (.inl hmax)
  · intro window
    refine ⟨TokenContext.exists_decode_iff, fun _ _ => TokenContext.numbers_of_decode,
      fun _ => TokenContext.decode_eq_mismatch_iff, ?_⟩
    intro count rest _
    exact vouches (.inr (four_mul_le_maxSize count))

/-- Three words and a byte, read as three scores and as a context of two tokens. Four times the
last count is 2 ^ 64, which a 64-bit product would take for zero. -/
theorem runs_within_bytes_two_tokens :
    let bs : Bytes := [2, 0, 0, 0, 5, 0, 0, 0, 7, 0, 0, 0x80, 0xaa]
    bs.length < maxSize ∧ Vouches 3 bs ∧
      takeScores 3 bs = .ok ([⟨2⟩, ⟨5⟩, ⟨0x80000007⟩], [0xaa]) ∧ [0xaa] = bs.drop (4 * 3) ∧
      TokenContext.decode 8 bs = .ok (⟨[5, 0x80000007], 8⟩, [0xaa]) ∧
      [0xaa] = bs.drop (4 + 4 * field bs 0) ∧
      Payload.takeWord bs = .ok (2, bs.drop 4) ∧ Vouches 2 (bs.drop 4) ∧
      TokenContext.decode 1 bs = .error (.mismatch (.contextTooLong 2 1)) ∧
      ¬ ∃ r, takeScores 4611686018427387904 bs = .ok r := by
  intro bs
  have hmax : bs.length < maxSize := by decide
  have hscores : takeScores 3 bs = .ok ([⟨2⟩, ⟨5⟩, ⟨0x80000007⟩], [0xaa]) := by decide
  have hcontext : TokenContext.decode 8 bs = .ok (⟨[5, 0x80000007], 8⟩, [0xaa]) := by decide
  have hcount : Payload.takeWord bs = .ok (2, bs.drop 4) := by decide
  obtain ⟨hruns, hcontexts⟩ := runs_within_bytes bs
  obtain ⟨-, hnumbers, hvouches⟩ := hruns 3
  obtain ⟨-, htokens, -, hloop⟩ := hcontexts 8
  obtain ⟨-, -, hmismatch, -⟩ := hcontexts 1
  refine ⟨hmax, hvouches hmax, hscores, (hnumbers _ _ hscores).2.2, hcontext,
    (htokens _ _ hcontext).2.2.2, hcount, hloop _ _ hcount, ?_, ?_⟩
  · exact (hmismatch _).mpr ⟨by decide, by decide, by decide⟩
  · rw [(hruns _).1]
    decide

end Decoding

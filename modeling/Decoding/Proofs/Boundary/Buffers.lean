import Decoding.Proofs.Boundary.Answers
import Decoding.Proofs.Simulation.Engine
import Decoding.Proofs.Snapshot.Export

/-!
The buffers that callers give to be filled. A call that fails leaves its buffer as it is, and a call
that answers with a count writes to no more entries than that. All checks come before the first
entry is written, with one exception: tokens are stored one by one, and one that is too large for
an integer is found when those in front of it have been stored. Only scores are written by the
backend itself, so only they can be there when a backend crashes.
-/

namespace Decoding.Boundary

variable {ω β γ : Type} {w : ω} {b : Boundary ω β} {handle : UInt64} {buffer : List γ}
  {capacity n : Nat}

/-- A buffer before and after a call that may fill so many entries of it. A negative answer leaves
it as it is; a count is a number of entries in front, and leaves the others as they are. -/
structure Confined (capacity : Nat) (before after : List γ) (answer : Int) : Prop where
  kept : answer < 0 → after = before
  counted : answer ≤ capacity
  behind : ∀ n : Nat, answer = n → after.drop n = before.drop n
  room : capacity ≤ before.length → after.length = before.length

theorem Confined.unchanged {answer : Int} (h : answer < 0) :
    Confined capacity buffer buffer answer where
  kept _ := rfl
  counted := by omega
  behind _ _ := rfl
  room _ := rfl

theorem Confined.written {after : List γ} (hn : n ≤ capacity)
    (hbehind : after.drop n = buffer.drop n)
    (hroom : capacity ≤ buffer.length → after.length = buffer.length) :
    Confined capacity buffer after n where
  kept h := absurd h (by omega)
  counted := by omega
  behind m hm := by
    obtain rfl : n = m := by omega
    exact hbehind
  room := hroom

/-- A front that takes the place of as many entries leaves the others as they are. -/
theorem Confined.front {front : List γ} (hn : front.length = n) (hcapacity : n ≤ capacity) :
    Confined capacity buffer (front ++ buffer.drop n) n := by
  subst hn
  refine .written hcapacity (List.drop_left ..) fun hroom => ?_
  rw [List.length_append, List.length_drop]
  omega

/-- What a look at a session gives for a buffer of which so much may be filled: the buffer as it is
and an error or a crash, or a count and a buffer with as many new entries in front. -/
inductive Filled (capacity : Nat) (buffer : List γ) : Outcome SessionError Nat × List γ → Prop
  | failed (e : SessionError) : Filled capacity buffer (.error e, buffer)
  | crashed (text : String) : Filled capacity buffer (.crash text, buffer)
  | counted {n : Nat} {after : List γ} (h : Confined capacity buffer after n) :
    Filled capacity buffer (.ok n, after)

theorem Filled.confined {r : Outcome SessionError Nat × List γ}
    (hcapacity : capacity ≤ Config.maxCount) (h : Filled capacity buffer r) :
    Confined capacity buffer r.2 (answerTo (fitted r.1)) := by
  cases h with
  | failed e => exact .unchanged e.code_status_neg
  | crashed text => exact .unchanged (by decide : Status.internal.code < 0)
  | @counted n after h =>
    have hn := h.counted
    rw [fitted_of_le (by omega)]
    exact h

/-- The session of the handle can be called. -/
def Reaches (b : Boundary ω β) (handle : UInt64) (s : Session β) : Prop :=
  ∃ id o, SessionId.ofRaw? handle = some id ∧ b.host.occupant? id = some o ∧ o.poisoned = false ∧
    o.session = s

/-- The answer tells what the look has seen, and the buffer is as the look has left it. -/
theorem fill_of_reaches {s : Session β} (hs : b.Reaches handle s) (buffer : List γ)
    (looked : Session β → Outcome SessionError Nat × List γ) {o : Outcome SessionError Nat}
    {after : List γ} (hlooked : looked s = (o, after)) :
    (b.fill handle buffer looked).1 = answerTo (fitted o) ∧
      (b.fill handle buffer looked).2.1 = after := by
  obtain ⟨id, occupant, hid, ho, hp, rfl⟩ := hs
  simp only [fill, look, change, withHandle, hid, Host.withSession_eq ho, Occupant.act, hp, hlooked,
    answer_eq]
  exact ⟨rfl, rfl⟩

/-- A call that fills a buffer leaves session and host as they are, unless it crashes. -/
theorem fill_eq_of_reaches {s : Session β} (hs : b.Reaches handle s) (buffer : List γ)
    {looked : Session β → Outcome SessionError Nat × List γ} {o : Outcome SessionError Nat}
    {after : List γ} (hlooked : looked s = (o, after)) (hdone : o.isCrash = false) :
    b.fill handle buffer looked = ((b.answer o).1, after, (b.answer o).2) := by
  obtain ⟨id, occupant, hid, ho, hp, rfl⟩ := hs
  have hseat : b.host.seat id
      { occupant with session := occupant.session, poisoned := false } = b.host := by
    rw [← hp]
    exact Host.seat_self ho
  simp [fill, look, change, withHandle, hid, Host.withSession_eq ho, Occupant.act, hp, hlooked,
    hdone, hseat, Outcome.toOption]

/-- A call keeps to the capacity of a buffer as the look at a session does, unless it reaches one at
which the look does not. -/
theorem fill_confined_or (hcapacity : capacity ≤ Config.maxCount) (b : Boundary ω β)
    (handle : UInt64) (buffer : List γ) (looked : Session β → Outcome SessionError Nat × List γ) :
    Confined capacity buffer (b.fill handle buffer looked).2.1 (b.fill handle buffer looked).1 ∨
      ∃ s, b.Reaches handle s ∧ ¬ Filled capacity buffer (looked s) := by
  rcases b.withHandle_cases handle with ⟨e, hrefused⟩ | ⟨id, o, hid, ho, hp, -⟩
  · left
    simp only [fill, look, change, hrefused]
    exact .unchanged e.code_status_neg
  · have hs : b.Reaches handle o.session := ⟨id, o, hid, ho, hp, rfl⟩
    by_cases hfilled : Filled capacity buffer (looked o.session)
    · have hlooked : looked o.session = ((looked o.session).1, (looked o.session).2) := rfl
      obtain ⟨hanswer, hbuffer⟩ := fill_of_reaches hs buffer looked hlooked
      rw [hanswer, hbuffer]
      exact .inl (hfilled.confined hcapacity)
    · exact .inr ⟨_, hs, hfilled⟩

/-- If looks at sessions keep to the capacity of a buffer, so does a call. -/
theorem fill_confined {looked : Session β → Outcome SessionError Nat × List γ}
    (hcapacity : capacity ≤ Config.maxCount) (hlooked : ∀ s, Filled capacity buffer (looked s)) :
    Confined capacity buffer (b.fill handle buffer looked).2.1
      (b.fill handle buffer looked).1 :=
  (fill_confined_or hcapacity b handle buffer looked).resolve_right
    fun ⟨s, _, hnot⟩ => hnot (hlooked s)

theorem refuse_confined (b : Boundary ω β) (buffer : List γ) (e : SessionError) :
    Confined capacity buffer (b.refuse buffer e).2.1 (b.refuse buffer e).1 :=
  .unchanged e.code_status_neg

section Looks

variable [Device β] [Backend ω β]

/-- What looking at the scores gives for the first `n` entries of a buffer. -/
def scoresInto (w : ω) (s : Session β) (buffer : List Score) (n : Nat) :
    Outcome SessionError Nat × List Score :=
  ((s.peekInto w (buffer.take n)).1, (s.peekInto w (buffer.take n)).2 ++ buffer.drop n)

theorem scoresInto_of_crash {w : ω} {s : Session β} {buffer front : List Score} {text : String}
    (h : s.peekInto w (buffer.take n) = (.crash text, front)) :
    scoresInto w s buffer n = (.crash text, front ++ buffer.drop n) := by
  rw [scoresInto, h]

/-- Only a backend that crashes leaves entries behind that are not counted, in front of the others. -/
theorem scores_filled (w : ω) (s : Session β) (buffer : List Score) (n : Nat) :
    Filled n buffer (scoresInto w s buffer n) ∨
      ∃ text front, s.peekInto w (buffer.take n) = (.crash text, front) ∧
        front.length = min n buffer.length := by
  have hp := s.peekInto_peeked w (buffer.take n)
  obtain ⟨o, front, hmade⟩ : ∃ o front, s.peekInto w (buffer.take n) = (o, front) := ⟨_, _, rfl⟩
  rw [scoresInto, hmade]
  rw [hmade] at hp
  cases hp with
  | refused =>
    rw [List.take_append_drop]
    exact .inl (.failed _)
  | filled hlength =>
    rw [List.length_take] at hlength ⊢
    refine .inl (.counted (.written (Nat.min_le_left ..) ?_ fun hroom => ?_))
    · rw [List.drop_left' hlength]
      exact List.drop_eq_drop_min
    · rw [List.length_append, hlength, ← List.length_take, ← List.length_append,
        List.take_append_drop]
  | @crashed text _ hlength =>
    rw [List.length_take] at hlength
    exact .inr ⟨text, front, rfl, hlength⟩

theorem snapshot_filled (w : ω) (s : Session β) (buffer : Bytes) (capacity limit : Nat) :
    Filled capacity buffer ((s.snapshotInto w (buffer.take capacity) limit).1,
      (s.snapshotInto w (buffer.take capacity) limit).2 ++ buffer.drop capacity) := by
  cases hs : s.snapshotInto w (buffer.take capacity) limit with
  | mk result front =>
    cases result with
    | error e =>
      obtain rfl := Session.snapshotInto_kept hs nofun
      rw [List.take_append_drop]
      exact .failed e
    | crash text =>
      obtain ⟨rfl, -⟩ := Session.snapshotInto_eq_crash hs
      rw [List.take_append_drop]
      exact .crashed text
    | ok total =>
      obtain ⟨bytes, -, hlength, hroom, rfl⟩ := Session.snapshotInto_eq_ok_iff.mp hs
      have hbehind : (buffer.take capacity).drop total ++ buffer.drop capacity =
          buffer.drop total := by
        rw [← List.drop_append_of_le_length hroom, List.take_append_drop]
      rw [List.append_assoc, hbehind]
      rw [List.length_take] at hroom
      exact .counted (.front hlength (by omega))

/-- What the bytes of a token give for a buffer that has room for so many. -/
def pieceInto (w : ω) (s : Session β) (token : UInt32) (buffer : Bytes) (capacity : Nat) :
    Outcome SessionError Nat × Bytes :=
  match s.piece w token with
  | .error e => (.error e, buffer)
  | .crash t => (.crash t, buffer)
  | .ok piece =>
    if piece.length > capacity then (.error (.bufferTooSmall piece.length capacity), buffer)
    else (.ok piece.length, piece ++ buffer.drop piece.length)

theorem piece_filled (w : ω) (s : Session β) (token : UInt32) (buffer : Bytes) (capacity : Nat) :
    Filled capacity buffer (pieceInto w s token buffer capacity) := by
  unfold pieceInto
  cases s.piece w token with
  | error e => exact .failed e
  | crash t => exact .crashed t
  | ok piece =>
    simp only
    split
    · exact .failed _
    · rename_i hroom
      exact .counted (.front rfl (by omega))

end Looks

section Tokens

/-- Tokens are stored to the last one, or up to one that is too large. -/
inductive Stored (ids : List UInt32) (buffer : List Int32) :
    Except SessionError Unit × List Int32 → Prop
  | all {after : List Int32} (hlength : after.length = buffer.length)
      (hbehind : after.drop ids.length = buffer.drop ids.length) : Stored ids buffer (.ok (), after)
  | overflow (stored : List UInt32) {rest : List UInt32} {id : UInt32}
      (hids : ids = stored ++ id :: rest) (hfit : ∀ id ∈ stored, id.toNat ≤ Config.maxCount)
      (hlarge : Config.maxCount < id.toNat) :
    Stored ids buffer (.error (.internal (.tokenOverflow id)),
      stored.map UInt32.toInt32 ++ buffer.drop stored.length)

theorem storeTokens_stored (ids : List UInt32) (buffer : List Int32) :
    Stored ids buffer (storeTokens ids buffer) := by
  induction ids generalizing buffer with
  | nil => exact .all rfl rfl
  | cons id ids ih =>
    cases buffer with
    | nil => exact .all rfl rfl
    | cons slot buffer =>
      rw [storeTokens]
      split
      · rename_i hlarge
        exact .overflow [] rfl nofun hlarge
      · rename_i hfits
        have hrest := ih buffer
        generalize storeTokens ids buffer = r at hrest ⊢
        cases hrest with
        | all hlength hbehind => exact .all (congrArg (· + 1) hlength) hbehind
        | overflow stored hids hfit hlarge =>
          refine .overflow (id :: stored) (congrArg (id :: ·) hids) ?_ hlarge
          rintro _ (_ | ⟨_, hmem⟩)
          · omega
          · exact hfit _ hmem

/-- Tokens that fit an integer are stored in front of what comes of the others. -/
theorem storeTokens_append {stored rest : List UInt32} {buffer : List Int32}
    (hfit : ∀ id ∈ stored, id.toNat ≤ Config.maxCount) (hroom : stored.length ≤ buffer.length) :
    storeTokens (stored ++ rest) buffer = ((storeTokens rest (buffer.drop stored.length)).1,
      stored.map UInt32.toInt32 ++ (storeTokens rest (buffer.drop stored.length)).2) := by
  induction stored generalizing buffer with
  | nil => rfl
  | cons first stored ih =>
    cases buffer with
    | nil => cases hroom
    | cons slot buffer =>
      have hfirst : ¬ first.toNat > Config.maxCount := Nat.not_lt.mpr (hfit first (.head _))
      have hrest := ih (fun id hid => hfit id (.tail _ hid)) (Nat.le_of_succ_le_succ hroom)
      rw [List.cons_append, storeTokens, if_neg hfirst, hrest]
      rfl

/-- Tokens are stored up to the first one that is too large, if the buffer has room for them. -/
theorem storeTokens_of_overflow {stored rest : List UInt32} {id : UInt32} {buffer : List Int32}
    (hfit : ∀ id ∈ stored, id.toNat ≤ Config.maxCount) (hlarge : Config.maxCount < id.toNat)
    (hroom : stored.length < buffer.length) :
    storeTokens (stored ++ id :: rest) buffer = (.error (.internal (.tokenOverflow id)),
      stored.map UInt32.toInt32 ++ buffer.drop stored.length) := by
  have hslot : storeTokens (id :: rest) (buffer.drop stored.length) =
      (.error (.internal (.tokenOverflow id)), buffer.drop stored.length) := by
    rw [List.drop_eq_getElem_cons hroom]
    exact if_pos hlarge
  rw [storeTokens_append hfit (Nat.le_of_lt hroom), hslot]

/-- Tokens that all fit an integer are stored if there is room for them. -/
theorem storeTokens_of_fits {ids : List UInt32} {buffer : List Int32}
    (hfit : ∀ id ∈ ids, id.toNat ≤ Config.maxCount) (hroom : ids.length ≤ buffer.length) :
    storeTokens ids buffer = (.ok (), ids.map UInt32.toInt32 ++ buffer.drop ids.length) := by
  rw [← List.append_nil ids, storeTokens_append hfit hroom, List.append_nil]
  rfl

variable [Device β] [Backend ω β]

/-- What storing the tokens of a text gives for a buffer that may take so many. -/
def tokensInto (w : ω) (s : Session β) (text : String) (buffer : List Int32) (limit : Nat) :
    Outcome SessionError Nat × List Int32 :=
  match s.tokenize w text with
  | .error e => (.error e, buffer)
  | .crash t => (.crash t, buffer)
  | .ok ids =>
    if ids.length > limit then (.error (.bufferTooSmall ids.length limit), buffer)
    else
      let (result, buffer) := storeTokens ids buffer
      ((Outcome.ofExcept result).map fun _ => ids.length, buffer)

/-- A session gives no more tokens for a text than a buffer may take. The stored ones fit an integer,
and the one behind them is too large. -/
def Overflows (w : ω) (s : Session β) (text : String) (limit : Nat) (stored : List UInt32)
    (id : UInt32) : Prop :=
  ∃ rest, s.tokenize w text = .ok (stored ++ id :: rest) ∧
    (stored ++ id :: rest).length ≤ limit ∧ (∀ id ∈ stored, id.toNat ≤ Config.maxCount) ∧
      Config.maxCount < id.toNat

/-- The session of a handle can be called, and it overflows so for a text. -/
def OverflowsAt (w : ω) (b : Boundary ω β) (handle : UInt64) (text : Option Bytes) (limit : Nat)
    (stored : List UInt32) (token : UInt32) : Prop :=
  ∃ bytes string s, text = some bytes ∧ readText "text" bytes = .ok string ∧
    b.Reaches handle s ∧ Overflows w s string limit stored token

/-- The session of a handle can be called, and its backend crashes when it is asked to write scores
into the buffer, which it leaves so. -/
def CrashesAt (w : ω) (b : Boundary ω β) (handle : UInt64) (buffer left : List Score) : Prop :=
  ∃ s text, b.Reaches handle s ∧ s.peekInto w buffer = (.crash text, left)

theorem tokens_filled (w : ω) (s : Session β) (text : String) (buffer : List Int32) (limit : Nat) :
    Filled limit buffer (tokensInto w s text buffer limit) ∨
      ∃ stored id, Overflows w s text limit stored id ∧ tokensInto w s text buffer limit =
        (.error (.internal (.tokenOverflow id)),
          stored.map UInt32.toInt32 ++ buffer.drop stored.length) := by
  unfold tokensInto Overflows
  cases s.tokenize w text with
  | error e => exact .inl (.failed e)
  | crash t => exact .inl (.crashed t)
  | ok ids =>
    simp only
    split
    · exact .inl (.failed _)
    · rename_i hroom
      have hstored := storeTokens_stored ids buffer
      generalize storeTokens ids buffer = r at hstored ⊢
      cases hstored with
      | all hlength hbehind =>
        have hle : ids.length ≤ limit := by omega
        exact .inl (.counted (.written hle hbehind fun _ => hlength))
      | overflow stored hids hfit hlarge =>
        subst hids
        exact .inr ⟨stored, _, ⟨_, rfl, by omega, hfit, hlarge⟩, rfl⟩

end Tokens

section Calls

variable [Device β] [Backend ω β]

theorem scores_eq_fill {buffer : List Score} {count : Int32} (hcount : ¬ count.toInt ≤ 0) :
    b.scores w handle (some buffer) count =
      b.fill handle buffer fun s => scoresInto w s buffer count.toInt.toNat := by
  rw [scores, if_neg hcount]
  rfl

/-- Scores are written within the capacity, or the backend crashes and leaves behind what it has
written there by then. -/
theorem scores_confined (w : ω) (b : Boundary ω β) (handle : UInt64) (buffer : Option (List Score))
    (count : Int32) :
    Confined count.toInt.toNat (buffer.getD []) (b.scores w handle buffer count).2.1
      (b.scores w handle buffer count).1 ∨
    ∃ front, b.CrashesAt w handle ((buffer.getD []).take count.toInt.toNat) front ∧
      front.length = min count.toInt.toNat (buffer.getD []).length ∧
      (b.scores w handle buffer count).1 = -9 ∧
      (b.scores w handle buffer count).2.1 =
        front ++ (buffer.getD []).drop count.toInt.toNat := by
  cases buffer with
  | none => exact .inl (refuse_confined ..)
  | some buffer =>
    by_cases hcount : count.toInt ≤ 0
    · rw [scores, if_pos hcount]
      exact .inl (refuse_confined ..)
    · rw [scores_eq_fill hcount]
      rcases fill_confined_or (toNat_le_maxCount count) b handle buffer
        (fun s => scoresInto w s buffer count.toInt.toNat) with hconfined | ⟨s, hs, hnot⟩
      · exact .inl hconfined
      · obtain ⟨text, front, hcrash, hlength⟩ := (scores_filled w s buffer _).resolve_left hnot
        obtain ⟨hanswer, hbuffer⟩ := fill_of_reaches hs buffer
          (fun s => scoresInto w s buffer count.toInt.toNat) (scoresInto_of_crash hcrash)
        exact .inr ⟨front, ⟨s, text, hs, hcrash⟩, hlength, hanswer, hbuffer⟩

/-- A backend that crashes as it writes scores ends the call in an internal error, and what it has
written is in the buffer. -/
theorem scores_of_crashesAt {buffer front : List Score} {count : Int32}
    (h : b.CrashesAt w handle (buffer.take count.toInt.toNat) front) :
    (b.scores w handle (some buffer) count).1 = -9 ∧
      (b.scores w handle (some buffer) count).2.1 =
        front ++ buffer.drop count.toInt.toNat := by
  obtain ⟨s, text, hs, hcrash⟩ := h
  have hcount : ¬ count.toInt ≤ 0 := by
    -- no entries are no request for scores
    intro hle
    have hnone : count.toInt.toNat = 0 := by omega
    rw [hnone, List.take_zero, Session.peekInto, if_pos rfl] at hcrash
    cases hcrash
  rw [scores_eq_fill hcount]
  exact fill_of_reaches hs buffer (fun s => scoresInto w s buffer count.toInt.toNat)
    (scoresInto_of_crash hcrash)

theorem snapshot_confined (w : ω) (b : Boundary ω β) (handle : UInt64) (buffer : Option Bytes)
    (capacity limit : Int32) :
    Confined capacity.toInt.toNat (buffer.getD []) (b.snapshot w handle buffer capacity limit).2.1
      (b.snapshot w handle buffer capacity limit).1 := by
  cases buffer with
  | none => exact refuse_confined ..
  | some buffer =>
    rw [snapshot]
    split
    · exact refuse_confined ..
    · exact refuse_confined ..
    · rename_i n m hn hm
      obtain ⟨-, rfl⟩ := natural_eq_ok_iff.mp hn
      exact fill_confined (toNat_le_maxCount capacity) fun s => snapshot_filled w s buffer _ m

theorem piece_eq_fill {token : Int32} {id : UInt32} {buffer : Bytes} {capacity : Int32}
    (hid : tokenId token = .ok id) (hn : natural "buffer_size" capacity = .ok n) :
    b.piece w handle token (some buffer) capacity =
      b.fill handle buffer fun s => pieceInto w s id buffer n := by
  rw [piece, hid, hn]
  rfl

theorem piece_confined (w : ω) (b : Boundary ω β) (handle : UInt64) (token : Int32)
    (buffer : Option Bytes) (capacity : Int32) :
    Confined capacity.toInt.toNat (buffer.getD []) (b.piece w handle token buffer capacity).2.1
      (b.piece w handle token buffer capacity).1 := by
  cases buffer with
  | none => exact refuse_confined ..
  | some buffer =>
    rw [piece]
    split
    · exact refuse_confined ..
    · exact refuse_confined ..
    · rename_i id n hid hn
      obtain ⟨-, rfl⟩ := natural_eq_ok_iff.mp hn
      exact fill_confined (toNat_le_maxCount capacity) fun s => piece_filled w s id buffer _

theorem tokenize_eq_fill {bytes : Bytes} {buffer : List Int32} {limit : Int32} {string : String}
    (hn : natural "max_tokens" limit = .ok n) (hstring : readText "text" bytes = .ok string) :
    b.tokenize w handle (some bytes) (some buffer) limit =
      b.fill handle buffer fun s => tokensInto w s string buffer n := by
  rw [tokenize, hn, hstring]
  rfl

/-- Tokens are stored within the capacity, or the first one that is too large ends the call with an
internal error when those in front of it have been stored. -/
theorem tokenize_confined (w : ω) (b : Boundary ω β) (handle : UInt64) (text : Option Bytes)
    (buffer : Option (List Int32)) (limit : Int32) :
    Confined limit.toInt.toNat (buffer.getD []) (b.tokenize w handle text buffer limit).2.1
      (b.tokenize w handle text buffer limit).1 ∨
    ∃ stored token, b.OverflowsAt w handle text limit.toInt.toNat stored token ∧
      (b.tokenize w handle text buffer limit).1 = -9 ∧
      (b.tokenize w handle text buffer limit).2.1 =
        stored.map UInt32.toInt32 ++ (buffer.getD []).drop stored.length := by
  match text, buffer with
  | none, _ | some _, none => exact .inl (refuse_confined ..)
  | some bytes, some buffer =>
    cases hn : natural "max_tokens" limit with
    | error e =>
      rw [tokenize, hn]
      exact .inl (refuse_confined ..)
    | ok n =>
      cases hstring : readText "text" bytes with
      | error e =>
        rw [tokenize, hn, hstring]
        exact .inl (refuse_confined ..)
      | ok string =>
        rw [tokenize_eq_fill hn hstring]
        obtain ⟨-, rfl⟩ := natural_eq_ok_iff.mp hn
        rcases fill_confined_or (toNat_le_maxCount limit) b handle buffer
          (fun s => tokensInto w s string buffer limit.toInt.toNat) with hconfined | ⟨s, hs, hnot⟩
        · exact .inl hconfined
        · obtain ⟨stored, token, hoverflows, htokens⟩ :=
            (tokens_filled w s string buffer _).resolve_left hnot
          obtain ⟨hanswer, hbuffer⟩ := fill_of_reaches hs buffer
            (fun s => tokensInto w s string buffer limit.toInt.toNat) htokens
          exact .inr ⟨stored, token, ⟨bytes, string, s, rfl, hstring, hs, hoverflows⟩, hanswer,
            hbuffer⟩

/-- A text with a token that is too large ends in an internal error, and the tokens in front of it
are in the buffer. -/
theorem tokenize_of_overflowsAt {text : Option Bytes} {buffer : List Int32} {limit : Int32}
    {stored : List UInt32} {token : UInt32}
    (h : b.OverflowsAt w handle text limit.toInt.toNat stored token)
    (hroom : limit.toInt.toNat ≤ buffer.length) :
    (b.tokenize w handle text (some buffer) limit).1 = -9 ∧
      (b.tokenize w handle text (some buffer) limit).2.1 =
        stored.map UInt32.toInt32 ++ buffer.drop stored.length := by
  obtain ⟨bytes, string, s, rfl, hstring, hs, rest, htokens, hlength, hfit, hlarge⟩ := h
  have hpos : stored.length < limit.toInt.toNat := by
    rw [List.length_append, List.length_cons] at hlength
    omega
  have hstored : stored.length < buffer.length := Nat.lt_of_lt_of_le hpos hroom
  have hinto : tokensInto w s string buffer limit.toInt.toNat =
      (.error (.internal (.tokenOverflow token)),
        stored.map UInt32.toInt32 ++ buffer.drop stored.length) := by
    simp only [tokensInto, htokens, if_neg (Nat.not_lt.mpr hlength),
      storeTokens_of_overflow hfit hlarge hstored]
    rfl
  have hn : natural "max_tokens" limit = .ok limit.toInt.toNat :=
    natural_eq_ok_iff.mpr ⟨by omega, rfl⟩
  rw [tokenize_eq_fill hn hstring]
  exact fill_of_reaches hs buffer (fun s => tokensInto w s string buffer limit.toInt.toNat) hinto

end Calls

/-- For every handle, over every backend, the calls that are given a buffer to fill leave it as it is
if they answer with an error, and leave all entries but the first `n` as they are if they answer
with a count `n`. There are two exceptions. If a text has a token that is too large for an integer,
the call ends in an internal error, and the tokens in front of it are in the buffer. If a backend
crashes as it writes scores, what it has written is among the entries that it was given. -/
theorem buffers_confined [Device β] [Backend ω β] (w : ω) (b : Boundary ω β) (handle : UInt64) :
    (∀ (buffer : Option (List Score)) (count : Int32),
      let r := b.scores w handle buffer count
      Confined count.toInt.toNat (buffer.getD []) r.2.1 r.1 ∨
        ∃ front, b.CrashesAt w handle ((buffer.getD []).take count.toInt.toNat) front ∧
          front.length = min count.toInt.toNat (buffer.getD []).length ∧
          r.1 = -9 ∧ r.2.1 = front ++ (buffer.getD []).drop count.toInt.toNat) ∧
    (∀ (buffer front : List Score) (count : Int32),
      b.CrashesAt w handle (buffer.take count.toInt.toNat) front →
        let r := b.scores w handle (some buffer) count
        r.1 = -9 ∧ r.2.1 = front ++ buffer.drop count.toInt.toNat) ∧
    (∀ (buffer : Option Bytes) (capacity limit : Int32),
      let r := b.snapshot w handle buffer capacity limit
      Confined capacity.toInt.toNat (buffer.getD []) r.2.1 r.1) ∧
    (∀ (token : Int32) (buffer : Option Bytes) (capacity : Int32),
      let r := b.piece w handle token buffer capacity
      Confined capacity.toInt.toNat (buffer.getD []) r.2.1 r.1) ∧
    (∀ (text : Option Bytes) (buffer : Option (List Int32)) (limit : Int32),
      let r := b.tokenize w handle text buffer limit
      Confined limit.toInt.toNat (buffer.getD []) r.2.1 r.1 ∨
        ∃ stored token, b.OverflowsAt w handle text limit.toInt.toNat stored token ∧
          r.1 = -9 ∧ r.2.1 = stored.map UInt32.toInt32 ++ (buffer.getD []).drop stored.length) ∧
    ∀ (text : Option Bytes) (buffer : List Int32) (limit : Int32) (stored : List UInt32)
      (token : UInt32), b.OverflowsAt w handle text limit.toInt.toNat stored token →
        limit.toInt.toNat ≤ buffer.length →
          let r := b.tokenize w handle text (some buffer) limit
          r.1 = -9 ∧ r.2.1 = stored.map UInt32.toInt32 ++ buffer.drop stored.length :=
  ⟨scores_confined w b handle, fun _ _ _ hcrash => scores_of_crashesAt hcrash,
    snapshot_confined w b handle, piece_confined w b handle,
    tokenize_confined w b handle,
    fun _ _ _ _ _ hoverflows hroom => tokenize_of_overflowsAt hoverflows hroom⟩

section Counterexample

open Simulation

/-- A session with a simulated engine, whose tokenizer reads any words. -/
def tokenizing : Boundary World Any :=
  (boundary.run [(filed {}, .init (some (Text.Utf8.encode "engine:m?vocab=4&n_ctx=8")))]).2.1

/-- The call fails, and the first entry of the buffer is another one than before. -/
theorem tokenize_overflow_writes :
    let r := tokenizing.tokenize (filed {}) 4294967296 (some (Text.Utf8.encode "5 4294967295"))
      (some [-77, -77, -77]) 3
    r.1 = -9 ∧ r.2.1 = [5, -77, -77] := by
  have hoccupant : tokenizing.host.occupant? ⟨0, 1⟩ = some
      { session := .fresh (ofEngine (.fresh ⟨[], 4⟩ 8)), poisoned := false, family := "engine",
        serial := 0 } := by
    cbv
  have htext : readText "text" (Text.Utf8.encode "5 4294967295") = .ok "5 4294967295" := by cbv
  have htokens : (Session.fresh (ofEngine (.fresh ⟨[], 4⟩ 8))).tokenize (filed {}) "5 4294967295" =
      .ok [5, 4294967295] := by
    cbv
  have hfits : ∀ id ∈ [(5 : UInt32)], id.toNat ≤ Config.maxCount :=
    List.forall_mem_singleton.mpr (by decide)
  exact tokenize_of_overflowsAt
    ⟨_, _, _, rfl, htext, ⟨⟨0, 1⟩, _, rfl, hoccupant, rfl, rfl⟩, [], htokens, by decide, hfits,
      by decide⟩
    (by decide)

end Counterexample

end Decoding.Boundary

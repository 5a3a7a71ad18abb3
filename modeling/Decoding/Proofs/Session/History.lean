import Decoding.Proofs.Backend.Contract
import Decoding.Proofs.Session.Transitions
import Decoding.Proofs.Snapshot.Envelope

/-!
A session over a stub is a list of tokens. Its position, its history, the context of its
backend and the payload of its snapshots are four copies of this list, which separate
code keeps; here a machine that has the list only is shown to give the same answers and
to hold the same tokens, whatever the calls are.
-/

namespace Decoding

open Snapshot

namespace History

open Session

/-- The snapshot of a history. -/
def image (tokens : List UInt32) : Bytes :=
  (Header.current (.ofNat tokens.length) (.ofNat (4 + 4 * tokens.length))).encode ++
    (Bytes.ofWord (.ofNat tokens.length) ++ Bytes.ofWords tokens)

/-- The size of the snapshot of a history, which may be more than snapshots can have. -/
def size (tokens : List UInt32) : Except SessionError Nat :=
  let payload := 4 + 4 * tokens.length
  if payload > maxPayload then .error (.limitExceeded payload maxPayload)
  else if headerSize + payload > maxSize then
    .error (.limitExceeded (headerSize + payload) maxSize)
  else .ok (headerSize + payload)

def sizeWithin (limit : Nat) (tokens : List UInt32) : Except SessionError Nat := do
  let total ← size tokens
  if total > limit then throw (.limitExceeded total limit)
  return total

/-- A snapshot at the front of a buffer that has room for it. -/
def imageInto (buffer : Bytes) (limit : Nat) (tokens : List UInt32) :
    Except SessionError Nat × Bytes :=
  match sizeWithin limit tokens with
  | .error e => (.error e, buffer)
  | .ok total =>
    if total > buffer.length then (.error (.bufferTooSmall total buffer.length), buffer)
    else (.ok total, image tokens ++ buffer.drop total)

/-- The tokens that bytes spell, four bytes each. -/
def spelled : Bytes → List UInt32
  | a :: b :: c :: d :: rest => Bytes.toWord a b c d :: spelled rest
  | _ => []

section Machine

/-! The machine. Its state is the history, and its parameters are the two bounds of a stub. -/

variable (vocab window : Nat)

/-- A step without tokens is none; one with a token out of the vocabulary is refused for the first
such token, and one with too many tokens for the window after that. -/
def step (held tokens : List UInt32) : Outcome SessionError Nat × List UInt32 :=
  if tokens = [] then (.ok 0, held)
  else
    match tokens.find? fun t => vocab ≤ t.toNat with
    | some t => (.error (.evaluation (.tokenOutOfRange t vocab)), held)
    | none =>
      if held.length + tokens.length > window then
        (.error (.evaluation (.contextFull (held.length + tokens.length) window)), held)
      else (.ok tokens.length, held ++ tokens)

def rollback (held : List UInt32) (steps : Nat) : List UInt32 :=
  held.take (held.length - min steps held.length)

/-- The history that bytes bring back: they are its snapshot, and a stub can hold it. -/
def restored (bytes : Bytes) (limit : Nat) : Option (List UInt32) :=
  let tokens := spelled (bytes.drop (headerSize + 4))
  if bytes = image tokens ∧ bytes.length ≤ limit ∧ 4 + 4 * tokens.length ≤ maxPayload ∧
      tokens.length ≤ window ∧ ∀ t ∈ tokens, t.toNat < vocab then
    some tokens
  else none

def next (held : List UInt32) : Call → List UInt32
  | .step tokens => (step vocab window held tokens).2
  | .rollback steps => rollback held steps
  | .restore bytes limit => (restored vocab window bytes limit).getD held
  | _ => held

def run (held : List UInt32) (calls : List Call) : List UInt32 :=
  calls.foldl (next vocab window) held

/-- What a call answers. Answers that the history does not determine are left open, and so is
what is wrong with a snapshot that is refused. -/
def Answers (held : List UInt32) : Call → Outcome SessionError Reply → Prop
  | .step tokens, o => o = (step vocab window held tokens).1.map .count
  | .rollback steps, o => o = .ok (.count (min steps held.length))
  | .snapshotSize, o => o = .ofExcept ((size held).map .count)
  | .snapshot limit, o => o = .ofExcept ((sizeWithin limit held).map fun _ => .bytes (image held))
  | .snapshotInto buffer limit, o =>
    o = .ok (.byteBuffer (imageInto buffer limit held).1 (imageInto buffer limit held).2)
  | .restore bytes limit, o =>
    match restored vocab window bytes limit with
    | some _ => o = .ok .done
    | none => ∃ e, o = .error e
  | _, _ => True

end Machine

/-- The batch of the last step that went through with tokens, if no rollback and no restored
snapshot came after it. The newest call comes first. -/
def lastBatch : List (Call × Outcome SessionError Reply) → List UInt32
  | [] => []
  | (.step (t :: ts), .ok _) :: _ => t :: ts
  | (.rollback _, _) :: _ => []
  | (.restore _ _, .ok _) :: _ => []
  | _ :: earlier => lastBatch earlier

@[simp] theorem spelled_ofWords (ws : List UInt32) : spelled (Bytes.ofWords ws) = ws := by
  induction ws with
  | nil => rfl
  | cons w ws ih =>
    change Bytes.toWord _ _ _ _ :: spelled (Bytes.ofWords ws) = _
    rw [Bytes.toWord_ofWord, ih]

theorem length_rollback (held : List UInt32) (steps : Nat) :
    (rollback held steps).length = held.length - min steps held.length := by
  simp only [rollback, List.length_take]
  omega

theorem length_image (tokens : List UInt32) :
    (image tokens).length = headerSize + (4 + 4 * tokens.length) := by
  simp [image]

theorem spelled_image (tokens : List UInt32) :
    spelled ((image tokens).drop (headerSize + 4)) = tokens :=
  spelled_ofWords tokens

variable {vocab window limit : Nat} {bytes : Bytes} {tokens : List UInt32}

theorem restored_eq_some_iff :
    restored vocab window bytes limit = some tokens ↔
      bytes = image tokens ∧ bytes.length ≤ limit ∧ 4 + 4 * tokens.length ≤ maxPayload ∧
        tokens.length ≤ window ∧ ∀ t ∈ tokens, t.toNat < vocab := by
  unfold restored
  simp only [Option.ite_none_right_eq_some, Option.some.injEq]
  constructor
  · rintro ⟨h, rfl⟩
    exact h
  · intro h
    have ht : spelled (bytes.drop (headerSize + 4)) = tokens := by rw [h.1, spelled_image]
    rw [ht]
    exact ⟨h, rfl⟩

theorem sizeWithin_eq_ok {total : Nat} (h : sizeWithin limit tokens = .ok total) :
    total = headerSize + (4 + 4 * tokens.length) := by
  simp only [sizeWithin, Except.bind_eq_ok_iff, Except.guard_eq_ok_iff, pure, Except.pure] at h
  obtain ⟨n, hs, -, hn⟩ := h
  cases hn
  unfold size at hs
  simp only at hs
  split at hs
  · cases hs
  · split at hs
    · cases hs
    · exact (Except.ok.inj hs).symm

end History

namespace Session

open History

variable {ω : Type} {b : Stub} {held staged : List UInt32}

/-- The session over a stub whose history is `held`. -/
def ofHistory (b : Stub) (held staged : List UInt32) : Session Stub :=
  { backend := b.holding held, position := held.length, committed := held, staged, fault := none }

theorem fresh_eq_ofHistory {b : Stub} (hb : b.context.tokens = []) :
    fresh b = ofHistory b [] [] := by
  rw [ofHistory, ← hb, Stub.holding_tokens, hb]
  rfl

/-- A call leaves the machine's next list in the session, stages what the calls so far have left
staged, and answers as the machine does. -/
def Follows (b : Stub) (held : List UInt32) (earlier : List (Call × Outcome SessionError Reply))
    (call : Call) (r : Outcome SessionError Reply × Session Stub) : Prop :=
  r.2 = ofHistory b (next b.vocab b.context.window held call) (lastBatch ((call, r.1) :: earlier)) ∧
    Answers b.vocab b.context.window held call r.1

theorem step_follows (w : ω) (held tokens : List UInt32)
    (earlier : List (Call × Outcome SessionError Reply)) :
    Follows b held earlier (.step tokens)
      ((ofHistory b held (lastBatch earlier)).perform w (.step tokens)) := by
  cases tokens with
  | nil => exact ⟨rfl, rfl⟩
  | cons t ts =>
    simp only [Follows, Answers, next, perform, Session.step, ofHistory, History.step, reduceCtorEq,
      if_false]
    cases hv : (t :: ts).find? fun t => b.vocab ≤ t.toNat with
    | some bad =>
      have he : Backend.evaluate w (b.holding held) held.length (t :: ts) =
          (.error (.tokenOutOfRange bad b.vocab), b.holding held) :=
        Stub.backend_evaluate_eq_error_iff.mpr ⟨Stub.evaluate_of_find hv, rfl⟩
      simp only [he]
      exact ⟨rfl, rfl⟩
    | none =>
      by_cases hw : held.length + (t :: ts).length > b.context.window
      · have he : Backend.evaluate w (b.holding held) held.length (t :: ts) =
            (.error (.contextFull (held.length + (t :: ts).length) b.context.window),
              b.holding held) :=
          Stub.backend_evaluate_eq_error_iff.mpr ⟨Stub.evaluate_of_full hv hw, rfl⟩
        simp only [he, if_pos hw]
        exact ⟨rfl, rfl⟩
      · have hvocab : ∀ t' ∈ t :: ts, t'.toNat < b.vocab := by simpa using hv
        have he : Backend.evaluate w (b.holding held) held.length (t :: ts) =
            (.ok (), b.holding (held ++ t :: ts)) :=
          Stub.backend_evaluate_eq_ok_iff.mpr
            (Stub.evaluate_eq_ok_iff.mpr ⟨hvocab, rfl, Nat.le_of_not_lt hw, rfl⟩)
        simp only [he, if_neg hw]
        refine ⟨?_, rfl⟩
        rw [List.length_append]
        rfl

theorem shortened_ofHistory (b : Stub) (held staged : List UInt32) (steps : Nat) :
    (ofHistory b held staged).shortened steps =
      { ofHistory b (History.rollback held steps) [] with backend := b.holding held } := by
  simp only [ofHistory, length_rollback]
  rfl

theorem rollback_follows (w : ω) (held : List UInt32) (steps : Nat)
    (earlier : List (Call × Outcome SessionError Reply)) :
    Follows b held earlier (.rollback steps)
      ((ofHistory b held (lastBatch earlier)).perform w (.rollback steps)) := by
  have h := (ofHistory b held (lastBatch earlier)).rollback_rolledBack w steps
  simp only [Follows, Answers, next, perform]
  generalize (ofHistory b held (lastBatch earlier)).rollback w steps = r at h
  cases h with
  | idle hf hu =>
    have hzero : min steps held.length = 0 := hu
    have hsame : History.rollback held steps = held := by
      rw [History.rollback, hzero, Nat.sub_zero, List.take_length]
    rw [shortened_ofHistory, hsame, hzero]
    exact ⟨rfl, rfl⟩
  | evicted ha he =>
    cases he
    rw [shortened_ofHistory]
    exact ⟨rfl, rfl⟩
  | failed ha he => cases he
  | crashed ha he => cases he

/-- A stub reports the size of its payload exactly as long as its window can be counted. -/
theorem exists_stateSize (w : ω) (hw : b.context.window ≤ Config.maxCount) (hb : b.Fits held) :
    ∃ size : UInt64, Backend.stateSize w (b.holding held) = .ok size ∧
      size.toNat = 4 + 4 * held.length := by
  have := hb.window
  refine ⟨.ofNat (4 + 4 * held.length), rfl, ?_⟩
  simp only [UInt64.toNat_ofNat', Config.maxCount] at *
  omega

theorem backup_ofHistory (w : ω) (staged : List UInt32) (hw : b.context.window ≤ Config.maxCount)
    (hb : b.Fits held) :
    (ofHistory b held staged).backup w = .ok (b.holding held).context.encode := by
  obtain ⟨size, hsize, hlen⟩ := exists_stateSize w hw hb
  apply backup_eq_ok_iff.mpr
  refine ⟨⟨size, hsize, ?_⟩, rfl⟩
  have := hb.window
  simp only [Buffer.maxBytes, Config.maxCount] at *
  omega

/-- The tokens that are put back are those that were saved, whatever the stub holds by then. -/
theorem restore_encode (hw : b.context.window ≤ Config.maxCount) (hb : b.Fits held)
    (tokens : List UInt32) :
    (b.holding tokens).restore (b.holding held).context.encode =
      .ok ((b.holding held).context.encode.length, b.holding held) := by
  have := hb.window
  apply Stub.restore_eq_ok_iff.mpr
  refine ⟨held, [], (List.append_nil _).symm, ⟨hb.window, hb.vocab⟩, ?_, ?_, rfl⟩
  · simp only [Config.maxCount, UInt32.size] at *
    omega
  · rw [TokenContext.length_encode]
    rfl

/-- A payload changes the tokens of a stub only, whether it is taken or not. -/
theorem takePayload_holding {w : ω} {b b₁ : Stub} {payload : Bytes} {position : Nat}
    {o : Outcome SessionError Unit} (h : takePayload w b payload position = (o, b₁)) :
    ∃ tokens, b₁ = b.holding tokens := by
  have hb : b₁ = (Outcome.commit b (b.restore payload)).2 := by
    have hs := takePayload_snd w b payload position
    rw [h] at hs
    exact hs
  cases hr : b.restore payload with
  | error e =>
    rw [hr] at hb
    exact ⟨b.context.tokens, hb⟩
  | ok r =>
    obtain ⟨n, b'⟩ := r
    obtain ⟨tokens, -, -, -, -, -, rfl⟩ := Stub.restore_eq_ok_iff.mp hr
    rw [hr] at hb
    exact ⟨tokens, hb⟩

theorem takePayload_ne_crash {w : ω} {b b₁ : Stub} {payload : Bytes} {position : Nat} {t : String} :
    takePayload w b payload position ≠ (.crash t, b₁) := by
  unfold takePayload
  split
  · rename_i h
    exact absurd h Outcome.commit_ne_crash
  · simp
  · simp only
    split
    · simp
    · split <;> simp

/-- The machine takes the snapshots that the session takes, with the same tokens. -/
theorem restored_eq_some_iff_takePayload (w : ω) (held : List UInt32) {bytes : Bytes} {limit : Nat}
    {tokens : List UInt32} (hw : b.context.window ≤ Config.maxCount) :
    restored b.vocab b.context.window bytes limit = some tokens ↔
      ∃ header, checkEnvelope bytes limit = .ok header ∧
        takePayload w (b.holding held) (bytes.drop headerSize) header.position.toNat =
          (.ok (), b.holding tokens) := by
  constructor
  · intro h
    obtain ⟨rfl, hlimit, hpayload, hwindow, hvocab⟩ := restored_eq_some_iff.mp h
    have hlen : (UInt32.ofNat tokens.length).toNat = tokens.length := by
      simp only [UInt32.toNat_ofNat', maxPayload] at *
      omega
    refine ⟨_, checkEnvelope_eq_ok_iff.mpr ⟨hlimit, rfl, _, rfl, ?_⟩,
      takePayload_eq_ok_iff.mpr ⟨?_, hlen.symm⟩⟩
    · simp only [List.length_append, Bytes.length_ofWord, Bytes.length_ofWords, Header.current,
        UInt32.toNat_ofNat', maxPayload] at *
      omega
    · exact Stub.backend_deserialize_eq_ok_iff.mpr (restore_encode hw ⟨hwindow, hvocab⟩ held)
  · rintro ⟨header, hh, ht⟩
    obtain ⟨hlimit, hversion, payload, rfl, hsize⟩ := checkEnvelope_eq_ok_iff.mp hh
    obtain ⟨hd, hposition⟩ := takePayload_eq_ok_iff.mp ht
    rw [drop_encode_append] at hd
    obtain ⟨tokens', rest, hp, hfits, hlt, hn, hsame⟩ :=
      Stub.restore_eq_ok_iff.mp (Stub.backend_deserialize_eq_ok_iff.mp hd)
    have htokens : tokens = tokens' := congrArg (fun b : Stub => b.context.tokens) hsame
    subst htokens
    have hrest : rest = [] := by
      have hl := congrArg List.length hp
      simp only [List.length_append, TokenContext.length_encode, TokenContext.encodedSize,
        TokenContext.length] at hl
      exact List.eq_nil_of_length_eq_zero (by omega)
    have hheader : header = .current (.ofNat tokens.length) (.ofNat (4 + 4 * tokens.length)) := by
      have hp' : tokens.length = header.position.toNat := hposition
      rw [hp', ← hp', ← hn, hsize, hp', UInt32.ofNat_toNat, UInt32.ofNat_toNat, Header.current,
        ← hversion]
    have himage : header.encode ++ payload = image tokens := by
      rw [hheader, hp, hrest, List.append_nil]
      rfl
    have hbound := header.payloadSize.toNat_lt
    refine restored_eq_some_iff.mpr ⟨himage, hlimit, ?_, hfits.window, hfits.vocab⟩
    simp only [maxPayload]
    omega

theorem restore_of_restored (w : ω) {bytes : Bytes} {limit : Nat} {tokens : List UInt32}
    (hw : b.context.window ≤ Config.maxCount) (hb : b.Fits held)
    (h : restored b.vocab b.context.window bytes limit = some tokens) :
    (ofHistory b held staged).restore w bytes limit = (.ok (), ofHistory b tokens []) := by
  obtain ⟨header, hh, ht⟩ := (restored_eq_some_iff_takePayload w held hw).mp h
  have hbackup := backup_ofHistory w staged hw hb
  have hposition : tokens.length = header.position.toNat := (takePayload_eq_ok_iff.mp ht).2
  unfold restore
  simp only [hh, hbackup]
  simp only [ofHistory, ht, hposition]
  rfl

/-- Whatever a payload has left in a stub, the saved state replaces it. -/
theorem deserialize_backup_ofHistory {w : ω} {backup payload : Bytes} {position : Nat}
    {o : Outcome SessionError Unit} {b₁ : Stub} (hw : b.context.window ≤ Config.maxCount)
    (hb : b.Fits held) (hs : (ofHistory b held staged).backup w = .ok backup)
    (ht : takePayload w (b.holding held) payload position = (o, b₁)) :
    Backend.deserialize w b₁ backup = (.ok backup.length, b.holding held) := by
  rw [backup_ofHistory w staged hw hb] at hs
  cases hs
  obtain ⟨tokens, rfl⟩ := takePayload_holding ht
  exact Stub.backend_deserialize_eq_ok_iff.mpr (restore_encode hw hb tokens)

/-- The stub itself never fails to take back what it held, so nothing is left of a snapshot that
is refused. -/
theorem restore_of_not_restored (w : ω) (staged : List UInt32) {bytes : Bytes} {limit : Nat}
    (hw : b.context.window ≤ Config.maxCount) (hb : b.Fits held)
    (h : restored b.vocab b.context.window bytes limit = none) :
    ∃ e, (ofHistory b held staged).restore w bytes limit = (.error e, ofHistory b held staged) := by
  have hr := (ofHistory b held staged).restore_restored w bytes limit
  have hbackup := backup_ofHistory w staged hw hb
  generalize (ofHistory b held staged).restore w bytes limit = r at hr
  cases hr with
  | refused he => exact ⟨_, rfl⟩
  | unsaved hh hs ho => exact absurd hbackup (hs _)
  | taken hh hs ht =>
    obtain ⟨tokens, rfl⟩ := takePayload_holding ht
    rw [(restored_eq_some_iff_takePayload w held hw).mpr ⟨_, hh, ht⟩] at h
    cases h
  | putBack hh hs ht hp =>
    rw [deserialize_backup_ofHistory hw hb hs ht] at hp
    cases hp
    exact ⟨_, rfl⟩
  | lost hh hs ht hf =>
    obtain ⟨n, hn, hp, -⟩ | ⟨cause, hp, -⟩ := hf
    · rw [deserialize_backup_ofHistory hw hb hs ht] at hp
      cases hp
      exact absurd rfl hn
    · rw [deserialize_backup_ofHistory hw hb hs ht] at hp
      cases hp
  | crashed hh hs ht => exact absurd ht takePayload_ne_crash
  | crashedBack hh hs ht hp =>
    rw [deserialize_backup_ofHistory hw hb hs ht] at hp
    cases hp

theorem restore_follows (w : ω) {held : List UInt32} (bytes : Bytes) (limit : Nat)
    (earlier : List (Call × Outcome SessionError Reply))
    (hw : b.context.window ≤ Config.maxCount) (hb : b.Fits held) :
    Follows b held earlier (.restore bytes limit)
      ((ofHistory b held (lastBatch earlier)).perform w (.restore bytes limit)) := by
  simp only [Follows, Answers, next, perform]
  cases hr : restored b.vocab b.context.window bytes limit with
  | some tokens =>
    rw [restore_of_restored w hw hb hr]
    exact ⟨rfl, rfl⟩
  | none =>
    obtain ⟨e, he⟩ := restore_of_not_restored w (lastBatch earlier) hw hb hr
    rw [he]
    exact ⟨rfl, e, rfl⟩

theorem snapshotSize_ofHistory (w : ω) (hw : b.context.window ≤ Config.maxCount)
    (hb : b.Fits held) : (ofHistory b held staged).snapshotSize w = .ofExcept (size held) := by
  obtain ⟨reported, hreported, hlen⟩ := exists_stateSize w hw hb
  simp only [snapshotSize, size, ofHistory, hreported, Outcome.lift_ok, Outcome.ok_bind, hlen]
  split
  · rfl
  · split <;> rfl

theorem checkedSize_ofHistory (w : ω) (limit : Nat) (hw : b.context.window ≤ Config.maxCount)
    (hb : b.Fits held) :
    (ofHistory b held staged).checkedSize w limit = .ofExcept (sizeWithin limit held) := by
  change ((ofHistory b held staged).snapshotSize w >>= fun total =>
    if total > limit then .error (.limitExceeded total limit) else pure total) = _
  rw [snapshotSize_ofHistory w hw hb, sizeWithin]
  cases size held with
  | error e => rfl
  | ok total =>
    rw [Outcome.ofExcept_ok, Outcome.ok_bind]
    simp only [bind, Except.bind]
    split <;> rfl

theorem encode_ofHistory (w : ω) {limit total : Nat} (hw : b.context.window ≤ Config.maxCount)
    (hb : b.Fits held) (h : sizeWithin limit held = .ok total) :
    (ofHistory b held staged).encode w total = .ok (image held) := by
  have hposition : held.length ≤ maxPayload := by
    have := hb.window
    simp only [Config.maxCount, maxPayload] at *
    omega
  apply encode_eq_ok_iff.mpr
  refine ⟨hposition, (b.holding held).context.encode, rfl, ?_, ?_⟩
  · rw [TokenContext.length_encode, sizeWithin_eq_ok h]
    rfl
  · rw [TokenContext.length_encode]
    rfl

theorem snapshot_ofHistory (w : ω) (limit : Nat) (hw : b.context.window ≤ Config.maxCount)
    (hb : b.Fits held) :
    (ofHistory b held staged).snapshot w limit =
      .ofExcept ((sizeWithin limit held).map fun _ => image held) := by
  rw [Session.snapshot, checkedSize_ofHistory w limit hw hb]
  cases hs : sizeWithin limit held with
  | error e => rfl
  | ok total => exact encode_ofHistory w hw hb hs

theorem snapshotInto_ofHistory (w : ω) (buffer : Bytes) (limit : Nat)
    (hw : b.context.window ≤ Config.maxCount) (hb : b.Fits held) :
    (ofHistory b held staged).snapshotInto w buffer limit =
      (.ofExcept (imageInto buffer limit held).1, (imageInto buffer limit held).2) := by
  rw [snapshotInto, imageInto, checkedSize_ofHistory w limit hw hb]
  cases hs : sizeWithin limit held with
  | error e => rfl
  | ok total =>
    simp only [Outcome.ofExcept_ok, encode_ofHistory w hw hb hs]
    split <;> rfl

/-- Every call takes the session to the machine's next history and answers as the machine does. -/
theorem perform_follows (w : ω) (call : Call) (earlier : List (Call × Outcome SessionError Reply))
    (hw : b.context.window ≤ Config.maxCount) (hb : b.Fits held) :
    Follows b held earlier call ((ofHistory b held (lastBatch earlier)).perform w call) := by
  cases call with
  | step tokens => exact step_follows w held tokens earlier
  | rollback steps => exact rollback_follows w held steps earlier
  | restore bytes limit => exact restore_follows w bytes limit earlier hw hb
  | snapshotSize =>
    refine ⟨rfl, ?_⟩
    simp only [Answers, perform, snapshotSize_ofHistory w hw hb]
    cases size held <;> rfl
  | snapshot limit =>
    refine ⟨rfl, ?_⟩
    simp only [Answers, perform, snapshot_ofHistory w limit hw hb]
    cases sizeWithin limit held <;> rfl
  | snapshotInto buffer limit =>
    refine ⟨rfl, ?_⟩
    simp only [Answers, perform, snapshotInto_ofHistory w buffer limit hw hb]
    cases (imageInto buffer limit held).1 <;> rfl
  | _ => exact ⟨rfl, trivial⟩

theorem fits_next (call : Call) (hb : b.Fits held) :
    b.Fits (next b.vocab b.context.window held call) := by
  cases call with
  | step tokens =>
    simp only [next, History.step]
    split
    · exact hb
    · split
      · exact hb
      · rename_i hv
        split
        · exact hb
        · exact hb.append (by omega) (by simpa using hv)
  | rollback steps => exact hb.take _
  | restore bytes limit =>
    simp only [next]
    cases hr : restored b.vocab b.context.window bytes limit with
    | none => exact hb
    | some tokens =>
      obtain ⟨-, -, -, hwindow, hvocab⟩ := restored_eq_some_iff.mp hr
      exact ⟨hwindow, hvocab⟩
  | _ => exact hb

theorem run_ofHistory (calls : List (ω × Call)) (earlier : List (Call × Outcome SessionError Reply))
    (hw : b.context.window ≤ Config.maxCount) (hb : b.Fits held) :
    b.Fits (History.run b.vocab b.context.window held (calls.map Prod.snd)) ∧
      ((ofHistory b held (lastBatch earlier)).run calls).2 =
        ofHistory b (History.run b.vocab b.context.window held (calls.map Prod.snd))
          (lastBatch (((calls.map Prod.snd).zip
            ((ofHistory b held (lastBatch earlier)).run calls).1).reverse ++ earlier)) := by
  induction calls generalizing held earlier with
  | nil => exact ⟨hb, rfl⟩
  | cons p calls ih =>
    obtain ⟨w, call⟩ := p
    obtain ⟨hnext, -⟩ := perform_follows w call earlier hw hb
    have htail := ih ((call, ((ofHistory b held (lastBatch earlier)).perform w call).1) :: earlier)
      (fits_next call hb)
    rw [← hnext] at htail
    refine ⟨htail.1, ?_⟩
    rw [run_cons, List.map_cons, List.zip_cons_cons, List.reverse_cons, List.append_assoc]
    exact htail.2

/-- A session over a new stub follows the machine, whatever the calls: it holds the machine's
tokens in all four places, is never faulted, has the last batch staged that nothing has undone, and
answers the next call as the machine does. -/
theorem run_follows_history {c : Config} (hc : c.window ≤ Config.maxCount)
    (hb : b = .deterministic c ∨ Stub.fixed c = .ok b) (calls : List (ω × Call)) :
    let r := (fresh b).run calls
    let held := History.run c.vocab c.window [] (calls.map Prod.snd)
    r.2 =
        { backend := b.holding held
          position := held.length
          committed := held
          staged := lastBatch ((calls.map Prod.snd).zip r.1).reverse
          fault := none } ∧
      ∀ (w : ω) (call : Call), Answers c.vocab c.window held call (r.2.perform w call).1 := by
  intro r held
  obtain ⟨hvocab, hcontext⟩ := Stub.new_eq hb
  have hwindow : b.context.window = c.window := congrArg TokenContext.window hcontext
  have hnew : fresh b = ofHistory b [] (lastBatch []) :=
    fresh_eq_ofHistory (congrArg TokenContext.tokens hcontext)
  have hempty : b.Fits [] := ⟨Nat.zero_le _, nofun⟩
  have hrun := run_ofHistory calls [] (by rw [hwindow]; exact hc) hempty
  rw [hvocab, hwindow, ← hnew, List.append_nil] at hrun
  refine ⟨hrun.2, fun w call => ?_⟩
  have hnext := (perform_follows w call ((calls.map Prod.snd).zip r.1).reverse
    (by rw [hwindow]; exact hc) hrun.1).2
  rw [hvocab, hwindow, ← hrun.2] at hnext
  exact hnext

/-- Two steps, one of them refused, and a rollback. -/
theorem run_follows_history_two_steps :
    let c : Config := { model := "m", vocab := 50, window := 4 }
    let calls := [((), Call.step [7, 8]), ((), .step [9, 50]), ((), .rollback 1), ((), .step [9])]
    let r := (fresh (Stub.deterministic c)).run calls
    c.window ≤ Config.maxCount ∧ r.2.committed = [7, 9] ∧ r.2.staged = [9] ∧
      (r.2.perform () (.step [1, 2, 3])).1 = .error (.evaluation (.contextFull 5 4)) := by
  have hc : (4 : Nat) ≤ Config.maxCount := by decide
  obtain ⟨hstate, hanswers⟩ := run_follows_history
    (c := { model := "m", vocab := 50, window := 4 }) hc (.inl rfl)
    [((), Call.step [7, 8]), ((), .step [9, 50]), ((), .rollback 1), ((), .step [9])]
  exact ⟨hc, congrArg Session.committed hstate, congrArg Session.staged hstate,
    hanswers () (.step [1, 2, 3])⟩

end Session

end Decoding

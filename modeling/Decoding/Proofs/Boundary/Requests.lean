import Decoding.Boundary.Call
import Decoding.Proofs.Host.Occupants
import Decoding.Proofs.Snapshot.Export

/-!
What requests do to the host. A call with a handle is refused for its arguments, or it is one call
on the session of the handle: the answer, the caller's buffer and the error slot follow from how
that call ends. So to a host, requests are calls like any others, and some of them are none.
-/

namespace Decoding.Boundary

namespace Call

/-- The buffer as it is before the call. -/
def output : Call → Output
  | .scores buffer _ => .scores (buffer.getD [])
  | .snapshot buffer _ _ => .bytes (buffer.getD [])
  | .tokenize _ buffer _ => .tokens (buffer.getD [])
  | .piece _ buffer _ => .bytes (buffer.getD [])
  | .eval .. | .rollback _ | .snapshotSize | .restore .. | .memory => .none

/-- The call that is made on the session, or why the arguments are refused before the handle is
looked at. -/
def onSession : Call → Except SessionError Session.Call
  | .eval tokens count => do return .step (← readTokens tokens count)
  | .scores none _ => .error (.invalidArgument .scoreBuffer)
  | .scores (some buffer) count =>
    if count.toInt ≤ 0 then .error (.invalidArgument .scoreBuffer)
    else .ok (.peekInto (buffer.take count.toInt.toNat))
  | .rollback steps => do return .rollback (← natural "steps" steps)
  | .snapshotSize => .ok .snapshotSize
  | .snapshot none _ _ => .error (.invalidArgument (.null "out_buffer"))
  | .snapshot (some buffer) capacity limit => do
    let capacity ← natural "out_buffer_size" capacity
    return .snapshotInto (buffer.take capacity) (← natural "max_snapshot_bytes" limit)
  | .restore none _ _ => .error (.invalidArgument (.null "snapshot_data"))
  | .restore (some bytes) size limit => do
    let size ← natural "snapshot_size" size
    return .restore (bytes.take size) (← natural "max_snapshot_bytes" limit)
  | .tokenize none _ _ | .tokenize (some _) none _ => .error (.invalidArgument .nullText)
  | .tokenize (some bytes) (some _) limit => do
    let _ ← natural "max_tokens" limit
    return .tokenize (← readText "text" bytes)
  | .piece _ none _ => .error (.invalidArgument (.null "out_buffer"))
  | .piece token (some _) capacity => do
    let token ← tokenId token
    let _ ← natural "buffer_size" capacity
    return .piece token
  | .memory => .ok .memory

/-- The count to answer with, and the buffer, when the session has replied. Replies that a session
does not give to a call count for nothing. -/
def settle : Call → Session.Reply → Except SessionError Nat × Output
  | .scores buffer count, .scoreBuffer result front =>
    (result, .scores (front ++ (buffer.getD []).drop count.toInt.toNat))
  | .snapshot buffer capacity _, .byteBuffer result front =>
    (result, .bytes (front ++ (buffer.getD []).drop capacity.toInt.toNat))
  | .tokenize _ buffer limit, .tokens ids =>
    if ids.length > limit.toInt.toNat then
      (.error (.bufferTooSmall ids.length limit.toInt.toNat), .tokens (buffer.getD []))
    else
      let (result, buffer) := storeTokens ids (buffer.getD [])
      (result.map fun _ => ids.length, .tokens buffer)
  | .piece _ buffer capacity, .bytes text =>
    if text.length > capacity.toInt.toNat then
      (.error (.bufferTooSmall text.length capacity.toInt.toNat), .bytes (buffer.getD []))
    else (.ok text.length, .bytes (text ++ (buffer.getD []).drop text.length))
  | call, .count n => (.ok n, call.output)
  | call, _ => (.ok 0, call.output)

end Call

/-- Answer with how the call on the session ended. A crash has left something in the buffer. -/
def conclude (b : Boundary ω β) (call : Call) (left : Output) :
    Outcome SessionError Session.Reply → Int × Output × Boundary ω β
  | .ok reply =>
    let (result, output) := call.settle reply
    let (answer, b) := b.answer (.ofExcept result)
    (answer, output, b)
  | .error e => (e.status.code, call.output, b.setError e.message)
  | .crash _ => (Status.internal.code, left, b.contain)

variable {ω β : Type} {w : ω} {b : Boundary ω β} {handle : UInt64} {call : Call}

/-- A handle stands for no session that can be called, or calls reach the session of its id. -/
theorem withHandle_cases (b : Boundary ω β) (handle : UInt64) :
    (∃ e, ∀ (α : Type) (action : Session β → Outcome SessionError α × Session β),
      b.withHandle handle action = (.error e, b)) ∨
    ∃ id o, SessionId.ofRaw? handle = some id ∧ b.host.occupant? id = some o ∧ o.poisoned = false ∧
      ∀ (α : Type) (action : Session β → Outcome SessionError α × Session β),
        b.withHandle handle action = ((action o.session).1,
          { b with host := b.host.seat id { o with
              session := (action o.session).2, poisoned := (action o.session).1.isCrash } }) := by
  cases hid : SessionId.ofRaw? handle with
  | none => exact .inl ⟨.invalidArgument .nullHandle, fun α action => by rw [withHandle, hid]⟩
  | some id =>
    cases ho : b.host.occupant? id with
    | none =>
      refine .inl ⟨.invalidArgument (.unknownSession id), fun α action => ?_⟩
      simp only [withHandle, hid, Host.withSession_of_none ho]
    | some o =>
      cases hp : o.poisoned with
      | true =>
        refine .inl ⟨.poisoned, fun α action => ?_⟩
        simp only [withHandle, hid, Host.withSession_eq ho, Occupant.act_of_poisoned hp,
          Host.seat_self ho]
      | false =>
        refine .inr ⟨id, o, rfl, ho, hp, fun α action => ?_⟩
        simp [withHandle, hid, Host.withSession_eq ho, Occupant.act, hp]

variable [Device β] [Backend ω β]

theorem natural_eq_ok_iff {argument : String} {n : Int32} {m : Nat} :
    natural argument n = .ok m ↔ 0 ≤ n.toInt ∧ m = n.toInt.toNat := by
  unfold natural
  split
  · rename_i hneg
    exact ⟨nofun, fun h => absurd h.1 (by omega)⟩
  · rename_i hneg
    simp only [Except.ok.injEq, eq_comm (a := m)]
    exact ⟨fun h => ⟨by omega, h⟩, And.right⟩

/-- The buffer when the call on the session has crashed. Scores that were written by then are in
it. -/
def Call.left (w : ω) (s : Session β) : Call → Output
  | .scores buffer count =>
    let n := count.toInt.toNat
    .scores ((s.peekInto w ((buffer.getD []).take n)).2 ++ (buffer.getD []).drop n)
  | call => call.output

/-- Make a call on the session of a handle, and answer with how it ended. -/
def reach (w : ω) (b : Boundary ω β) (handle : UInt64) (call : Call) (c : Session.Call) :
    Int × Output × Boundary ω β :=
  let left := (b.withHandle handle fun s => (.ok (call.left w s), s)).1.toOption.getD call.output
  let (outcome, b) := b.withHandle handle fun s => s.perform w c
  b.conclude call left outcome

omit [Device β] [Backend ω β] in
/-- If a reply settles for a count, that count is the answer. -/
theorem conclude_map {α : Type} {count : α → Nat} {reply : α → Session.Reply}
    (hsettle : ∀ a, call.settle (reply a) = (.ok (count a), call.output)) (b : Boundary ω β)
    (outcome : Outcome SessionError α) :
    b.conclude call call.output (outcome.map reply) =
      ((b.answer (outcome.map count)).1, call.output, (b.answer (outcome.map count)).2) := by
  cases outcome with
  | ok a =>
    simp only [Outcome.map_ok, conclude, hsettle]
    rfl
  | error e | crash t => rfl

omit [Device β] [Backend ω β] in
theorem conclude_count (hsettle : ∀ n, call.settle (.count n) = (.ok n, call.output))
    (b : Boundary ω β) (outcome : Outcome SessionError Nat) :
    b.conclude call call.output (outcome.map .count) =
      ((b.answer outcome).1, call.output, (b.answer outcome).2) := by
  have hmap : outcome.map (fun n => n) = outcome := by cases outcome <;> rfl
  rw [conclude_map hsettle, hmap]

omit [Device β] [Backend ω β] in
/-- What has come of filling a buffer is the answer, and the buffer is as it was left. -/
theorem conclude_attempt {left output : Output} {result : Outcome SessionError Nat}
    {reply : Except SessionError Nat → Session.Reply}
    (hsettle : ∀ x, call.settle (reply x) = (x, output))
    (hleft : ∀ text, result = .crash text → left = output) (b : Boundary ω β) :
    b.conclude call left (result.attempt.map reply) =
      ((b.answer result).1, output, (b.answer result).2) := by
  cases result with
  | ok n =>
    simp only [Outcome.attempt, Outcome.map_ok, conclude, hsettle]
    rfl
  | error e =>
    simp only [Outcome.attempt, Outcome.map_ok, conclude, hsettle]
    rfl
  | crash text =>
    rw [hleft text rfl]
    rfl

/-- A call that answers with a count of what the session gave. -/
theorem change_eq {c : Session.Call} {action : Session β → Outcome SessionError Nat × Session β}
    (hstate : ∀ s : Session β, (s.perform w c).2 = (action s).2)
    (hcrash : ∀ s : Session β, (s.perform w c).1.isCrash = (action s).1.isCrash)
    (hconclude : ∀ (s : Session β) (b : Boundary ω β),
      b.conclude call (call.left w s) (s.perform w c).1 =
        ((b.answer (action s).1).1, call.output, (b.answer (action s).1).2)) :
    b.reach w handle call c =
      ((b.change handle action).1, call.output, (b.change handle action).2) := by
  rcases b.withHandle_cases handle with ⟨e, hrefused⟩ | ⟨id, o, -, -, -, hreached⟩
  · simp only [reach, change, hrefused]
    rfl
  · simp only [reach, change, hreached, hstate, hcrash]
    exact hconclude ..

/-- A call that fills a buffer from what it sees of the session. -/
theorem fill_eq {γ : Type} {c : Session.Call} {buffer : List γ} {output : List γ → Output}
    {looked : Session β → Outcome SessionError Nat × List γ}
    (hperform : ∀ s : Session β,
      (s.perform w c).2 = s ∧ (s.perform w c).1.isCrash = (looked s).1.isCrash)
    (hconclude : ∀ (s : Session β) (b : Boundary ω β),
      b.conclude call (call.left w s) (s.perform w c).1 =
        ((b.answer (looked s).1).1, output (looked s).2, (b.answer (looked s).1).2))
    (houtput : call.output = output buffer) :
    b.reach w handle call c =
      ((b.fill handle buffer looked).1, output (b.fill handle buffer looked).2.1,
        (b.fill handle buffer looked).2.2) := by
  rcases b.withHandle_cases handle with ⟨e, hrefused⟩ | ⟨id, o, -, -, -, hreached⟩
  · simp only [reach, fill, look, change, hrefused, conclude, houtput]
    rfl
  · simp only [reach, fill, look, change, hreached, hperform]
    exact hconclude ..

/-- A call is refused for its arguments, or it is one call on the session of its handle. -/
theorem perform_eq (w : ω) (b : Boundary ω β) (handle : UInt64) (call : Call) :
    b.perform w handle call = match call.onSession with
      | .error e => (e.status.code, call.output, b.setError e.message)
      | .ok c => b.reach w handle call c := by
  -- Both sides check the arguments in the same order.
  cases call with
  | eval tokens count =>
    simp only [perform, eval, Call.onSession]
    cases readTokens tokens count with
    | error e => rfl
    | ok tokens =>
      exact Eq.symm (change_eq (fun s => rfl) (fun s => Outcome.isCrash_map ..) fun s b =>
        conclude_count (fun n => rfl) ..)
  | scores buffer count =>
    cases buffer with
    | none => rfl
    | some buffer =>
      simp only [perform, scores, Call.onSession]
      split
      · rfl
      · refine Eq.symm (fill_eq (fun s => ⟨rfl, ?_⟩) (fun s b => ?_) rfl)
        · exact (Outcome.isCrash_map ..).trans (Outcome.isCrash_attempt _)
        · exact conclude_attempt (fun _ => rfl) (fun _ _ => rfl) b
  | rollback steps =>
    simp only [perform, rollback, Call.onSession]
    cases natural "steps" steps with
    | error e => rfl
    | ok steps =>
      exact Eq.symm (change_eq (fun s => rfl) (fun s => Outcome.isCrash_map ..) fun s b =>
        conclude_count (fun n => rfl) ..)
  | snapshotSize =>
    simp only [perform, snapshotSize, look, Call.onSession]
    exact Eq.symm (change_eq (fun s => rfl) (fun s => Outcome.isCrash_map ..) fun s b =>
      conclude_count (fun n => rfl) ..)
  | snapshot buffer capacity limit =>
    cases buffer with
    | none => rfl
    | some buffer =>
      simp only [perform, snapshot, Call.onSession]
      cases hcapacity : natural "out_buffer_size" capacity with
      | error e => rfl
      | ok n =>
        cases natural "max_snapshot_bytes" limit with
        | error e => rfl
        | ok limit =>
          obtain ⟨-, rfl⟩ := natural_eq_ok_iff.mp hcapacity
          refine Eq.symm (fill_eq (fun s => ⟨rfl, ?_⟩) (fun s b => ?_) rfl)
          · exact (Outcome.isCrash_map ..).trans (Outcome.isCrash_attempt _)
          · refine conclude_attempt (fun _ => rfl) (fun text ht => ?_) b
            obtain ⟨hkept, -⟩ := Session.snapshotInto_eq_crash (Prod.ext ht rfl)
            simp only [hkept, List.take_append_drop]
            rfl
  | restore bytes size limit =>
    cases bytes with
    | none => rfl
    | some bytes =>
      simp only [perform, restore, Call.onSession]
      cases natural "snapshot_size" size with
      | error e => rfl
      | ok size =>
        cases natural "max_snapshot_bytes" limit with
        | error e => rfl
        | ok limit =>
          refine Eq.symm (change_eq (fun s => rfl) (fun s => ?_) fun s b => ?_)
          · exact (Outcome.isCrash_map ..).trans (Outcome.isCrash_map ..).symm
          · exact conclude_map (fun _ => rfl) ..
  | tokenize text buffer limit =>
    cases text with
    | none => rfl
    | some bytes =>
      cases buffer with
      | none => rfl
      | some buffer =>
        simp only [perform, tokenize, Call.onSession]
        cases hlimit : natural "max_tokens" limit with
        | error e => rfl
        | ok n =>
          cases readText "text" bytes with
          | error e => rfl
          | ok text =>
            obtain ⟨-, rfl⟩ := natural_eq_ok_iff.mp hlimit
            refine Eq.symm (fill_eq (fun s => ⟨rfl, ?_⟩) (fun s b => ?_) rfl)
            · simp only [Session.perform, Outcome.isCrash_map]
              cases s.tokenize w text with
              | error | crash => rfl
              | ok ids =>
                simp only
                split
                · rfl
                · rw [Outcome.isCrash_map, Outcome.isCrash_ofExcept]
                  rfl
            · simp only [Session.perform]
              cases s.tokenize w text with
              | error | crash => rfl
              | ok ids =>
                simp only [Outcome.map_ok, conclude, Call.settle, Option.getD_some]
                split
                · rfl
                · cases (storeTokens ids buffer).1 <;> rfl
  | piece token buffer capacity =>
    cases buffer with
    | none => rfl
    | some buffer =>
      simp only [perform, piece, Call.onSession]
      cases tokenId token with
      | error e => rfl
      | ok token =>
        cases hcapacity : natural "buffer_size" capacity with
        | error e => rfl
        | ok n =>
          obtain ⟨-, rfl⟩ := natural_eq_ok_iff.mp hcapacity
          refine Eq.symm (fill_eq (fun s => ⟨rfl, ?_⟩) (fun s b => ?_) rfl)
          · simp only [Session.perform, Outcome.isCrash_map]
            cases s.piece w token with
            | error | crash => rfl
            | ok bytes =>
              simp only
              split <;> rfl
          · simp only [Session.perform]
            cases s.piece w token with
            | error | crash => rfl
            | ok bytes =>
              simp only [Outcome.map_ok, conclude, Call.settle]
              split <;> rfl
  | memory =>
    simp only [perform, memory, look, Call.onSession]
    exact Eq.symm (change_eq (fun s => rfl) (fun s => Outcome.isCrash_map ..) fun s b =>
      conclude_count (fun n => rfl) ..)

theorem perform_of_accepted {c : Session.Call} (hc : call.onSession = .ok c) :
    b.perform w handle call = b.reach w handle call c := by
  rw [perform_eq, hc]

section Host

omit [Device β] [Backend ω β] in
@[simp] theorem host_answer (b : Boundary ω β) (outcome : Outcome SessionError Nat) :
    (b.answer outcome).2.host = b.host := by
  cases outcome with
  | ok n =>
    simp only [answer]
    split <;> rfl
  | error | crash => rfl

omit [Device β] [Backend ω β] in
/-- To answer is not to touch the host. -/
theorem host_conclude (b : Boundary ω β) (call : Call) (left : Output)
    (outcome : Outcome SessionError Session.Reply) :
    (b.conclude call left outcome).2.2.host = b.host := by
  cases outcome with
  | ok reply => exact host_answer ..
  | error | crash => rfl

omit [Backend ω β] in
/-- To free a handle is to destroy its session. -/
theorem host_free (w : ω) (b : Boundary ω β) {id : SessionId}
    (hid : SessionId.ofRaw? handle = some id) :
    (b.free w handle).1.host = (b.host.destroy w id).2.1 ∧
      (b.free w handle).2 = (b.host.destroy w id).2.2 := by
  simp only [free, hid]
  cases (b.host.destroy w id).1 with
  | ok | crash => exact ⟨rfl, rfl⟩
  | error e => cases e

/-- The call on the host that a request makes, if it makes one. -/
def Request.onHost? (w : ω) : Request ω β → Option (Host.Call ω β)
  | .init none => none
  | .init (some bytes) => (readText "model reference" bytes).toOption.map .create
  | .free handle => (SessionId.ofRaw? handle).map .destroy
  | .call handle call =>
    match SessionId.ofRaw? handle, call.onSession with
    | some id, .ok c => some (.act id fun s => s.perform w c)
    | _, _ => none
  | .takeError => none
  | .register family => some (.register family)

/-- The host goes through the calls that the requests make, and through no others. -/
theorem host_serve (w : ω) (b : Boundary ω β) (request : Request ω β) :
    (b.serve w request).2.1.host =
      match request.onHost? w with
      | none => b.host
      | some call => (b.host.perform w call).2.1 := by
  cases request with
  | init reference =>
    cases reference with
    | none => rfl
    | some bytes =>
      simp only [serve, init, Request.onHost?]
      cases readText "model reference" bytes with
      | error e => rfl
      | ok text =>
        simp only [Except.toOption, Option.map_some, Host.perform]
        cases (b.host.create w text).1 <;> rfl
  | free handle =>
    simp only [serve, Request.onHost?]
    cases hid : SessionId.ofRaw? handle with
    | none => simp only [free, hid, Option.map_none]
    | some id => exact (host_free w b hid).1
  | call handle call =>
    simp only [serve, perform_eq, Request.onHost?]
    cases call.onSession with
    | error e => cases SessionId.ofRaw? handle <;> rfl
    | ok c =>
      simp only [reach, host_conclude, withHandle]
      cases SessionId.ofRaw? handle <;> rfl
  | takeError => rfl
  | register family =>
    simp only [serve, register, Request.onHost?, Host.perform]
    cases b.host.register family <;> rfl

/-- The calls on the host that requests make. -/
def hostCalls (requests : List (ω × Request ω β)) : List (ω × Host.Call ω β) :=
  requests.filterMap fun made => (made.2.onHost? made.1).map (made.1, ·)

theorem host_run (requests : List (ω × Request ω β)) (b : Boundary ω β) :
    (b.run requests).2.1.host = (b.host.run (hostCalls requests)).2.1 := by
  induction requests generalizing b with
  | nil => rfl
  | cons made rest ih =>
    obtain ⟨w, request⟩ := made
    have hserve := host_serve w b request
    have hnext := ih (b.serve w request).2.1
    rw [hserve] at hnext
    simp only [hostCalls, run] at hnext ⊢
    cases hcall : request.onHost? w with
    | none =>
      rw [hcall] at hnext
      simpa [hcall] using hnext
    | some call =>
      rw [hcall] at hnext
      simpa [hcall, Host.run] using hnext

end Host

end Decoding.Boundary

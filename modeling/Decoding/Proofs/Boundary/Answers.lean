import Decoding.Proofs.Boundary.Requests
import Decoding.Proofs.Session.Counts
import Decoding.Simulation.Families

/-!
What a call answers, and what it leaves in the error slot. How a call ends is decided by its
arguments, by its handle and by the call on the session, in this order, and the answer and the slot
tell it: a count leaves the slot as it is, and an error has its text there, whole.
-/

namespace Decoding.Boundary

section Texts

theorem intercalate_modifyHead (sep : List Char) (c : Char) {parts : List (List Char)}
    (h : parts ≠ []) : sep.intercalate (parts.modifyHead (c :: ·)) = c :: sep.intercalate parts := by
  match parts, h with
  | [_], _ => simp
  | _ :: _ :: _, _ => simp [List.intercalate_cons_cons]

/-- What stands between the NULs of a text is joined by a backslash and a zero. -/
theorem toList_escapeNul (text : String) :
    (escapeNul text).toList = ['\\', '0'].intercalate (text.toList.splitOn '\x00') := by
  rw [escapeNul, String.toList_ofList]
  induction text.toList with
  | nil => rfl
  | cons c cs ih =>
    have hne : cs.splitOn '\x00' ≠ [] := List.splitOn_ne_nil _ _
    have hcons : (c :: cs).splitOn '\x00' = if c = '\x00' then [] :: cs.splitOn '\x00'
        else (cs.splitOn '\x00').modifyHead (c :: ·) := by
      simp only [List.splitOn, List.splitOnP_cons_eq_if_modifyHead, beq_iff_eq]
    rw [List.flatMap_cons, ih, hcons]
    split
    · obtain ⟨part, parts, hparts⟩ := List.exists_cons_of_ne_nil hne
      rw [hparts, List.intercalate_cons_cons]
      rfl
    · exact (intercalate_modifyHead _ c hne).symm

theorem not_mem_escapeNul (text : String) : '\x00' ∉ (escapeNul text).toList := by
  rw [escapeNul, String.toList_ofList, List.mem_flatMap]
  rintro ⟨c, -, hmem⟩
  split at hmem
  · revert hmem
    decide
  · rename_i hc
    exact hc (List.mem_singleton.mp hmem).symm

end Texts

variable {ω β : Type} {w : ω} {b : Boundary ω β} {handle : UInt64} {call : Call} {c : Session.Call}
  {n : Nat} {e : SessionError} {text : String}

section Endings

/-- A count that is too large for an integer is an error. -/
def fitted : Outcome SessionError Nat → Outcome SessionError Nat
  | .ok n => if n ≤ Config.maxCount then .ok n else .error (.limitExceeded n Config.maxCount)
  | outcome => outcome

/-- The answer that tells how a call has ended. -/
def answerTo : Outcome SessionError Nat → Int
  | .ok n => n
  | .error e => e.status.code
  | .crash _ => Status.internal.code

/-- The error slot after a call that has ended so. -/
def slotAfter (slot : Option String) : Outcome SessionError Nat → Option String
  | .ok _ => slot
  | .error e => some (escapeNul e.message)
  | .crash _ => some (escapeNul crashText)

theorem fitted_of_le (h : n ≤ Config.maxCount) : fitted (.ok n) = .ok n := if_pos h

theorem le_of_fitted {outcome : Outcome SessionError Nat} (h : fitted outcome = .ok n) :
    n ≤ Config.maxCount := by
  cases outcome with
  | ok m =>
    simp only [fitted] at h
    split at h
    · cases h
      assumption
    · cases h
  | error | crash => cases h

theorem answer_eq (b : Boundary ω β) (outcome : Outcome SessionError Nat) :
    b.answer outcome = (answerTo (fitted outcome),
      { b with lastError := slotAfter b.lastError (fitted outcome) }) := by
  cases outcome with
  | ok n =>
    simp only [answer, fitted]
    split <;> rfl
  | error e | crash t => rfl

/-- How a call ends when the call on the session has ended: what the session replies must fit the
caller's buffer and an integer. -/
def Call.ended (call : Call) : Outcome SessionError Session.Reply → Outcome SessionError Nat
  | .ok reply => fitted (.ofExcept (call.settle reply).1)
  | .error e => .error e
  | .crash text => .crash text

/-- The caller's buffer when the call on the session has ended. -/
def Call.filled (call : Call) (left : Output) : Outcome SessionError Session.Reply → Output
  | .ok reply => (call.settle reply).2
  | .error _ => call.output
  | .crash _ => left

theorem conclude_eq (b : Boundary ω β) (call : Call) (left : Output)
    (outcome : Outcome SessionError Session.Reply) :
    b.conclude call left outcome = (answerTo (call.ended outcome), call.filled left outcome,
      { b with lastError := slotAfter b.lastError (call.ended outcome) }) := by
  cases outcome with
  | ok reply =>
    simp only [conclude, answer_eq]
    rfl
  | error e | crash t => rfl

variable [Device β] [Backend ω β]

/-- How a call ends. Its arguments are checked first, then the handle, and then the call is made on
the session, if it can be. -/
def ending (w : ω) (b : Boundary ω β) (handle : UInt64) (call : Call) : Outcome SessionError Nat :=
  match call.onSession with
  | .error e => .error e
  | .ok c =>
    match SessionId.ofRaw? handle with
    | none => .error (.invalidArgument .nullHandle)
    | some id => call.ended (b.host.withSession id fun s => s.perform w c).1

/-- The answer and the slot tell how a call has ended. -/
theorem perform_ending (w : ω) (b : Boundary ω β) (handle : UInt64) (call : Call) :
    (b.perform w handle call).1 = answerTo (b.ending w handle call) ∧
      (b.perform w handle call).2.2.lastError = slotAfter b.lastError (b.ending w handle call) := by
  rw [perform_eq, ending]
  cases call.onSession with
  | error e => exact ⟨rfl, rfl⟩
  | ok c =>
    simp only [reach, withHandle, conclude_eq]
    cases SessionId.ofRaw? handle <;> exact ⟨rfl, rfl⟩

theorem le_of_ending (h : b.ending w handle call = .ok n) : n ≤ Config.maxCount := by
  unfold ending Call.ended at h
  split at h
  · cases h
  · split at h
    · cases h
    · split at h
      · exact le_of_fitted h
      · cases h
      · cases h

end Endings

section Arguments

/-- A check on arguments, which are invalid if it refuses them. -/
def Checks {α : Type} (x : Except SessionError α) : Prop :=
  ∀ e, x = .error e → e.status = .invalidArgument

theorem Checks.ok {α : Type} (a : α) : Checks (.ok a) := nofun

theorem Checks.error {α : Type} {misuse : Misuse} :
    Checks (.error (.invalidArgument misuse) : Except SessionError α) := by
  rintro _ ⟨⟩
  rfl

theorem Checks.bind {α γ : Type} {x : Except SessionError α} {f : α → Except SessionError γ}
    (hx : Checks x) (hf : ∀ a, Checks (f a)) : Checks (x >>= f) := by
  cases x with
  | error e =>
    rintro _ ⟨⟩
    exact hx e rfl
  | ok a => exact hf a

theorem Checks.mapM {α γ : Type} {f : α → Except SessionError γ} (hf : ∀ a, Checks (f a))
    (list : List α) : Checks (list.mapM f) := by
  induction list with
  | nil => exact .ok []
  | cons a rest ih =>
    rw [List.mapM_cons]
    exact (hf a).bind fun _ => ih.bind fun _ => .ok _

theorem checks_natural (argument : String) (n : Int32) : Checks (natural argument n) := by
  unfold natural
  split
  · exact .error
  · exact .ok _

theorem checks_tokenId (n : Int32) : Checks (tokenId n) := by
  unfold tokenId
  split
  · exact .error
  · exact .ok _

theorem checks_readText (argument : String) (bytes : Bytes) : Checks (readText argument bytes) := by
  unfold readText
  cases Text.Utf8.decode (bytes.takeWhile (· ≠ 0)) with
  | error fault => exact .error
  | ok text => exact .ok text

theorem checks_readTokens (tokens : Option (List Int32)) (count : Int32) :
    Checks (readTokens tokens count) := by
  cases tokens with
  | none => exact .error
  | some tokens => exact (checks_natural _ _).bind fun n => .mapM checks_tokenId _

/-- Arguments that are refused are refused as invalid. -/
theorem checks_onSession (call : Call) : Checks call.onSession := by
  cases call with
  | eval tokens count => exact (checks_readTokens _ _).bind fun _ => .ok _
  | scores buffer count =>
    cases buffer with
    | none => exact .error
    | some buffer =>
      simp only [Call.onSession]
      split
      · exact .error
      · exact .ok _
  | rollback steps => exact (checks_natural _ _).bind fun _ => .ok _
  | snapshot buffer capacity limit =>
    cases buffer with
    | none => exact .error
    | some buffer =>
      exact (checks_natural _ _).bind fun _ => (checks_natural _ _).bind fun _ => .ok _
  | restore bytes size limit =>
    cases bytes with
    | none => exact .error
    | some bytes =>
      exact (checks_natural _ _).bind fun _ => (checks_natural _ _).bind fun _ => .ok _
  | tokenize text buffer limit =>
    cases text with
    | none => exact .error
    | some bytes =>
      cases buffer with
      | none => exact .error
      | some buffer =>
        exact (checks_natural _ _).bind fun _ => (checks_readText _ _).bind fun _ => .ok _
  | piece token buffer capacity =>
    cases buffer with
    | none => exact .error
    | some buffer =>
      exact (checks_tokenId _).bind fun _ => (checks_natural _ _).bind fun _ => .ok _
  | snapshotSize => exact .ok _
  | memory => exact .ok _

end Arguments

section Counts

variable [Device β] [Backend ω β] {s : Session β} {reply : Session.Reply}

theorem toNat_le_maxCount (n : Int32) : n.toInt.toNat ≤ Config.maxCount := by
  have := n.toInt_lt
  unfold Config.maxCount
  omega

theorem natural_le {argument : String} {m : Int32} (h : natural argument m = .ok n) :
    n ≤ Config.maxCount := by
  obtain ⟨-, rfl⟩ := natural_eq_ok_iff.mp h
  exact toNat_le_maxCount m

theorem length_mapM {α γ : Type} {f : α → Except SessionError γ} {list : List α} {out : List γ}
    (h : list.mapM f = .ok out) : out.length = list.length := by
  induction list generalizing out with
  | nil =>
    cases h
    rfl
  | cons a rest ih =>
    simp only [List.mapM_cons, Except.bind_eq_ok_iff] at h
    obtain ⟨c, -, cs, hrest, hout⟩ := h
    cases hout
    rw [List.length_cons, ih hrest, List.length_cons]

theorem length_readTokens {tokens : Option (List Int32)} {count : Int32} {ids : List UInt32}
    (h : readTokens tokens count = .ok ids) : ids.length ≤ Config.maxCount := by
  cases tokens with
  | none => cases h
  | some tokens =>
    obtain ⟨n, hn, hids⟩ := Except.bind_eq_ok_iff.mp h
    rw [length_mapM hids, List.length_take]
    have := natural_le hn
    omega

/-- What a session counts is the answer, and it fits an integer if it is not the memory of a
device, which the caller does not bound. -/
theorem settle_of_count (hc : call.onSession = .ok c) (hreply : (s.perform w c).1 = .ok reply)
    (hn : reply.count? = some n) :
    (call.settle reply).1 = .ok n ∧ (c ≠ .memory → n ≤ Config.maxCount) := by
  cases call with
  | eval tokens count =>
    obtain ⟨ids, hids, hc⟩ := Except.bind_eq_ok_iff.mp hc
    cases hc
    obtain ⟨m, hm, rfl⟩ := Outcome.map_eq_ok_iff.mp hreply
    cases hn
    refine ⟨rfl, fun _ => ?_⟩
    rw [Session.step_count hm]
    exact length_readTokens hids
  | scores buffer count =>
    cases buffer with
    | none => cases hc
    | some buffer =>
      simp only [Call.onSession] at hc
      split at hc
      · cases hc
      · cases hc
        obtain ⟨result, hresult, rfl⟩ := Outcome.map_eq_ok_iff.mp hreply
        obtain rfl := Session.Reply.count?_scoreBuffer.mp hn
        refine ⟨rfl, fun _ => ?_⟩
        rw [Session.peekInto_count (Outcome.attempt_eq_ok_iff.mp hresult), List.length_take]
        exact Nat.le_trans (Nat.min_le_left ..) (toNat_le_maxCount count)
  | rollback steps =>
    obtain ⟨k, hk, hc⟩ := Except.bind_eq_ok_iff.mp hc
    cases hc
    obtain ⟨m, hm, rfl⟩ := Outcome.map_eq_ok_iff.mp hreply
    cases hn
    refine ⟨rfl, fun _ => ?_⟩
    rw [Session.rollback_count hm]
    exact Nat.le_trans (Nat.min_le_left ..) (natural_le hk)
  | snapshot buffer capacity limit =>
    cases buffer with
    | none => cases hc
    | some buffer =>
      obtain ⟨capacity', -, hc⟩ := Except.bind_eq_ok_iff.mp hc
      obtain ⟨limit', -, hc⟩ := Except.bind_eq_ok_iff.mp hc
      cases hc
      obtain ⟨result, hresult, rfl⟩ := Outcome.map_eq_ok_iff.mp hreply
      obtain rfl := Session.Reply.count?_byteBuffer.mp hn
      exact ⟨rfl, fun _ => Session.snapshotInto_count (Outcome.attempt_eq_ok_iff.mp hresult)⟩
  | restore bytes size limit =>
    cases bytes with
    | none => cases hc
    | some bytes =>
      obtain ⟨size', -, hc⟩ := Except.bind_eq_ok_iff.mp hc
      obtain ⟨limit', -, hc⟩ := Except.bind_eq_ok_iff.mp hc
      cases hc
      obtain ⟨-, -, rfl⟩ := Outcome.map_eq_ok_iff.mp hreply
      cases hn
      exact ⟨rfl, fun _ => Nat.zero_le _⟩
  | tokenize text buffer limit =>
    cases text with
    | none => cases hc
    | some bytes =>
      cases buffer with
      | none => cases hc
      | some buffer =>
        obtain ⟨_, -, hc⟩ := Except.bind_eq_ok_iff.mp hc
        obtain ⟨text, -, hc⟩ := Except.bind_eq_ok_iff.mp hc
        cases hc
        -- Tokens are no count.
        obtain ⟨ids, -, rfl⟩ := Outcome.map_eq_ok_iff.mp hreply
        cases hn
  | piece token buffer capacity =>
    cases buffer with
    | none => cases hc
    | some buffer =>
      obtain ⟨id, -, hc⟩ := Except.bind_eq_ok_iff.mp hc
      obtain ⟨_, -, hc⟩ := Except.bind_eq_ok_iff.mp hc
      cases hc
      obtain ⟨bytes, -, rfl⟩ := Outcome.map_eq_ok_iff.mp hreply
      cases hn
  | snapshotSize =>
    cases hc
    obtain ⟨m, hm, rfl⟩ := Outcome.map_eq_ok_iff.mp hreply
    cases hn
    exact ⟨rfl, fun _ => (Session.snapshotSize_eq_ok_iff.mp hm).2⟩
  | memory =>
    cases hc
    obtain ⟨m, -, rfl⟩ := Outcome.map_eq_ok_iff.mp hreply
    cases hn
    exact ⟨rfl, fun h => absurd rfl h⟩

/-- A call whose session replies with a count answers with it, and leaves the slot as it is. -/
theorem perform_of_count {id : SessionId} {host : Host ω β}
    (hid : SessionId.ofRaw? handle = some id) (hc : call.onSession = .ok c)
    (hreply : b.host.withSession id (fun s => s.perform w c) = (.ok reply, host))
    (hn : reply.count? = some n) (hmemory : c = .memory → n ≤ Config.maxCount) :
    b.perform w handle call = ((n : Int), (call.settle reply).2, { b with host }) := by
  have hmade : ∃ s : Session β, (s.perform w c).1 = .ok reply := by
    cases ho : b.host.occupant? id with
    | none =>
      rw [Host.withSession_of_none ho] at hreply
      cases hreply
    | some o =>
      have houtcome := Host.withSession_of_some ho fun s => s.perform w c
      rw [hreply] at houtcome
      split at houtcome
      · cases houtcome
      · exact ⟨o.session, houtcome.symm⟩
  obtain ⟨s, hs⟩ := hmade
  obtain ⟨hsettle, hfits⟩ := settle_of_count hc hs hn
  have hle : n ≤ Config.maxCount := (Classical.em (c = .memory)).elim hmemory hfits
  have hended : call.ended (.ok reply) = .ok n := by
    rw [Call.ended, hsettle]
    exact fitted_of_le hle
  rw [perform_of_accepted hc]
  simp only [reach, withHandle, hid, hreply, conclude_eq, hended]
  rfl

end Counts

section Handles

variable [Device β]

/-- How the creation of a session ends. -/
def opening (w : ω) (b : Boundary ω β) : Option Bytes → Outcome SessionError SessionId
  | none => .error (.invalidArgument (.null "model reference"))
  | some bytes =>
    match readText "model reference" bytes with
    | .error e => .error e
    | .ok reference => (b.host.create w reference).1

/-- How the end of a session ends, and whether there was one. -/
def closing (w : ω) (b : Boundary ω β) (handle : UInt64) : Outcome Empty Bool :=
  match SessionId.ofRaw? handle with
  | none => .ok false
  | some id => (b.host.destroy w id).1

theorem init_opening (w : ω) (b : Boundary ω β) (reference : Option Bytes) :
    (b.init w reference).1 = (match b.opening w reference with
      | .ok id => id.toRaw
      | .error _ | .crash _ => 0) ∧
    (b.init w reference).2.1.lastError =
      slotAfter b.lastError ((b.opening w reference).map fun _ => 0) := by
  cases reference with
  | none => exact ⟨rfl, rfl⟩
  | some bytes =>
    simp only [init, opening]
    cases readText "model reference" bytes with
    | error e => exact ⟨rfl, rfl⟩
    | ok reference =>
      simp only
      cases (b.host.create w reference).1 <;> exact ⟨rfl, rfl⟩

/-- A session is opened as the host creates it. -/
theorem created_of_opening {reference : Option Bytes} {id : SessionId}
    (h : b.opening w reference = .ok id) : ∃ text, (b.host.create w text).1 = .ok id := by
  unfold opening at h
  split at h
  · cases h
  · split at h
    · cases h
    · exact ⟨_, h⟩

theorem free_closing (w : ω) (b : Boundary ω β) (handle : UInt64) :
    (b.free w handle).1.lastError = match b.closing w handle with
      | .ok _ => b.lastError
      | .crash _ => some (escapeNul crashText) := by
  simp only [free, closing]
  cases SessionId.ofRaw? handle with
  | none => rfl
  | some id =>
    simp only
    cases (b.host.destroy w id).1 with
    | ok | crash => rfl
    | error e => cases e

end Handles

section Slot

/-- The text in a slot has no NUL, so a string that ends at its first one holds all of it. -/
def Clean (slot : Option String) : Prop := ∀ text, slot = some text → '\x00' ∉ text.toList

theorem clean_escapeNul (text : String) : Clean (some (escapeNul text)) := by
  rintro _ ⟨⟩
  exact not_mem_escapeNul text

theorem clean_slotAfter {slot : Option String} (h : Clean slot)
    (outcome : Outcome SessionError Nat) : Clean (slotAfter slot outcome) := by
  cases outcome with
  | ok n => exact h
  | error | crash => exact clean_escapeNul _

variable [Device β] [Backend ω β]

theorem clean_serve (h : Clean b.lastError) (w : ω) (request : Request ω β) :
    Clean (b.serve w request).2.1.lastError := by
  cases request with
  | init reference =>
    change Clean (b.init w reference).2.1.lastError
    rw [(init_opening w b reference).2]
    exact clean_slotAfter h _
  | free handle =>
    change Clean (b.free w handle).1.lastError
    rw [free_closing]
    split
    · exact h
    · exact clean_escapeNul _
  | call handle call =>
    change Clean (b.perform w handle call).2.2.lastError
    rw [(perform_ending w b handle call).2]
    exact clean_slotAfter h _
  | takeError => exact nofun
  | register family =>
    simp only [serve, register]
    cases b.host.register family <;> exact h

theorem clean_run (h : Clean b.lastError) (requests : List (ω × Request ω β)) :
    Clean (b.run requests).2.1.lastError := by
  induction requests generalizing b with
  | nil => exact h
  | cons made rest ih => exact ih (clean_serve h made.1 made.2)

end Slot

/-- Let any requests be made of a new boundary. A call answers with the count that it ends with and
leaves the error slot as it is, or with the negative code of the error that it ends with, whose text
is in the slot then, or with the code of an internal error after a crash. If a call on a session
succeeds, the call with its handle answers with the count, and does what the call on the session
did; no count is too large for an integer but that of a device's memory. Arguments that are refused
are invalid, and leave the sessions and the buffer as they are. A handle is zero exactly if there is
an error in the slot for it, and to free a handle is an error only if it crashes. Texts are in the
slot whole, with a backslash and a zero for each NUL. -/
theorem answers_exact [Device β] [Backend ω β] {h₀ : Host ω β} (hnew : h₀.New)
    (requests : List (ω × Request ω β)) :
    let b := (Boundary.run { host := h₀ } requests).2.1
    (∀ (w : ω) (handle : UInt64) (call : Call),
      let r := b.perform w handle call
      (∀ n, b.ending w handle call = .ok n →
        r.1 = n ∧ n ≤ Config.maxCount ∧ r.2.2.lastError = b.lastError) ∧
      (∀ e, b.ending w handle call = .error e →
        r.1 = e.status.code ∧ r.1 < 0 ∧ r.2.2.lastError = some (escapeNul e.message)) ∧
      ∀ text, b.ending w handle call = .crash text →
        r.1 = -9 ∧ r.2.2.lastError = some "internal panic") ∧
    (∀ (w : ω) (handle : UInt64) (call : Call) (c : Session.Call) (id : SessionId)
      (reply : Session.Reply) (host : Host ω β) (n : Nat),
      call.onSession = .ok c → SessionId.ofRaw? handle = some id →
      b.host.withSession id (fun s => s.perform w c) = (.ok reply, host) →
      reply.count? = some n → (c = .memory → n ≤ Config.maxCount) →
        b.perform w handle call = ((n : Int), (call.settle reply).2, { b with host })) ∧
    (∀ (w : ω) (handle : UInt64) (call : Call) (e : SessionError), call.onSession = .error e →
      b.perform w handle call = (-1, call.output, b.setError e.message)) ∧
    (∀ (w : ω) (reference : Option Bytes),
      let r := b.init w reference
      (∀ id, b.opening w reference = .ok id →
        r.1 = id.toRaw ∧ r.1 ≠ 0 ∧ r.2.1.lastError = b.lastError) ∧
      (∀ e, b.opening w reference = .error e →
        r.1 = 0 ∧ r.2.1.lastError = some (escapeNul e.message)) ∧
      ∀ text, b.opening w reference = .crash text →
        r.1 = 0 ∧ r.2.1.lastError = some "internal panic") ∧
    (∀ (w : ω) (handle : UInt64),
      (∀ existed, b.closing w handle = .ok existed →
        (b.free w handle).1.lastError = b.lastError) ∧
      ∀ text, b.closing w handle = .crash text →
        (b.free w handle).1.lastError = some "internal panic") ∧
    (∀ text, b.lastError = some text → '\x00' ∉ text.toList) ∧
    ∀ text : String,
      (escapeNul text).toList = ['\\', '0'].intercalate (text.toList.splitOn '\x00') := by
  intro b
  have hhost : b.host = (h₀.run (hostCalls requests)).2.1 := host_run requests _
  have hb : b.host.Balanced [] := by
    rw [hhost]
    exact Host.run_keeps Host.Balanced.perform _ hnew.balanced
  have ht : b.host.Traced (h₀.history (hostCalls requests)) := by
    rw [hhost]
    exact Host.Traced.run _ hnew.traced hnew.balanced
  have hcrash : escapeNul crashText = "internal panic" := by cbv
  refine ⟨fun w handle call => ?_, fun w handle call c id reply host n hc hid hreply hn hmemory => ?_,
    fun w handle call e he => ?_, fun w reference => ?_, fun w handle => ?_, ?_, toList_escapeNul⟩
  · obtain ⟨hanswer, hslot⟩ := perform_ending w b handle call
    refine ⟨fun n hn => ?_, fun e he => ?_, fun text ht => ?_⟩
    · rw [hn] at hanswer hslot
      exact ⟨hanswer, le_of_ending hn, hslot⟩
    · rw [he] at hanswer hslot
      exact ⟨hanswer, hanswer ▸ e.code_status_neg, hslot⟩
    · rw [ht] at hanswer hslot
      exact ⟨hanswer, hslot.trans (congrArg some hcrash)⟩
  · exact perform_of_count hid hc hreply hn hmemory
  · rw [perform_eq, he]
    simp only [checks_onSession call e he]
    rfl
  · obtain ⟨hraw, hslot⟩ := init_opening w b reference
    refine ⟨fun id hid => ?_, fun e he => ?_, fun text ht => ?_⟩
    · rw [hid] at hraw hslot
      refine ⟨hraw, ?_, hslot⟩
      rw [hraw]
      obtain ⟨text, hcreate⟩ := created_of_opening hid
      exact SessionId.toRaw_ne_zero (ht.generation_created hb hcreate)
    · rw [he] at hraw hslot
      exact ⟨hraw, hslot⟩
    · rw [ht] at hraw hslot
      exact ⟨hraw, hslot.trans (congrArg some hcrash)⟩
  · have hslot := free_closing w b handle
    refine ⟨fun existed he => ?_, fun text ht => ?_⟩
    · rw [he] at hslot
      exact hslot
    · rw [ht] at hslot
      exact hslot.trans (congrArg some hcrash)
  · exact clean_run (b := { host := h₀ }) nofun requests

section Witness

open Simulation

/-- A session with a stub. -/
def opened : List (World × Request World Any) :=
  [({}, .init (some (Text.Utf8.encode "deterministic:m?vocab=9")))]

theorem answers_exact_opened :
    let b := (Boundary.run { host := Simulation.host } opened).2.1
    let stepped := b.perform {} 4294967296 (.eval (some [5, 7]) 2)
    let refused := b.perform {} 4294967296 (.rollback (-1))
    stepped.1 = 2 ∧ stepped.2.2.lastError = none ∧
      refused = (-1, .none, b.setError "invalid argument: steps must not be negative") := by
  intro b stepped refused
  obtain ⟨hended, -, hrefused, -⟩ := answers_exact (.standard ofStub) opened
  have hstepped : b.ending {} 4294967296 (.eval (some [5, 7]) 2) = .ok 2 := by rfl
  have hnone : b.lastError = none := by rfl
  have hmessage : (SessionError.invalidArgument (.negative "steps")).message =
      "invalid argument: steps must not be negative" := by decide
  obtain ⟨hanswer, -, hslot⟩ := (hended {} 4294967296 (.eval (some [5, 7]) 2)).1 2 hstepped
  refine ⟨hanswer, hslot.trans hnone, ?_⟩
  rw [← hmessage]
  exact hrefused {} 4294967296 (.rollback (-1)) _ rfl

end Witness

end Decoding.Boundary

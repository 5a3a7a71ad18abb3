import Decoding.Proofs.Boundary.Answers
import Decoding.Proofs.Boundary.Poisoning
import Decoding.Proofs.Host.Opening
import Decoding.Proofs.Session.Bounds

/-!
Bounds from end to end. A reference is checked when it is parsed, the window bounds what a backend
holds, and the position follows the history, so nothing that is counted outgrows the integers that it
is passed in: not the words of a snapshot, and not the answers of the boundary.
-/

namespace Decoding

open Snapshot

namespace Session

variable {ω β : Type} [Device β] [Backend ω β] {w : ω} {s : Session β} {size limit : Nat}

theorem step_ne_limitExceeded (tokens : List UInt32) :
    (s.step w tokens).1 ≠ .error (.limitExceeded size limit) := by
  have hs := s.step_stepped w tokens
  generalize s.step w tokens = r at hs ⊢
  cases hs <;> exact nofun

theorem rollback_ne_limitExceeded (steps : Nat) :
    (s.rollback w steps).1 ≠ .error (.limitExceeded size limit) := by
  have hr := s.rollback_rolledBack w steps
  generalize s.rollback w steps = r at hr ⊢
  cases hr <;> exact nofun

/-- The size of a snapshot is refused only for being too large. -/
theorem exists_of_snapshotSize_error {reported : UInt64} {e : SessionError}
    (hsize : Backend.stateSize w s.backend = .ok reported) (h : s.snapshotSize w = .error e) :
    maxSize < headerSize + reported.toNat ∧ ∃ size limit, e = .limitExceeded size limit := by
  have hmax : maxSize < maxPayload := by decide
  simp only [snapshotSize, hsize, Outcome.lift_ok, Outcome.ok_bind] at h
  split at h
  · cases h
    exact ⟨by omega, _, _, rfl⟩
  · split at h
    · cases h
      exact ⟨by assumption, _, _, rfl⟩
    · cases h

end Session

namespace Family

variable {ω β : Type} [Device β] [Backend ω β] {family : Family ω β} {w : ω} {c : Config} {b : β}

/-- What a family opens keeps to the window that it was opened with, which has been checked. -/
theorem exists_windowed_of_load (hf : family.OfStubs ∨ family.OfEngines)
    (h : (family.load w c).1 = .ok b) : c.Valid ∧ ∃ P, Backend.Windowed ω c.window P ∧ P b := by
  rcases hf with hf | hf
  · obtain ⟨hc, embed, stub, hembed, hstub, rfl⟩ := hf.exists_of_load h
    refine ⟨hc, _, (Stub.windowed c.window).map hembed, stub, rfl, ?_⟩
    rw [(Stub.new_eq hstub).2]
    exact TokenContext.within_empty c.window
  · obtain ⟨hc, ε, _, embed, engine, hembed, rfl⟩ := hf.exists_of_load h
    exact ⟨hc, _, (EngineBackend.windowed c.window).map hembed, _, rfl,
      TokenContext.within_empty c.window⟩

/-- A stub reports four bytes for its count and four for each token, whatever it has been through. -/
theorem OfStubs.exists_stateSize (hf : family.OfStubs) (h : (family.load w c).1 = .ok b)
    (calls : List (ω × Session.Call)) (w' : ω) :
    let s := ((Session.fresh b).run calls).2
    ∃ size : UInt64, Backend.stateSize w' s.backend = .ok size ∧
      size.toNat = 4 + 4 * s.position := by
  obtain ⟨hc, embed, stub, hembed, hstub, rfl⟩ := hf.exists_of_load h
  have hmapped : ((Session.fresh (embed stub)).run calls).2 =
      ((Session.fresh stub).run calls).2.map embed :=
    congrArg Prod.snd (Session.run_map hembed (Session.fresh stub) calls)
  obtain ⟨hstate, -⟩ := Session.run_follows_history hc.window.2 hstub calls
  have hwithin : stub.context.Within c.window := by
    rw [(Stub.new_eq hstub).2]
    exact TokenContext.within_empty c.window
  have hfresh : (Session.fresh stub).Bounded c.window fun b => b.context.Within c.window :=
    Session.bounded_fresh hwithin
  have hposition := (hfresh.run (Stub.windowed c.window) calls).position
  have hmax : c.window ≤ Config.maxCount := hc.window.2
  rw [hmapped]
  simp only [Session.map, hembed.stateSize]
  rw [hstate] at hposition ⊢
  refine ⟨.ofNat (4 + 4 * (History.run c.vocab c.window [] (calls.map Prod.snd)).length), rfl, ?_⟩
  simp only [UInt64.toNat_ofNat', Config.maxCount] at *
  omega

end Family

namespace Boundary

variable {ω β : Type} [Device β] [Backend ω β] {w : ω} {b : Boundary ω β} {handle : UInt64}

section Limits

omit [Device β] [Backend ω β] in
/-- Only an error of a limit has its code. -/
theorem answerTo_eq_limitExceeded_iff {outcome : Outcome SessionError Nat} :
    answerTo outcome = Status.limitExceeded.code ↔
      ∃ size limit, outcome = .error (.limitExceeded size limit) := by
  cases outcome with
  | ok n =>
    simp only [answerTo, Status.code, reduceCtorEq, exists_false]
  | error e => cases e <;> simp [answerTo, SessionError.status, Status.code]
  | crash t => simp [answerTo, Status.code]

/-- A call that can be made on a session ends as it does there. -/
theorem ending_of_occupant (call : Call) {c : Session.Call} {id : SessionId} {o : Occupant β}
    (hc : call.onSession = .ok c) (hid : SessionId.ofRaw? handle = some id)
    (ho : b.host.occupant? id = some o) (hp : o.poisoned = false) :
    b.ending w handle call = call.ended (o.session.perform w c).1 := by
  simp [ending, hc, hid, Host.withSession_of_some ho, hp]

/-- A call is refused for its arguments, its handle or a poisoned session, or it ends as it does on
the session. -/
theorem ending_cases (w : ω) (b : Boundary ω β) (handle : UInt64) (call : Call) :
    (∃ e, b.ending w handle call = .error e ∧ (e.status = .invalidArgument ∨ e = .poisoned)) ∨
      ∃ c o, call.onSession = .ok c ∧
        b.ending w handle call = call.ended ((o : Occupant β).session.perform w c).1 := by
  cases hc : call.onSession with
  | error e =>
    refine .inl ⟨e, ?_, .inl (checks_onSession call e hc)⟩
    simp only [ending, hc]
  | ok c =>
    cases hid : SessionId.ofRaw? handle with
    | none => exact .inl ⟨.invalidArgument .nullHandle, by simp only [ending, hc, hid], .inl rfl⟩
    | some id =>
      cases ho : b.host.occupant? id with
      | none =>
        refine .inl ⟨.invalidArgument (.unknownSession id), ?_, .inl rfl⟩
        simp only [ending, hc, hid, Host.withSession_of_none ho, Call.ended]
      | some o =>
        cases hp : o.poisoned with
        | true =>
          refine .inl ⟨.poisoned, ?_, .inr rfl⟩
          simp only [ending, hc, hid, Host.withSession_of_some ho, hp, if_true, Call.ended]
        | false => exact .inr ⟨c, o, rfl, ending_of_occupant call hc hid ho hp⟩

/-- A call exceeds no limit if the call on the session exceeds none and replies with a count, which
fits an integer as the arguments do. -/
theorem answer_ne_limitExceeded (call : Call)
    (hcall : ∀ c, call.onSession = .ok c → c ≠ .memory ∧ ∀ s : Session β,
      (∀ size limit, (s.perform w c).1 ≠ .error (.limitExceeded size limit)) ∧
        ∀ reply, (s.perform w c).1 = .ok reply → ∃ n, reply.count? = some n) :
    (b.perform w handle call).1 ≠ Status.limitExceeded.code := by
  rw [(perform_ending w b handle call).1, ne_eq, answerTo_eq_limitExceeded_iff]
  rintro ⟨size, limit, h⟩
  rcases ending_cases w b handle call with ⟨e, he, hstatus⟩ | ⟨c, o, hc, hended⟩
  · rw [he] at h
    cases h
    rcases hstatus with hstatus | hstatus <;> cases hstatus
  · obtain ⟨hmemory, hsession⟩ := hcall c hc
    obtain ⟨hlimit, hcount⟩ := hsession o.session
    rw [hended] at h
    cases hmade : (o.session.perform w c).1 with
    | error e =>
      rw [hmade] at h
      cases h
      exact hlimit size limit hmade
    | crash t =>
      rw [hmade] at h
      cases h
    | ok reply =>
      obtain ⟨n, hn⟩ := hcount reply hmade
      obtain ⟨hsettle, hfits⟩ := settle_of_count hc hmade hn
      rw [hmade, Call.ended, hsettle, Outcome.ofExcept_ok, fitted_of_le (hfits hmemory)] at h
      cases h

theorem eval_ne_limitExceeded (w : ω) (b : Boundary ω β) (handle : UInt64)
    (tokens : Option (List Int32)) (count : Int32) :
    (b.eval w handle tokens count).1 ≠ Status.limitExceeded.code := by
  refine answer_ne_limitExceeded (.eval tokens count) fun c hc => ?_
  obtain ⟨ids, -, hc⟩ := Except.bind_eq_ok_iff.mp hc
  cases hc
  refine ⟨nofun, fun s => ⟨fun size limit h => ?_, fun reply h => ?_⟩⟩
  · exact s.step_ne_limitExceeded ids (Outcome.map_eq_error_iff.mp h)
  · obtain ⟨n, -, rfl⟩ := Outcome.map_eq_ok_iff.mp h
    exact ⟨n, rfl⟩

theorem rollback_ne_limitExceeded (w : ω) (b : Boundary ω β) (handle : UInt64) (steps : Int32) :
    (b.rollback w handle steps).1 ≠ Status.limitExceeded.code := by
  refine answer_ne_limitExceeded (.rollback steps) fun c hc => ?_
  obtain ⟨n, -, hc⟩ := Except.bind_eq_ok_iff.mp hc
  cases hc
  refine ⟨nofun, fun s => ⟨fun size limit h => ?_, fun reply h => ?_⟩⟩
  · exact s.rollback_ne_limitExceeded n (Outcome.map_eq_error_iff.mp h)
  · obtain ⟨n, -, rfl⟩ := Outcome.map_eq_ok_iff.mp h
    exact ⟨n, rfl⟩

end Limits

section Sizes

/-- The answer to a request for the size of a snapshot, of a backend that reports four bytes for the
count and four for each token up to the position. -/
theorem answer_snapshotSize {id : SessionId} {o : Occupant β}
    (hid : SessionId.ofRaw? handle = some id) (ho : b.host.occupant? id = some o)
    (hp : o.poisoned = false)
    (hsize : ∃ size, Backend.stateSize w o.session.backend = .ok size ∧
      size.toNat = 4 + 4 * o.session.position) :
    (b.snapshotSize w handle).1 =
      if 20 + 4 * o.session.position ≤ Config.maxCount then 20 + 4 * (o.session.position : Int)
      else -2 := by
  have hended := ending_of_occupant (w := w) .snapshotSize rfl hid ho hp
  have hanswer : (b.snapshotSize w handle).1 = answerTo (b.ending w handle .snapshotSize) :=
    (perform_ending w b handle .snapshotSize).1
  have hheader : Snapshot.headerSize = 16 := rfl
  have hmax : maxSize = Config.maxCount := rfl
  obtain ⟨size, hreported, hlen⟩ := hsize
  rw [hanswer, hended, Session.perform]
  cases ht : o.session.snapshotSize w with
  | ok total =>
    obtain ⟨⟨size', hreported', rfl⟩, hle⟩ := Session.snapshotSize_eq_ok_iff.mp ht
    cases hreported.symm.trans hreported'
    have hfits : 20 + 4 * o.session.position ≤ Config.maxCount := by omega
    have hsettled : Call.snapshotSize.ended
        ((Outcome.ok (Snapshot.headerSize + size.toNat)).map .count) =
          .ok (Snapshot.headerSize + size.toNat) := fitted_of_le (by omega)
    rw [hsettled, if_pos hfits, answerTo]
    omega
  | error e =>
    obtain ⟨hlt, size, limit, rfl⟩ := Session.exists_of_snapshotSize_error hreported ht
    rw [if_neg (by omega)]
    rfl
  | crash text =>
    rw [Session.snapshotSize_eq_crash_iff, hreported] at ht
    cases ht

end Sizes

/-- Requests do nothing with a session but make calls. -/
theorem makesCalls_of_mem_hostCalls {requests : List (ω × Request ω β)} {made : ω × Host.Call ω β}
    {id : SessionId} {action : Session.Action β} (hmem : made ∈ hostCalls requests)
    (hmade : made.2 = .act id action) : Session.Action.MakesCalls ω action := by
  obtain ⟨⟨w, request⟩, -, hrequest⟩ := List.mem_filterMap.mp hmem
  obtain ⟨call, hcall, rfl⟩ := Option.map_eq_some_iff.mp hrequest
  cases hmade
  unfold Request.onHost? at hcall
  split at hcall
  · cases hcall
  · obtain ⟨text, -, h⟩ := Option.map_eq_some_iff.mp hcall
    cases h
  · obtain ⟨id, -, h⟩ := Option.map_eq_some_iff.mp hcall
    cases h
  · split at hcall
    · cases hcall
      exact Session.makesCalls_perform w _
    · cases hcall
  · cases hcall
  · cases hcall

/-- Let a new host be run with any calls, and let a create of a reference that names a family of
stubs or of engines give out an id. Until the id is destroyed, and whatever calls are made on its
session, crashed or not: the position is the length of the history, neither it nor what the backend
holds exceeds the window, and the window fits a signed 32-bit integer. So the position is what the
header of a snapshot says, and a payload begins with the number of tokens that are held. No answer
to an evaluation or to a rollback is that a limit has been exceeded. For a stub that is not poisoned
the size of a snapshot is answered exactly, or is too large for an answer. -/
theorem counts_bounded {h₀ : Host ω β} (hnew : h₀.New) (before after : List (ω × Host.Call ω β))
    (w : ω) (reference : String) {id : SessionId}
    (hid : ((h₀.run before).2.1.create w reference).1 = .ok id)
    (hfamily : ∀ parsed r, Reference.parse reference = .ok parsed →
      (h₀.run before).2.1.registration? parsed.scheme.name = some r →
        r.family.OfStubs ∨ r.family.OfEngines)
    (hkept : ∀ made ∈ after, made.2 ≠ .destroy id)
    (hcalls : ∀ made ∈ after, ∀ action, made.2 = .act id action →
      Session.Action.MakesCalls ω action) :
    let reached := (((h₀.run before).2.1.create w reference).2.1.run after).2.1
    ∃ parsed r o, Reference.parse reference = .ok parsed ∧
      (h₀.run before).2.1.registration? parsed.scheme.name = some r ∧
      reached.occupant? id = some o ∧
      o.session.position = o.session.committed.length ∧
      o.session.position ≤ parsed.config.window ∧
      (Device.context o.session.backend).length ≤ parsed.config.window ∧
      parsed.config.window ≤ 2147483647 ∧
      (∀ (w' : ω) (bytes : Bytes), Session.Exports w' o.session bytes →
        ∃ header payload, Header.decode bytes = .ok (header, payload) ∧
          header.position.toNat = o.session.position) ∧
      (∀ (w' : ω) (payload : Bytes), Backend.serialize w' o.session.backend = .ok payload →
        ∃ count rest, payload = Bytes.ofWord count ++ rest ∧
          count.toNat = (Device.context o.session.backend).length) ∧
      ∀ b : Boundary ω β, b.host = reached →
        (∀ (w' : ω) (handle : UInt64) (tokens : Option (List Int32)) (count : Int32),
          (b.eval w' handle tokens count).1 ≠ -2) ∧
        (∀ (w' : ω) (handle : UInt64) (steps : Int32), (b.rollback w' handle steps).1 ≠ -2) ∧
        (r.family.OfStubs → ∀ w' : ω,
          (∃ size : UInt64, Backend.stateSize w' o.session.backend = .ok size ∧
            size.toNat = 4 + 4 * o.session.position) ∧
          (o.poisoned = false → (b.snapshotSize w' id.toRaw).1 =
            if 20 + 4 * o.session.position ≤ 2147483647 then 20 + 4 * (o.session.position : Int)
            else -2)) := by
  intro reached
  obtain ⟨parsed, r, backend, o, hp, hr, hload, ho, calls, hsession⟩ :=
    hnew.exists_run before after w reference hid hkept hcalls
  obtain ⟨hc, P, hwindowed, hopened⟩ :=
    Family.exists_windowed_of_load (hfamily parsed r hp hr) hload
  have hbounded := (Session.bounded_fresh hopened).run hwindowed calls
  rw [← hsession] at hbounded
  have hcontext := hwindowed.context hbounded.backend
  have hwindow : parsed.config.window ≤ 2147483647 := hc.window.2
  have hposition : o.session.position < UInt32.size :=
    Nat.lt_of_le_of_lt (Nat.le_trans hbounded.position hwindow) (by decide)
  have hraw : SessionId.ofRaw? id.toRaw = some id :=
    SessionId.ofRaw?_toRaw ((Host.Traced.run before hnew.traced hnew.balanced).generation_created
      (Host.run_keeps Host.Balanced.perform before hnew.balanced) hid)
  refine ⟨parsed, r, o, hp, hr, ho, hbounded.counted, hbounded.position, hcontext, hwindow,
    fun w' bytes => Session.exists_header_of_exports hposition, fun w' payload hs => ?_,
    fun b hb => ⟨fun w' => b.eval_ne_limitExceeded w', fun w' => b.rollback_ne_limitExceeded w',
      fun hstubs w' => ?_⟩⟩
  · obtain ⟨rest, hrest⟩ := hwindowed.serialize_ok hbounded.backend hs
    exact ⟨_, rest, hrest, UInt32.toNat_ofNat_of_lt'
      (Nat.lt_of_le_of_lt (Nat.le_trans hcontext hwindow) (by decide))⟩
  · have hsize := hstubs.exists_stateSize hload calls w'
    rw [← hsession] at hsize
    exact ⟨hsize, fun hpoison => answer_snapshotSize hraw (hb ▸ ho) hpoison hsize⟩

/-- Requests that fill a window of three tokens, and one that no longer fits it. -/
def filling : List (Unit × Request Unit Stub) :=
  [.eval (some [1, 2]) 2, .rollback 1, .eval (some [3, 3]) 2, .eval (some [0]) 1].map fun call =>
    ((), .call (SessionId.toRaw ⟨0, 1⟩) call)

/-- A host with a session that has that window. -/
def narrow : Host Unit Stub :=
  (((Host.standard id).run []).2.1.create () "deterministic:m?vocab=4&n_ctx=3").2.1

/-- A full window of three tokens is a snapshot of 32 bytes, and one token more exceeds no limit of
the boundary. -/
theorem counts_bounded_filled :
    let b := ({ host := narrow } : Boundary Unit Stub).run filling |>.2.1
    (b.snapshotSize () (SessionId.toRaw ⟨0, 1⟩)).1 = 32 ∧
      (b.eval () (SessionId.toRaw ⟨0, 1⟩) (some [0]) 1).1 ≠ -2 ∧
      ∃ o, b.host.occupant? ⟨0, 1⟩ = some o ∧ o.session.position = 3 ∧
        o.session.position = o.session.committed.length := by
  intro b
  have hid : ((((Host.standard id : Host Unit Stub).run []).2.1.create ()
      "deterministic:m?vocab=4&n_ctx=3").1) = .ok ⟨0, 1⟩ := by cbv
  have hembed : Backend.Embeds Unit (id : Stub → Stub) :=
    ⟨fun _ => rfl, fun _ => rfl, fun _ _ _ _ => rfl, fun _ _ => rfl, fun _ _ _ => rfl,
      fun _ _ => rfl, fun _ _ => rfl, fun _ _ _ => rfl, fun _ _ => rfl, fun _ _ => rfl,
      fun _ _ => rfl⟩
  have hknows : Host.KnowsStubs id (Host.standard id : Host Unit Stub) := rfl
  have hgeneration : (⟨0, 1⟩ : SessionId).generation ≠ 0 := by decide
  have hhost : b.host = (narrow.run (hostCalls filling)).2.1 := host_run filling _
  have hfilled : (b.host.occupant? ⟨0, 1⟩).map (fun o => (o.poisoned, o.session.position)) =
      some (false, 3) := by decide +kernel
  obtain ⟨parsed, r, o, -, hr, ho, hcounted, -, -, -, -, -, hanswers⟩ :=
    counts_bounded (.standard id) [] (hostCalls filling) () "deterministic:m?vocab=4&n_ctx=3" hid
      (fun parsed r _ hr => .inl (hknows.ofStubs hembed hr))
      (not_destroy_of_not_free (SessionId.ofRaw?_toRaw hgeneration) (by simp [filling]))
      fun made hmem action => makesCalls_of_mem_hostCalls hmem
  obtain ⟨heval, -, hsizes⟩ := hanswers b hhost
  obtain ⟨-, hsize⟩ := hsizes (hknows.ofStubs hembed hr) ()
  rw [hhost, show (narrow.run (hostCalls filling)).2.1.occupant? ⟨0, 1⟩ = some o from ho] at hfilled
  obtain ⟨hpoisoned, hposition⟩ := Prod.ext_iff.mp (Option.some.inj hfilled)
  have hsize := hsize hpoisoned
  rw [show o.session.position = 3 from hposition] at hsize
  exact ⟨hsize, heval () _ _ _, o, hhost ▸ ho, hposition, hcounted⟩

end Boundary

end Decoding

import Decoding.Boundary.Call
import Decoding.Proofs.Host.Occupants
import Decoding.Proofs.Session.Refusal
import Decoding.Proofs.Simulation.RoundTrip

/-!
Refused restores over stubs and simulated engines. A payload is handed to the backend
before it is known to be good, and may have replaced all of its state when it is refused.
The saved state of every session that can be reached is one that the backend takes again,
faulted or not; only a state whose size does not fit its size word, of four gigabytes or
more, is not. What takes it is the former backend in all respects.
-/

namespace Decoding.Simulation

open EngineBackend Payload Session Snapshot

/-- The engine neither crashes nor misreports in this world, and it loads states. -/
structure World.Loading (w : World) : Prop extends w.Steady where
  loadError : w.switches.loadError = none

section Stubs

variable {ω : Type} {b : Stub} {held staged : List UInt32}

/-- A stub takes back whatever state it had. -/
theorem not_putBackFails_ofHistory (w : ω) (bytes : Bytes) (limit : Nat)
    (hw : b.context.window ≤ Config.maxCount) (hb : b.Fits held) :
    ¬ (ofHistory b held staged).PutBackFails w bytes limit := by
  rintro ⟨backup, left, ⟨header, e, -, hs, ht⟩, hd⟩
  rw [deserialize_backup_ofHistory hw hb hs ht] at hd
  exact hd rfl

theorem refused_ofHistory {w : ω} {bytes : Bytes} {limit : Nat} {s : Session Stub}
    (hw : b.context.window ≤ Config.maxCount) (hb : b.Fits held)
    (h : Refused w (ofHistory b held staged) bytes limit s) : s = ofHistory b held staged := by
  refine h.eq_self (not_putBackFails_ofHistory w bytes limit hw hb) ?_
  rintro backup left b' ⟨header, e, -, hs, ht⟩ hd
  rw [deserialize_backup_ofHistory hw hb hs ht] at hd
  cases hd
  rfl

end Stubs

section Engines

variable {n v : Nat} {s : Session (EngineBackend Engine)} {w : World} {bytes backup : Bytes}
  {limit : Nat} {left : EngineBackend Engine}

/-- What is handed back is the payload of the backend, and the backend that it is handed to has
kept its bounds. -/
theorem written_of_handsBack (hw : w.Steady) (hs : Bounded n v s.backend)
    (h : s.HandsBack w bytes limit backup left) :
    backup = written s.backend ∧ Bounded n v left := by
  obtain ⟨header, e, -, hb, ht⟩ := h
  exact ⟨((serialize_eq_ok_iff hw hs.countable).mp (backup_eq_ok_iff.mp hb).2).2,
    (takePayload_left hw hs ht).1⟩

/-- Engines take back the states that a word can express the size of, and no others. -/
theorem putBackFails_iff_of_handsBack (hw : w.Loading) (hs : Bounded n v s.backend)
    (hb : s.HandsBack w bytes limit backup left) :
    s.PutBackFails w bytes limit ↔ ¬ Storable s.backend := by
  obtain ⟨rfl, hleft⟩ := written_of_handsBack hw.toSteady hs hb
  constructor
  · rintro ⟨backup, left, hb', hd⟩ hsize
    obtain ⟨rfl, rfl⟩ := hb.unique hb'
    have hok := deserialize_written_of_le hw.toSteady hw.loadError hs.countable
      (hleft.window ▸ hs.context) (hleft.vocab ▸ hs.logits) hsize
    exact hd (congrArg Prod.fst hok)
  · exact fun hn => ⟨_, left, hb, fun hok =>
      hn (storable_of_deserialize_written hw.toSteady hs.countable hok)⟩

/-- The backend that takes the saved state is the former one, with its logits and its cache. -/
theorem eq_of_handsBack (hw : w.Steady) (hs : Bounded n v s.backend)
    (hb : s.HandsBack w bytes limit backup left) {b : EngineBackend Engine}
    (hd : Backend.deserialize w left backup = (.ok backup.length, b)) : b = s.backend := by
  obtain ⟨rfl, hleft⟩ := written_of_handsBack hw hs hb
  rcases deserialize_written hw hs.countable left with ⟨e, he⟩ | ⟨-, -, hok⟩
  · rw [he] at hd
    cases hd
  · rw [hok, hleft.taking_eq hs] at hd
    cases hd
    rfl

end Engines

/-- A refused restore is as if it had not been made. Over any backend it keeps the position, the
history and the staged tokens, and the fault too unless the backend did not take the state back that
was saved before; then the session is faulted. A stub always takes it back. So does a backend over a
simulated engine that loads states, if and only if the size of the engine's state fits its word, as
it does for every window below `2 ^ 30 - 1` tokens. Then the whole session is what it was: its
fault, and the context, scores, cache and payload of its backend. -/
theorem refused_restore_leaves_no_trace :
    (∀ {ω β : Type} [Device β] [Backend ω β] {w : ω} {s s' : Session β} {bytes : Bytes}
      {limit : Nat} {e : SessionError}, s.restore w bytes limit = (.error e, s') →
        (s'.position = s.position ∧ s'.committed = s.committed ∧ s'.staged = s.staged) ∧
          (s.PutBackFails w bytes limit → s'.Lost) ∧
            (¬ s.PutBackFails w bytes limit → s'.fault = s.fault)) ∧
    (∀ {ω : Type} {c : Config} {b : Stub} {met : ω → Prop} {s s' : Session Stub},
      c.window ≤ Config.maxCount → b = .deterministic c ∨ Stub.fixed c = .ok b →
      Reachable (· = b) met (fun _ => True) s → ∀ (w : ω) (bytes : Bytes) (limit : Nat),
        ¬ s.PutBackFails w bytes limit ∧
          ∀ e, s.restore w bytes limit = (.error e, s') → s' = s) ∧
    ∀ {c : Config} {s s' : Session (EngineBackend Engine)},
      Reachable (fun b => ∃ w log, engineFamily.load w c = (.ok b, log)) World.Loading
        (fun _ => True) s → ∀ (w : World), w.Loading → ∀ (bytes : Bytes) (limit : Nat),
        ((∃ backup left, s.HandsBack w bytes limit backup left) →
          (s.PutBackFails w bytes limit ↔ ¬ Storable s.backend)) ∧
          (4 + 4 * c.window < UInt32.size → Storable s.backend) ∧
            (Storable s.backend → ¬ s.PutBackFails w bytes limit ∧
              ∀ e, s.restore w bytes limit = (.error e, s') → s' = s) := by
  refine ⟨?_, ?_, ?_⟩
  · intro ω β _ _ w s s' bytes limit e h
    have hr := refused_of_restore h
    exact ⟨hr.kept, hr.lost_of_putBackFails, hr.fault_of_not_putBackFails⟩
  · intro ω c b met s s' hc hb hs w bytes limit
    obtain ⟨-, hempty⟩ := Stub.new_eq hb
    have hwindow : b.context.window ≤ Config.maxCount := by rw [hempty]; exact hc
    obtain ⟨held, staged, rfl, hfits⟩ :=
      exists_ofHistory hwindow (congrArg TokenContext.tokens hempty) hs
    exact ⟨not_putBackFails_ofHistory w bytes limit hwindow hfits,
      fun e h => refused_ofHistory hwindow hfits (refused_of_restore h)⟩
  · intro c s s' hs w hw bytes limit
    have hbounded := bounded_of_reachable (hs.mono fun _ h => h.toSteady)
    have hiff : ∀ backup left, s.HandsBack w bytes limit backup left →
        (s.PutBackFails w bytes limit ↔ ¬ Storable s.backend) :=
      fun _ _ => putBackFails_iff_of_handsBack hw hbounded
    refine ⟨fun ⟨backup, left, hb⟩ => hiff backup left hb, hbounded.storable, fun hsize => ?_⟩
    have hput : ¬ s.PutBackFails w bytes limit := by
      rintro ⟨backup, left, hb, hd⟩
      exact (hiff backup left hb).mp ⟨backup, left, hb, hd⟩ hsize
    exact ⟨hput, fun e h => (refused_of_restore h).eq_self hput fun hb hd =>
      eq_of_handsBack hw.toSteady hbounded hb hd⟩

/-- A session that is faulted over a token left in the cache, and a payload that its engine takes
before the position in the header turns out to be another one. -/
theorem refused_restore_leaves_no_trace_dirty :
    let s := ((Session.fresh (EngineBackend.fresh (ε := Engine) ⟨[], 4⟩ 8)).perform busy
      (.step [3])).2
    let payload := written ⟨⟨[1], 4⟩, ⟨[1], 8⟩, []⟩
    let bytes := (Header.current 7 (.ofNat payload.length)).encode ++ payload
    s.fault ≠ none ∧ s.backend.engine.cache = [3] ∧
      (∃ left, Backend.deserialize (filed {}) s.backend payload = (.ok payload.length, left) ∧
        left.engine.cache = [1]) ∧
      s.restore (filed {}) bytes 64 = (.error (.corrupted (.position 1 7)), s) := by
  intro s payload bytes
  have hw : (filed {}).Loading := ⟨⟨rfl, rfl, rfl, rfl, rfl, rfl⟩, rfl⟩
  have hs : Reachable (fun b => ∃ w log, engineFamily.load w _ = (.ok b, log)) World.Loading
      (fun _ => True) s :=
    (Reachable.fresh ⟨_, _, load_filed⟩).call (w := busy) ⟨⟨rfl, rfl, rfl, rfl, rfl, rfl⟩, rfl⟩
      (nofun : ∀ bytes limit, Call.step [3] ≠ .restore bytes limit)
  refine ⟨nofun, rfl, ⟨_, rfl, rfl⟩, ?_⟩
  obtain ⟨-, hsmall, hself⟩ := refused_restore_leaves_no_trace.2.2 hs (filed {}) hw bytes 64
  have hrefused : (s.restore (filed {}) bytes 64).1 = .error (.corrupted (.position 1 7)) := by cbv
  exact Prod.ext hrefused ((hself (hsmall (by decide))).2 _ (Prod.ext hrefused rfl))

/-- The snapshot of a stub that holds one token. -/
def stubSnapshot : Bytes := (Header.current 1 8).encode ++ TokenContext.encode ⟨[5], 8⟩

/-- The boundary after a request for a session over an engine. -/
def opened : Boundary World Any :=
  (boundary.run [(filed {}, .init (some (Text.Utf8.encode "m?vocab=4&n_ctx=8")))]).2.1

theorem occupant?_opened : opened.host.occupant? ⟨0, 1⟩ = some
    { session := .fresh (ofEngine (.fresh ⟨[], 4⟩ 8)), poisoned := false, family := "engine",
      serial := 0 } := by
  cbv

/-- The engine is not asked about the payload of a stub, and crashes over its own, which is put
back. -/
theorem restore_crash :
    (Session.fresh (ofEngine (.fresh ⟨[], 4⟩ 8))).restore (filed { loadCrash := some "device lost" })
        stubSnapshot 64 = (.crash "device lost", .fresh (ofEngine (.fresh ⟨[], 4⟩ 8))) := by
  rfl

theorem restore_opened :
    opened.restore (filed { loadCrash := some "device lost" }) 4294967296 (some stubSnapshot) 24 64 =
      (-9, Boundary.contain { opened with
        host := opened.host.seat ⟨0, 1⟩
          { session := .fresh (ofEngine (.fresh ⟨[], 4⟩ 8)), poisoned := true, family := "engine",
            serial := 0 } }) := by
  have hid : SessionId.ofRaw? 4294967296 = some ⟨0, 1⟩ := rfl
  have hsize : Boundary.natural "snapshot_size" 24 = .ok 24 := rfl
  have hlimit : Boundary.natural "max_snapshot_bytes" 64 = .ok 64 := rfl
  have htake : stubSnapshot.take 24 = stubSnapshot := rfl
  simp [Boundary.restore, Boundary.change, Boundary.withHandle, Boundary.answer, hid, hsize, hlimit,
    htake, Host.withSession_eq occupant?_opened, Occupant.act, Outcome.isCrash, Status.code, restore_crash]

/-- An import that the boundary answers with an error, since putting the state back has crashed,
leaves a session that is poisoned but not faulted. And a full window of `2 ^ 30 - 1` tokens is not
put back: the session is faulted, and its backend holds the one token of the refused payload. -/
theorem refused_restore_loses_window :
    (let r := opened.restore (filed { loadCrash := some "device lost" }) 4294967296
      (some stubSnapshot) 24 64
     r.1 = -9 ∧ (r.2.host.occupant? ⟨0, 1⟩).map (fun o => (o.poisoned, o.session.fault)) =
       some (true, none)) ∧
    (filed {}).Loading ∧
    Reachable (fun b => ∃ w log, engineFamily.load w wide = (.ok b, log)) World.Loading
      (fun _ => True) filledWindow ∧
    filledWindow.fault = none ∧ filledWindow.PutBackFails (filed {}) misplaced 64 ∧
    ∃ s', filledWindow.restore (filed {}) misplaced 64 = (.error (.corrupted (.position 1 7)), s') ∧
      s'.fault ≠ none ∧ s'.committed = longCache ∧ s'.backend.context.tokens = [1] := by
  have hw : (filed {}).Loading := ⟨⟨rfl, rfl, rfl, rfl, rfl, rfl⟩, rfl⟩
  have hreached := (Reachable.fresh ⟨filed {}, _, load_wide⟩ :
      Reachable (fun b => ∃ w log, engineFamily.load w wide = (.ok b, log)) World.Loading
        (fun _ => True) _).call hw
    (nofun : ∀ bytes limit, Call.step longCache ≠ .restore bytes limit)
  rw [perform_step, step_longCache] at hreached
  obtain ⟨cause, hrestore⟩ := restore_filledWindow
  refine ⟨⟨?_, ?_⟩, hw, hreached, rfl, ?_, _, hrestore, nofun, rfl, rfl⟩
  · rw [restore_opened]
  · rw [restore_opened]
    exact congrArg _ (Host.occupant?_seat occupant?_opened)
  · by_contra hput
    exact absurd ((refused_of_restore hrestore).fault_of_not_putBackFails hput) nofun

end Decoding.Simulation

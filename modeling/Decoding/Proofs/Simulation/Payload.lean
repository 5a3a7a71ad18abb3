import Decoding.Proofs.Simulation.Engine

/-!
The payload of a backend over a simulated engine, read and written. A reader accepts the payload of
a state that it can hold, with anything behind it, and nothing else: what follows the last of the
three sections is not looked at, and no state has a second payload.
-/

namespace Decoding.Simulation

open EngineBackend Payload

/-- The engine saves and loads in this world. -/
structure World.Storing (w : World) : Prop extends w.Steady where
  saveError : w.switches.saveError = none
  loadError : w.switches.loadError = none

/-- The second backend is in a state that the first one can read: it is within the bounds of the
first one, and words can express the counts and the size of its payload. -/
structure Readable (b b' : EngineBackend Engine) : Prop where
  window : b'.context.window = b.context.window
  vocab : b'.engine.vocab = b.engine.vocab
  context : b'.context.length ≤ b.context.window
  logits : b'.logits.length ≤ b.engine.vocab
  countable : Countable b'
  storable : Storable b'

variable {w : World} {b b' : EngineBackend Engine}

namespace Readable

/-- A payload that a reader can hold falls into its sections, whatever stands behind it. -/
theorem decode_written_append (h : Readable b b') (rest : Bytes) :
    Sections.decode b.context.window (.ok b.engine.vocab) (written b' ++ rest) =
      .ok ⟨b'.context, b'.logits, counted b'.engine.cache, rest⟩ := by
  have hsize : (counted b'.engine.cache).length < UInt32.size := by
    rw [length_counted]
    exact h.storable
  refine Sections.decode_ok_eq_ok_iff.mpr
    ⟨⟨h.window, h.context, h.logits, h.countable.context, h.countable.logits, hsize⟩, ?_⟩
  simp only [written, Sections.encode, length_counted, List.append_assoc]

end Readable

/-- A payload that a reader takes, and what it has taken, are the payload of the state it is in
afterwards. -/
theorem readable_of_deserialize (hw : w.Steady) {payload : Bytes} {k : Nat}
    (h : Backend.deserialize w b payload = (.ok k, b')) :
    Readable b b' ∧ k = (written b').length ∧ ∃ rest, payload = written b' ++ rest := by
  have hcases := deserialize_deserialized hw b payload
  rw [h] at hcases
  cases hcases with
  | taken hl hp hd =>
    rename_i parts cache
    obtain ⟨hin, henc⟩ := Sections.decode_ok_eq_ok_iff.mp hp
    obtain ⟨hcache, hengine⟩ := Engine.decode_eq_ok_iff.mp hd
    rw [List.append_nil] at hengine
    have hstorable := hin.engineSize
    rw [hengine, length_counted] at hstorable
    have hpayload : payload = written { engine := { b.engine with cache }, context := parts.context,
                                        logits := parts.logits } ++ parts.rest := by
      rw [henc, Sections.encode, hengine]
      simp only [written, length_counted, List.append_assoc]
    refine ⟨⟨hin.window, rfl, hin.context, hin.logits,
      ⟨hin.contextCount, hin.logitsCount, hcache⟩, hstorable⟩, ?_, parts.rest, hpayload⟩
    rw [hpayload, List.length_append, Nat.add_sub_cancel]

/-- Reading a payload makes the reader the state that was written, and takes what was written. -/
theorem deserialize_eq_ok_iff (hw : w.Steady) (hl : w.switches.loadError = none) {payload : Bytes}
    {k : Nat} :
    Backend.deserialize w b payload = (.ok k, b') ↔
      Readable b b' ∧ k = (written b').length ∧ ∃ rest, payload = written b' ++ rest := by
  refine ⟨readable_of_deserialize hw, ?_⟩
  rintro ⟨h, rfl, rest, rfl⟩
  have hp := h.decode_written_append rest
  have hd : Engine.decode (counted b'.engine.cache) = .ok (b'.engine.cache, []) :=
    Engine.decode_eq_ok_iff.mpr ⟨h.countable.cache, (List.append_nil _).symm⟩
  have hcases := deserialize_deserialized hw b (written b' ++ rest)
  generalize Backend.deserialize w b (written b' ++ rest) = r at hcases
  -- reading is a function, so the sections and the cache found are those that were written
  cases hcases with
  | taken hl' hp' hd' =>
    cases hp.symm.trans hp'
    cases hd.symm.trans hd'
    simp only [← h.vocab, List.length_append, Nat.add_sub_cancel]
  | partly hl' hp' hd' hr =>
    cases hp.symm.trans hp'
    cases hd.symm.trans hd'
    exact absurd rfl hr
  | refused hr => exact absurd hd (hr hl _ hp _)

/-- A written payload is taken if the engine can load, the size of its section can be counted by a
word and it is within the bounds of the reader. -/
theorem deserialize_written_of_le (hw : w.Steady) (hl : w.switches.loadError = none)
    {b b₀ : EngineBackend Engine} (hb : Countable b₀) (hc : b₀.context.length ≤ b.context.window)
    (hv : b₀.logits.length ≤ b.engine.vocab)
    (hs : Storable b₀) :
    Backend.deserialize w b (written b₀) = (.ok (written b₀).length, taking b b₀) :=
  (deserialize_eq_ok_iff hw hl).mpr
    ⟨⟨rfl, rfl, hc, hv, ⟨hb.context, hb.logits, hb.cache⟩, hs⟩, rfl, [], (List.append_nil _).symm⟩

/-- A payload that is taken has an engine section whose size a word expresses. -/
theorem storable_of_deserialize_written (hw : w.Steady) {b₀ : EngineBackend Engine} {k : Nat}
    (hb : Countable b₀) (h : (Backend.deserialize w b (written b₀)).1 = .ok k) : Storable b₀ := by
  rcases deserialize_written hw hb b with ⟨e, he⟩ | ⟨-, -, hok⟩
  · rw [he] at h
    cases h
  · exact (readable_of_deserialize hw hok).1.storable

/-- The payload of a backend whose window is in the configured range has the size that the backend
reports. Another backend with the same bounds reads it whole, whatever state it is in and whatever
stands behind the payload, and is the first one then; save that words must be able to express the
number of logits and the size of the engine's section, as they are for a cache of fewer than
2^30 - 1 tokens. Conversely, whatever bytes a backend reads, what it has taken of them is the
payload that it would write itself afterwards, to the last byte. -/
theorem payload_exact {w w' : World} (hw : w.Storing) (hw' : w'.Storing) :
    (∀ b : EngineBackend Engine, b.context.length ≤ b.context.window →
      b.context.window ≤ Config.maxCount → b.logits.length ≤ b.engine.vocab →
        ∀ bytes, Backend.serialize w b = .ok bytes →
          Backend.stateSize w b = .ok (.ofNat bytes.length) ∧
            ∀ b' : EngineBackend Engine, b'.context.window = b.context.window →
              b'.engine.vocab = b.engine.vocab → ∀ rest,
                (Backend.deserialize w' b' (bytes ++ rest) = (.ok bytes.length, b) ↔
                  b.logits.length < UInt32.size ∧ Storable b)) ∧
      ∀ (b b' : EngineBackend Engine) (x : Bytes) (n : Nat),
        Backend.deserialize w' b x = (.ok n, b') →
          n ≤ x.length ∧ Backend.serialize w b' = .ok (x.take n) := by
  constructor
  · intro b hcontext hwindow hlogits bytes hbytes
    obtain ⟨-, -, rfl⟩ := (serialize_eq_ok_iff_size hw.toSteady).mp hbytes
    refine ⟨stateSize_eq hw.toSteady b, fun b' hwindow' hvocab' rest => ⟨fun h => ?_, ?_⟩⟩
    · obtain ⟨hread, -⟩ := readable_of_deserialize hw'.toSteady h
      exact ⟨hread.countable.logits, hread.storable⟩
    · rintro ⟨hwidth, hs⟩
      -- the window bounds the context, and the size of the section bounds the cache
      have hcount : b.context.length < UInt32.size := by
        simp only [Config.maxCount, UInt32.size] at *
        omega
      have hcache : b.engine.cache.length < UInt32.size := by
        simp only [Storable] at hs
        omega
      refine (deserialize_eq_ok_iff hw'.toSteady hw'.loadError).mpr
        ⟨⟨hwindow'.symm, hvocab'.symm, ?_, ?_, ⟨hcount, hwidth, hcache⟩, hs⟩, rfl, rest, rfl⟩
      · rwa [hwindow']
      · rwa [hvocab']
  · intro b b' x n h
    obtain ⟨hread, rfl, rest, rfl⟩ := readable_of_deserialize hw'.toSteady h
    rw [List.take_left' rfl, List.length_append]
    exact ⟨Nat.le_add_right _ _,
      (serialize_eq_ok_iff hw.toSteady hread.countable).mpr ⟨hw.saveError, rfl⟩⟩

/-- A payload with a byte behind it, read by a backend that holds another state. -/
theorem payload_exact_read_back :
    let score : Score := ⟨0x7fc00001⟩
    let b : EngineBackend Engine := ⟨⟨[5, 6], 4⟩, ⟨[5, 6], 8⟩, [score]⟩
    Backend.serialize (filed {}) b = .ok (written b) ∧
      Backend.deserialize (filed {}) (.fresh ⟨[9], 4⟩ 8 : EngineBackend Engine)
        (written b ++ [0xaa]) = (.ok 36, b) := by
  intro score b
  have hw : (filed {}).Storing := ⟨⟨rfl, rfl, rfl, rfl, rfl, rfl⟩, rfl, rfl⟩
  have hbytes : Backend.serialize (filed {}) b = .ok (written b) := rfl
  obtain ⟨-, hread⟩ := (payload_exact hw hw).1 b (by decide) (by decide) (by decide) _ hbytes
  have hs : Storable b := by
    unfold Storable
    decide
  exact ⟨hbytes, (hread (.fresh ⟨[9], 4⟩ 8) rfl rfl [0xaa]).mpr ⟨by decide, hs⟩⟩

/-- A cache whose state has a size of `2 ^ 32` bytes, the first that no word expresses. It is for
proofs, not for evaluation. -/
@[irreducible] def longCache : List UInt32 := List.replicate 1073741823 5

@[simp] theorem length_longCache : longCache.length = 1073741823 := by
  rw [longCache, List.length_replicate]

theorem not_storable_longCache (v : Nat) (context : TokenContext) (logits : List Score) :
    ¬ Storable ⟨⟨longCache, v⟩, context, logits⟩ := by
  simp [Storable, UInt32.size]

/-- A backend with an engine that fails to load does not read back what another one with its bounds
has written. And what is written of a cache of `2 ^ 30 - 1` tokens no backend reads back: the size
word of the engine's section is zero. -/
theorem payload_refused :
    (let b : EngineBackend Engine := ⟨⟨[5], 4⟩, ⟨[5], 8⟩, []⟩
     Backend.serialize (filed {}) b = .ok (written b) ∧
       Backend.deserialize (filed { loadError := some "device lost" }) b (written b) =
         (.error (.engine "device lost"), b)) ∧
    (let b : EngineBackend Engine := ⟨⟨longCache, 4⟩, ⟨longCache, 1073741823⟩, []⟩
     b.context.length ≤ b.context.window ∧ b.context.window ≤ Config.maxCount ∧
       Backend.serialize (filed {}) b = .ok (written b) ∧
         ∀ b' : EngineBackend Engine, (Backend.deserialize (filed {}) b' (written b)).1 ≠
           .ok (written b).length) := by
  refine ⟨⟨rfl, rfl⟩, ?_⟩
  intro b
  have hw : (filed {}).Steady := ⟨rfl, rfl, rfl, rfl, rfl, rfl⟩
  have hb : Countable b := by
    constructor <;> simp [b, TokenContext.length, UInt32.size]
  refine ⟨?_, by decide, (serialize_eq_ok_iff hw hb).mpr ⟨rfl, rfl⟩, fun b' h => ?_⟩
  · simp [b, TokenContext.length]
  · exact not_storable_longCache _ _ _ (storable_of_deserialize_written hw hb h)

end Decoding.Simulation

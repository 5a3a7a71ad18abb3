import Decoding.Proofs.Backend.Payload
import Decoding.Simulation.Engine

/-!
The simulated engine and the backend that drives it, call by call, in worlds where the
engine fails but neither crashes nor misreports. A failed call leaves one of a few
amounts of garbage in the cache; they are listed here once. What the backend has written
it reads back whole or not at all.
-/

namespace Decoding

/-- A context that refuses tokens has not been touched. -/
theorem TokenContext.clean_of_checkAppend {c : TokenContext} {held : Nat} {tokens : List UInt32}
    {e : BackendError} (h : c.checkAppend held tokens = .error e) : e.leavesCacheDirty = false := by
  unfold checkAppend at h
  split at h
  · cases h
    rfl
  · split at h
    · cases h
      rfl
    · cases h

namespace Simulation

open EngineBackend Payload

/-- The engine may fail in this world, but it neither crashes nor reports what is not so. -/
structure World.Steady (w : World) : Prop where
  evalCrash : w.switches.evalCrash = none
  evalWidth : w.switches.evalWidth = none
  removeCrash : w.switches.removeCrash = none
  stateSize : w.switches.stateSize = none
  saveExtra : w.switches.saveExtra = 0
  loadCrash : w.switches.loadCrash = none

namespace Engine

variable {w : World} {e : Engine}

theorem eval_of_error (hw : w.Steady) {text : String} (he : w.switches.evalError = some text)
    (e : Engine) (held : Nat) (first : UInt32) (rest : List UInt32) :
    Decoding.Engine.eval w e held (first :: rest) =
      (.error (.engine text), { e with cache := e.cache.take held ++ [first] }) := by
  change eval w e held (first :: rest) = _
  simp only [eval, hw.evalCrash, he]

theorem eval_of_none (hw : w.Steady) (he : w.switches.evalError = none) (e : Engine) (held : Nat)
    (tokens : List UInt32) :
    Decoding.Engine.eval w e held tokens =
      (.ok (logits (e.cache.take held ++ tokens) e.vocab),
        { e with cache := e.cache.take held ++ tokens }) := by
  change eval w e held tokens = _
  simp only [eval, hw.evalCrash, hw.evalWidth, he]

theorem removeFrom_of_error (hw : w.Steady) {text : String}
    (he : w.switches.removeError = some text) (e : Engine) (n : Nat) :
    Decoding.Engine.removeFrom w e n = (.error (.engine text), e) := by
  change removeFrom w e n = _
  simp only [removeFrom, hw.removeCrash, he]

theorem removeFrom_of_none (hw : w.Steady) (he : w.switches.removeError = none) (e : Engine)
    (n : Nat) :
    Decoding.Engine.removeFrom w e n = (.ok (), { e with cache := e.cache.take n }) := by
  change removeFrom w e n = _
  simp only [removeFrom, hw.removeCrash, he]

/-- The engine keeps the first `n` positions, unless a switch makes it keep them all. -/
theorem removeFrom_cases (w : World) (e : Engine) (n : Nat) :
    Decoding.Engine.removeFrom w e n = (.ok (), { e with cache := e.cache.take n }) ∨
      (∃ cause, w.switches.removeError ≠ none ∧
        Decoding.Engine.removeFrom w e n = (.error cause, e)) ∨
      ∃ t, w.switches.removeCrash ≠ none ∧ Decoding.Engine.removeFrom w e n = (.crash t, e) := by
  change removeFrom w e n = _ ∨ (∃ cause, _ ∧ removeFrom w e n = _) ∨
    ∃ t, _ ∧ removeFrom w e n = _
  unfold removeFrom
  split
  · rename_i hcrash
    exact .inr (.inr ⟨_, by rw [hcrash]; nofun, rfl⟩)
  · rename_i herror
    exact .inr (.inl ⟨_, by rw [herror]; nofun, rfl⟩)
  · exact .inl rfl

theorem decode_eq_ok_iff {bytes rest : Bytes} {cache : List UInt32} :
    decode bytes = .ok (cache, rest) ↔
      cache.length < UInt32.size ∧ bytes = counted cache ++ rest := by
  rw [← takeWord_takeWords_eq_ok_iff]
  simp only [decode, Except.bind_eq_ok_iff, Prod.exists]

/-- The ways a load can end: the cache is replaced, or nothing is changed. -/
inductive Loaded (w : World) (e : Engine) (bytes : Bytes) : Outcome BackendError Nat × Engine → Prop
  | taken {cache : List UInt32} {rest : Bytes} (hl : w.switches.loadError = none)
      (hd : decode bytes = .ok (cache, rest)) :
    Loaded w e bytes (.ok (bytes.length - rest.length), { e with cache })
  | refused {cause : BackendError}
      (hd : w.switches.loadError = none → ∀ r, decode bytes ≠ .ok r) :
    Loaded w e bytes (.error cause, e)

theorem load_loaded (hw : w.Steady) (e : Engine) (bytes : Bytes) :
    Loaded w e bytes (load w e bytes) := by
  unfold load
  rw [hw.loadCrash]
  cases hl : w.switches.loadError with
  | some text => exact .refused fun h => by rw [hl] at h; cases h
  | none =>
    simp only
    cases hd : decode bytes with
    | error cause => exact .refused fun _ r h => by rw [hd] at h; cases h
    | ok r => exact .taken hl hd

end Engine

variable {w : World}

/-- The ways a backend can end an evaluation of some tokens: nothing is changed, the tokens are in
the cache and the context, or the cache has been cut at the first position, perhaps with the first
token still behind it. -/
inductive Evaluated (b : EngineBackend Engine) (held : Nat) (tokens : List UInt32) :
    Outcome BackendError Unit × EngineBackend Engine → Prop
  | refused {e : BackendError} (hd : e.leavesCacheDirty = false) :
    Evaluated b held tokens (.error e, b)
  | advanced (hh : held = b.context.length)
      (hw : b.context.length + tokens.length ≤ b.context.window) :
    Evaluated b held tokens (.ok (),
      { engine := { b.engine with cache := b.engine.cache.take held ++ tokens }
        context := { b.context with tokens := b.context.tokens ++ tokens }
        logits := Engine.logits (b.engine.cache.take held ++ tokens) b.engine.vocab })
  | undone {e : BackendError} {first : UInt32} (hd : e.leavesCacheDirty = false)
      (hh : held = b.context.length) :
    Evaluated b held tokens (.error e,
      { b with engine := { b.engine with
          cache := (b.engine.cache.take held ++ [first]).take held } })
  | dirty {e : BackendError} {first : UInt32} (hd : e.leavesCacheDirty = true)
      (hh : held = b.context.length) (hw : b.context.length < b.context.window) :
    Evaluated b held tokens (.error e,
      { b with engine := { b.engine with cache := b.engine.cache.take held ++ [first] } })

theorem evaluate_evaluated (hw : w.Steady) (b : EngineBackend Engine) (held : Nat)
    {tokens : List UInt32} (ht : tokens ≠ []) :
    Evaluated b held tokens (Backend.evaluate w b held tokens) := by
  obtain ⟨first, rest, rfl⟩ := List.exists_cons_of_ne_nil ht
  change Evaluated b held (first :: rest) (EngineBackend.evaluate w b held (first :: rest))
  unfold EngineBackend.evaluate
  split
  · rename_i e hc
    exact .refused (TokenContext.clean_of_checkAppend hc)
  · rename_i hc
    have happend : b.context.append held (first :: rest) =
        .ok { b.context with tokens := b.context.tokens ++ first :: rest } := by
      rw [TokenContext.append, hc]
      rfl
    obtain ⟨hh, hroom, -⟩ := TokenContext.append_eq_ok_iff.mp happend
    cases he : w.switches.evalError with
    | none =>
      simp only [Engine.eval_of_none hw he, happend]
      exact .advanced hh hroom
    | some text =>
      simp only [Engine.eval_of_error hw he]
      cases hr : w.switches.removeError with
      | none =>
        simp only [Engine.removeFrom_of_none hw hr]
        exact .undone rfl hh
      | some text =>
        simp only [Engine.removeFrom_of_error hw hr]
        exact .dirty rfl hh (by rw [List.length_cons] at hroom; omega)

/-- The logits that an eviction from position `n` leaves. -/
def keptLogits (b : EngineBackend Engine) (n : Nat) : List Score :=
  if n < b.context.length then [] else b.logits

/-- What a failed eviction leaves: the cache is as it was. -/
def shed (n : Nat) (b : EngineBackend Engine) : EngineBackend Engine :=
  { engine := b.engine, context := b.context.truncate n, logits := keptLogits b n }

/-- What an eviction leaves that succeeds. -/
def cut (n : Nat) (b : EngineBackend Engine) : EngineBackend Engine :=
  { shed n b with engine := { b.engine with cache := b.engine.cache.take n } }

/-- An eviction either succeeds, or the engine fails or crashes because a switch makes it. -/
theorem evict_cases (w : World) (b : EngineBackend Engine) (n : Nat) :
    Backend.evict w b n = (.ok (), cut n b) ∨
      (∃ e, w.switches.removeError ≠ none ∧ Backend.evict w b n = (.error e, shed n b)) ∨
      ∃ t, w.switches.removeCrash ≠ none ∧ (Backend.evict w b n).1 = .crash t := by
  change EngineBackend.evict w b n = _ ∨ (∃ e, _ ∧ EngineBackend.evict w b n = _) ∨
    ∃ t, _ ∧ (EngineBackend.evict w b n).1 = _
  unfold EngineBackend.evict
  obtain h | ⟨e, herror, h⟩ | ⟨t, hcrash, h⟩ := Engine.removeFrom_cases w b.engine n <;> rw [h]
  · exact .inl rfl
  · exact .inr (.inl ⟨e, herror, rfl⟩)
  · exact .inr (.inr ⟨t, hcrash, rfl⟩)

/-- An eviction shortens the context, and the cache too if the engine does not fail. -/
inductive Evicted (b : EngineBackend Engine) (n : Nat) :
    Outcome BackendError Unit × EngineBackend Engine → Prop
  | done :
    Evicted b n (.ok (),
      { engine := { b.engine with cache := b.engine.cache.take n }
        context := b.context.truncate n
        logits := keptLogits b n })
  | failed {e : BackendError} :
    Evicted b n (.error e,
      { engine := b.engine, context := b.context.truncate n, logits := keptLogits b n })

theorem evict_evicted (hw : w.Steady) (b : EngineBackend Engine) (n : Nat) :
    Evicted b n (Backend.evict w b n) := by
  obtain h | ⟨e, -, h⟩ | ⟨t, ht, -⟩ := evict_cases w b n
  · rw [h]
    exact .done
  · rw [h]
    exact .failed
  · exact absurd hw.removeCrash ht

/-- A deserialization takes a payload if the engine takes its whole section. A section of which the
engine takes a part only is an error, but replaces the cache. -/
inductive Deserialized (w : World) (b : EngineBackend Engine) (payload : Bytes) :
    Outcome BackendError Nat × EngineBackend Engine → Prop
  | taken {parts : Sections} {cache : List UInt32} (hl : w.switches.loadError = none)
      (hp : Sections.decode b.context.window (.ok b.engine.vocab) payload = .ok parts)
      (hd : Engine.decode parts.engine = .ok (cache, [])) :
    Deserialized w b payload (.ok (payload.length - parts.rest.length),
      { engine := { b.engine with cache }, context := parts.context, logits := parts.logits })
  | partly {parts : Sections} {cache : List UInt32} {rest : Bytes} {e : BackendError}
      (hl : w.switches.loadError = none)
      (hp : Sections.decode b.context.window (.ok b.engine.vocab) payload = .ok parts)
      (hd : Engine.decode parts.engine = .ok (cache, rest)) (hr : rest ≠ []) :
    Deserialized w b payload (.error e, { b with engine := { b.engine with cache } })
  | refused {e : BackendError}
      (hd : w.switches.loadError = none → ∀ parts,
        Sections.decode b.context.window (.ok b.engine.vocab) payload = .ok parts →
          ∀ r, Engine.decode parts.engine ≠ .ok r) :
    Deserialized w b payload (.error e, b)

theorem deserialize_deserialized (hw : w.Steady) (b : EngineBackend Engine) (payload : Bytes) :
    Deserialized w b payload (Backend.deserialize w b payload) := by
  change Deserialized w b payload (EngineBackend.deserialize w b payload)
  unfold EngineBackend.deserialize
  have hv : Decoding.Engine.vocab w b.engine = .ok b.engine.vocab := rfl
  rw [hv]
  cases hp : Sections.decode b.context.window (.ok b.engine.vocab) payload with
  | error e => exact .refused fun _ parts h => by rw [hp] at h; cases h
  | crash t => exact absurd hp Sections.decode_ok_ne_crash
  | ok parts =>
    have hload : Engine.Loaded w b.engine parts.engine
        (Decoding.Engine.load w b.engine parts.engine) :=
      Engine.load_loaded hw b.engine parts.engine
    simp only
    generalize Decoding.Engine.load w b.engine parts.engine = r at hload
    cases hload with
    | refused hd =>
      exact .refused fun hl parts' h => by rw [hp] at h; cases h; exact hd hl
    | taken hl hd =>
      rename_i cache rest
      have hlen := congrArg List.length (Engine.decode_eq_ok_iff.mp hd).2
      rw [List.length_append, length_counted] at hlen
      simp only
      split
      · have hrest : rest = [] := List.eq_nil_of_length_eq_zero (by omega)
        subst hrest
        exact .taken hl hp hd
      · refine .partly hl hp hd ?_
        rintro rfl
        simp at *

/-- Everything that a backend holds can be counted by a word. -/
structure Countable (b : EngineBackend Engine) : Prop where
  context : b.context.length < UInt32.size
  logits : b.logits.length < UInt32.size
  cache : b.engine.cache.length < UInt32.size

/-- The state of the engine has a size that a word can express, as a payload has to. -/
def Storable (b : EngineBackend Engine) : Prop := 4 + 4 * b.engine.cache.length < UInt32.size

/-- The payload of a backend. -/
def written (b : EngineBackend Engine) : Bytes :=
  counted b.context.tokens ++
    (counted (b.logits.map Score.bits) ++
      (Bytes.ofWord (.ofNat (4 + 4 * b.engine.cache.length)) ++ counted b.engine.cache))

theorem length_written (b : EngineBackend Engine) :
    (written b).length =
      4 + 4 * b.context.length + (4 + 4 * b.logits.length) + 4 +
        (4 + 4 * b.engine.cache.length) := by
  simp only [written, List.length_append, length_counted, List.length_map, Bytes.length_ofWord,
    TokenContext.length]
  omega

theorem engineSize_eq (hw : w.Steady) (b : EngineBackend Engine) :
    Decoding.Engine.stateSize w b.engine = .ok (.ofNat (4 + 4 * b.engine.cache.length)) := by
  change Outcome.ok (Engine.stateSize w b.engine) = _
  rw [Engine.stateSize, hw.stateSize, Option.getD_none]

/-- A steady engine reports the size of its payload exactly, as far as 64 bits can. -/
theorem stateSize_eq (hw : w.Steady) (b : EngineBackend Engine) :
    Backend.stateSize w b = .ok (.ofNat (written b).length) := by
  change EngineBackend.stateSize w b = _
  rw [EngineBackend.stateSize, engineSize_eq hw, length_written, TokenContext.encodedSize,
    Outcome.map_ok]
  refine congrArg Outcome.ok (UInt64.toNat_inj.mp ?_)
  simp only [UInt64.toNat_add, UInt64.toNat_ofNat', UInt64.reduceToNat]
  omega

theorem exists_stateSize (hw : w.Steady) {b : EngineBackend Engine} (hb : Countable b) :
    ∃ size, Backend.stateSize w b = .ok size ∧ size.toNat = (written b).length := by
  have hc := hb.context
  have hl := hb.logits
  have he := hb.cache
  refine ⟨_, stateSize_eq hw b, ?_⟩
  rw [UInt64.toNat_ofNat']
  simp only [length_written, UInt32.size] at *
  omega

/-- A backend writes its payload if its engine saves as many bytes as it reports. -/
theorem serialize_eq_ok_iff_size (hw : w.Steady) {b : EngineBackend Engine} {bytes : Bytes} :
    Backend.serialize w b = .ok bytes ↔
      w.switches.saveError = none ∧ 4 + 4 * b.engine.cache.length < UInt64.size ∧
        bytes = written b := by
  change EngineBackend.serialize w b = .ok bytes ↔ _
  cases he : w.switches.saveError with
  | some text =>
    have hsave : Decoding.Engine.save w b.engine = .error (.engine text) := by
      change Engine.save w b.engine = _
      simp only [Engine.save, he]
    simp [EngineBackend.serialize, engineSize_eq hw, hsave]
  | none =>
    have hsave : Decoding.Engine.save w b.engine = .ok (counted b.engine.cache) := by
      change Engine.save w b.engine = _
      simp only [Engine.save, he, hw.saveExtra, List.replicate_zero, List.append_nil]
      rfl
    simp only [EngineBackend.serialize, engineSize_eq hw, hsave, Outcome.lift_ok, Outcome.ok_bind,
      length_counted, UInt64.toNat_ofNat', ne_eq, true_and]
    split
    · rename_i hsize
      have hlarge : ¬ 4 + 4 * b.engine.cache.length < UInt64.size := fun h =>
        hsize (Nat.mod_eq_of_lt h).symm
      simp [hlarge]
    · rename_i hsize
      have hreported := Decidable.not_not.mp hsize
      have hsmall : 4 + 4 * b.engine.cache.length < UInt64.size := by
        rw [hreported]
        exact Nat.mod_lt _ (by decide)
      rw [← hreported]
      simp only [Outcome.pure_eq, Outcome.ok.injEq, hsmall, true_and, List.append_assoc]
      rw [written, counted.eq_def (b.logits.map _), List.length_map, List.append_assoc]
      exact eq_comm

theorem serialize_eq_ok_iff (hw : w.Steady) {b : EngineBackend Engine} (hb : Countable b)
    {bytes : Bytes} :
    Backend.serialize w b = .ok bytes ↔ w.switches.saveError = none ∧ bytes = written b := by
  have hcache := hb.cache
  have hsize : 4 + 4 * b.engine.cache.length < UInt64.size := by
    simp only [UInt32.size, UInt64.size] at *
    omega
  rw [serialize_eq_ok_iff_size hw]
  exact and_congr_right fun _ => and_iff_right hsize

/-- A backend with the state of another one and its own bounds. -/
def taking (b b₀ : EngineBackend Engine) : EngineBackend Engine :=
  { engine := { b.engine with cache := b₀.engine.cache }
    context := { b.context with tokens := b₀.context.tokens }
    logits := b₀.logits }

/-- Whoever reads a written payload and its engine section finds what was written. -/
theorem sections_written {b : EngineBackend Engine} (hb : Countable b) {n vocab : Nat}
    {parts : Sections} {cache : List UInt32} {rest : Bytes}
    (hp : Sections.decode n (.ok vocab) (written b) = .ok parts)
    (hd : Engine.decode parts.engine = .ok (cache, rest)) :
    parts.context = ⟨b.context.tokens, n⟩ ∧ parts.logits = b.logits ∧ cache = b.engine.cache ∧
      rest = [] ∧ parts.rest = [] := by
  obtain ⟨hin, henc⟩ := Sections.decode_ok_eq_ok_iff.mp hp
  obtain ⟨hcache, hengine⟩ := Engine.decode_eq_ok_iff.mp hd
  obtain ⟨htokens, henc⟩ := counted_append_inj hb.context hin.contextCount henc
  obtain ⟨hbits, henc⟩ := counted_append_inj (by simpa using hb.logits)
    (by simpa using hin.logitsCount) henc
  obtain ⟨-, henc⟩ := List.append_inj henc rfl
  rw [hengine, List.append_assoc, ← List.append_nil (counted b.engine.cache)] at henc
  obtain ⟨hc, hrest⟩ := counted_append_inj hb.cache hcache henc
  obtain ⟨hr, hr'⟩ := List.append_eq_nil_iff.mp hrest.symm
  have hlogits : parts.logits = b.logits := by
    refine (List.map_inj_right ?_).mp hbits.symm
    rintro ⟨x⟩ ⟨y⟩ rfl
    rfl
  have hcontext : parts.context = ⟨b.context.tokens, n⟩ := by
    rw [htokens, ← hin.window]
  exact ⟨hcontext, hlogits, hc.symm, hr, hr'⟩

/-- A written payload is taken whole, or the backend that reads it is left as it is. -/
theorem deserialize_written (hw : w.Steady) {b₀ : EngineBackend Engine} (hb : Countable b₀)
    (b : EngineBackend Engine) :
    (∃ e, Backend.deserialize w b (written b₀) = (.error e, b)) ∨
      b₀.context.length ≤ b.context.window ∧ b₀.logits.length ≤ b.engine.vocab ∧
        Backend.deserialize w b (written b₀) = (.ok (written b₀).length, taking b b₀) := by
  have h := deserialize_deserialized hw b (written b₀)
  generalize Backend.deserialize w b (written b₀) = r at h
  cases h with
  | refused hd => exact .inl ⟨_, rfl⟩
  | partly hl hp hd hr =>
    obtain ⟨-, -, -, hrest, -⟩ := sections_written hb hp hd
    exact absurd hrest hr
  | taken hl hp hd =>
    obtain ⟨hcontext, hlogits, hcache, -, hrest⟩ := sections_written hb hp hd
    obtain ⟨hin, -⟩ := Sections.decode_ok_eq_ok_iff.mp hp
    refine .inr ⟨?_, ?_, ?_⟩
    · have hc := hin.context
      rw [hcontext] at hc
      exact hc
    · rw [← hlogits]
      exact hin.logits
    · rw [hcontext, hlogits, hcache, hrest]
      rfl

/-- A backend that reads its own payload is the same afterwards, whether it takes it or not. -/
theorem deserialize_own (hw : w.Steady) {b b' : EngineBackend Engine} (hb : Countable b)
    {o : Outcome BackendError Nat} (h : Backend.deserialize w b (written b) = (o, b')) :
    b' = b ∧ (o = .ok (written b).length ∨ ∃ e, o = .error e) := by
  rcases deserialize_written hw hb b with ⟨e, he⟩ | ⟨-, -, hok⟩
  · rw [he] at h
    cases h
    exact ⟨rfl, .inr ⟨e, rfl⟩⟩
  · rw [hok] at h
    cases h
    exact ⟨rfl, .inl rfl⟩

/-- The bounds of a configuration, which every call keeps. The cache holds no more than the window,
or it comes from a payload. -/
structure Bounded (n v : Nat) (b : EngineBackend Engine) : Prop where
  counts : n ≤ Config.maxCount ∧ v ≤ Config.maxCount
  window : b.context.window = n
  vocab : b.engine.vocab = v
  context : b.context.length ≤ n
  logits : b.logits.length ≤ v
  cache : b.engine.cache.length ≤ n ∨ Storable b

namespace Bounded

variable {n v : Nat} {b : EngineBackend Engine}

theorem countable (h : Bounded n v b) : Countable b := by
  have hcounts := h.counts
  have hc := h.context
  have hl := h.logits
  have he := h.cache
  simp only [Config.maxCount, Storable, UInt32.size] at *
  exact ⟨by simp only [UInt32.size]; omega, by simp only [UInt32.size]; omega,
    by simp only [UInt32.size]; omega⟩

theorem evaluated (h : Bounded n v b) {held : Nat} {tokens : List UInt32}
    {r : Outcome BackendError Unit × EngineBackend Engine} (he : Evaluated b held tokens r) :
    Bounded n v r.2 := by
  obtain ⟨hcounts, hwindow, hvocab, hcontext, hlogits, hcache⟩ := h
  cases he with
  | refused hd => exact ⟨hcounts, hwindow, hvocab, hcontext, hlogits, hcache⟩
  | advanced hh hroom =>
    refine ⟨hcounts, hwindow, hvocab, ?_, ?_, .inl ?_⟩
    · simp only [TokenContext.length, List.length_append] at *
      omega
    · simp [Engine.logits, hvocab]
    · simp only [List.length_append, List.length_take]
      omega
  | undone hd hh =>
    refine ⟨hcounts, hwindow, hvocab, hcontext, hlogits, .inl ?_⟩
    simp only [List.length_take]
    omega
  | dirty hd hh hroom =>
    refine ⟨hcounts, hwindow, hvocab, hcontext, hlogits, .inl ?_⟩
    simp only [List.length_append, List.length_take, List.length_singleton]
    omega

theorem evicted (h : Bounded n v b) {m : Nat}
    {r : Outcome BackendError Unit × EngineBackend Engine} (he : Evicted b m r) :
    Bounded n v r.2 := by
  obtain ⟨hcounts, hwindow, hvocab, hcontext, hlogits, hcache⟩ := h
  have hcontext' : (b.context.truncate m).length ≤ n := by
    simp only [TokenContext.length, TokenContext.tokens_truncate, List.length_take] at *
    omega
  have hlogits' : (keptLogits b m).length ≤ v := by
    unfold keptLogits
    split
    · exact Nat.zero_le v
    · exact hlogits
  cases he with
  | done =>
    refine ⟨hcounts, hwindow, hvocab, hcontext', hlogits', ?_⟩
    simp only [Storable, List.length_take] at *
    omega
  | failed => exact ⟨hcounts, hwindow, hvocab, hcontext', hlogits', hcache⟩

theorem deserialized (h : Bounded n v b) {payload : Bytes}
    {r : Outcome BackendError Nat × EngineBackend Engine} (hd : Deserialized w b payload r) :
    Bounded n v r.2 := by
  obtain ⟨hcounts, hwindow, hvocab, hcontext, hlogits, hcache⟩ := h
  -- an engine section is no longer than its size word says, and neither is the cache in it
  have hsection {parts : Sections} {cache : List UInt32} {rest : Bytes}
      (hin : parts.Within b.context.window b.engine.vocab)
      (hd : Engine.decode parts.engine = .ok (cache, rest)) :
      4 + 4 * cache.length < UInt32.size := by
    have hsize := hin.engineSize
    rw [(Engine.decode_eq_ok_iff.mp hd).2, List.length_append, length_counted] at hsize
    omega
  cases hd with
  | taken hl hp hd =>
    obtain ⟨hin, -⟩ := Sections.decode_ok_eq_ok_iff.mp hp
    have hcache' := hsection hin hd
    rw [hwindow, hvocab] at hin
    exact ⟨hcounts, hin.window, hvocab, hin.context, hin.logits, .inr hcache'⟩
  | partly hl hp hd hr =>
    obtain ⟨hin, -⟩ := Sections.decode_ok_eq_ok_iff.mp hp
    exact ⟨hcounts, hwindow, hvocab, hcontext, hlogits, .inr (hsection hin hd)⟩
  | refused hd => exact ⟨hcounts, hwindow, hvocab, hcontext, hlogits, hcache⟩

/-- Windows of less than four gigabytes of tokens make every state storable. -/
theorem storable (h : Bounded n v b) (hn : 4 + 4 * n < UInt32.size) : Storable b := by
  have he := h.cache
  simp only [Storable] at *
  omega

/-- A backend that takes the state of another one with the same bounds is the other one. -/
theorem taking_eq {b₀ : EngineBackend Engine} (h : Bounded n v b) (h₀ : Bounded n v b₀) :
    taking b b₀ = b₀ := by
  have hwindow := h.window.trans h₀.window.symm
  have hvocab := h.vocab.trans h₀.vocab.symm
  simp only [taking, hwindow, hvocab]

end Bounded

/-- The family opens backends of valid configurations only, and opens them empty. -/
theorem load_eq_ok {c : Config} {b : EngineBackend Engine} {log : List String}
    (h : engineFamily.load w c = (.ok b, log)) :
    c.Valid ∧ b = .fresh ⟨[], c.vocab⟩ c.window := by
  simp only [engineFamily, EngineFactory.family] at h
  split at h
  · cases h
  · rename_i hc
    refine ⟨Config.validate_eq_ok_iff.mp hc, ?_⟩
    split at h
    · cases h
    · simp only [factory] at h
      split at h
      · cases h
      · cases h
      · cases h
        rfl

theorem bounded_of_load {c : Config} {b : EngineBackend Engine} {log : List String}
    (h : engineFamily.load w c = (.ok b, log)) : Bounded c.window c.vocab b := by
  obtain ⟨hc, rfl⟩ := load_eq_ok h
  exact ⟨⟨hc.window.2, hc.vocab.2⟩, rfl, rfl, Nat.zero_le _, Nat.zero_le _, .inl (Nat.zero_le _)⟩

/-- A world with one model file. -/
def filed (switches : Switches) : World :=
  { switches, files := ⟨[("m", [0x47, 0x47, 0x55, 0x46, 3, 0, 0, 0])]⟩ }

/-- A world in which neither evaluations nor their cleanup succeed. -/
def busy : World := filed { evalError := some "busy", removeError := some "busy" }

theorem load_filed :
    engineFamily.load (filed {}) { model := "m", vocab := 4, window := 8 } =
      (.ok (.fresh ⟨[], 4⟩ 8), ["load m v3 8 bytes"]) := by
  cbv

end Simulation

end Decoding

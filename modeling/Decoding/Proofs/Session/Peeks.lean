import Decoding.Proofs.Backend.Window
import Decoding.Proofs.Session.Faults
import Decoding.Simulation.Engine

/-!
What a session shows of the scores. Both ways to look at them fill a buffer of the size asked for:
what the backend has is at the front, and zeros are behind it, whatever was in the buffer and
however much of it there is. A look for less shows the front of what a look for more shows.
-/

namespace Decoding

namespace Scoring

/-- A rule makes every score without regard to how many are asked for. -/
theorem take_scores (scoring : Scoring) (held room : Nat) :
    (scoring.scores held scoring.vocab).take room = scoring.scores held room := by
  cases scoring with
  | ramp vocab =>
    simp only [scores, Scoring.vocab, Nat.min_self, ← List.map_take, List.take_range]
  | table scores => simp only [Scoring.scores, Scoring.vocab, List.take_length]

end Scoring

/-- A backend that has these scores and no others gives as many of them as there is room for. -/
def Backend.Has (ω : Type) {β : Type} [Device β] [Backend ω β] (b : β) (scores : List Score) :
    Prop :=
  ∀ (w : ω) (buffer : List Score), Backend.scores w b buffer =
    (.ok (min buffer.length scores.length), scores.take buffer.length)

theorem Stub.has_scores {ω : Type} (b : Stub) :
    Backend.Has ω b (b.scoring.scores b.context.length b.vocab) := by
  intro w buffer
  have hfront := b.scoring.take_scores b.context.length buffer.length
  change (Outcome.ok (b.scoring.scores b.context.length buffer.length).length,
    b.scoring.scores b.context.length buffer.length) = _
  rw [← hfront, List.length_take]
  rfl

theorem EngineBackend.has_logits {ω ε : Type} [Engine ω ε] (b : EngineBackend ε) :
    Backend.Has ω b b.logits := fun _ _ => rfl

namespace Session

section Overlay

variable {scores buffer : List Score} {reported n m i : Nat}

/-- Scores in a buffer of the given size, with zeros behind them. -/
def padded (scores : List Score) (n : Nat) : List Score :=
  scores.take n ++ List.replicate (n - scores.length) .zero

@[simp] theorem length_padded (scores : List Score) (n : Nat) : (padded scores n).length = n := by
  simp only [padded, List.length_append, List.length_take, List.length_replicate]
  omega

/-- What was in the buffer does not show. -/
theorem overlay_take (scores buffer : List Score) :
    overlay (scores.take buffer.length) (min buffer.length scores.length) buffer =
      padded scores buffer.length := by
  have hlength : (scores.take buffer.length).length = min buffer.length scores.length :=
    List.length_take
  have hzeros : buffer.length - min buffer.length scores.length =
      buffer.length - scores.length := by omega
  rw [overlay, written, List.take_take, Nat.min_self, hlength, ← hlength, List.take_left, hlength,
    hzeros, padded]

theorem take_padded (h : n ≤ m) : (padded scores m).take n = padded scores n := by
  have hzeros : min (n - min m scores.length) (m - scores.length) = n - scores.length := by omega
  simp only [padded, List.take_append, List.take_take, List.length_take, List.take_replicate,
    Nat.min_eq_left h, hzeros]

theorem take_length_padded (scores : List Score) (n : Nat) :
    (padded scores n).take scores.length = scores.take n := by
  have hnone : min (scores.length - min n scores.length) (n - scores.length) = 0 := by omega
  simp only [padded, List.take_append, List.take_take, List.length_take, List.take_replicate,
    hnone, List.replicate_zero, List.append_nil]
  rw [Nat.min_comm, ← List.take_take, List.take_length]

theorem getElem?_padded (hi : scores.length ≤ i) (hn : i < n) :
    (padded scores n)[i]? = some .zero := by
  rw [padded, List.getElem?_append_right (by simp; omega), List.getElem?_replicate_of_lt]
  rw [List.length_take]
  omega

/-- Entries that the backend does not claim to have written are zeros. -/
theorem getElem?_overlay (hi : reported ≤ i) (hn : i < buffer.length) :
    (overlay scores reported buffer)[i]? = some .zero := by
  rw [overlay, List.getElem?_append_right (by simp; omega), List.getElem?_replicate_of_lt]
  rw [List.length_take, length_written]
  omega

end Overlay

variable {ω β : Type} [Device β] [Backend ω β] {s : Session β} {scores : List Score}

theorem peekInto_of_has (hf : s.fault = none) (hb : Backend.Has ω s.backend scores) (w : ω)
    {buffer : List Score} (hne : buffer ≠ []) :
    s.peekInto w buffer = (.ok buffer.length, padded scores buffer.length) := by
  rw [peekInto, if_neg hne, hf]
  simp only [hb w buffer, overlay_take]

theorem peek_of_has (hf : s.fault = none) (hb : Backend.Has ω s.backend scores) (w : ω) {n : Nat}
    (hn : 0 < n) (hfits : Score.size * n ≤ Buffer.maxBytes) :
    s.peek w n = .ok (padded scores n) := by
  have hne : List.replicate n Score.zero ≠ [] := by
    rw [ne_eq, List.replicate_eq_nil_iff]
    omega
  rw [peek, if_neg (Nat.ne_of_gt hn), Buffer.make_of_le hfits, peekInto_of_has hf hb w hne,
    List.length_replicate]
  rfl

/-- A peek that shows scores has asked for some, in a buffer that can exist. -/
theorem peek_eq_ok {w : ω} {n : Nat} {shown : List Score} (h : s.peek w n = .ok shown) :
    0 < n ∧ Score.size * n ≤ Buffer.maxBytes := by
  unfold peek Buffer.make at h
  split at h
  · cases h
  · split at h
    · exact ⟨by omega, by assumption⟩
    · cases h

/-- The laws of looking at scores, of which the session has so many as its width. -/
structure Peeks (ω : Type) {β : Type} [Device β] [Backend ω β] (s : Session β) (width : Nat) :
    Prop where
  /-- Both ways show the same, whatever was in the buffer. -/
  same {w : ω} {n : Nat} {buffer : List Score} : 0 < n → buffer.length = n →
    Score.size * n ≤ Buffer.maxBytes →
      ∃ shown, shown.length = n ∧ s.peek w n = .ok shown ∧ s.peekInto w buffer = (.ok n, shown)
  front {w w' : ω} {n m : Nat} {shown : List Score} : 0 < n → n ≤ m →
    s.peek w m = .ok shown → s.peek w' n = .ok (shown.take n)
  /-- Behind the width there are zeros. -/
  zero {w : ω} {n i : Nat} {shown : List Score} : s.peek w n = .ok shown → width ≤ i → i < n →
    shown[i]? = some .zero
  /-- Within the width there are the scores of the session, however many are asked for. -/
  held : ∃ scores : List Score, scores.length = width ∧
    ∀ (w : ω) (n : Nat) (shown : List Score), s.peek w n = .ok shown →
      shown.take width = scores.take n

theorem peeks_of_has (hf : s.fault = none) (hb : Backend.Has ω s.backend scores) :
    s.Peeks ω scores.length where
  same {w n buffer} hn hlength hfits := by
    have hne : buffer ≠ [] := by
      rintro rfl
      exact Nat.ne_of_gt hn hlength.symm
    refine ⟨padded scores n, length_padded scores n, peek_of_has hf hb w hn hfits, ?_⟩
    rw [peekInto_of_has hf hb w hne, hlength]
  front {w w' n m shown} hn hle h := by
    obtain ⟨hm, hfits⟩ := peek_eq_ok h
    rw [peek_of_has hf hb w hm hfits] at h
    cases h
    have hfits' : Score.size * n ≤ Buffer.maxBytes :=
      Nat.le_trans (Nat.mul_le_mul_left _ hle) hfits
    rw [take_padded hle, peek_of_has hf hb w' hn hfits']
  zero {w n i shown} h hi hlt := by
    obtain ⟨hn, hfits⟩ := peek_eq_ok h
    rw [peek_of_has hf hb w hn hfits] at h
    cases h
    exact getElem?_padded hi hlt
  held := by
    refine ⟨scores, rfl, fun w n shown h => ?_⟩
    obtain ⟨hn, hfits⟩ := peek_eq_ok h
    rw [peek_of_has hf hb w hn hfits] at h
    cases h
    exact take_length_padded scores n

/-- The width of a stub is the one that it was opened with. -/
theorem peeks_stub {c : Config} {b : Stub} (hb : b = .deterministic c ∨ Stub.fixed c = .ok b)
    (calls : List (ω × Call)) (hf : ((fresh b).run calls).2.fault = none) :
    ((fresh b).run calls).2.Peeks ω c.vocab := by
  have hscoring : ((fresh b).run calls).2.backend.scoring = b.scoring :=
    run_keeps (Stub.keeps_scoring b.scoring) rfl calls
  have hpeeks := peeks_of_has hf (Stub.has_scores (ω := ω) _)
  rw [Scoring.length_scores, Stub.vocab, hscoring] at hpeeks
  have hwidth : b.scoring.vocab = c.vocab := (Stub.new_eq hb).1
  rwa [Nat.min_self, hwidth] at hpeeks

/-- A peek that fills a buffer fails for want of a buffer or for a fault. -/
theorem peekInto_eq_error {w : ω} {buffer out : List Score} {e : SessionError}
    (h : s.peekInto w buffer = (.error e, out)) :
    out = buffer ∧ (buffer = [] ∧ e = .invalidArgument .emptyScoreBuffer ∨
      ∃ fault, s.fault = some fault ∧ e = .faulted fault) := by
  unfold peekInto at h
  split at h
  · cases h
    exact ⟨rfl, .inl ⟨by assumption, rfl⟩⟩
  · split at h
    · cases h
      exact ⟨rfl, .inr ⟨_, by assumption, rfl⟩⟩
    · split at h <;> cases h

/-- Over any backend that comes back, a buffer is filled whole, with zeros from the number on that is
reported. -/
theorem peekInto_of_scores (hf : s.fault = none) {w : ω} {buffer : List Score} (hne : buffer ≠ [])
    {reported : Nat} (hscores : Backend.scores w s.backend buffer = (.ok reported, scores)) :
    ∃ out, s.peekInto w buffer = (.ok buffer.length, out) ∧ out.length = buffer.length ∧
      ∀ i, reported ≤ i → i < buffer.length → out[i]? = some .zero := by
  refine ⟨overlay scores reported buffer, ?_, length_overlay .., fun i => getElem?_overlay⟩
  simp only [peekInto, if_neg hne, hf, hscores]

/-- A backend that crashes leaves in the buffer what it has written. -/
theorem peekInto_of_scores_crash (hf : s.fault = none) {w : ω} {buffer : List Score}
    (hne : buffer ≠ []) {text : String}
    (hscores : Backend.scores w s.backend buffer = (.crash text, scores)) :
    s.peekInto w buffer = (.crash text, written scores buffer) := by
  simp only [peekInto, if_neg hne, hf, hscores]

/-- The laws of looking at scores hold of every session over a stub, with the width that the stub was
opened with, and of every session over an engine backend, with as many logits as the backend holds,
wherever calls have led it, as long as it is not faulted. Over any backend, whatever it reports, a
buffer is filled whole, with zeros from the number on that is reported; a backend that crashes leaves
in it what it has written. An error leaves the buffer as it is, and a peek for more scores than a
buffer can hold crashes and changes nothing. -/
theorem peeks_agree (ω : Type) :
    (∀ (c : Config) (b : Stub), (b = .deterministic c ∨ Stub.fixed c = .ok b) →
      ∀ calls : List (ω × Call), ((fresh b).run calls).2.fault = none →
        ((fresh b).run calls).2.Peeks ω c.vocab) ∧
    (∀ (ε : Type) [Engine ω ε] (engine : ε) (window : Nat) (calls : List (ω × Call)),
      let s := ((fresh (EngineBackend.fresh engine window)).run calls).2
      s.fault = none → s.Peeks ω s.backend.logits.length) ∧
    ∀ (β : Type) [Device β] [Backend ω β] (w : ω) (s : Session β),
      (s.fault = none → ∀ buffer, buffer ≠ [] →
        (∀ reported scores, Backend.scores w s.backend buffer = (.ok reported, scores) →
          ∃ out, s.peekInto w buffer = (.ok buffer.length, out) ∧ out.length = buffer.length ∧
            ∀ i, reported ≤ i → i < buffer.length → out[i]? = some .zero) ∧
        ∀ text scores, Backend.scores w s.backend buffer = (.crash text, scores) →
          s.peekInto w buffer = (.crash text, written scores buffer)) ∧
      (∀ buffer out e, s.peekInto w buffer = (.error e, out) →
        out = buffer ∧ (buffer = [] ∧ e = .invalidArgument .emptyScoreBuffer ∨
          ∃ fault, s.fault = some fault ∧ e = .faulted fault)) ∧
      s.peek w 0 = .error (.invalidArgument .zeroScores) ∧
      ∀ n, 9223372036854775807 < 4 * n →
        s.perform w (.peek n) = (.crash "capacity overflow", s) := by
  refine ⟨fun c b => peeks_stub,
    fun ε _ engine window calls hf => peeks_of_has hf (EngineBackend.has_logits _),
    fun β _ _ w s => ⟨fun hf buffer hne => ⟨fun reported scores => peekInto_of_scores hf hne,
      fun text scores => peekInto_of_scores_crash hf hne⟩, fun buffer out e => peekInto_eq_error,
      rfl, fun n hn => ?_⟩⟩
  rw [perform, peek_of_large hn]
  rfl

/-- After a rollback an engine backend has no logits, and both ways to look show zeros. -/
theorem peeks_agree_rolled_back :
    let w : Simulation.World := {}
    let engine : Simulation.Engine := ⟨[], 4⟩
    let s := ((fresh (EngineBackend.fresh engine 8)).run [(w, .step [1, 2]), (w, .rollback 1)]).2
    s.fault = none ∧ ∃ shown, s.peek w 2 = .ok shown ∧
      s.peekInto w [⟨7⟩, ⟨8⟩] = (.ok 2, shown) ∧ shown[0]? = some .zero ∧ shown[1]? = some .zero := by
  intro w engine s
  have hf : s.fault = none := rfl
  have hpeeks := (peeks_agree Simulation.World).2.1 Simulation.Engine engine 8
    [(w, .step [1, 2]), (w, .rollback 1)] hf
  obtain ⟨shown, -, hpeek, hinto⟩ : ∃ shown : List Score, shown.length = 2 ∧
      s.peek w 2 = .ok shown ∧ s.peekInto w [⟨7⟩, ⟨8⟩] = (.ok 2, shown) :=
    hpeeks.same (by decide) rfl (by decide)
  exact ⟨hf, shown, hpeek, hinto, hpeeks.zero hpeek (by decide) (by decide),
    hpeeks.zero hpeek (by decide) (by decide)⟩

/-- The scores of a larger buffer are not always there to compare with: no buffer can hold so many,
and the peek for them crashes where one for four shows them. -/
theorem peek_of_large_crashes :
    let s := fresh (Stub.deterministic { model := "m", vocab := 4, window := 16 })
    s.fault = none ∧ (∃ shown, s.peek () 4 = .ok shown) ∧ 4 ≤ 2305843009213693952 ∧
      s.peek () 2305843009213693952 = .crash "capacity overflow" ∧
      ¬ ∃ shown, s.peek () 2305843009213693952 = .ok shown ∧
        s.peek () 4 = .ok (shown.take 4) := by
  intro s
  have hcrash : s.peek () 2305843009213693952 = .crash "capacity overflow" :=
    peek_of_large (by decide)
  refine ⟨rfl, ⟨_, rfl⟩, by decide, hcrash, ?_⟩
  rintro ⟨shown, hshown, -⟩
  rw [hcrash] at hshown
  cases hshown

end Session

end Decoding

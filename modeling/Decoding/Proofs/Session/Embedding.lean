import Decoding.Backend.Either
import Decoding.Proofs.Session.Reachable

/-!
Sessions over backends that stand for other ones. If all calls of a backend are those of
the backend it stands for, a session over the one answers as a session over the other. In
particular a session over a backend of either kind is a session over the kind that is
there, and it is reached from sessions of that kind only.
-/

namespace Decoding

variable {ω α β : Type} [Device α] [Backend ω α] [Device β] [Backend ω β]

/-- A backend `f a` answers every call as `a` does and then stands for what `a` has become. -/
structure Backend.Embeds (ω : Type) {α β : Type} [Device α] [Backend ω α] [Device β]
    [Backend ω β] (f : α → β) : Prop where
  name (a : α) : Device.name (f a) = Device.name a
  context (a : α) : Device.context (f a) = Device.context a
  evaluate (w : ω) (a : α) (held : Nat) (tokens : List UInt32) :
    Backend.evaluate w (f a) held tokens = (Backend.evaluate w a held tokens).map id f
  scores (w : ω) (a : α) : Backend.scores w (f a) = Backend.scores w a
  evict (w : ω) (a : α) (n : Nat) : Backend.evict w (f a) n = (Backend.evict w a n).map id f
  stateSize (w : ω) (a : α) : Backend.stateSize w (f a) = Backend.stateSize w a
  serialize (w : ω) (a : α) : Backend.serialize w (f a) = Backend.serialize w a
  deserialize (w : ω) (a : α) (payload : Bytes) :
    Backend.deserialize w (f a) payload = (Backend.deserialize w a payload).map id f
  tokenize (w : ω) (a : α) : Backend.tokenize w (f a) = Backend.tokenize w a
  piece (w : ω) (a : α) : Backend.piece w (f a) = Backend.piece w a
  memory (w : ω) (a : α) : Backend.memory w (f a) = Backend.memory w a

theorem Backend.embeds_inl : Embeds ω (Sum.inl : α → α ⊕ β) :=
  ⟨fun _ => rfl, fun _ => rfl, fun _ _ _ _ => rfl, fun _ _ => rfl, fun _ _ _ => rfl, fun _ _ => rfl,
    fun _ _ => rfl, fun _ _ _ => rfl, fun _ _ => rfl, fun _ _ => rfl, fun _ _ => rfl⟩

theorem Backend.embeds_inr : Embeds ω (Sum.inr : β → α ⊕ β) :=
  ⟨fun _ => rfl, fun _ => rfl, fun _ _ _ _ => rfl, fun _ _ => rfl, fun _ _ _ => rfl, fun _ _ => rfl,
    fun _ _ => rfl, fun _ _ _ => rfl, fun _ _ => rfl, fun _ _ => rfl, fun _ _ => rfl⟩

namespace Session

open Snapshot

/-- The same session over another backend. -/
def map (f : α → β) (s : Session α) : Session β :=
  { backend := f s.backend
    position := s.position
    committed := s.committed
    staged := s.staged
    fault := s.fault }

/-- The same session with another backend in the place of its own. -/
def withBackend (s : Session α) (b : β) : Session β := s.map fun _ => b

variable {f : α → β}

theorem step_map (hf : Backend.Embeds ω f) (s : Session α) (w : ω) (tokens : List UInt32) :
    (s.map f).step w tokens = (s.step w tokens).map id (map f) := by
  obtain ⟨a, position, committed, staged, fault⟩ := s
  cases fault with
  | some fault => rfl
  | none =>
    simp only [step, map, hf.evaluate]
    split
    · rfl
    · obtain ⟨o, a'⟩ := Backend.evaluate w a position tokens
      cases o <;> rfl

theorem rollback_map (hf : Backend.Embeds ω f) (s : Session α) (w : ω) (steps : Nat) :
    (s.map f).rollback w steps = (s.rollback w steps).map id (map f) := by
  unfold rollback map
  simp only [hf.evict]
  split
  · rfl
  · obtain ⟨o, a⟩ := Backend.evict w s.backend (s.position - min steps s.position)
    cases o <;> rfl

theorem peekInto_map (hf : Backend.Embeds ω f) (s : Session α) (w : ω) (buffer : List Score) :
    (s.map f).peekInto w buffer = s.peekInto w buffer := by
  simp only [peekInto, map, hf.scores]

theorem describe_map (hf : Backend.Embeds ω f) (s : Session α) :
    (s.map f).describe = s.describe := by
  have hname : (s.map f).backendName = s.backendName := hf.name s.backend
  have hposition : (s.map f).position = s.position := rfl
  have hstaged : (s.map f).staged = s.staged := rfl
  have hfault : (s.map f).fault = s.fault := rfl
  unfold describe
  rw [hname, hposition, hstaged, hfault]

theorem checkedSize_map (hf : Backend.Embeds ω f) (s : Session α) (w : ω) (limit : Nat) :
    (s.map f).checkedSize w limit = s.checkedSize w limit := by
  simp only [checkedSize, snapshotSize, map, hf.stateSize]

theorem encode_map (hf : Backend.Embeds ω f) (s : Session α) (w : ω) (total : Nat) :
    (s.map f).encode w total = s.encode w total := by
  simp only [encode, map, hf.serialize]

theorem snapshot_map (hf : Backend.Embeds ω f) (s : Session α) (w : ω) (limit : Nat) :
    (s.map f).snapshot w limit = s.snapshot w limit := by
  simp only [snapshot, checkedSize_map hf, encode_map hf]

theorem takePayload_map (hf : Backend.Embeds ω f) (w : ω) (a : α) (payload : Bytes)
    (position : Nat) :
    takePayload w (f a) payload position = (takePayload w a payload position).map id f := by
  unfold takePayload
  rw [hf.deserialize]
  obtain ⟨o, a'⟩ := Backend.deserialize w a payload
  cases o with
  | error e => rfl
  | crash t => rfl
  | ok consumed =>
    simp only [Prod.map, id, hf.context]
    split
    · rfl
    · split <;> rfl

theorem putBack_map (hf : Backend.Embeds ω f) (s : Session α) (w : ω) (backup : Bytes)
    (e : SessionError) : (s.map f).putBack w backup e = (s.putBack w backup e).map id (map f) := by
  unfold putBack map
  simp only [hf.deserialize]
  obtain ⟨o, a⟩ := Backend.deserialize w s.backend backup
  cases o <;> rfl

theorem restore_map (hf : Backend.Embeds ω f) (s : Session α) (w : ω) (bytes : Bytes)
    (limit : Nat) : (s.map f).restore w bytes limit = (s.restore w bytes limit).map id (map f) := by
  have hbackup : (s.map f).backup w = s.backup w := by
    simp only [backup, map, hf.stateSize, hf.serialize]
  unfold restore
  rw [hbackup]
  cases checkEnvelope bytes limit with
  | error e => rfl
  | ok header =>
    simp only
    cases s.backup w with
    | error e => rfl
    | crash t => rfl
    | ok saved =>
      simp only
      rw [show (s.map f).backend = f s.backend from rfl, takePayload_map hf]
      obtain ⟨o, a⟩ := takePayload w s.backend (bytes.drop headerSize) header.position.toNat
      cases o with
      | ok u => simp only [Prod.map, id, map, hf.context]
      | crash t => rfl
      | error e => exact putBack_map hf { s with backend := a } w saved e

/-- Every call of a session over `f a` is the call of a session over `a`. -/
theorem perform_map (hf : Backend.Embeds ω f) (s : Session α) (w : ω) (call : Call) :
    (s.map f).perform w call = (s.perform w call).map id (map f) := by
  cases call with
  | step tokens =>
    simp only [perform, step_map hf]
    generalize s.step w tokens = r
    rfl
  | rollback steps =>
    simp only [perform, rollback_map hf]
    generalize s.rollback w steps = r
    rfl
  | restore bytes limit =>
    simp only [perform, restore_map hf]
    generalize s.restore w bytes limit = r
    rfl
  | peek count => simp only [perform, peek, peekInto_map hf, Prod.map, id]
  | peekInto buffer => simp only [perform, peekInto_map hf, Prod.map, id]
  | snapshotSize => simp only [perform, snapshotSize, map, hf.stateSize, Prod.map, id]
  | snapshot limit => simp only [perform, snapshot_map hf, Prod.map, id]
  | snapshotInto buffer limit =>
    simp only [perform, snapshotInto, checkedSize_map hf, encode_map hf, Prod.map, id]
  | tokenize text => simp only [perform, tokenize, map, hf.tokenize, Prod.map, id]
  | piece token => simp only [perform, piece, map, hf.piece, Prod.map, id]
  | memory => simp only [perform, memory, map, hf.memory, Prod.map, id]
  | name => simp only [perform, backendName, map, hf.name, Prod.map, id]
  | describe =>
    simp only [perform, describe_map hf]
    generalize s.describe = text
    rfl
  | idle => rfl
  | crash text => rfl

theorem run_map (hf : Backend.Embeds ω f) (s : Session α) (calls : List (ω × Call)) :
    (s.map f).run calls = (s.run calls).map id (map f) := by
  induction calls generalizing s with
  | nil => rfl
  | cons p calls ih =>
    obtain ⟨w, call⟩ := p
    rw [run_cons, perform_map hf]
    simp only [Prod.map, id, ih, run_cons]

/-- A session that is reached over backends that stand for others stands for one that is reached
over those. -/
theorem Reachable.exists_map (hf : Backend.Embeds ω f) {opened : β → Prop} {opened' : α → Prop}
    {met : ω → Prop} {foreign : Session β → Prop} (foreign' : Session α → Prop)
    (ho : ∀ b, opened b → ∃ a, b = f a ∧ opened' a)
    (hforeign : ∀ s : Session α, foreign (s.map f) → foreign' s) {s : Session β}
    (h : Reachable opened met foreign s) :
    ∃ s' : Session α, s = s'.map f ∧ Reachable opened' met foreign' s' := by
  induction h with
  | fresh hb =>
    obtain ⟨a, rfl, ha⟩ := ho _ hb
    exact ⟨Session.fresh a, rfl, .fresh ha⟩
  | call hs hw hc ih =>
    obtain ⟨s', rfl, hs'⟩ := ih
    exact ⟨_, congrArg Prod.snd (perform_map hf s' _ _), .call hs' hw hc⟩
  | restore hs hw ht hw' he ihs iht =>
    obtain ⟨s', rfl, hs'⟩ := ihs
    obtain ⟨t', rfl, ht'⟩ := iht
    obtain ⟨limit, he⟩ := exports_iff.mp he
    rw [snapshot_map hf] at he
    exact ⟨_, congrArg Prod.snd (perform_map hf s' _ _), .restore hs' hw ht' hw' (.value he)⟩
  | restoreForeign hs hw hfor ih =>
    obtain ⟨s', rfl, hs'⟩ := ih
    exact ⟨_, congrArg Prod.snd (perform_map hf s' _ _), .restoreForeign hs' hw (hforeign _ hfor)⟩

end Session

end Decoding

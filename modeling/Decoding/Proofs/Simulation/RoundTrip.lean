import Decoding.Host.Call
import Decoding.Proofs.Session.Alike
import Decoding.Proofs.Session.Embedding
import Decoding.Proofs.Session.History
import Decoding.Proofs.Simulation.Session
import Decoding.Simulation.Families

/-!
Export and import. A session that takes the snapshot of another one is the other one
afterwards, except that no tokens are staged; nothing is left of what it was, not even a
fault. From then on both give the same answers.
-/

namespace Decoding.Simulation

open EngineBackend Session Snapshot

section Stubs

variable {ω : Type} {b : Stub} {met : ω → Prop} {foreign : Session Stub → Prop}

/-- Any tokens are the last batch of some calls. -/
theorem exists_lastBatch (staged : List UInt32) :
    ∃ earlier, History.lastBatch earlier = staged := by
  cases staged with
  | nil => exact ⟨[], rfl⟩
  | cons t ts => exact ⟨[(.step (t :: ts), .ok .done)], rfl⟩

/-- Every session that is reached over a new stub is a history. -/
theorem exists_ofHistory (hw : b.context.window ≤ Config.maxCount) (hb : b.context.tokens = [])
    {s : Session Stub} (h : Reachable (· = b) met foreign s) :
    ∃ held staged, s = ofHistory b held staged ∧ b.Fits held := by
  have hnext (s : Session Stub) (w : ω) (call : Call)
      (hs : ∃ held staged, s = ofHistory b held staged ∧ b.Fits held) :
      ∃ held staged, (s.perform w call).2 = ofHistory b held staged ∧ b.Fits held := by
    obtain ⟨held, staged, rfl, hfits⟩ := hs
    obtain ⟨earlier, rfl⟩ := exists_lastBatch staged
    exact ⟨_, _, (perform_follows w call earlier hw hfits).1, fits_next call hfits⟩
  induction h with
  | fresh hf =>
    subst hf
    exact ⟨[], [], fresh_eq_ofHistory hb, Nat.zero_le _, nofun⟩
  | call hs hw hc ih => exact hnext _ _ _ ih
  | restore hs hw ht hw' he ihs iht => exact hnext _ _ _ ihs
  | restoreForeign hs hw hf ih => exact hnext _ _ _ ih

/-- Any session over the same new stub takes what another one exports. -/
theorem restore_snapshot_stub (hwindow : b.context.window ≤ Config.maxCount)
    (hb : b.context.tokens = []) {foreign' : Session Stub → Prop} {s t : Session Stub}
    (hs : Reachable (· = b) met foreign s) (ht : Reachable (· = b) met foreign' t) {w w' : ω}
    {bytes : Bytes} {limit : Nat} (h : s.snapshot w limit = .ok bytes) :
    t.restore w' bytes limit = (.ok (), { s with staged := [] }) := by
  obtain ⟨held, staged, rfl, hfits⟩ := exists_ofHistory hwindow hb hs
  obtain ⟨held', staged', rfl, hfits'⟩ := exists_ofHistory hwindow hb ht
  have hbytes : bytes = History.image held := by
    rw [snapshot_ofHistory w limit hwindow hfits] at h
    obtain ⟨_, -, hb⟩ := Except.map_eq_ok_iff.mp (Outcome.ofExcept_eq_ok_iff.mp h)
    exact hb.symm
  obtain ⟨-, -, hsize, hlimit, -⟩ := snapshot_eq_ok_iff.mp h
  have hrestored : History.restored b.vocab b.context.window bytes limit = some held := by
    refine History.restored_eq_some_iff.mpr ⟨hbytes, hlimit, ?_, hfits.window, hfits.vocab⟩
    rw [hbytes, History.length_image] at hsize
    simp only [maxSize, Config.maxCount, maxPayload] at *
    omega
  exact restore_of_restored w' hwindow hfits' hrestored

end Stubs

section Engines

variable {n v : Nat} {s t : Session (EngineBackend Engine)} {w w' : World}

/-- What is saved before a restore, if the engine saves at all. -/
theorem backup_eq (hb : Bounded n v s.backend) (hw : w.Steady) (hsave : w.switches.saveError = none) :
    s.backup w = .ok (written s.backend) := by
  obtain ⟨size, hreported, hsize⟩ := exists_stateSize hw hb.countable
  refine backup_eq_ok_iff.mpr
    ⟨⟨size, hreported, ?_⟩, (serialize_eq_ok_iff hw hb.countable).mpr ⟨hsave, rfl⟩⟩
  have hc := hb.countable.context
  have hl := hb.countable.logits
  have he := hb.countable.cache
  rw [hsize, length_written]
  simp only [Buffer.maxBytes, UInt32.size] at *
  omega

/-- The envelope of a payload of a backend. -/
theorem checkEnvelope_written {b : EngineBackend Engine} (position : UInt32) {limit : Nat}
    (hsize : (written b).length < UInt32.size) (hlimit : headerSize + (written b).length ≤ limit) :
    checkEnvelope ((Header.current position (.ofNat (written b).length)).encode ++ written b)
      limit = .ok (.current position (.ofNat (written b).length)) := by
  refine checkEnvelope_eq_ok_iff.mpr ⟨?_, rfl, written b, rfl, ?_⟩
  · rwa [List.length_append, Header.length_encode]
  · exact (UInt32.toNat_ofNat_of_lt' hsize).symm

/-- A session whose engine can save and load takes what another one of the same bounds exports,
whatever its own state is. -/
theorem restore_image (hs : Sound n v s) (ht : Bounded n v t.backend) (hw : w.Steady)
    (hw' : w'.Steady) (hsave : w'.switches.saveError = none)
    (hload : w'.switches.loadError = none) {bytes : Bytes} {limit : Nat}
    (h : s.snapshot w limit = .ok bytes) :
    t.restore w' bytes limit = (.ok (), { s with staged := [] }) := by
  obtain ⟨hfault, hcount, hsize, hbytes⟩ := exports_eq hw hs.bounded.countable (.value h)
  obtain ⟨-, -, hmax, hlimit, -⟩ := snapshot_eq_ok_iff.mp h
  subst hbytes
  have hheader : checkEnvelope (image s) limit =
      .ok (.current (.ofNat s.position) (.ofNat (written s.backend).length)) := by
    rw [image, List.length_append, Header.length_encode] at hmax hlimit
    refine checkEnvelope_written _ ?_ hlimit
    simp only [maxSize, Config.maxCount, UInt32.size] at *
    omega
  have hbackup := backup_eq ht hw' hsave
  have hpayload : takePayload w' t.backend ((image s).drop headerSize) s.position =
      (.ok (), s.backend) := by
    refine takePayload_eq_ok_iff.mpr ⟨?_, hs.position_eq.symm⟩
    have hd := deserialize_written_of_le hw' hload (b := t.backend) hs.bounded.countable
      (ht.window ▸ hs.bounded.context) (ht.vocab ▸ hs.bounded.logits) hsize
    rw [ht.taking_eq hs.bounded] at hd
    exact hd
  have hcontext : Device.context s.backend = s.committed := hs.context
  unfold restore
  simp only [hheader, hbackup, Header.current, UInt32.toNat_ofNat_of_lt' hcount, hpayload, hcontext,
    ← hfault]

/-- A session whose engine's size no word expresses is lost if a restore is refused only after the
backend has taken the payload: it is left with what it was given. -/
theorem restore_misplaced (hw : w.Storing) (hs : Bounded n v s.backend)
    (hlong : ¬ Storable s.backend) {b : EngineBackend Engine} (hb : Bounded n v b)
    (hshort : Storable b) {position : UInt32} (hp : b.context.length ≠ position.toNat) {limit : Nat}
    (hsize : (written b).length < UInt32.size) (hlimit : headerSize + (written b).length ≤ limit) :
    ∃ cause, s.restore w
        ((Header.current position (.ofNat (written b).length)).encode ++ written b) limit =
      (.error (.corrupted (.position b.context.length position.toNat)),
        { s with backend := b, fault := some (.restoreFailed cause) }) := by
  have htaken := deserialize_written_of_le hw.toSteady hw.loadError (b := s.backend) hb.countable
    (hs.window ▸ hb.context) (hs.vocab ▸ hb.logits) hshort
  rw [hs.taking_eq hb] at htaken
  have hlength : (Device.context b).length = b.context.length := rfl
  have hpayload : takePayload w s.backend (written b) position.toNat =
      (.error (.corrupted (.position b.context.length position.toNat)), b) := by
    simp only [takePayload, htaken, ne_eq, not_true_eq_false, ↓reduceIte, hlength, hp,
      not_false_eq_true]
  have hdrop : ((Header.current position (.ofNat (written b).length)).encode ++ written b).drop
      headerSize = written b := List.drop_left' (Header.length_encode _)
  have hposition (size : UInt32) : (Header.current position size).position = position := rfl
  rcases deserialize_written hw.toSteady hs.countable b with ⟨cause, hback⟩ | ⟨-, -, hback⟩
  · refine ⟨cause, ?_⟩
    simp only [Session.restore, checkEnvelope_written position hsize hlimit,
      backup_eq hs hw.toSteady hw.saveError, hdrop, hposition, hpayload, putBack, hback]
  · exact absurd (storable_of_deserialize_written hw.toSteady hs.countable
      (congrArg Prod.fst hback)) hlong

/-- A first step of a session whose engine does not fail. -/
theorem step_fresh (hw : w.Steady) (he : w.switches.evalError = none) {tokens : List UInt32}
    (ht : tokens ≠ []) (hn : tokens.length ≤ n) :
    (Session.fresh (EngineBackend.fresh (⟨[], v⟩ : Engine) n)).step w tokens =
      (.ok tokens.length,
        { backend := ⟨⟨tokens, v⟩, ⟨tokens, n⟩, Engine.logits tokens v⟩
          position := tokens.length
          committed := tokens
          staged := tokens }) := by
  have heval : Backend.evaluate w (EngineBackend.fresh (⟨[], v⟩ : Engine) n) 0 tokens =
      (.ok (), ⟨⟨tokens, v⟩, ⟨tokens, n⟩, Engine.logits tokens v⟩) := by
    have hroom : ¬ tokens.length > n := Nat.not_lt.mpr hn
    have hcheck : (TokenContext.empty n).checkAppend 0 tokens = .ok () := by
      simp [TokenContext.checkAppend, TokenContext.empty, TokenContext.length, hroom]
    have happend : (TokenContext.empty n).append 0 tokens = .ok ⟨tokens, n⟩ := by
      rw [TokenContext.append, hcheck]
      rfl
    change EngineBackend.evaluate w _ 0 tokens = _
    simp only [EngineBackend.evaluate, EngineBackend.fresh, hcheck, Engine.eval_of_none hw he,
      happend, List.take_nil, List.nil_append]
  simp only [Session.step, Session.fresh, ht, ↓reduceIte, heval, Nat.zero_add, List.nil_append]

theorem sound_of_reachable {c : Config} (h : Reachable
      (fun b => ∃ w log, engineFamily.load w c = (.ok b, log)) World.Steady
      (fun s => 4 + 4 * c.window < UInt32.size ∨ Storable s.backend) s) :
    Sound c.window c.vocab s := by
  induction h with
  | fresh hb =>
    obtain ⟨w, log, hload⟩ := hb
    have hb := bounded_of_load hload
    obtain ⟨-, rfl⟩ := load_eq_ok hload
    exact ⟨hb, rfl, rfl⟩
  | @call s w call hs hw hc ih =>
    cases call with
    | step tokens => exact ih.step hw tokens
    | rollback steps => exact ih.rollback hw steps
    | restore bytes limit => exact absurd rfl (hc bytes limit)
    | _ => exact ih
  | restore hs hw ht hw' he ihs iht => exact ihs.restoreExported hw iht hw' he _
  | restoreForeign hs hw hf ih => exact ih.restore hw (hf.elim ih.bounded.storable id) _ _

theorem bounded_of_reachable {c : Config} {foreign : Session (EngineBackend Engine) → Prop}
    (h : Reachable (fun b => ∃ w log, engineFamily.load w c = (.ok b, log)) World.Steady foreign
      s) :
    Bounded c.window c.vocab s.backend := by
  induction h with
  | fresh hb =>
    obtain ⟨w, log, hload⟩ := hb
    exact bounded_of_load hload
  | call hs hw hc ih => exact ih.perform hw _
  | restore hs hw ht hw' he ihs iht => exact ihs.perform hw _
  | restoreForeign hs hw hf ih => exact ih.perform hw _

end Engines

/-- The backend is one of a scheme and a configuration, opened in some world. -/
def OpenedPlain (scheme : Scheme) (c : Config) (b : Plain) : Prop :=
  ∃ w unchecked, openPlain w scheme unchecked c = .ok b

/-- Bytes that no session has exported may be restored into this one. If they turn out bad, its
former state is put back from a payload, and its engine's state needs a size that one can express:
fewer than `2 ^ 30 - 1` tokens, which only larger windows than that allow to be exceeded. -/
def OpenToForeign (c : Config) (s : Session Plain) : Prop :=
  4 + 4 * c.window < UInt32.size ∨ Sum.elim (fun _ => True) Storable s.backend

/-- A family without process setup loads what it makes. -/
theorem load_plain_eq_ok {β ω : Type} {name : String} {make : Config → Outcome BackendError β}
    {w : ω} {c : Config} {b : β} (h : ((Family.plain name make).load w c).1 = .ok b) :
    make c = .ok b := by
  simp only [Family.plain] at h
  split at h
  · exact h
  · cases h

/-- What backends of a scheme and a configuration are: one and the same new stub, or backends over
simulated engines. -/
theorem openedPlain_cases {scheme : Scheme} {c : Config} :
    (∃ b : Stub, b.context = .empty c.window ∧ ∀ b', OpenedPlain scheme c b' → b' = .inl b) ∨
      ∀ b', OpenedPlain scheme c b' →
        ∃ b, b' = .inr b ∧ ∃ w log, engineFamily.load w c = (.ok b, log) := by
  cases scheme with
  | deterministic =>
    refine .inl ⟨.deterministic c, rfl, ?_⟩
    rintro b' ⟨w, unchecked, h⟩
    simp only [openPlain] at h
    split at h
    · cases h
      rfl
    · obtain ⟨b, hload, rfl⟩ := Outcome.map_eq_ok_iff.mp h
      cases load_plain_eq_ok hload
      rfl
  | fixed =>
    have hopened (b') (h : OpenedPlain .fixed c b') : ∃ b, Stub.fixed c = .ok b ∧ b' = .inl b := by
      obtain ⟨w, unchecked, h⟩ := h
      simp only [openPlain] at h
      split at h
      · obtain ⟨b, hfixed, rfl⟩ := Outcome.map_eq_ok_iff.mp h
        exact ⟨b, hfixed, rfl⟩
      · obtain ⟨b, hload, rfl⟩ := Outcome.map_eq_ok_iff.mp h
        exact ⟨b, load_plain_eq_ok hload, rfl⟩
    cases hfixed : Stub.fixed c with
    | ok b =>
      refine .inl ⟨b, (Stub.new_eq (.inr hfixed)).2, fun b' h => ?_⟩
      obtain ⟨b₁, h₁, rfl⟩ := hopened b' h
      rw [hfixed] at h₁
      cases h₁
      rfl
    | error e =>
      refine .inr fun b' h => ?_
      obtain ⟨b₁, h₁, rfl⟩ := hopened b' h
      rw [hfixed] at h₁
      cases h₁
    | crash t =>
      refine .inr fun b' h => ?_
      obtain ⟨b₁, h₁, rfl⟩ := hopened b' h
      rw [hfixed] at h₁
      cases h₁
  | engine =>
    refine .inr ?_
    rintro b' ⟨w, unchecked, h⟩
    obtain ⟨b, hload, rfl⟩ := Outcome.map_eq_ok_iff.mp h
    exact ⟨b, rfl, w, (engineFamily.load w c).2, Prod.ext hload rfl⟩

/-- A session takes what another one of the same kind and configuration exports. -/
theorem restore_snapshot_plain {scheme : Scheme} {c : Config} (hc : c.window ≤ Config.maxCount)
    {s t : Session Plain}
    (hs : Reachable (OpenedPlain scheme c) World.Steady (OpenToForeign c) s)
    (ht : Reachable (OpenedPlain scheme c) World.Steady (fun _ => True) t) {w w' : World}
    (hw : w.Steady) (hw' : w'.Steady) (hsave : w'.switches.saveError = none)
    (hload : w'.switches.loadError = none) {bytes : Bytes} {limit : Nat}
    (h : s.snapshot w limit = .ok bytes) :
    t.restore w' bytes limit = (.ok (), { s with staged := [] }) := by
  rcases openedPlain_cases with ⟨b, hb, hall⟩ | hall
  · have hf : Backend.Embeds World (Sum.inl : Stub → Plain) := Backend.embeds_inl
    have hopened (b') (hb' : OpenedPlain scheme c b') : ∃ a, b' = .inl a ∧ a = b :=
      ⟨b, hall b' hb', rfl⟩
    obtain ⟨s', rfl, hs'⟩ := hs.exists_map hf (fun _ => True) hopened fun _ _ => trivial
    obtain ⟨t', rfl, ht'⟩ := ht.exists_map hf (fun _ => True) hopened fun _ _ => trivial
    rw [snapshot_map hf] at h
    rw [restore_map hf, restore_snapshot_stub (hb ▸ hc) (congrArg TokenContext.tokens hb) hs' ht' h]
    rfl
  · have hf : Backend.Embeds World (Sum.inr : EngineBackend Engine → Plain) := Backend.embeds_inr
    obtain ⟨s', rfl, hs'⟩ := hs.exists_map hf
      (fun s => 4 + 4 * c.window < UInt32.size ∨ Storable s.backend) hall fun _ h => h
    obtain ⟨t', rfl, ht'⟩ := ht.exists_map hf (fun _ => True) hall fun _ _ => trivial
    rw [snapshot_map hf] at h
    rw [restore_map hf, restore_image (sound_of_reachable hs') (bounded_of_reachable ht') hw hw'
      hsave hload h]
    rfl

/-- Let a session export a snapshot, and let any other one of the same kind and configuration,
faulted or not, restore it with an engine that can save and load. Then it is not faulted, has the
position and the history of the first one and nothing staged, and whatever calls are made on both
from then on, they end in the same way and leave the same position, history and snapshots. Only a
description of the session could tell the difference, since it counts the staged tokens. -/
theorem restored_session_continues {scheme : Scheme} {c : Config}
    (hc : c.window ≤ Config.maxCount) {s t : Session Plain}
    (hs : Reachable (OpenedPlain scheme c) World.Steady (OpenToForeign c) s)
    (ht : Reachable (OpenedPlain scheme c) World.Steady (fun _ => True) t) {w w' : World}
    (hw : w.Steady) (hw' : w'.Steady) (hsave : w'.switches.saveError = none)
    (hload : w'.switches.loadError = none) {bytes : Bytes} {limit : Nat}
    (h : s.snapshot w limit = .ok bytes) :
    ∃ t', t.restore w' bytes limit = (.ok (), t') ∧ t'.fault = none ∧ t'.position = s.position ∧
      t'.committed = s.committed ∧ t'.staged = [] ∧
        ∀ calls : List (World × Call), (∀ p ∈ calls, p.2 ≠ .describe) →
          (t'.run calls).1 = (s.run calls).1 ∧
            (t'.run calls).2.position = (s.run calls).2.position ∧
              (t'.run calls).2.committed = (s.run calls).2.committed ∧
                ∀ (w : World) (limit : Nat),
                  (t'.run calls).2.snapshot w limit = (s.run calls).2.snapshot w limit := by
  have hfault : s.fault = none := (snapshot_eq_ok_iff.mp h).1
  refine ⟨{ s with staged := [] }, restore_snapshot_plain hc hs ht hw hw' hsave hload h, hfault,
    rfl, rfl, rfl, fun calls hcalls => ?_⟩
  have halike : Alike s { s with staged := [] } := ⟨[], rfl⟩
  obtain ⟨houtcomes, hlast⟩ := run_matches halike hcalls
  have hexports := snapshot_alike (ω := World) hlast
  obtain ⟨staged, hlast⟩ := hlast
  rw [hlast] at hexports ⊢
  exact ⟨houtcomes.symm, rfl, rfl, fun w limit => (hexports w limit).symm⟩

/-- A session over an engine that was rolled back, and one that is faulted and takes its place. -/
theorem restored_session_continues_engine :
    let b : Plain := .inr (EngineBackend.fresh ⟨[], 4⟩ 8)
    let s := (((Session.fresh b).perform (filed {}) (.step [1, 2])).2.perform (filed {})
      (.rollback 1)).2
    let t := (((Session.fresh b).perform (filed {}) (.step [3])).2.perform busy (.step [2])).2
    t.fault ≠ none ∧ ∃ bytes, s.snapshot (filed {}) 64 = .ok bytes ∧
      ∃ t', t.restore (filed {}) bytes 64 = (.ok (), t') ∧ t'.fault = none ∧ t'.committed = [1] := by
  have hquiet : (filed {}).Steady := ⟨rfl, rfl, rfl, rfl, rfl, rfl⟩
  have hbusy : busy.Steady := ⟨rfl, rfl, rfl, rfl, rfl, rfl⟩
  let c : Config := { model := "m", vocab := 4, window := 8 }
  have hopened : OpenedPlain .engine c (.inr (EngineBackend.fresh ⟨[], 4⟩ 8)) := by
    refine ⟨filed {}, false, ?_⟩
    simp only [openPlain, c, load_filed]
    rfl
  have hs : Reachable (OpenedPlain .engine c) World.Steady (OpenToForeign c) _ :=
    ((Reachable.fresh hopened).call hquiet
      (nofun : ∀ bytes limit, Call.step [1, 2] ≠ .restore bytes limit)).call hquiet
      (nofun : ∀ bytes limit, Call.rollback 1 ≠ .restore bytes limit)
  have ht : Reachable (OpenedPlain .engine c) World.Steady (fun _ => True) _ :=
    ((Reachable.fresh hopened).call hquiet
      (nofun : ∀ bytes limit, Call.step [3] ≠ .restore bytes limit)).call hbusy
      (nofun : ∀ bytes limit, Call.step [2] ≠ .restore bytes limit)
  refine ⟨nofun, _, rfl, ?_⟩
  obtain ⟨t', hr, hfault, -, hcommitted, -⟩ := restored_session_continues (by decide) hs ht hquiet
    hquiet rfl rfl (rfl : Session.snapshot (filed {}) _ 64 = _)
  exact ⟨t', hr, hfault, hcommitted⟩

/-- The configuration of the smallest window in which an engine's size can outgrow its word. -/
def wide : Config := { model := "m", vocab := 4, window := 1073741823 }

theorem load_wide : engineFamily.load (filed {}) wide =
    (.ok (.fresh ⟨[], 4⟩ 1073741823), ["load m v3 8 bytes"]) := by
  cbv

/-- A backend that holds one token. -/
def single : EngineBackend Engine := ⟨⟨[], 4⟩, ⟨[1], 1073741823⟩, []⟩

/-- Its payload, in a snapshot whose header says seven tokens. -/
def misplaced : Bytes :=
  (Header.current 7 (.ofNat (written single).length)).encode ++ written single

/-- A session over an engine that has filled that window in one step. -/
def filledWindow : Session (EngineBackend Engine) :=
  { backend := ⟨⟨longCache, 4⟩, ⟨longCache, 1073741823⟩, Engine.logits longCache 4⟩
    position := 1073741823
    committed := longCache
    staged := longCache }

theorem step_longCache :
    (Session.fresh (EngineBackend.fresh (⟨[], 4⟩ : Engine) 1073741823)).step (filed {}) longCache =
      (.ok 1073741823, filledWindow) := by
  have hne : longCache ≠ [] := List.ne_nil_of_length_pos (by simp)
  have hw : (filed {}).Steady := ⟨rfl, rfl, rfl, rfl, rfl, rfl⟩
  have h := step_fresh (v := 4) (n := 1073741823) hw rfl hne (by simp)
  rw [length_longCache] at h
  exact h

/-- A full window is lost when a snapshot is refused for its position. -/
theorem restore_filledWindow : ∃ cause, filledWindow.restore (filed {}) misplaced 64 =
    (.error (.corrupted (.position 1 7)),
      { filledWindow with backend := single, fault := some (.restoreFailed cause) }) := by
  have hw : (filed {}).Storing := ⟨⟨rfl, rfl, rfl, rfl, rfl, rfl⟩, rfl, rfl⟩
  have hcounts : 1073741823 ≤ Config.maxCount ∧ 4 ≤ Config.maxCount := by decide
  have hfilled : Bounded 1073741823 4 filledWindow.backend :=
    ⟨hcounts, rfl, rfl, by simp [filledWindow, TokenContext.length],
      by simp [filledWindow, Engine.logits], .inl (by simp [filledWindow])⟩
  have hlong : ¬ Storable filledWindow.backend := not_storable_longCache _ _ _
  have hsingle : Bounded 1073741823 4 single :=
    ⟨hcounts, rfl, rfl, by decide, by decide, .inl (by decide)⟩
  have hshort : Storable single := by
    unfold Storable
    decide
  exact restore_misplaced hw hfilled hlong hsingle hshort (by decide) (by decide) (by decide)

/-- What is left of it after the fault has been lifted. -/
def lostWindow : Session (EngineBackend Engine) :=
  { filledWindow with backend := single, staged := [] }

/-- A rollback of nothing lifts the fault. -/
theorem rollback_filledWindow (fault : Session.Fault) :
    { filledWindow with backend := single, fault := some fault }.rollback (filed {}) 0 =
      (.ok 0, lostWindow) := by
  have hkept : longCache.take 1073741823 = longCache := List.take_of_length_le (by simp)
  have hevict : Backend.evict (filed {}) single 1073741823 = (.ok (), single) := rfl
  simp [Session.rollback, filledWindow, lostWindow, hkept, hevict]

/-- The calls that lose a full window, and lift the fault that tells of it. -/
def losingCalls : List (World × Call) :=
  [(filed {}, .step longCache), (filed {}, .restore misplaced 64), (filed {}, .rollback 0)]

theorem run_losingCalls : ∃ ends,
    (Session.fresh (EngineBackend.fresh (⟨[], 4⟩ : Engine) 1073741823)).run losingCalls =
      (ends, lostWindow) := by
  obtain ⟨cause, hrestore⟩ := restore_filledWindow
  have hstep := congrArg (Prod.map (Outcome.map Reply.count) id) step_longCache
  have hback := congrArg (Prod.map (Outcome.map fun _ => Reply.done) id) hrestore
  have hlift := congrArg (Prod.map (Outcome.map Reply.count) id)
    (rollback_filledWindow (.restoreFailed cause))
  exact ⟨_, run_of_perform hstep (run_of_perform hback (run_of_perform hlift rfl))⟩

/-- Two sessions of one host, of which the second one has crashed over a buffer that cannot be. -/
def crashedOver : Host World Plain :=
  ((Host.standard Sum.inl).run
    [(filed {}, .create "deterministic:m?vocab=4&n_ctx=8"),
      (filed {}, .create "deterministic:m?vocab=4&n_ctx=8"),
      (filed {}, .act ⟨0, 1⟩ fun s => s.perform (filed {}) (.step [1])),
      (filed {}, .act ⟨1, 1⟩ fun s => s.perform (filed {}) (.peek 2305843009213693952))]).2.1

/-- A session that a crash has poisoned restores nothing, whatever was exported. And once a full
window has been lost to a refused snapshot and a rollback of nothing has lifted the fault, what the
session exports is refused by every other one: its header counts the tokens that are lost. -/
theorem lost_session_exported :
    (let bytes := (Header.current 1 8).encode ++ TokenContext.encode ⟨[1], 8⟩
     (crashedOver.withSession ⟨0, 1⟩ fun s => s.perform (filed {}) (.snapshot 64)).1 =
         .ok (.bytes bytes) ∧
       (crashedOver.withSession ⟨1, 1⟩ fun s => s.restore (filed {}) bytes 64).1 =
         .error .poisoned) ∧
    (let b : Plain := .inr (.fresh ⟨[], 4⟩ 1073741823)
     let bytes := (Header.current 1073741823 20).encode ++ written single
     ∃ ends s, (Session.fresh b).run losingCalls = (ends, s) ∧
       Reachable (OpenedPlain .engine wide) World.Steady (fun _ => True) s ∧ s.fault = none ∧
         s.snapshot (filed {}) 64 = .ok bytes ∧
           ((Session.fresh b).restore (filed {}) bytes 64).1 =
             .error (.corrupted (.position 1 1073741823))) := by
  constructor
  · intro bytes
    constructor
    · cbv
    · cbv
  · intro b bytes
    obtain ⟨ends, hrun⟩ := run_losingCalls
    have hmapped := run_map (ω := World) (f := (Sum.inr : _ → Plain)) Backend.embeds_inr
      (Session.fresh (EngineBackend.fresh (⟨[], 4⟩ : Engine) 1073741823)) losingCalls
    rw [hrun] at hmapped
    have hopened : OpenedPlain .engine wide b := by
      refine ⟨filed {}, false, ?_⟩
      simp only [openPlain, load_wide]
      rfl
    have hsteady : ∀ made ∈ losingCalls, made.1.Steady := by
      have hw : (filed {}).Steady := ⟨rfl, rfl, rfl, rfl, rfl, rfl⟩
      simp [losingCalls, hw]
    have hreached := (Reachable.fresh hopened : Reachable _ World.Steady _ _).run hsteady
    refine ⟨ends, lostWindow.map .inr, hmapped, ?_, rfl, ?_, ?_⟩
    · have hrun' : (Session.fresh b).run losingCalls = (ends, lostWindow.map .inr) := hmapped
      rw [hrun'] at hreached
      exact hreached
    · have hsize : ∃ size, Backend.stateSize (filed {}) single = .ok size ∧
          (written single).length = size.toNat := ⟨_, rfl, by decide⟩
      have hsaved : Backend.serialize (filed {}) single = .ok (written single) := rfl
      rw [snapshot_map Backend.embeds_inr]
      exact snapshot_eq_ok_iff.mpr ⟨rfl, by decide, by decide, by decide, _, hsaved, hsize, rfl⟩
    · cbv

end Decoding.Simulation

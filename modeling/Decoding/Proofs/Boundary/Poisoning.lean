import Decoding.Proofs.Boundary.Requests
import Decoding.Proofs.Host.Poisoning
import Decoding.Simulation.Families

/-!
Poison across the boundary. The call that crashes answers with an internal error; from then on the
handle is spent: whatever other requests are made, calls with it reach nobody, until it is freed.
-/

namespace Decoding

/-- A raw number is the raw form of its id. -/
theorem SessionId.toRaw_of_ofRaw? {raw : UInt64} {id : SessionId} (h : ofRaw? raw = some id) :
    id.toRaw = raw := by
  have hlt := raw.toNat_lt
  simp only [ofRaw?] at h
  split at h
  · cases h
  · cases h
    apply UInt64.toNat_inj.mp
    simp only [toNat_toRaw, UInt32.toNat_ofNat', UInt32.size]
    omega

namespace Boundary

open Host (Live Crashed GivenBack)

variable {ω β : Type} [Device β] [Backend ω β] {w : ω} {b : Boundary ω β} {handle : UInt64}
  {id : SessionId} {o : Occupant β} {call : Call} {c : Session.Call}

/-- The session of a handle is poisoned. A call with the handle whose arguments are accepted says so
and does nothing else; to free the handle gives back what its session holds. -/
structure Spent (b : Boundary ω β) (handle : UInt64) (id : SessionId) : Prop where
  refused : ∀ (w : ω) (call : Call) (c : Session.Call), call.onSession = .ok c →
    b.perform w handle call =
      (-9, call.output, { b with lastError := some "session poisoned by an earlier panic" })
  freed : ∀ w : ω, GivenBack b.host id (b.free w handle).1.host (b.free w handle).2

theorem perform_of_poisoned (hid : SessionId.ofRaw? handle = some id)
    (ho : b.host.occupant? id = some o) (hp : o.poisoned) (hc : call.onSession = .ok c) :
    b.perform w handle call =
      (-9, call.output, { b with lastError := some "session poisoned by an earlier panic" }) := by
  have htext : escapeNul "session poisoned by an earlier panic" =
      "session poisoned by an earlier panic" := by cbv
  have hreach : b.reach w handle call c = b.conclude call call.output (.error .poisoned) := by
    simp only [reach, withHandle, hid, Host.withSession_of_poisoned ho hp]
    rfl
  rw [perform_of_accepted hc, hreach]
  exact congrArg (fun text => (-9, call.output, { b with lastError := some text })) htext

theorem spent_of_poisoned (hb : b.host.Balanced []) (hid : SessionId.ofRaw? handle = some id)
    (ho : b.host.occupant? id = some o) (hp : o.poisoned) : b.Spent handle id where
  refused w call c hc := perform_of_poisoned hid ho hp hc
  freed w := by
    obtain ⟨hhost, hevents⟩ := host_free w b hid
    rw [hhost, hevents]
    exact (b.host.destroy_destroyed w id).givenBack hb ho

/-- A call that crashes ends at the boundary, and the session is poisoned. -/
theorem perform_of_crash {text : String} (hid : SessionId.ofRaw? handle = some id)
    (hc : call.onSession = .ok c)
    (hcrash : (b.host.withSession id fun s => s.perform w c).1 = .crash text) :
    (b.perform w handle call).1 = -9 ∧
      (b.perform w handle call).2.2 = { host := (b.host.withSession id fun s => s.perform w c).2
                                        lastError := some "internal panic" } := by
  have htext : escapeNul crashText = "internal panic" := by cbv
  obtain ⟨left, hreach⟩ : ∃ left, b.reach w handle call c =
      conclude { b with host := (b.host.withSession id fun s => s.perform w c).2 } call left
        (.crash text) := by
    simp only [reach, withHandle, hid, hcrash]
    exact ⟨_, rfl⟩
  rw [perform_of_accepted hc, hreach, ← htext]
  exact ⟨rfl, rfl⟩

/-- Only to free the handle of an id destroys its session. -/
theorem not_destroy_of_not_free {requests : List (ω × Request ω β)}
    (hid : SessionId.ofRaw? handle = some id) (hkept : ∀ made ∈ requests, made.2 ≠ .free handle) :
    ∀ made ∈ hostCalls requests, made.2 ≠ .destroy id := by
  intro made hmade hdestroy
  obtain ⟨⟨w, request⟩, hrequest, hcall⟩ := List.mem_filterMap.mp hmade
  obtain ⟨call, honHost, rfl⟩ := Option.map_eq_some_iff.mp hcall
  obtain rfl : call = .destroy id := hdestroy
  cases request with
  | free handle' =>
    obtain ⟨id', hid', he⟩ := Option.map_eq_some_iff.mp honHost
    cases he
    refine hkept _ hrequest ?_
    rw [← SessionId.toRaw_of_ofRaw? hid, ← SessionId.toRaw_of_ofRaw? hid']
  | init reference =>
    cases reference with
    | none => cases honHost
    | some bytes =>
      obtain ⟨text, -, he⟩ := Option.map_eq_some_iff.mp honHost
      cases he
  | call handle' call =>
    simp only [Request.onHost?] at honHost
    split at honHost <;> cases honHost
  | takeError => cases honHost
  | register family => cases honHost

/-- A poisoned session stays as it is, whatever is requested, until its handle is freed. -/
theorem spent_run (hb : b.host.Balanced []) (hid : SessionId.ofRaw? handle = some id)
    (ho : b.host.occupant? id = some o) (hp : o.poisoned) {requests : List (ω × Request ω β)}
    (hkept : ∀ made ∈ requests, made.2 ≠ .free handle) :
    (b.run requests).2.1.Spent handle id := by
  have hafter := (Host.run_of_occupant (hostCalls requests) hb ho
    (not_destroy_of_not_free hid hkept)).2
  rw [Occupant.actAll_of_poisoned hp, ← host_run] at hafter
  refine spent_of_poisoned ?_ hid hafter hp
  rw [host_run]
  exact Host.run_keeps Host.Balanced.perform _ hb

/-- The call that crashes is the last one that reaches the session. -/
theorem spent_of_crash {text : String} (hb : b.host.Balanced [])
    (hid : SessionId.ofRaw? handle = some id) (ho : b.host.occupant? id = some o)
    (hc : call.onSession = .ok c)
    (hcrash : (b.host.withSession id fun s => s.perform w c).1 = .crash text)
    {requests : List (ω × Request ω β)} (hkept : ∀ made ∈ requests, made.2 ≠ .free handle) :
    ((b.perform w handle call).2.2.run requests).2.1.Spent handle id := by
  rw [(perform_of_crash hid hc hcrash).2]
  rw [Host.withSession_eq ho] at hcrash ⊢
  have hp : (o.act fun s => s.perform w c).2.poisoned = true := by
    rw [Occupant.poisoned_act, hcrash, Outcome.isCrash, Bool.or_true]
  have hcalled := b.host.withSession_called id fun s => s.perform w c
  rw [Host.withSession_eq ho] at hcalled
  exact spent_run (hb.called hcalled) hid (Host.occupant?_seat ho) hp hkept

/-- Let a new host be run with any calls, crashed ones too. A call on a session that an id stands
for is refused without being made if and only if an action on it has crashed since its id was given
out; otherwise it is made. Until it is destroyed, a session that has crashed stays as it is whatever
is called. Poisoned or not, a session that is destroyed gives back what it holds, and the answer
says so unless the teardown of its family crashes. Calls on other sessions do not touch it, and a
session that is created can be called at once.

At the boundary to this host, a call that crashes answers with an internal error. From then on all
calls with the handle whose arguments are accepted answer that the session is poisoned, whatever
else is requested, until the handle is freed, which gives back what its session holds. -/
theorem poison_exact {h₀ : Host ω β} (hnew : h₀.New) (calls : List (ω × Host.Call ω β)) :
    let past := h₀.history calls
    let h := (h₀.run calls).2.1
    (∀ id, Live past id →
      ((∀ (α : Type) (action : Session β → Outcome SessionError α × Session β),
          h.withSession id action = (.error .poisoned, h)) ↔ Crashed past id) ∧
        (¬ Crashed past id →
          ∃ s, ∀ (α : Type) (action : Session β → Outcome SessionError α × Session β),
            (h.withSession id action).1 = (action s).1) ∧
        (Crashed past id → ∀ more : List (ω × Host.Call ω β),
          (∀ made ∈ more, made.2 ≠ .destroy id) →
            (h.run more).2.1.occupant? id = h.occupant? id) ∧
        (∀ w : ω, GivenBack h id (h.destroy w id).2.1 (h.destroy w id).2.2 ∧
          ((∀ o r, h.occupant? id = some o → h.registration? o.family = some r →
            (r.family.teardown w).1 = .ok ()) → (h.destroy w id).1 = .ok true)) ∧
        ∀ other, other ≠ id →
          ∀ (α : Type) (action : Session β → Outcome SessionError α × Session β),
            (h.withSession other action).2.occupant? id = h.occupant? id) ∧
      (∀ (w : ω) (reference : String) (id : SessionId), (h.create w reference).1 = .ok id →
        ∃ backend, ∀ (α : Type) (action : Session β → Outcome SessionError α × Session β),
          ((h.create w reference).2.1.withSession id action).1 = (action (.fresh backend)).1) ∧
      ∀ (lastError : Option String) (handle : UInt64) (id : SessionId),
        SessionId.ofRaw? handle = some id → Live past id →
          let b : Boundary ω β := { host := h, lastError }
          (Crashed past id → b.Spent handle id) ∧
            ∀ (w : ω) (call : Call) (c : Session.Call) (text : String), call.onSession = .ok c →
              (h.withSession id fun s => s.perform w c).1 = .crash text →
                let b' := (b.perform w handle call).2.2
                (b.perform w handle call).1 = -9 ∧ b'.lastError = some "internal panic" ∧
                  ∀ requests : List (ω × Request ω β),
                    (∀ made ∈ requests, made.2 ≠ .free handle) →
                      (b'.run requests).2.1.Spent handle id := by
  intro past h
  have hb : h.Balanced [] := Host.run_keeps Host.Balanced.perform calls hnew.balanced
  refine ⟨?_, ?_, ?_⟩
  · intro id hlive
    obtain ⟨o, ho, hpoisoned⟩ := hnew.poisoned_iff_crashed hlive
    refine ⟨(Host.refused_iff_poisoned ho).trans hpoisoned, ?_, ?_, ?_, ?_⟩
    · intro hsound
      refine ⟨o.session, fun α action => ?_⟩
      rw [Host.withSession_of_some ho, if_neg (hpoisoned.not.mpr hsound)]
    · intro hcrashed more hkept
      rw [(Host.run_of_occupant more hb ho hkept).2,
        Occupant.actAll_of_poisoned (hpoisoned.mpr hcrashed), ho]
    · intro w
      have hdestroyed := h.destroy_destroyed w id
      refine ⟨hdestroyed.givenBack hb ho, fun hquiet => ?_⟩
      exact hdestroyed.ok_of_quiet ho fun r hr => hquiet o r ho hr
    · intro other hne α action
      exact Host.occupant?_withSession_of_ne ho hne action
  · intro w reference id hcreate
    obtain ⟨_, _, backend, _, -, -, -, ho⟩ := (Host.created_of_ok hcreate).occupant?_created hb
    refine ⟨backend, fun α action => ?_⟩
    rw [Host.withSession_of_some ho]
    rfl
  · intro lastError handle id hid hlive b
    obtain ⟨o, ho, hpoisoned⟩ := hnew.poisoned_iff_crashed hlive
    constructor
    · intro hcrashed
      exact spent_of_poisoned hb hid ho (hpoisoned.mpr hcrashed)
    · intro w call c text hc hcrash
      obtain ⟨hanswer, hafter⟩ := perform_of_crash (b := b) hid hc hcrash
      have herror : (b.perform w handle call).2.2.lastError = some "internal panic" := by
        rw [hafter]
      refine ⟨hanswer, herror, ?_⟩
      intro requests hkept
      exact spent_of_crash hb hid ho hc hcrash hkept

section Witness

open Simulation

/-- A session with two tokens over a backend that can be made to crash. -/
def doomed : List (World × Host.Call World Any) :=
  [({}, .register (Kind.logging "engine").family), ({}, .create "engine:m?vocab=9"),
    ({}, .act ⟨0, 1⟩ fun s => s.perform ({} : World) (.step [5, 7]))]

/-- A world in which backends crash as they evict. -/
def evicting : World := { switches := { wrapperEvictCrash := some "lost" } }

/-- The crash comes when the history is shortened and the context is not. -/
theorem poison_exact_rollback :
    let b : Boundary World Any := { host := (Simulation.host.run doomed).2.1 }
    let b' := (b.perform evicting 4294967296 (.rollback 1)).2.2
    (b.perform evicting 4294967296 (.rollback 1)).1 = -9 ∧
      b'.lastError = some "internal panic" ∧
      ∀ requests : List (World × Request World Any),
        (∀ made ∈ requests, made.2 ≠ .free 4294967296) →
          ((b'.run requests).2.1.perform {} 4294967296 .snapshotSize).1 = -9 := by
  intro b b'
  have hlive : Live (Simulation.host.history doomed) ⟨0, 1⟩ :=
    ⟨[(.register (Kind.logging "engine").family, .ok .registered)], "engine:m?vocab=9",
      [(.act ⟨0, 1⟩ fun s => s.perform ({} : World) (.step [5, 7]), .ok (.acted (.count 2)))],
      by rfl, by simp⟩
  obtain ⟨-, -, hboundary⟩ := poison_exact (.standard ofStub) doomed
  obtain ⟨-, hcrash⟩ := hboundary none 4294967296 ⟨0, 1⟩ (by rfl) hlive
  obtain ⟨hanswer, herror, hspent⟩ :=
    hcrash evicting (.rollback 1) (.rollback 1) "lost" (by rfl) (by rfl)
  refine ⟨hanswer, herror, fun requests hkept => ?_⟩
  exact congrArg Prod.fst ((hspent requests hkept).refused {} .snapshotSize .snapshotSize rfl)

end Witness

end Boundary

end Decoding

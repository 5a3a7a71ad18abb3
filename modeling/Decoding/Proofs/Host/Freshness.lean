import Decoding.Proofs.Host.Balance

/-!
Ids are fresh. The generation of a slot counts the sessions that have been destroyed in
it, round a cycle that leaves zero out. So the ids that have been given out for a slot
are a stretch of one sequence, the last of them stands for the occupant, and no id comes
up again before the slot has been freed as often as there are generations.
-/

namespace Decoding.Host

variable {ω β : Type}

/-- The number of generations: all words but zero. -/
def generations : Nat := UInt32.size - 1

/-- The generation of a slot in which so many sessions have been destroyed. -/
def generationAt (k : Nat) : UInt32 := .ofNat (1 + k % generations)

/-- The id of the session that follows so many others in a slot. -/
def idAt (n k : Nat) : SessionId := ⟨.ofNat n, generationAt k⟩

theorem toNat_generationAt (k : Nat) : (generationAt k).toNat = 1 + k % generations := by
  have hlt : k % generations < generations := Nat.mod_lt _ (by decide)
  refine UInt32.toNat_ofNat_of_lt ?_
  simp only [generations, UInt32.size] at hlt ⊢
  omega

theorem generationAt_ne_zero (k : Nat) : generationAt k ≠ 0 := by
  intro h
  have := toNat_generationAt k
  rw [h] at this
  simp only [UInt32.toNat_zero] at this
  omega

theorem generationAt_inj {i j : Nat} :
    generationAt i = generationAt j ↔ i % generations = j % generations := by
  rw [← UInt32.toNat_inj, toNat_generationAt, toNat_generationAt]
  omega

theorem toNat_nextGeneration (g : UInt32) :
    (nextGeneration g).toNat = if g.toNat + 1 = UInt32.size then 1 else g.toNat + 1 := by
  have hlt := g.toNat_lt
  have hadd : (g + 1).toNat = (g.toNat + 1) % UInt32.size := UInt32.toNat_add g 1
  simp only [nextGeneration, ← UInt32.toNat_inj, UInt32.toNat_zero, UInt32.size] at hadd ⊢
  by_cases hlast : g.toNat + 1 = 4294967296
  · rw [if_pos (by omega), if_pos hlast]
    rfl
  · rw [if_neg (by omega), if_neg hlast]
    omega

/-- Generations follow one another round a cycle. -/
theorem nextGeneration_generationAt (k : Nat) :
    nextGeneration (generationAt k) = generationAt (k + 1) := by
  apply UInt32.toNat_inj.mp
  rw [toNat_nextGeneration, toNat_generationAt, toNat_generationAt]
  split
  · rename_i hlast
    simp only [generations, UInt32.size, Nat.reduceSub] at hlast ⊢
    omega
  · rename_i hlast
    simp only [generations, UInt32.size, Nat.reduceSub] at hlast ⊢
    omega

section History

/-- The id that a call gave out. -/
def Reply.id? : Outcome SessionError Reply → Option SessionId
  | .ok (.created id) => some id
  | _ => none

/-- The call destroyed a session in a slot. That it did so is not undone if the teardown of the
family crashes. -/
def Call.DestroysIn (n : Nat) : Call ω β × Outcome SessionError Reply → Bool
  | (.destroy _, .ok (.destroyed false)) => false
  | (.destroy id, _) => id.index.toNat = n
  | _ => false

/-- The ids that were given out, first one first. -/
def issued (past : List (Call ω β × Outcome SessionError Reply)) : List SessionId :=
  past.filterMap fun made => Reply.id? made.2

/-- How many sessions have been destroyed in a slot. -/
def retired (past : List (Call ω β × Outcome SessionError Reply)) (n : Nat) : Nat :=
  past.countP (Call.DestroysIn n)

/-- The id was given out and has not been destroyed since. -/
def Live (past : List (Call ω β × Outcome SessionError Reply)) (id : SessionId) : Prop :=
  ∃ before reference after, past = before ++ (.create reference, .ok (.created id)) :: after ∧
    ∀ made ∈ after, made.1 ≠ .destroy id

variable {past : List (Call ω β × Outcome SessionError Reply)} {call : Call ω β}
  {outcome : Outcome SessionError Reply} {id : SessionId}

theorem issued_concat :
    issued (past ++ [(call, outcome)]) = issued past ++ (Reply.id? outcome).toList := by
  simp only [issued, List.filterMap_append, List.filterMap_cons, List.filterMap_nil]
  cases Reply.id? outcome <;> rfl

theorem retired_concat (n : Nat) :
    retired (past ++ [(call, outcome)]) n =
      retired past n + if Call.DestroysIn n (call, outcome) then 1 else 0 := by
  simp [retired, List.countP_append, List.countP_cons]

/-- The last call decides, or it has nothing to do with the id. -/
theorem live_concat :
    Live (past ++ [(call, outcome)]) id ↔
      (∃ reference, call = .create reference ∧ outcome = .ok (.created id)) ∨
        (Live past id ∧ call ≠ .destroy id) := by
  constructor
  · rintro ⟨before, reference, after, he, hafter⟩
    rcases List.eq_nil_or_concat after with rfl | ⟨after, last, rfl⟩
    · obtain ⟨-, hlast⟩ := List.append_inj' he rfl
      cases hlast
      exact .inl ⟨reference, rfl, rfl⟩
    · rw [List.concat_eq_append, ← List.cons_append, ← List.append_assoc] at he
      obtain ⟨rfl, hlast⟩ := List.append_inj' he rfl
      cases hlast
      rw [List.concat_eq_append] at hafter
      exact .inr ⟨⟨before, reference, after, rfl, fun made hmade =>
        hafter made (List.mem_append_left _ hmade)⟩,
        hafter (call, outcome) (List.mem_append_right _ (.head _))⟩
  · rintro (⟨reference, rfl, rfl⟩ | ⟨⟨before, reference, after, rfl, hafter⟩, hne⟩)
    · exact ⟨past, reference, [], rfl, fun _ hmade => absurd hmade List.not_mem_nil⟩
    · refine ⟨before, reference, after ++ [(call, outcome)], by simp, fun made hmade => ?_⟩
      rcases List.mem_append.mp hmade with hmade | hmade
      · exact hafter made hmade
      · cases List.mem_singleton.mp hmade
        exact hne

end History

section Tags

/-- The generation of a slot and whether it is occupied. -/
def tag (h : Host ω β) (n : Nat) : Option (UInt32 × Bool) :=
  h.slots[n]?.map fun slot => (slot.generation, slot.occupant.isSome)

variable {h h' : Host ω β} {id : SessionId}

theorem isSome_occupant?_iff :
    (h.occupant? id).isSome ↔ h.tag id.index.toNat = some (id.generation, true) := by
  rw [occupant?, tag]
  cases h.slots[id.index.toNat]? with
  | none => simp
  | some slot =>
    simp only [Option.map_some, Option.some.injEq, Prod.mk.injEq]
    split <;> simp_all

theorem tag_set {i : Nat} {slot : Slot β} (hs : h.slots[i]? = some slot) (slot' : Slot β)
    (n : Nat) :
    ({ h with slots := h.slots.set i slot' } : Host ω β).tag n =
      if n = i then some (slot'.generation, slot'.occupant.isSome) else h.tag n := by
  simp only [tag, getElem?_set_of_some hs, eq_comm (a := i)]
  split <;> rfl

/-- What a call did to the slots, by how it ended. -/
inductive Moved (h h' : Host ω β) : Call ω β × Outcome SessionError Reply → Prop
  | kept {call : Call ω β} {outcome : Outcome SessionError Reply} (ht : ∀ n, h'.tag n = h.tag n)
      (hi : Reply.id? outcome = none)
      (hd : ∀ id, call = .destroy id → outcome = .ok (.destroyed false) ∧ h.occupant? id = none) :
    Moved h h' (call, outcome)
  | seated {reference : String} {id : SessionId}
      (hv : h.tag id.index.toNat = some (id.generation, false) ∨
        h.tag id.index.toNat = none ∧ id.generation = 1)
      (ht : ∀ n, h'.tag n = if n = id.index.toNat then some (id.generation, true) else h.tag n) :
    Moved h h' (.create reference, .ok (.created id))
  | vacated {id : SessionId} {outcome : Outcome SessionError Reply}
      (ho : h.tag id.index.toNat = some (id.generation, true)) (hi : Reply.id? outcome = none)
      (hd : outcome ≠ .ok (.destroyed false))
      (ht : ∀ n, h'.tag n =
        if n = id.index.toNat then some (nextGeneration id.generation, false) else h.tag n) :
    Moved h h' (.destroy id, outcome)

theorem Called.tag {α : Type} {call : Session β → Outcome SessionError α × Session β}
    {outcome : Outcome SessionError α} (hc : Called h id call (outcome, h')) (n : Nat) :
    h'.tag n = h.tag n := by
  have hseated {o o' : Occupant β} (ho : h.occupant? id = some o) :
      (h.seat id o').tag n = h.tag n := by
    have hslot := occupant?_eq_some_iff.mp ho
    rw [seat, tag_set hslot]
    split
    · rename_i he
      rw [he, Host.tag, hslot]
      rfl
    · rfl
  cases hc with
  | unknown | poisoned => rfl
  | completed ho | crashed ho => exact hseated ho

/-- A session finds a free slot or a new one. -/
theorem Listed.tag_inserted {o : Occupant β} (hl : h.Listed) (hi : Inserted h o (.ok (id, h'))) :
    (h.tag id.index.toNat = some (id.generation, false) ∨
      h.tag id.index.toNat = none ∧ id.generation = 1) ∧
    ∀ n, h'.tag n = if n = id.index.toNat then some (id.generation, true) else h.tag n := by
  cases hi with
  | @reused index free slot hf hs =>
    obtain ⟨_, hslot, hnone⟩ := (hl.mem_free index).mp (hf ▸ List.mem_cons_self)
    rw [hs] at hslot
    cases hslot
    exact ⟨.inl (by simp [tag, hs, hnone]), tag_set hs _⟩
  | appended hf hlt =>
    have hindex : (UInt32.ofNat h.slots.length).toNat = h.slots.length :=
      UInt32.toNat_ofNat_of_lt hlt
    simp only [hindex]
    refine ⟨.inr ⟨by simp [tag], trivial⟩, fun n => ?_⟩
    rw [tag, List.getElem?_append]
    split
    · rename_i hn
      rw [if_neg (Nat.ne_of_lt hn)]
      rfl
    · rename_i hn
      split
      · rename_i he
        simp [he]
      · rename_i hne
        rw [List.getElem?_eq_none (by simp; omega), tag, List.getElem?_eq_none (by omega)]

end Tags

section Moves

variable [Device β] {w : ω} {h h' : Host ω β}

theorem Created.moved {reference : String} {o : Outcome SessionError SessionId}
    {events : List Event} (hb : h.Balanced []) (hc : Created w h reference (o, h', events)) :
    Moved h h' (.create reference, o.map .created) := by
  have hkept (ho : ∀ id, o ≠ .ok id) (n : Nat) : h'.tag n = h.tag n := by
    obtain ⟨_, he⟩ := hc.undone ho hb.names
    rw [he]
    rfl
  cases hc with
  | created hp ha hl hi =>
    have htags := ((hb.acquired ha).counted _).toListed.tag_inserted hi
    obtain ⟨-, rfl⟩ := ha.eq_setLive
    exact .seated htags.1 htags.2
  | unparsed => exact .kept (fun _ => rfl) rfl (by simp)
  | unacquired _ ho | unopened _ _ _ ho | full _ _ _ _ _ ho =>
    refine .kept (hkept ho) ?_ (by simp)
    cases o with
    | ok id => exact absurd rfl (ho id)
    | error | crash => rfl

theorem Destroyed.moved {id : SessionId} {o : Outcome Empty Bool} {events : List Event}
    (hd : Destroyed w h id (o, h', events)) :
    Moved h h' (.destroy id, (o.map .destroyed).mapError nofun) := by
  cases hd with
  | unknown ho => exact .kept (fun _ => rfl) rfl fun _ he => ⟨rfl, Call.destroy.inj he ▸ ho⟩
  | @destroyed _ t _ _ ho hr =>
    refine .vacated (isSome_occupant?_iff.mp (by rw [ho]; rfl)) ?_ ?_ fun n => ?_
    · cases t <;> rfl
    · cases t <;> nofun
    · rw [tag, hr.slots]
      exact tag_set (occupant?_eq_some_iff.mp ho) _ n

theorem perform_moved (hb : h.Balanced []) (w : ω) (call : Call ω β) :
    Moved h (h.perform w call).2.1 (call, (h.perform w call).1) := by
  cases call with
  | create reference => exact (h.create_created w reference).moved hb
  | destroy id => exact (h.destroy_destroyed w id).moved
  | act id action =>
    refine .kept (h.withSession_called id action).tag ?_ (by simp)
    simp only [perform]
    cases (h.withSession id action).1 <;> rfl
  | register family =>
    have hr := h.register_registered family
    simp only [perform]
    cases hreg : h.register family with
    | error e => exact .kept (fun _ => rfl) rfl (by simp)
    | ok h' =>
      rw [hreg] at hr
      cases hr <;> exact .kept (fun _ => rfl) rfl (by simp)

end Moves

/-- What a host shows after the calls that were made on it. The ids that were given out for a slot
follow one another, and the generation that the slot has belongs to the last of them or to the
next one. -/
structure Traced (past : List (Call ω β × Outcome SessionError Reply)) (h : Host ω β) : Prop where
  generation : ∀ {n : Nat} {g : UInt32} {occupied : Bool}, h.tag n = some (g, occupied) →
    g = generationAt (retired past n)
  untouched : ∀ {n : Nat}, h.tag n = none → retired past n = 0
  issued : ∀ n : Nat, (issued past).filter (·.index.toNat = n) =
    (List.range (retired past n + if (h.tag n).any Prod.snd then 1 else 0)).map (idAt n)
  live : ∀ id : SessionId, h.tag id.index.toNat = some (id.generation, true) ↔ Live past id

section Traced

variable {h h' : Host ω β} {past : List (Call ω β × Outcome SessionError Reply)}

theorem New.traced (hn : New h) : Traced [] h := by
  have hslots : h.slots = [] := by cases hn <;> rfl
  have htag (n : Nat) : h.tag n = none := by simp [tag, hslots]
  refine ⟨fun {n _ _} h => ?_, fun _ => rfl, fun n => ?_, fun id => ?_⟩
  · rw [htag] at h
    cases h
  · simp [htag, Host.issued, retired]
  · rw [htag]
    refine iff_of_false nofun ?_
    rintro ⟨before, reference, after, he, -⟩
    simp at he

theorem Traced.kept {call : Call ω β} {outcome : Outcome SessionError Reply} (ht : Traced past h)
    (htag : ∀ n, h'.tag n = h.tag n) (hi : Reply.id? outcome = none)
    (hd : ∀ id, call = .destroy id → outcome = .ok (.destroyed false) ∧ h.occupant? id = none) :
    Traced (past ++ [(call, outcome)]) h' := by
  have hretired (n : Nat) : retired (past ++ [(call, outcome)]) n = retired past n := by
    rw [retired_concat, if_neg]
    · rfl
    · cases call with
      | destroy id =>
        obtain ⟨rfl, -⟩ := hd id rfl
        exact Bool.false_ne_true
      | create | act | register => exact Bool.false_ne_true
  have hissued : Host.issued (past ++ [(call, outcome)]) = Host.issued past := by
    simp [issued_concat, hi]
  refine ⟨fun h => ?_, fun h => ?_, fun n => ?_, fun id => ?_⟩
  · rw [hretired]
    exact ht.generation (htag _ ▸ h)
  · rw [hretired]
    exact ht.untouched (htag _ ▸ h)
  · rw [hissued, hretired, htag]
    exact ht.issued n
  · rw [htag, ht.live, live_concat]
    constructor
    · refine fun hlive => .inr ⟨hlive, fun he => ?_⟩
      have hsome := isSome_occupant?_iff.mpr ((ht.live id).mpr hlive)
      rw [(hd id he).2] at hsome
      cases hsome
    · rintro (⟨reference, rfl, rfl⟩ | ⟨hlive, -⟩)
      · cases hi
      · exact hlive

theorem SessionId.eq_of_toNat {a b : SessionId} (hi : a.index.toNat = b.index.toNat)
    (hg : a.generation = b.generation) : a = b := by
  obtain ⟨i, g⟩ := a
  obtain ⟨j, g'⟩ := b
  cases UInt32.toNat_inj.mp hi
  cases hg
  rfl

theorem Traced.seated {reference : String} {id : SessionId} (ht : Traced past h)
    (hv : h.tag id.index.toNat = some (id.generation, false) ∨
      h.tag id.index.toNat = none ∧ id.generation = 1)
    (htag : ∀ n, h'.tag n = if n = id.index.toNat then some (id.generation, true) else h.tag n) :
    Traced (past ++ [(.create reference, .ok (.created id))]) h' := by
  have hretired (n : Nat) :
      retired (past ++ [(.create reference, .ok (.created id))]) n = retired past n :=
    retired_concat n
  have hgeneration : id.generation = generationAt (retired past id.index.toNat) := by
    rcases hv with hv | ⟨hv, hone⟩
    · exact ht.generation hv
    · rw [ht.untouched hv, hone]
      rfl
  have hvacant : ((h.tag id.index.toNat).any Prod.snd) = false := by
    rcases hv with hv | ⟨hv, -⟩ <;> rw [hv] <;> rfl
  refine ⟨fun {n g occupied} h => ?_, fun {n} h => ?_, fun n => ?_, fun id' => ?_⟩
  · rw [htag] at h
    rw [hretired]
    split at h
    · rename_i he
      cases h
      rw [he, hgeneration]
    · exact ht.generation h
  · rw [htag] at h
    split at h
    · cases h
    · rw [hretired]
      exact ht.untouched h
  · have hold := ht.issued n
    rw [issued_concat, List.filter_append, hold, hretired, htag]
    by_cases he : n = id.index.toNat
    · subst he
      have hid : idAt id.index.toNat (retired past id.index.toNat) = id := by
        rw [idAt, ← hgeneration, UInt32.ofNat_toNat]
      simp [hvacant, Reply.id?, List.range_succ, hid]
    · simp [he, Ne.symm he, Reply.id?]
  · rw [htag, live_concat]
    split
    · rename_i he
      have hdead : ¬ Live past id' := by
        rw [← ht.live, he]
        rcases hv with hv | ⟨hv, -⟩ <;> rw [hv] <;> simp
      constructor
      · intro hg
        have hsame := (Prod.mk.inj (Option.some.inj hg)).1
        exact .inl ⟨reference, rfl, by rw [SessionId.eq_of_toNat he hsame.symm]⟩
      · rintro (⟨_, -, hid⟩ | ⟨hlive, -⟩)
        · cases hid
          rfl
        · exact absurd hlive hdead
    · rename_i hne
      rw [ht.live]
      constructor
      · exact fun hlive => .inr ⟨hlive, nofun⟩
      · rintro (⟨_, -, hid⟩ | ⟨hlive, -⟩)
        · cases hid
          exact absurd rfl hne
        · exact hlive

theorem Traced.vacated {id : SessionId} {outcome : Outcome SessionError Reply} (ht : Traced past h)
    (ho : h.tag id.index.toNat = some (id.generation, true)) (hi : Reply.id? outcome = none)
    (hd : outcome ≠ .ok (.destroyed false))
    (htag : ∀ n, h'.tag n =
      if n = id.index.toNat then some (nextGeneration id.generation, false) else h.tag n) :
    Traced (past ++ [(.destroy id, outcome)]) h' := by
  have hdestroys (n : Nat) : Call.DestroysIn (ω := ω) (β := β) n (.destroy id, outcome) =
      decide (id.index.toNat = n) := by
    unfold Call.DestroysIn
    split
    · rename_i he
      cases he
      exact absurd rfl hd
    · rename_i he
      cases he
      rfl
    · rename_i he
      exact absurd rfl (he _ _)
  have hretired (n : Nat) : retired (past ++ [(.destroy id, outcome)]) n =
      retired past n + if n = id.index.toNat then 1 else 0 := by
    rw [retired_concat, hdestroys]
    by_cases he : n = id.index.toNat
    · simp [he]
    · simp [he, Ne.symm he]
  have hissued : Host.issued (past ++ [(.destroy id, outcome)]) = Host.issued past := by
    simp [issued_concat, hi]
  refine ⟨fun {n g occupied} h => ?_, fun {n} h => ?_, fun n => ?_, fun id' => ?_⟩
  · rw [htag] at h
    rw [hretired]
    split at h
    · rename_i he
      cases h
      rw [if_pos he, he, ← nextGeneration_generationAt, ← ht.generation ho]
    · rename_i hne
      rw [if_neg hne]
      exact ht.generation h
  · rw [htag] at h
    split at h
    · cases h
    · rename_i hne
      rw [hretired, if_neg hne]
      exact ht.untouched h
  · rw [hissued, ht.issued n, hretired, htag]
    by_cases he : n = id.index.toNat
    · subst he
      simp [ho]
    · simp [he]
  · rw [htag, live_concat]
    split
    · rename_i he
      refine iff_of_false (by simp) ?_
      rintro (⟨_, hcall, -⟩ | ⟨hlive, hne⟩)
      · cases hcall
      · have htaken := (ht.live id').mpr hlive
        rw [he, ho] at htaken
        have hsame := (Prod.mk.inj (Option.some.inj htaken)).1
        exact hne (by rw [SessionId.eq_of_toNat he hsame.symm])
    · rename_i hne
      rw [ht.live]
      constructor
      · exact fun hlive => .inr ⟨hlive, fun he => hne (by rw [Call.destroy.inj he])⟩
      · rintro (⟨_, hcall, -⟩ | ⟨hlive, -⟩)
        · cases hcall
        · exact hlive

theorem Traced.moved {made : Call ω β × Outcome SessionError Reply} (ht : Traced past h)
    (hm : Moved h h' made) : Traced (past ++ [made]) h' := by
  cases hm with
  | kept htag hi hd => exact ht.kept htag hi hd
  | seated hv htag => exact ht.seated hv htag
  | vacated ho hi hd htag => exact ht.vacated ho hi hd htag

/-- The calls of a run, each with how it ended. -/
def history [Device β] (h : Host ω β) (calls : List (ω × Call ω β)) :
    List (Call ω β × Outcome SessionError Reply) :=
  (calls.map Prod.snd).zip (h.run calls).1

theorem Traced.run [Device β] :
    ∀ (calls : List (ω × Call ω β)) {h : Host ω β}
      {past : List (Call ω β × Outcome SessionError Reply)}, Traced past h → h.Balanced [] →
        Traced (past ++ h.history calls) (h.run calls).2.1
  | [], _, past, ht, _ => by
    rw [history, List.map_nil, List.zip_nil_left, List.append_nil]
    exact ht
  | (w, call) :: rest, h, past, ht, hb => by
    have hnext := Traced.run rest (ht.moved (perform_moved hb w call)) (hb.perform w h call)
    rw [List.append_assoc] at hnext
    exact hnext

/-- Until a slot has been freed as often as there are generations, its ids are distinct. -/
theorem Traced.nodup_issued (ht : Traced past h) (hfew : ∀ n, retired past n < generations) :
    (Host.issued past).Nodup := by
  have hslot (n : Nat) : ((Host.issued past).filter (·.index.toNat = n)).Nodup := by
    rw [ht.issued n]
    refine (List.nodup_map_iff_inj_on List.nodup_range).mpr fun i hi j hj he => ?_
    have hsame := generationAt_inj.mp (congrArg SessionId.generation he)
    have hbound : (if (h.tag n).any Prod.snd then 1 else 0) ≤ 1 := by split <;> omega
    have hn := hfew n
    rw [List.mem_range] at hi hj
    rwa [Nat.mod_eq_of_lt (by omega), Nat.mod_eq_of_lt (by omega)] at hsame
  refine List.nodup_iff_count_le_one.mpr fun id => ?_
  rw [← List.count_filter (p := fun other => other.index.toNat = id.index.toNat) (by simp)]
  exact List.nodup_iff_count_le_one.mp (hslot _) id

/-- The ids of a slot run through the generations in turn. -/
theorem Traced.generation_issued (ht : Traced past h) {n k : Nat} {id : SessionId}
    (hk : ((Host.issued past).filter (·.index.toNat = n))[k]? = some id) : id = idAt n k := by
  rw [ht.issued n, List.getElem?_map, Option.map_eq_some_iff] at hk
  obtain ⟨i, hi, rfl⟩ := hk
  obtain ⟨hlt, rfl⟩ := List.getElem?_eq_some_iff.mp hi
  rw [List.getElem_range]

theorem Traced.mem_issued (ht : Traced past h) {id : SessionId} (hid : id ∈ Host.issued past) :
    ∃ k, id = idAt id.index.toNat k := by
  have hmem : id ∈ (Host.issued past).filter (·.index.toNat = id.index.toNat) :=
    List.mem_filter.mpr ⟨hid, by simp⟩
  obtain ⟨k, hk⟩ := List.mem_iff_getElem?.mp hmem
  exact ⟨k, ht.generation_issued hk⟩

/-- The id of a session that is created has a generation. -/
theorem Traced.generation_created [Device β] {w : ω} {reference : String} {id : SessionId}
    (ht : Traced past h) (hb : h.Balanced []) (hc : (h.create w reference).1 = .ok id) :
    id.generation ≠ 0 := by
  have hid : Reply.id? (h.perform w (.create reference)).1 = some id := by
    simp only [perform, hc]
    rfl
  have hmem :
      id ∈ Host.issued (past ++ [(.create reference, (h.perform w (.create reference)).1)]) := by
    rw [issued_concat, hid]
    exact List.mem_append_right _ (.head _)
  obtain ⟨k, hk⟩ := (ht.moved (perform_moved hb w (.create reference))).mem_issued hmem
  exact hk ▸ generationAt_ne_zero k

end Traced

section Ids

theorem withSession_of_none {h : Host ω β} {id : SessionId} (ho : h.occupant? id = none) {α : Type}
    (call : Session β → Outcome SessionError α × Session β) :
    h.withSession id call = (.error (.invalidArgument (.unknownSession id)), h) := by
  rw [withSession, ho]

theorem withSession_of_some {h : Host ω β} {id : SessionId} {o : Occupant β}
    (ho : h.occupant? id = some o) {α : Type}
    (call : Session β → Outcome SessionError α × Session β) :
    (h.withSession id call).1 = if o.poisoned then .error .poisoned else (call o.session).1 := by
  simp only [withSession, ho]
  split <;> rfl

variable [Device β]

theorem destroy_of_none {h : Host ω β} {id : SessionId} (ho : h.occupant? id = none) (w : ω) :
    h.destroy w id = (.ok false, h, []) := by
  rw [destroy, ho]

theorem Destroyed.of_some {w : ω} {h h' : Host ω β} {id : SessionId} {o : Occupant β}
    {outcome : Outcome Empty Bool} {events : List Event}
    (hd : Destroyed w h id (outcome, h', events)) (ho : h.occupant? id = some o) :
    outcome ≠ .ok false ∧
      ((∀ r ∈ h.families, (r.family.teardown w).1 = .ok ()) → outcome = .ok true) := by
  cases hd with
  | unknown hn =>
    rw [ho] at hn
    cases hn
  | @destroyed _ t _ _ _ hr =>
    refine ⟨?_, fun hquiet => ?_⟩
    · cases t <;> simp
    · rw [hr.ok_of_quiet hquiet]
      rfl

/-- Let any calls be made on a new host. As long as no slot has been freed as often as there are
generations, all ids that have been given out are distinct. Each of them has a raw form of more than
32 bits that it can be read back from. Whatever raw form an id is read from, it stands for a session
if and only if it was given out and has not been destroyed since: then calls reach the session, and
destroying it succeeds, unless the teardown of its family crashes; otherwise the id is unknown, and
destroying it changes nothing. The generations of the ids of a slot go round in a cycle that leaves
out zero, and so two of them are equal if and only if they are whole cycles apart. -/
theorem ids_fresh {h₀ : Host ω β} (hnew : h₀.New) (calls : List (ω × Call ω β)) :
    let past := h₀.history calls
    let h := (h₀.run calls).2.1
    ((∀ n, retired past n < generations) → (issued past).Nodup) ∧
      (∀ id ∈ issued past,
        UInt32.size ≤ id.toRaw.toNat ∧ SessionId.ofRaw? id.toRaw = some id) ∧
      (∀ (raw : UInt64) (id : SessionId), SessionId.ofRaw? raw = some id →
        (Live past id →
          (∃ o : Occupant β, ∀ (α : Type) (call : Session β → Outcome SessionError α × Session β),
            (h.withSession id call).1 =
              if o.poisoned then .error .poisoned else (call o.session).1) ∧
          ∀ w : ω, (h.destroy w id).1 ≠ .ok false ∧
            ((∀ r ∈ h.families, (r.family.teardown w).1 = .ok ()) →
              (h.destroy w id).1 = .ok true)) ∧
        (¬ Live past id →
          (∀ (α : Type) (call : Session β → Outcome SessionError α × Session β),
            h.withSession id call = (.error (.invalidArgument (.unknownSession id)), h)) ∧
          ∀ w : ω, h.destroy w id = (.ok false, h, []))) ∧
      (∀ (w : ω) (id : SessionId), (h.destroy w id).1 = .ok false → (h.destroy w id).2 = (h, [])) ∧
      ∀ (n i : Nat) (id : SessionId), ((issued past).filter (·.index.toNat = n))[i]? = some id →
        id.generation.toNat = 1 + i % generations ∧ id.generation ≠ 0 ∧
          ∀ (j : Nat) (other : SessionId),
            ((issued past).filter (·.index.toNat = n))[j]? = some other →
              (id = other ↔ i % generations = j % generations) := by
  intro past h
  have ht : Traced past h := Traced.run calls hnew.traced hnew.balanced
  have hlive (id : SessionId) : (h.occupant? id).isSome ↔ Live past id :=
    isSome_occupant?_iff.trans (ht.live id)
  refine ⟨ht.nodup_issued, fun id hid => ?_, fun raw id _ => ⟨fun hid => ?_, fun hid => ?_⟩,
    fun w id hfalse => ?_, fun n i id hi => ?_⟩
  · obtain ⟨k, hk⟩ := ht.mem_issued hid
    have hzero : id.generation ≠ 0 := hk ▸ generationAt_ne_zero k
    have hpos : id.generation.toNat ≠ 0 := fun he => hzero (UInt32.toNat_inj.mp he)
    refine ⟨?_, SessionId.ofRaw?_toRaw hzero⟩
    rw [SessionId.toNat_toRaw]
    exact Nat.le_trans (Nat.le_mul_of_pos_left _ (Nat.pos_of_ne_zero hpos)) (Nat.le_add_right ..)
  · obtain ⟨o, ho⟩ := Option.isSome_iff_exists.mp ((hlive id).mpr hid)
    exact ⟨⟨o, fun α call => withSession_of_some ho call⟩,
      fun w => (h.destroy_destroyed w id).of_some ho⟩
  · have hnone : h.occupant? id = none := by
      rw [← Option.not_isSome_iff_eq_none, hlive]
      exact hid
    exact ⟨fun α call => withSession_of_none hnone call, destroy_of_none hnone⟩
  · cases ho : h.occupant? id with
    | none => rw [destroy_of_none ho]
    | some o => exact absurd hfalse ((h.destroy_destroyed w id).of_some ho).1
  · obtain rfl := ht.generation_issued hi
    refine ⟨toNat_generationAt i, generationAt_ne_zero i, fun j other hj => ?_⟩
    obtain rfl := ht.generation_issued hj
    rw [← generationAt_inj]
    exact ⟨congrArg SessionId.generation,
      SessionId.eq_of_toNat (a := idAt n i) (b := idAt n j) rfl⟩

/-- A slot that is used twice, and an id that is destroyed twice. -/
def reusing : List (Unit × Call Unit Stub) :=
  [((), .create "deterministic:m?vocab=4"), ((), .destroy ⟨0, 1⟩),
    ((), .create "deterministic:m?vocab=4"), ((), .destroy ⟨0, 1⟩)]

theorem ids_fresh_reusing :
    let past := (standard id : Host Unit Stub).history reusing
    issued past = [⟨0, 1⟩, ⟨0, 2⟩] ∧ (issued past).Nodup ∧ ¬ Live past ⟨0, 1⟩ ∧
      Live past ⟨0, 2⟩ := by
  obtain ⟨hnodup, -, hraw, -⟩ := ids_fresh (.standard id) reusing
  have hold : (((standard id : Host Unit Stub).run reusing).2.1.destroy () ⟨0, 1⟩).1 =
      .ok false := by cbv
  have hnew : (((standard id : Host Unit Stub).run reusing).2.1.destroy () ⟨0, 2⟩).1 =
      .ok true := by cbv
  refine ⟨by cbv, hnodup fun n => ?_, fun hlive => ?_, Classical.byContradiction fun hdead => ?_⟩
  · have hlength : ((standard id : Host Unit Stub).history reusing).length = 4 := by cbv
    have hfew : retired ((standard id : Host Unit Stub).history reusing) n ≤ 4 :=
      hlength ▸ List.countP_le_length
    exact Nat.lt_of_le_of_lt hfew (by decide)
  · exact (((hraw (SessionId.toRaw ⟨0, 1⟩) ⟨0, 1⟩ rfl).1 hlive).2 ()).1 hold
  · rw [((hraw (SessionId.toRaw ⟨0, 2⟩) ⟨0, 2⟩ rfl).2 hdead).2 ()] at hnew
    cases hnew

end Ids

end Decoding.Host

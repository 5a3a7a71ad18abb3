import Decoding.Proofs.Host.Transitions

/-!
The two tables of a host agree. A family counts the slots that its sessions are in, and
one more for each lease: a family is acquired before there is an occupant to count, and
released when there is none any more. Between calls no lease is out.
-/

namespace Decoding

/-- Who is in a slot: the family that counts it and the number of its backend. -/
structure Tenant where
  family : String
  backend : Nat
  deriving DecidableEq, Repr

variable {ω β : Type}

def Occupant.tenant (o : Occupant β) : Tenant := ⟨o.family, o.serial⟩

def Slot.tenant? (slot : Slot β) : Option Tenant := slot.occupant.map Occupant.tenant

namespace Host

/-- The tenants in the order of the slots. -/
def tenants (h : Host ω β) : List Tenant := h.slots.filterMap Slot.tenant?

/-- The number of slots whose occupant belongs to a family. -/
def population (h : Host ω β) (name : String) : Nat :=
  h.slots.countP fun slot => slot.occupant.any (·.family = name)

/-- The numbers of the slots without occupant. -/
def vacant (h : Host ω β) : List Nat :=
  (List.range h.slots.length).filter fun n => h.slots[n]?.any (·.occupant.isNone)

section Tenants

variable {h : Host ω β} {id : SessionId} {o o' : Occupant β} {slot : Slot β}

/-- Writing to a list exchanges one value for another in whatever is read off it. -/
theorem filterMap_set_perm {γ δ : Type} (f : γ → Option δ) (b : γ) :
    ∀ {l : List γ} {i : Nat} {a : γ}, l[i]? = some a →
      ((f a).toList ++ (l.set i b).filterMap f).Perm ((f b).toList ++ l.filterMap f)
  | x :: l, 0, a, h => by
    cases h
    cases hx : f x <;> cases hb : f b <;> simp [hx, hb, List.Perm.swap]
  | x :: l, i + 1, a, h => by
    have ih := filterMap_set_perm f b (l := l) (i := i) (a := a) h
    cases hx : f x with
    | none => simpa [hx] using ih
    | some y =>
      simp only [List.set_cons_succ, List.filterMap_cons, hx]
      exact List.perm_middle.trans ((ih.cons y).trans List.perm_middle.symm)

theorem population_eq (h : Host ω β) (name : String) :
    h.population name = h.tenants.countP (·.family = name) := by
  rw [population, tenants, List.countP_filterMap]
  congr 1
  funext slot
  cases hs : slot.occupant <;> simp [Slot.tenant?, hs, Occupant.tenant]

theorem tenants_eq_map (h : Host ω β) :
    h.tenants = (h.slots.filterMap Slot.occupant).map Occupant.tenant := by
  rw [tenants, List.map_filterMap]
  rfl

theorem liveSessions_eq (h : Host ω β) : h.liveSessions = h.tenants.length := by
  rw [liveSessions, tenants, ← List.countP_eq_length_filter, List.length_filterMap_eq_countP]
  congr 1
  funext slot
  simp [Slot.tenant?]

theorem tenants_seat (id : SessionId) (o : Occupant β) (hs : h.slots[id.index.toNat]? = some slot) :
    (slot.tenant?.toList ++ (h.seat id o).tenants).Perm (o.tenant :: h.tenants) :=
  filterMap_set_perm Slot.tenant? _ hs

theorem tenants_vacate (ho : h.occupant? id = some o) :
    h.tenants.Perm (o.tenant :: (h.vacate id).tenants) :=
  (filterMap_set_perm Slot.tenant? { generation := nextGeneration id.generation, occupant := none }
    (occupant?_eq_some_iff.mp ho)).symm

theorem tenants_append :
    ({ h with slots := h.slots ++ [{ generation := 1, occupant := some o }] } : Host ω β).tenants =
      h.tenants ++ [o.tenant] := by
  simp [tenants, Slot.tenant?]

end Tenants

/-- The slots without occupant are on the free list, each once, and no others. -/
structure Listed (h : Host ω β) : Prop where
  room : h.slots.length ≤ maxSlots
  nodup : h.free.Nodup
  mem_free : ∀ index, index ∈ h.free ↔
    ∃ slot, h.slots[index.toNat]? = some slot ∧ slot.occupant = none

section Listed

variable {h h' : Host ω β} {id : SessionId} {o o' : Occupant β}

theorem getElem?_set_of_some {γ : Type} {l : List γ} {i : Nat} {a : γ} (h : l[i]? = some a) (b : γ)
    (j : Nat) : (l.set i b)[j]? = if i = j then some b else l[j]? := by
  obtain ⟨hi, -⟩ := List.getElem?_eq_some_iff.mp h
  simp [List.getElem?_set, hi]

theorem Listed.not_mem_free (hl : h.Listed) (ho : h.occupant? id = some o) :
    id.index ∉ h.free := by
  intro hfree
  obtain ⟨slot, hslot, hnone⟩ := (hl.mem_free _).mp hfree
  rw [occupant?_eq_some_iff.mp ho] at hslot
  cases hslot
  cases hnone

theorem Listed.seat (hl : h.Listed) (ho : h.occupant? id = some o) : (h.seat id o').Listed where
  room := by simpa [Host.seat] using hl.room
  nodup := hl.nodup
  mem_free index := by
    have hslot := getElem?_set_of_some (occupant?_eq_some_iff.mp ho)
      { generation := id.generation, occupant := some o' } index.toNat
    simp only [Host.seat, hslot]
    split
    · rename_i he
      rw [← UInt32.toNat_inj.mp he]
      simp [hl.not_mem_free ho]
    · exact hl.mem_free index

theorem Listed.vacate (hl : h.Listed) (ho : h.occupant? id = some o) : (h.vacate id).Listed where
  room := by simpa [Host.vacate] using hl.room
  nodup := List.nodup_cons.mpr ⟨hl.not_mem_free ho, hl.nodup⟩
  mem_free index := by
    have hslot := getElem?_set_of_some (occupant?_eq_some_iff.mp ho)
      { generation := nextGeneration id.generation, occupant := none } index.toNat
    simp only [Host.vacate, hslot, List.mem_cons]
    split
    · rename_i he
      simp [UInt32.toNat_inj.mp he]
    · rename_i hne
      have : index ≠ id.index := fun he => hne (congrArg UInt32.toNat he.symm)
      simp [this, hl.mem_free index]

theorem Listed.inserted (hl : h.Listed) (hi : Inserted h o (.ok (id, h'))) : h'.Listed := by
  cases hi with
  | @reused index free slot hf hs =>
    obtain ⟨hfresh, hnodup⟩ := List.nodup_cons.mp (hf ▸ hl.nodup)
    refine ⟨by simpa [Host.seat] using hl.room, hnodup, fun index' => ?_⟩
    have hold := hl.mem_free index'
    rw [hf, List.mem_cons] at hold
    simp only [Host.seat, getElem?_set_of_some hs]
    split
    · rename_i he
      rw [← UInt32.toNat_inj.mp he]
      simp [hfresh]
    · rename_i hne
      have : index' ≠ index := fun he => hne (congrArg UInt32.toNat he.symm)
      simpa [this] using hold
  | appended hf hlt =>
    refine ⟨by rw [List.length_append]; exact hlt, hl.nodup, fun index => ?_⟩
    have hold := hl.mem_free index
    simp only [hf, List.not_mem_nil, false_iff] at hold ⊢
    rintro ⟨slot, hslot, hnone⟩
    rcases Nat.lt_or_ge index.toNat h.slots.length with hlt | hge
    · rw [List.getElem?_append_left hlt] at hslot
      exact hold ⟨slot, hslot, hnone⟩
    · rw [List.getElem?_append_right hge] at hslot
      obtain rfl := List.mem_singleton.mp (List.mem_of_getElem? hslot)
      cases hnone

/-- A table has no room left only if all its slots are occupied. -/
theorem Listed.full_of_error (hl : h.Listed) {e : SessionError} (hi : Inserted h o (.error e)) :
    h.free = [] ∧ h.slots.length = maxSlots := by
  cases hi with
  | full hf hge => exact ⟨hf, Nat.le_antisymm hl.room hge⟩
  | dangling hf hs =>
    obtain ⟨slot, hslot, -⟩ := (hl.mem_free _).mp (hf ▸ List.mem_cons_self)
    rw [hs] at hslot
    cases hslot

/-- Inserting adds a tenant. -/
theorem Listed.tenants_inserted (hl : h.Listed) (hi : Inserted h o (.ok (id, h'))) :
    h'.tenants.Perm (o.tenant :: h.tenants) := by
  cases hi with
  | @reused index free slot hf hs =>
    obtain ⟨_, hslot, hnone⟩ := (hl.mem_free index).mp (hf ▸ List.mem_cons_self)
    rw [hs] at hslot
    cases hslot
    have hp := tenants_seat ⟨index, slot.generation⟩ o hs
    simp only [Slot.tenant?, hnone, Option.map_none, Option.toList_none, List.nil_append] at hp
    exact hp
  | appended hf hlt =>
    rw [tenants_append]
    exact List.perm_append_comm

/-- Inserting leaves all but the slots alone. -/
theorem Inserted.kept (hi : Inserted h o (.ok (id, h'))) :
    h'.families = h.families ∧ h'.registered = h.registered ∧ h'.opened = h.opened := by
  cases hi <;> exact ⟨rfl, rfl, rfl⟩

end Listed

/-- The tables of a host agree, when the families of some leases are counted once more. -/
structure Balanced (leases : List String) (h : Host ω β) : Prop extends h.Listed where
  names : (h.families.map (·.family.name)).Nodup
  counts : ∀ name, h.refcount name = h.population name + leases.count name

section Balanced

variable {w : ω} {h h' h₁ h₂ : Host ω β} {leases : List String} {name : String} {id : SessionId}
  {o o' : Occupant β} {r : Registration ω β} {begun ended : List Event}

theorem New.balanced (hn : New h) : h.Balanced [] := by
  cases hn with
  | bare => exact ⟨⟨Nat.zero_le _, .nil, by simp⟩, .nil, fun name => rfl⟩
  | standard embed =>
    refine ⟨⟨Nat.zero_le _, .nil, by simp [Host.standard]⟩, ?_, fun name => ?_⟩
    · simp [Host.standard, Family.map, Family.deterministic, Family.fixed, Family.plain]
    have hlive : ∀ r ∈ (Host.standard embed : Host ω β).families, r.live = 0 := by
      simp [Host.standard]
    cases hr : (Host.standard embed : Host ω β).registration? name with
    | none => rw [refcount_of_unregistered hr]; rfl
    | some r => rw [refcount_of_registration? hr, hlive r (mem_of_registration? hr)]; rfl

/-- An acquired family is counted once more. -/
theorem Acquired.eq_setLive (ha : Acquired w h name (.ok r, h₁, begun)) :
    h.registration? name = some r ∧ h₁ = h.setLive name (r.live + 1) := by
  cases ha with
  | first hr hl => exact ⟨hr, by rw [hl]⟩
  | again hr => exact ⟨hr, rfl⟩

/-- Only counts are at stake when a family is counted anew. -/
theorem Balanced.setLive {live : Nat} {leases' : List String} (hb : h.Balanced leases)
    (hcounts : ∀ other,
      (h.setLive name live).refcount other = h.population other + leases'.count other) :
    (h.setLive name live).Balanced leases' :=
  ⟨⟨hb.room, hb.nodup, hb.mem_free⟩, (map_setLive (·.family.name) fun _ _ => rfl).symm ▸ hb.names,
    hcounts⟩

theorem Balanced.acquired (hb : h.Balanced leases)
    (ha : Acquired w h name (.ok r, h₁, begun)) : h₁.Balanced (name :: leases) := by
  obtain ⟨hr, rfl⟩ := ha.eq_setLive
  refine hb.setLive fun other => ?_
  have hcount := hb.counts other
  rw [refcount_setLive hr]
  split
  · rename_i he
    subst he
    rw [refcount_of_registration? hr] at hcount
    rw [hcount, List.count_cons_self]
    rfl
  · rename_i hne
    rw [hcount, List.count_cons_of_ne (Ne.symm hne)]

theorem Balanced.released {t : Outcome Empty Unit} (hb : h.Balanced (name :: leases))
    (hr : Released w h name (t, h', ended)) : h'.Balanced leases := by
  have hcount := hb.counts name
  rw [List.count_cons_self] at hcount
  have hset {r : Registration ω β} (hr : h.registration? name = some r) :
      (h.setLive name (r.live - 1)).Balanced leases := by
    refine hb.setLive fun other => ?_
    rw [refcount_setLive hr]
    split
    · rename_i he
      subst he
      rw [refcount_of_registration? hr] at hcount
      rw [hcount]
      rfl
    · rename_i hne
      rw [hb.counts other, List.count_cons_of_ne (Ne.symm hne)]
  cases hr with
  | unknown hr =>
    rw [refcount_of_unregistered hr] at hcount
    omega
  | last hr hl =>
    have hzero := hset hr
    rwa [Nat.sub_eq_zero_of_le hl] at hzero
  | kept hr => exact hset hr

theorem Balanced.counted (hb : h.Balanced leases) (n : Nat) :
    ({ h with opened := n } : Host ω β).Balanced leases :=
  ⟨⟨hb.room, hb.nodup, hb.mem_free⟩, hb.names, hb.counts⟩

theorem population_of_perm (hp : h'.tenants.Perm (o.tenant :: h.tenants)) (name : String) :
    h'.population name = h.population name + if o.family = name then 1 else 0 := by
  rw [population_eq, population_eq, hp.countP_eq, List.countP_cons]
  by_cases hf : o.family = name <;> simp [Occupant.tenant, hf]

/-- The lease of a family becomes the count of the occupant. -/
theorem Balanced.inserted (hb : h.Balanced (o.family :: leases))
    (hi : Inserted h o (.ok (id, h'))) : h'.Balanced leases := by
  have hfamilies := hi.kept.1
  refine ⟨hb.toListed.inserted hi, hfamilies ▸ hb.names, fun name => ?_⟩
  have hcount := hb.counts name
  rw [population_of_perm (hb.toListed.tenants_inserted hi), refcount, registration?, hfamilies]
  rw [List.count_cons] at hcount
  simp only [beq_iff_eq] at hcount
  rw [Nat.add_right_comm, Nat.add_assoc]
  exact hcount

/-- The count of an occupant that leaves its slot becomes a lease of its family. -/
theorem Balanced.vacate (hb : h.Balanced leases) (ho : h.occupant? id = some o) :
    (h.vacate id).Balanced (o.family :: leases) := by
  refine ⟨hb.toListed.vacate ho, hb.names, fun name => ?_⟩
  have hcount := hb.counts name
  rw [population_of_perm (tenants_vacate ho)] at hcount
  rw [List.count_cons]
  simp only [beq_iff_eq]
  rw [Nat.add_right_comm, Nat.add_assoc] at hcount
  exact hcount

theorem tenants_seat_self (ho : h.occupant? id = some o) (ht : o'.tenant = o.tenant) :
    (h.seat id o').tenants.Perm h.tenants := by
  have hp := tenants_seat id o' (occupant?_eq_some_iff.mp ho)
  rw [ht] at hp
  exact (List.perm_cons _).mp hp

/-- A call on a session changes neither its family nor its backend's number. -/
theorem Called.tenants {α : Type} {call : Session β → Outcome SessionError α × Session β}
    {outcome : Outcome SessionError α} (hc : Called h id call (outcome, h')) :
    h'.tenants.Perm h.tenants := by
  cases hc with
  | unknown | poisoned => exact .refl _
  | completed ho | crashed ho => exact tenants_seat_self ho rfl

theorem Balanced.called {α : Type} {call : Session β → Outcome SessionError α × Session β}
    {outcome : Outcome SessionError α} (hb : h.Balanced leases)
    (hc : Called h id call (outcome, h')) : h'.Balanced leases := by
  have hcounts (hfamilies : h'.families = h.families) (name : String) :
      h'.refcount name = h'.population name + leases.count name := by
    rw [population_eq, hc.tenants.countP_eq, ← population_eq, ← hb.counts name, refcount, refcount,
      registration?, registration?, hfamilies]
  cases hc with
  | unknown | poisoned => exact hb
  | completed ho | crashed ho => exact ⟨hb.toListed.seat ho, hb.names, hcounts rfl⟩

theorem Balanced.registered {family : Family ω β} (hb : h.Balanced leases)
    (hr : Registered h family (.ok h')) : h'.Balanced leases := by
  have hcounts := hr.refcount
  cases hr with
  | added hr =>
    refine ⟨⟨hb.room, hb.nodup, hb.mem_free⟩, ?_, fun name => (hcounts name).trans (hb.counts name)⟩
    simp only [List.map_append, List.map_cons, List.map_nil]
    refine List.nodup_append.mpr ⟨hb.names, List.nodup_singleton _, ?_⟩
    simp only [registration?, List.find?_eq_none, decide_eq_true_eq] at hr
    simpa using hr
  | replaced hr =>
    refine ⟨⟨hb.room, hb.nodup, hb.mem_free⟩, ?_, fun name => (hcounts name).trans (hb.counts name)⟩
    convert hb.names using 1
    simp only [List.map_map]
    refine List.map_congr_left fun r _ => ?_
    simp only [Function.comp_apply]
    split <;> simp_all

/-- A family that is released after it was acquired is as before. -/
theorem Acquired.undone {t : Outcome Empty Unit} {n : Nat}
    (ha : Acquired w h name (.ok r, h₁, begun)) (hnames : (h.families.map (·.family.name)).Nodup)
    (hr : Released w { h₁ with opened := n } name (t, h₂, ended)) :
    h₂ = { h with opened := n } := by
  obtain ⟨hreg, rfl⟩ := ha.eq_setLive
  have hname := name_of_registration? hreg
  have hnow : ({ h.setLive name (r.live + 1) with opened := n } : Host ω β).registration? name =
      some { r with live := r.live + 1 } := by
    change (h.setLive name (r.live + 1)).registration? name = _
    rw [registration?_setLive, hreg]
    simp [hname]
  have hback : ({ h.setLive name (r.live + 1) with opened := n } : Host ω β).setLive name r.live =
      { h with opened := n } := by
    change { (h.setLive name (r.live + 1)).setLive name r.live with opened := n } = _
    rw [setLive_setLive, setLive_self hnames hreg]
  cases hr with
  | unknown hr =>
    rw [hnow] at hr
    cases hr
  | last hr hl =>
    rw [hnow] at hr
    cases hr
    rw [← hback, Nat.le_zero.mp (Nat.le_of_succ_le_succ hl)]
  | kept hr =>
    rw [hnow] at hr
    cases hr
    exact hback

end Balanced

section Totals

variable {h : Host ω β}

/-- An item of a list without repetitions is there once. -/
theorem sum_map_indicator {names : List String} (hn : names.Nodup) {name : String}
    (hname : name ∈ names) : (names.map fun n => if name = n then 1 else 0).sum = 1 := by
  have hcount : (names.map fun n => if name = n then 1 else 0).sum = names.count name := by
    clear hn hname
    induction names with
    | nil => rfl
    | cons n names ih =>
      rw [List.map_cons, List.sum_cons, ih, List.count_cons, Nat.add_comm]
      by_cases he : name = n
      · simp [he]
      · simp [he, Ne.symm he]
  rw [hcount, List.count_eq_one_of_mem hn hname]

theorem sum_map_countP {names : List String} (hn : names.Nodup) :
    ∀ {ts : List Tenant}, (∀ t ∈ ts, t.family ∈ names) →
      (names.map fun n => ts.countP (·.family = n)).sum = ts.length
  | [], _ => by simp
  | t :: ts, ht => by
    have ih := sum_map_countP hn fun t' ht' => ht t' (List.mem_cons_of_mem _ ht')
    simp only [List.countP_cons, decide_eq_true_eq, List.sum_map_add, ih, List.length_cons]
    rw [sum_map_indicator hn (ht t List.mem_cons_self)]

theorem registration?_of_mem (hnames : (h.families.map (·.family.name)).Nodup)
    {r : Registration ω β} (hr : r ∈ h.families) : h.registration? r.family.name = some r := by
  cases hs : h.registration? r.family.name with
  | none => simpa using List.find?_eq_none.mp hs r hr
  | some r' =>
    rw [List.inj_on_of_nodup_map hnames (mem_of_registration? hs) hr (name_of_registration? hs)]

/-- To register a family does nothing to those that have sessions. -/
theorem Registered.mem_iff_of_live {h' : Host ω β} {family : Family ω β}
    (hf : Registered h family (.ok h')) (hnames : (h.families.map (·.family.name)).Nodup)
    {r : Registration ω β} (hl : r.live ≠ 0) : r ∈ h'.families ↔ r ∈ h.families := by
  cases hf with
  | added hr =>
    simp only [List.mem_append, List.mem_singleton, or_iff_left_iff_imp]
    rintro rfl
    exact absurd rfl hl
  | replaced hr hidle =>
    simp only [List.mem_map]
    constructor
    · rintro ⟨r', hr', rfl⟩
      split at hl
      · exact absurd rfl hl
      · rwa [if_neg (by assumption)]
    · intro hmem
      refine ⟨r, hmem, if_neg fun hname => ?_⟩
      rw [← hname, registration?_of_mem hnames hmem] at hr
      cases hr
      exact hl hidle

theorem population_pos {t : Tenant} (ht : t ∈ h.tenants) : 0 < h.population t.family := by
  rw [population_eq]
  exact List.countP_pos_iff.mpr ⟨t, ht, by simp⟩

/-- The families of tenants are registered and counted. -/
theorem Balanced.exists_registration {leases : List String} (hb : h.Balanced leases) {t : Tenant}
    (ht : t ∈ h.tenants) : ∃ r, h.registration? t.family = some r ∧ r.live ≠ 0 := by
  have hcount := hb.counts t.family
  have hpos := population_pos ht
  cases hr : h.registration? t.family with
  | some r =>
    rw [refcount_of_registration? hr] at hcount
    exact ⟨r, rfl, by omega⟩
  | none =>
    rw [refcount_of_unregistered hr] at hcount
    omega

theorem Balanced.liveSessions (hb : h.Balanced []) :
    h.liveSessions = (h.families.map Registration.live).sum := by
  have hlive : h.families.map Registration.live =
      (h.families.map (·.family.name)).map fun n => h.tenants.countP (·.family = n) := by
    rw [List.map_map]
    refine List.map_congr_left fun r hr => ?_
    have hcount := hb.counts r.family.name
    rw [refcount_of_registration? (registration?_of_mem hb.names hr), population_eq] at hcount
    exact hcount
  rw [liveSessions_eq, hlive, sum_map_countP hb.names]
  intro t ht
  obtain ⟨r, hr, -⟩ := hb.exists_registration ht
  exact List.mem_map.mpr ⟨r, mem_of_registration? hr, name_of_registration? hr⟩

theorem Listed.free_perm (hl : h.Listed) : (h.free.map UInt32.toNat).Perm h.vacant := by
  refine (List.perm_ext_iff_of_nodup ?_ (List.nodup_range.filter _)).mpr fun n => ?_
  · exact (List.nodup_map_iff_inj_on hl.nodup).mpr fun a _ b _ hab => UInt32.toNat_inj.mp hab
  · simp only [List.mem_map, hl.mem_free, List.mem_filter, List.mem_range,
      Option.any_eq_true, Option.isNone_iff_eq_none]
    constructor
    · rintro ⟨index, ⟨slot, hslot, hnone⟩, rfl⟩
      exact ⟨(List.getElem?_eq_some_iff.mp hslot).1, slot, hslot, hnone⟩
    · rintro ⟨hn, slot, hslot, hnone⟩
      have hindex : (UInt32.ofNat n).toNat = n :=
        UInt32.toNat_ofNat_of_lt (Nat.lt_of_lt_of_le hn hl.room)
      exact ⟨.ofNat n, ⟨slot, by rw [hindex]; exact hslot, hnone⟩, hindex⟩

end Totals

section Calls

variable [Device β] {w : ω} {h h' : Host ω β}

/-- A create that makes no session leaves the tables as they were. -/
theorem Created.undone {reference : String} {o : Outcome SessionError SessionId}
    {events : List Event} (hc : Created w h reference (o, h', events)) (ho : ∀ id, o ≠ .ok id)
    (hnames : (h.families.map (·.family.name)).Nodup) : ∃ n, h' = { h with opened := n } := by
  cases hc with
  | unparsed | unacquired => exact ⟨h.opened, rfl⟩
  | @unopened _ _ h₁ _ _ _ _ _ _ _ ha hr _ => exact ⟨h₁.opened, ha.undone hnames hr⟩
  | full _ ha _ _ hr => exact ⟨_, ha.undone hnames hr⟩
  | created => exact absurd rfl (ho _)

theorem Balanced.created {reference : String} {o : Outcome SessionError SessionId}
    {events : List Event} (hb : h.Balanced []) (hc : Created w h reference (o, h', events)) :
    h'.Balanced [] := by
  cases hc with
  | created hp ha hl hi => exact ((hb.acquired ha).counted _).inserted hi
  | unparsed | unacquired => exact hb
  | unopened hp ha hr ho => exact (hb.acquired ha).released hr
  | full hp ha hl hi hr ho => exact ((hb.acquired ha).counted _).released hr

theorem Balanced.destroyed {id : SessionId} {o : Outcome Empty Bool} {events : List Event}
    (hb : h.Balanced []) (hd : Destroyed w h id (o, h', events)) : h'.Balanced [] := by
  cases hd with
  | unknown => exact hb
  | destroyed ho hr => exact (hb.vacate ho).released hr

theorem Balanced.perform (w : ω) (h : Host ω β) (call : Call ω β) (hb : h.Balanced []) :
    (h.perform w call).2.1.Balanced [] := by
  cases call with
  | create reference => exact hb.created (h.create_created w reference)
  | destroy id => exact hb.destroyed (h.destroy_destroyed w id)
  | act id action => exact hb.called (h.withSession_called id action)
  | register family =>
    have hr := h.register_registered family
    simp only [Host.perform]
    split
    · rename_i heq
      exact hb.registered (heq ▸ hr)
    · exact hb

/-- Destroying a session counts its family down by one and no other. -/
theorem Balanced.refcount_destroyed {id : SessionId} {o : Occupant β} {outcome : Outcome Empty Bool}
    {events : List Event} (hb : h.Balanced []) (hd : Destroyed w h id (outcome, h', events))
    (ho : h.occupant? id = some o) (name : String) :
    h.refcount name = h'.refcount name + if o.family = name then 1 else 0 := by
  have hbefore := hb.counts name
  have hafter := (hb.destroyed hd).counts name
  rw [population_of_perm (tenants_vacate ho)] at hbefore
  cases hd with
  | unknown hn =>
    rw [ho] at hn
    cases hn
  | destroyed ho' hr =>
    rw [population, hr.slots, ← population] at hafter
    rw [hafter, hbefore, Nat.add_right_comm]

theorem register_of_busy {family : Family ω β} (w : ω) (hbusy : 0 < h.refcount family.name) :
    h.perform w (.register family) =
      (.error (.invalidArgument (.busyFamily family.name (h.refcount family.name))), h, []) := by
  have hr := h.register_registered family
  simp only [perform]
  cases heq : h.register family with
  | ok h' =>
    rw [heq] at hr
    cases hr with
    | added hr => simp [refcount_of_unregistered hr] at hbusy
    | replaced hr hl => simp [refcount_of_registration? hr, hl] at hbusy
  | error e =>
    rw [heq] at hr
    cases hr with
    | refused hr hl => rw [refcount_of_registration? hr]

theorem register_of_idle {family : Family ω β} (w : ω) (hidle : h.refcount family.name = 0) :
    (h.perform w (.register family)).1 = .ok .registered := by
  have hr := h.register_registered family
  simp only [perform]
  cases heq : h.register family with
  | ok h' => rfl
  | error e =>
    rw [heq] at hr
    cases hr with
    | refused hr hl =>
      rw [refcount_of_registration? hr] at hidle
      omega

/-- After any calls, crashed ones too, the tables of a host agree. Every family counts the slots
that are occupied by its sessions, and the free list holds the other slots, each once. To destroy a
session is to count its family down by one, never below zero. A create that ends without a session
leaves the tables as they were. A family is refused, and nothing happens, if and only if one of its
name has sessions. -/
theorem tables_agree {h₀ : Host ω β} (hnew : h₀.New) (calls : List (ω × Call ω β)) :
    let h := (h₀.run calls).2.1
    (∀ name, h.refcount name = h.population name) ∧
      h.liveSessions = (h.families.map Registration.live).sum ∧
      (h.free.map UInt32.toNat).Perm h.vacant ∧
      (∀ (w : ω) (id : SessionId) (o : Occupant β), h.occupant? id = some o → ∀ name,
        h.refcount name =
          (h.destroy w id).2.1.refcount name + if o.family = name then 1 else 0) ∧
      (∀ (w : ω) (reference : String), (∀ id, (h.create w reference).1 ≠ .ok id) →
        ∃ n, (h.create w reference).2.1 = { h with opened := n }) ∧
      ∀ (w : ω) (family : Family ω β),
        (0 < h.refcount family.name →
          h.perform w (.register family) =
            (.error (.invalidArgument (.busyFamily family.name (h.refcount family.name))), h, [])) ∧
          (h.refcount family.name = 0 → (h.perform w (.register family)).1 = .ok .registered) := by
  intro h
  have hb : h.Balanced [] := run_keeps Balanced.perform calls hnew.balanced
  exact ⟨hb.counts, hb.liveSessions, hb.toListed.free_perm,
    fun w id o ho => hb.refcount_destroyed (h.destroy_destroyed w id) ho,
    fun w reference ho => (h.create_created w reference).undone ho hb.names,
    fun w family => ⟨register_of_busy w, register_of_idle w⟩⟩

/-- A family that crashes as it opens a backend. -/
def crashing : Family Unit Stub :=
  { name := "engine"
    bootstrap := fun _ => (.ok (), [])
    teardown := fun _ => (.ok (), [])
    load := fun _ _ => (.crash "lost", []) }

/-- Two sessions, of which one is poisoned by a crash and the other one destroyed, and one that is
not created. -/
def crashes : List (Unit × Call Unit Stub) :=
  [((), .create "deterministic:m?vocab=4"), ((), .create "deterministic:m?vocab=4"),
    ((), .act ⟨1, 1⟩ fun s => (.crash "lost", s)), ((), .register crashing),
    ((), .create "engine:m"), ((), .destroy ⟨0, 1⟩)]

theorem tables_agree_crashes :
    let h := ((standard id : Host Unit Stub).run crashes).2.1
    h.population "deterministic" = 1 ∧ h.population "engine" = 0 ∧
      (h.free.map UInt32.toNat).Perm h.vacant ∧ h.free = [0] := by
  obtain ⟨hcounts, -, hfree, -⟩ := tables_agree (.standard id) crashes
  exact ⟨(hcounts "deterministic").symm.trans (by cbv), (hcounts "engine").symm.trans (by cbv),
    hfree, by cbv⟩

end Calls

end Host

end Decoding

import Decoding.Proofs.Host.Balance
import Decoding.Proofs.Host.Ledger

/-!
Families are set up before their sessions and torn down after them. What calls do to
families and backends is entered in a ledger as it happens, and the ledger matches the
host after every call: the families that have sessions are up, and the backends of the
tenants are out. A host that is closed gives up all of them.
-/

namespace Decoding.Host

variable {ω β : Type}

/-- The family of a name has sessions or is acquired. -/
def IsUp (h : Host ω β) (k : Nat) : Prop := ∃ r ∈ h.families, r.serial = k ∧ r.live ≠ 0

/-- The number of the registration under a name. -/
def serialOf (h : Host ω β) (name : String) : Nat :=
  ((h.registration? name).map Registration.serial).getD 0

/-- The entry of a tenant in a ledger. -/
def entry (h : Host ω β) (t : Tenant) : Nat × Nat := (h.serialOf t.family, t.backend)

theorem map_snd_entry (h : Host ω β) (ts : List Tenant) :
    (ts.map h.entry).map Prod.snd = ts.map Tenant.backend := by
  rw [List.map_map]
  rfl

/-- The ledger holds what is open in a host. -/
structure Ledger.Matches (l : Ledger) (h : Host ω β) : Prop where
  serials : (h.families.map Registration.serial).Nodup
  registered : ∀ r ∈ h.families, r.serial < h.registered
  backends : (h.tenants.map Tenant.backend).Nodup
  bound : ∀ t ∈ h.tenants, t.backend < h.opened
  up : ∀ k, k ∈ l.up ↔ h.IsUp k
  out : l.out.Perm (h.tenants.map h.entry)
  opened : l.opened = h.opened

section Families

variable {w : ω} {h h' h₁ h₂ : Host ω β} {name : String} {r : Registration ω β} {live : Nat}
  {l : Ledger} {leases : List String} {begun ended : List Event}

theorem serialOf_of_registration? (hr : h.registration? name = some r) :
    h.serialOf name = r.serial := by
  simp [serialOf, hr]

@[simp] theorem serialOf_setLive (other : String) :
    (h.setLive name live).serialOf other = h.serialOf other := by
  rw [serialOf, serialOf, registration?_setLive]
  cases h.registration? other with
  | none => rfl
  | some r =>
    simp only [Option.map_some, Option.getD_some]
    split <;> rfl

/-- Counting a family changes whether it is up, and no other one. -/
theorem isUp_setLive (hnames : (h.families.map (·.family.name)).Nodup)
    (hserials : (h.families.map Registration.serial).Nodup) (hr : h.registration? name = some r)
    (live k : Nat) :
    (h.setLive name live).IsUp k ↔ if k = r.serial then live ≠ 0 else h.IsUp k := by
  have hmem := mem_of_registration? hr
  have hname := name_of_registration? hr
  simp only [IsUp, setLive, List.mem_map]
  constructor
  · rintro ⟨-, ⟨r', hr', rfl⟩, rfl, hlive⟩
    by_cases he : r'.family.name = name
    · obtain rfl := List.inj_on_of_nodup_map hnames hr' hmem (he.trans hname.symm)
      simpa [he] using hlive
    · rw [if_neg he] at hlive ⊢
      rw [if_neg fun hs => he (List.inj_on_of_nodup_map hserials hr' hmem hs ▸ hname)]
      exact ⟨r', hr', rfl, hlive⟩
  · split
    · rename_i he
      exact fun hlive => ⟨_, ⟨r, hmem, rfl⟩, by simp [hname, he], by simpa [hname] using hlive⟩
    · rename_i hne
      rintro ⟨r', hr', rfl, hlive⟩
      have hother : r'.family.name ≠ name := fun he =>
        hne (congrArg _ (List.inj_on_of_nodup_map hnames hr' hmem (he.trans hname.symm)))
      exact ⟨_, ⟨r', hr', rfl⟩, by simp [hother], by simpa [hother] using hlive⟩

/-- A family that is counted in a ledger that follows it. -/
theorem Ledger.Matches.setLive (hm : l.Matches h) {up : List Nat}
    (hup : ∀ k, k ∈ up ↔ (h.setLive name live).IsUp k) :
    { l with up }.Matches (h.setLive name live) where
  serials := (map_setLive Registration.serial fun _ _ => rfl).symm ▸ hm.serials
  registered r hr := by
    obtain ⟨r', hr', rfl⟩ := List.mem_map.mp hr
    have := hm.registered r' hr'
    split <;> exact this
  backends := hm.backends
  bound := hm.bound
  up := hup
  out := by
    have hentry : (h.setLive name live).entry = h.entry := by
      funext t
      simp [entry]
    rw [hentry]
    exact hm.out
  opened := hm.opened

theorem Ledger.Matches.mem_up (hm : l.Matches h) (hr : h.registration? name = some r)
    (hl : r.live ≠ 0) : r.serial ∈ l.up :=
  (hm.up _).mpr ⟨r, mem_of_registration? hr, rfl, hl⟩

theorem Ledger.Matches.acquired (hm : l.Matches h)
    (hnames : (h.families.map (·.family.name)).Nodup)
    (ha : Acquired w h name (.ok r, h₁, begun)) :
    ∃ l', l.posts begun = some l' ∧ l'.Matches h₁ ∧ r.serial ∈ l'.up ∧
      h₁.serialOf name = r.serial := by
  cases ha with
  | first hr hl =>
    have hup (k : Nat) := isUp_setLive hnames hm.serials hr 1 k
    have hdown : r.serial ∉ l.up := by
      rw [hm.up]
      rintro ⟨r', hr', hserial, hlive⟩
      exact hlive (List.inj_on_of_nodup_map hm.serials hr' (mem_of_registration? hr) hserial ▸ hl)
    refine ⟨{ l with up := r.serial :: l.up }, ?_, hm.setLive fun k => ?_, .head _, ?_⟩
    · rw [posts_append, posts_logged, Option.bind_some, posts_singleton, post, if_neg hdown]
    · rw [hup k, List.mem_cons, hm.up]
      split <;> simp_all
    · rw [serialOf_setLive, serialOf_of_registration? hr]
  | again hr hl =>
    have hup (k : Nat) := isUp_setLive hnames hm.serials hr (r.live + 1) k
    have hmem := hm.mem_up hr hl
    refine ⟨l, rfl, hm.setLive fun k => ?_, hmem, ?_⟩
    · rw [hup k, ← hm.up]
      split <;> simp_all
    · rw [serialOf_setLive, serialOf_of_registration? hr]

/-- Nobody is in a slot of a family that is counted once and acquired once. -/
theorem Balanced.not_out (hb : h.Balanced (name :: leases)) (hm : l.Matches h)
    (hr : h.registration? name = some r) (hl : r.live ≤ 1) :
    ∀ entry ∈ l.out, entry.1 ≠ r.serial := by
  intro entry hentry
  obtain ⟨t, ht, rfl⟩ := List.mem_map.mp (hm.out.mem_iff.mp hentry)
  intro hserial
  obtain ⟨r', hr', -⟩ := hb.exists_registration ht
  rw [Host.entry, serialOf_of_registration? hr'] at hserial
  obtain rfl := List.inj_on_of_nodup_map hm.serials (mem_of_registration? hr')
    (mem_of_registration? hr) hserial
  have hname : t.family = name := (name_of_registration? hr').symm.trans (name_of_registration? hr)
  have hcount := hb.counts name
  have hpos := hname ▸ population_pos ht
  rw [refcount_of_registration? hr, List.count_cons_self] at hcount
  omega

theorem Ledger.Matches.released {t : Outcome Empty Unit} (hm : l.Matches h)
    (hb : h.Balanced (name :: leases)) (hr : Released w h name (t, h', ended)) :
    ∃ l', l.posts ended = some l' ∧ l'.Matches h' := by
  cases hr with
  | unknown => exact ⟨l, rfl, hm⟩
  | @last r _ log hr hl ht =>
    have hlive : r.live ≠ 0 := by
      have hcount := hb.counts name
      rw [refcount_of_registration? hr, List.count_cons_self] at hcount
      omega
    have hmem := hm.mem_up hr hlive
    refine ⟨{ l with up := l.up.filter (· ≠ r.serial) }, ?_, hm.setLive fun k => ?_⟩
    · rw [posts_append, posts_logged, Option.bind_some, posts_singleton, post,
        if_pos ⟨hmem, hb.not_out hm hr hl⟩]
    · rw [isUp_setLive hb.names hm.serials hr 0 k, List.mem_filter, hm.up]
      split <;> simp_all
  | @kept r hr hl =>
    have hmem := hm.mem_up hr (Nat.ne_of_gt (Nat.zero_lt_of_lt hl))
    refine ⟨l, rfl, hm.setLive fun k => ?_⟩
    rw [isUp_setLive hb.names hm.serials hr (r.live - 1) k, ← hm.up]
    split
    · rename_i he
      simp only [he, hmem, true_iff]
      omega
    · rfl

theorem New.matches (hn : New h) : ({} : Ledger).Matches h := by
  cases hn with
  | bare => exact ⟨.nil, nofun, .nil, nofun, fun k => by simp [IsUp], .refl _, rfl⟩
  | standard embed =>
    refine ⟨by simp [Host.standard], by simp [Host.standard], .nil, nofun, fun k => ?_, .refl _,
      rfl⟩
    simp [IsUp, Host.standard]

theorem Acquired.released_not_mem {o : Outcome SessionError (Registration ω β)}
    (ha : Acquired w h name (o, h', begun)) (b : Nat) : .released b ∉ begun := by
  cases ha <;> simp

theorem Released.released_not_mem {t : Outcome Empty Unit}
    (hr : Released w h name (t, h', ended)) (b : Nat) : .released b ∉ ended := by
  cases hr <;> simp

end Families

section Slots

variable {h h' : Host ω β} {id : SessionId} {o : Occupant β} {r : Registration ω β} {l l' : Ledger}
  {leases : List String}

/-- Tenants come and go while the families stay. -/
theorem Ledger.Matches.moved (hm : l.Matches h) (hfamilies : h'.families = h.families)
    (hregistered : h'.registered = h.registered) (hup : l'.up = l.up)
    (hbackends : (h'.tenants.map Tenant.backend).Nodup)
    (hbound : ∀ t ∈ h'.tenants, t.backend < h'.opened)
    (hout : l'.out.Perm (h'.tenants.map h.entry)) (hopened : l'.opened = h'.opened) :
    l'.Matches h' where
  serials := hfamilies ▸ hm.serials
  registered := by rw [hfamilies, hregistered]; exact hm.registered
  backends := hbackends
  bound := hbound
  up k := by rw [hup, hm.up, IsUp, IsUp, hfamilies]
  out := by
    have hentry : h'.entry = h.entry := by
      funext t
      rw [entry, entry, serialOf, serialOf, registration?, registration?, hfamilies]
    rw [hentry]
    exact hout
  opened := hopened

theorem Ledger.Matches.called {α : Type} {call : Session β → Outcome SessionError α × Session β}
    {outcome : Outcome SessionError α} (hm : l.Matches h) (hc : Called h id call (outcome, h')) :
    l.Matches h' := by
  have htenants := hc.tenants
  have hseated (hfamilies : h'.families = h.families) (hregistered : h'.registered = h.registered)
      (hopened : h'.opened = h.opened) : l.Matches h' :=
    hm.moved hfamilies hregistered rfl ((htenants.map _).nodup_iff.mpr hm.backends)
      (fun t ht => hopened ▸ hm.bound t (htenants.mem_iff.mp ht))
      (hm.out.trans (htenants.map _).symm) (hopened ▸ hm.opened)
  cases hc with
  | unknown | poisoned => exact hm
  | completed | crashed => exact hseated rfl rfl rfl

theorem Ledger.Matches.registered_ok {family : Family ω β} (hm : l.Matches h)
    (hb : h.Balanced leases) (hr : Registered h family (.ok h')) : l.Matches h' := by
  have hlive {r : Registration ω β} (hl : r.live ≠ 0) := hr.mem_iff_of_live hb.names hl
  have hup (k : Nat) : k ∈ l.up ↔ h'.IsUp k := by
    rw [hm.up]
    exact ⟨fun ⟨r, hr, hk, hl⟩ => ⟨r, (hlive hl).mpr hr, hk, hl⟩,
      fun ⟨r, hr, hk, hl⟩ => ⟨r, (hlive hl).mp hr, hk, hl⟩⟩
  have hentry : h.tenants.map h'.entry = h.tenants.map h.entry := by
    refine List.map_congr_left fun t ht => ?_
    obtain ⟨r, hreg, hpos⟩ := hb.exists_registration ht
    have hreg' := registration?_of_mem (hb.registered hr).names
      ((hlive hpos).mpr (mem_of_registration? hreg))
    rw [name_of_registration? hreg] at hreg'
    rw [entry, entry, serialOf_of_registration? hreg, serialOf_of_registration? hreg']
  cases hr with
  | added hr =>
    refine ⟨?_, ?_, hm.backends, hm.bound, hup, hentry ▸ hm.out, hm.opened⟩
    · rw [List.map_append, List.nodup_append]
      refine ⟨hm.serials, List.nodup_singleton _, ?_⟩
      rintro _ hk _ hnew rfl
      obtain ⟨r, hr, rfl⟩ := List.mem_map.mp hk
      exact Nat.ne_of_lt (hm.registered r hr) (List.mem_singleton.mp hnew)
    · simp only [List.mem_append, List.mem_singleton]
      rintro r (hr | rfl)
      · exact Nat.lt_succ_of_lt (hm.registered r hr)
      · exact Nat.lt_succ_self _
  | replaced hr =>
    refine ⟨?_, ?_, hm.backends, hm.bound, hup, hentry ▸ hm.out, hm.opened⟩
    · rw [List.map_map]
      refine (List.nodup_map_iff_inj_on hm.serials.of_map).mpr fun r hr r' hr' he => ?_
      have hlt := hm.registered r hr
      have hlt' := hm.registered r' hr'
      simp only [Function.comp_apply] at he
      split at he <;> split at he
      · rename_i hname hname'
        exact List.inj_on_of_nodup_map hb.names hr hr' (hname.trans hname'.symm)
      · exact absurd he (Nat.ne_of_gt hlt')
      · exact absurd he (Nat.ne_of_lt hlt)
      · exact List.inj_on_of_nodup_map hm.serials hr hr' he
    · simp only [List.mem_map]
      rintro _ ⟨r, hr, rfl⟩
      split
      · exact Nat.lt_succ_self _
      · exact Nat.lt_succ_of_lt (hm.registered r hr)

/-- A backend is opened, and its occupant finds a slot. -/
theorem Ledger.Matches.inserted (hm : l.Matches h) (hl : h.Listed) (hup : r.serial ∈ l.up)
    (hserial : h.serialOf o.family = r.serial) (ho : o.serial = h.opened)
    (hi : Inserted { h with opened := h.opened + 1 } o (.ok (id, h'))) :
    ∃ l', l.posts [.opened r.serial h.opened] = some l' ∧ l'.Matches h' := by
  have hlisted : Listed { h with opened := h.opened + 1 } := ⟨hl.room, hl.nodup, hl.mem_free⟩
  have htenants : h'.tenants.Perm (o.tenant :: h.tenants) := hlisted.tenants_inserted hi
  obtain ⟨hfamilies, hregistered, hopened⟩ := hi.kept
  refine ⟨{ l with out := (r.serial, h.opened) :: l.out, opened := h.opened + 1 }, ?_,
    hm.moved hfamilies hregistered rfl ?_ ?_ ?_ hopened.symm⟩
  · rw [posts_singleton, post, if_pos ⟨hup, hm.opened.symm⟩]
  · refine (htenants.map _).nodup_iff.mpr (List.nodup_cons.mpr ⟨fun hmem => ?_, hm.backends⟩)
    obtain ⟨t, ht, hbackend⟩ := List.mem_map.mp hmem
    exact Nat.ne_of_lt (hm.bound t ht) (hbackend.trans ho)
  · intro t ht
    rw [hopened]
    rcases List.mem_cons.mp (htenants.mem_iff.mp ht) with rfl | hold
    · exact Nat.lt_succ_of_le (Nat.le_of_eq ho)
    · exact Nat.lt_succ_of_lt (hm.bound t hold)
  · refine (hm.out.cons _).trans ((htenants.map h.entry).trans (.of_eq ?_)).symm
    rw [List.map_cons, entry, Occupant.tenant, hserial, ho]

variable [Device β]

theorem Ledger.posts_giveUp : l.posts (giveUp o) = l.post (.released o.serial) := by
  rw [giveUp, posts_append, posts_logged, Option.bind_some, posts_singleton]

/-- A backend that finds no slot comes in again at once. -/
theorem Ledger.Matches.opened_full (hm : l.Matches h) (hup : r.serial ∈ l.up)
    (ho : o.serial = h.opened) :
    ∃ l', l.posts ([.opened r.serial h.opened] ++ giveUp o) = some l' ∧
      l'.Matches { h with opened := h.opened + 1 } := by
  have hfresh : o.serial ∉ l.out.map Prod.snd := by
    rw [(hm.out.map _).mem_iff, map_snd_entry]
    intro hmem
    obtain ⟨t, ht, he⟩ := List.mem_map.mp hmem
    exact Nat.ne_of_lt (hm.bound t ht) (he.trans ho)
  obtain ⟨out, hpost, hout⟩ :=
    post_released (l := { l with out := (r.serial, h.opened) :: l.out, opened := h.opened + 1 })
      (.of_eq (by rw [ho])) hfresh
  refine ⟨_, posts_append_eq_some ?_ (posts_giveUp.trans hpost),
    hm.moved rfl rfl rfl hm.backends (fun t ht => Nat.lt_succ_of_lt (hm.bound t ht))
      (hout.trans hm.out) rfl⟩
  rw [posts_singleton, post, if_pos ⟨hup, hm.opened.symm⟩]

/-- A backend comes in as its occupant leaves the slot. -/
theorem Ledger.Matches.vacated (hm : l.Matches h) (ho : h.occupant? id = some o) :
    ∃ l', l.posts (giveUp o) = some l' ∧ l'.Matches (h.vacate id) := by
  have htenants := tenants_vacate ho
  have hbackends := (htenants.map Tenant.backend).nodup_iff.mp hm.backends
  obtain ⟨hother, hbackends⟩ := List.nodup_cons.mp hbackends
  obtain ⟨out, hpost, hout⟩ := post_released (hm.out.trans (htenants.map h.entry))
    (by rwa [map_snd_entry])
  exact ⟨_, posts_giveUp.trans hpost,
    hm.moved rfl rfl rfl hbackends (fun t ht => hm.bound t (htenants.mem_iff.mpr (.tail _ ht)))
      hout hm.opened⟩

end Slots

section Close

variable {w : ω} {h : Host ω β} {l : Ledger}

/-- The families that are up are torn down one after another. -/
theorem Ledger.posts_teardownAll :
    ∀ (rs : List (Registration ω β)) {l : Ledger}, l.out = [] →
      (∀ k, k ∈ l.up ↔ ∃ r ∈ rs, r.serial = k ∧ r.live ≠ 0) →
      (rs.map Registration.serial).Nodup → (∀ r ∈ rs, (r.family.teardown w).1 = .ok ()) →
      (teardownAll w rs).1 = .ok () ∧
        ∃ l', l.posts (teardownAll w rs).2 = some l' ∧ l'.up = [] ∧ l'.out = []
  | [], l, hout, hup, _, _ =>
    ⟨rfl, l, rfl, List.eq_nil_iff_forall_not_mem.mpr (by simpa using hup), hout⟩
  | r :: rs, l, hout, hup, hserials, hquiet => by
    obtain ⟨hother, hserials⟩ := List.nodup_cons.mp hserials
    have hquiet' : ∀ r ∈ rs, (r.family.teardown w).1 = .ok () :=
      fun r' hr' => hquiet r' (.tail _ hr')
    by_cases hl : r.live = 0
    · simp only [teardownAll, if_pos hl]
      refine posts_teardownAll rs hout (fun k => ?_) hserials hquiet'
      rw [hup k]
      simp [hl]
    · have hnot : ∀ r' ∈ rs, r'.serial ≠ r.serial := fun r' hr' he =>
        hother (List.mem_map.mpr ⟨r', hr', he⟩)
      have hmem : r.serial ∈ l.up := (hup _).mpr ⟨r, .head _, rfl, hl⟩
      have hpost : l.post (.tornDown r.serial) =
          some { l with up := l.up.filter (· ≠ r.serial) } := by
        rw [post, if_pos ⟨hmem, by simp [hout]⟩]
      have hup' (k : Nat) :
          k ∈ l.up.filter (· ≠ r.serial) ↔ ∃ r' ∈ rs, r'.serial = k ∧ r'.live ≠ 0 := by
        rw [List.mem_filter, hup k]
        constructor
        · rintro ⟨⟨r', hr', rfl, hl'⟩, hne⟩
          rcases List.mem_cons.mp hr' with rfl | hr'
          · simp at hne
          · exact ⟨r', hr', rfl, hl'⟩
        · rintro ⟨r', hr', rfl, hl'⟩
          exact ⟨⟨r', .tail _ hr', rfl, hl'⟩, by simpa using hnot r' hr'⟩
      obtain ⟨hok, l', hposts, hdone⟩ := posts_teardownAll rs
        (l := { l with up := l.up.filter (· ≠ r.serial) }) hout hup' hserials hquiet'
      cases ht : r.family.teardown w with
      | mk result log =>
        have hr := hquiet r (.head _)
        rw [ht] at hr
        cases hr
        simp only [teardownAll, if_neg hl, ht]
        refine ⟨hok, l', posts_append_eq_some (posts_append_eq_some (posts_logged _) ?_) hposts,
          hdone⟩
        rw [posts_singleton]
        exact hpost

variable [Device β]

/-- The backends that are out come in one after another. -/
theorem Ledger.posts_flatMap_giveUp (family : Occupant β → Nat) :
    ∀ (os : List (Occupant β)) {l : Ledger}, l.out.Perm (os.map fun o => (family o, o.serial)) →
      (os.map Occupant.serial).Nodup → l.posts (os.flatMap giveUp) = some { l with out := [] }
  | [], l, hout, _ => by
    have hnil : l.out = [] := hout.eq_nil
    exact congrArg some (by rw [← hnil])
  | o :: os, l, hout, hserials => by
    obtain ⟨hother, hserials⟩ := List.nodup_cons.mp hserials
    obtain ⟨out, hpost, hrest⟩ := post_released hout (by rwa [List.map_map])
    exact posts_append_eq_some (posts_giveUp.trans hpost)
      (posts_flatMap_giveUp family os hrest hserials)

/-- A host that is closed leaves nothing open, in whatever order its families are. -/
theorem Ledger.Matches.close (hm : l.Matches h)
    (hquiet : ∀ r ∈ h.families, (r.family.teardown w).1 = .ok ()) {rs : List (Registration ω β)}
    (hrs : rs.Perm h.families) :
    (close w { h with families := rs }).1 = .ok () ∧
      ∃ l', l.posts (close w { h with families := rs }).2 = some l' ∧ l'.up = [] ∧ l'.out = [] := by
  have hout : l.out.Perm ((h.slots.filterMap Slot.occupant).map fun o =>
      (h.serialOf o.family, o.serial)) := by
    have hout := hm.out
    rw [tenants_eq_map, List.map_map] at hout
    exact hout
  have hbackends : ((h.slots.filterMap Slot.occupant).map Occupant.serial).Nodup := by
    have hbackends := hm.backends
    rw [tenants_eq_map, List.map_map] at hbackends
    exact hbackends
  have hup (k : Nat) : k ∈ l.up ↔ ∃ r ∈ rs, r.serial = k ∧ r.live ≠ 0 := by
    simp only [hm.up, IsUp, hrs.mem_iff]
  obtain ⟨hok, l', hposts, hdone⟩ := posts_teardownAll rs (l := { l with out := [] }) rfl hup
    ((hrs.map _).nodup_iff.mpr hm.serials) fun r hr => hquiet r (hrs.mem_iff.mp hr)
  exact ⟨hok, l', posts_append_eq_some (posts_flatMap_giveUp _ _ hout hbackends) hposts, hdone⟩

end Close

section Calls

variable [Device β] {w : ω} {h h' : Host ω β} {l : Ledger} {events : List Event}

theorem Ledger.Matches.created {reference : String} {o : Outcome SessionError SessionId}
    (hm : l.Matches h) (hb : h.Balanced []) (hc : Created w h reference (o, h', events)) :
    ∃ l', l.posts events = some l' ∧ l'.Matches h' := by
  cases hc with
  | unparsed => exact ⟨l, rfl, hm⟩
  | unacquired => exact ⟨l, posts_logged _, hm⟩
  | unopened hp ha hr ho =>
    obtain ⟨l₁, hbegun, hm₁, -, -⟩ := hm.acquired hb.names ha
    obtain ⟨l₂, hended, hm₂⟩ := hm₁.released (hb.acquired ha) hr
    exact ⟨l₂, posts_append_eq_some (posts_append_eq_some hbegun (posts_logged _)) hended, hm₂⟩
  | full hp ha hl hi hr ho =>
    obtain ⟨l₁, hbegun, hm₁, hup, -⟩ := hm.acquired hb.names ha
    obtain ⟨l₂, hopened, hm₂⟩ := hm₁.opened_full hup (o := ⟨.fresh _, false, _, _⟩) rfl
    obtain ⟨l₃, hended, hm₃⟩ := hm₂.released ((hb.acquired ha).counted _) hr
    refine ⟨l₃, posts_append_eq_some ?_ hended, hm₃⟩
    rw [List.append_assoc _ _ (giveUp _)]
    exact posts_append_eq_some (posts_append_eq_some hbegun (posts_logged _)) hopened
  | created hp ha hl hi =>
    obtain ⟨l₁, hbegun, hm₁, hup, hserial⟩ := hm.acquired hb.names ha
    obtain ⟨l₂, hopened, hm₂⟩ := hm₁.inserted (hb.acquired ha).toListed hup hserial rfl hi
    exact ⟨l₂, posts_append_eq_some (posts_append_eq_some hbegun (posts_logged _)) hopened, hm₂⟩

theorem Ledger.Matches.destroyed {id : SessionId} {o : Outcome Empty Bool} (hm : l.Matches h)
    (hb : h.Balanced []) (hd : Destroyed w h id (o, h', events)) :
    ∃ l', l.posts events = some l' ∧ l'.Matches h' := by
  cases hd with
  | unknown => exact ⟨l, rfl, hm⟩
  | destroyed ho hr =>
    obtain ⟨l₁, hgiven, hm₁⟩ := hm.vacated ho
    obtain ⟨l₂, hended, hm₂⟩ := hm₁.released (hb.vacate ho) hr
    exact ⟨l₂, posts_append_eq_some hgiven hended, hm₂⟩

/-- What a call does is in order, and the ledger still matches the host. -/
theorem Ledger.Matches.perform (hm : l.Matches h) (hb : h.Balanced []) (w : ω) (call : Call ω β) :
    ∃ l', l.posts (h.perform w call).2.2 = some l' ∧ l'.Matches (h.perform w call).2.1 := by
  cases call with
  | create reference => exact hm.created hb (h.create_created w reference)
  | destroy id => exact hm.destroyed hb (h.destroy_destroyed w id)
  | act id action => exact ⟨l, rfl, hm.called (h.withSession_called id action)⟩
  | register family =>
    have hr := h.register_registered family
    simp only [Host.perform]
    split
    · rename_i heq
      exact ⟨l, rfl, hm.registered_ok hb (heq ▸ hr)⟩
    · exact ⟨l, rfl, hm⟩

theorem Ledger.Matches.run : ∀ (calls : List (ω × Call ω β)) {h : Host ω β} {l : Ledger},
    l.Matches h → h.Balanced [] →
      ∃ l', l.posts (h.run calls).2.2 = some l' ∧ l'.Matches (h.run calls).2.1
  | [], _, l, hm, _ => ⟨l, rfl, hm⟩
  | (w, call) :: rest, h, l, hm, hb => by
    obtain ⟨l₁, hcall, hm₁⟩ := hm.perform hb w call
    obtain ⟨l₂, hrest, hm₂⟩ := Ledger.Matches.run rest hm₁ (hb.perform w h call)
    exact ⟨l₂, posts_append_eq_some hcall hrest, hm₂⟩

theorem released_mem_giveUp {o : Occupant β} {b : Nat} :
    .released b ∈ giveUp o ↔ o.serial = b := by
  simp [giveUp, eq_comm]

/-- Backends are given up as their sessions are destroyed, but for one that finds no slot. -/
theorem released_mem_perform (hb : h.Balanced []) {call : Call ω β} {b : Nat}
    (hmem : .released b ∈ (h.perform w call).2.2) :
    (∃ id o, call = .destroy id ∧ h.occupant? id = some o ∧ o.serial = b) ∨
      ∃ reference, call = .create reference ∧ b = h.opened ∧ h.free = [] ∧
        h.slots.length = maxSlots := by
  cases call with
  | create reference =>
    have hc := h.create_created w reference
    change .released b ∈ (h.create w reference).2.2 at hmem
    generalize h.create w reference = result at hc hmem
    cases hc with
    | unparsed => cases hmem
    | unacquired => simp at hmem
    | unopened hp ha hr => simp [ha.released_not_mem, hr.released_not_mem] at hmem
    | full hp ha hl hi hr =>
      simp only [List.mem_append, ha.released_not_mem, hr.released_not_mem, released_mem_giveUp,
        List.mem_map, reduceCtorEq, and_false, exists_false, List.mem_singleton, false_or,
        or_false] at hmem
      obtain ⟨hfree, hlength⟩ := ((hb.acquired ha).counted _).toListed.full_of_error hi
      obtain ⟨-, rfl⟩ := ha.eq_setLive
      exact .inr ⟨reference, rfl, hmem.symm, hfree, hlength⟩
    | created hp ha => simp [ha.released_not_mem] at hmem
  | destroy id =>
    have hd := h.destroy_destroyed w id
    change .released b ∈ (h.destroy w id).2.2 at hmem
    generalize h.destroy w id = result at hd hmem
    cases hd with
    | unknown => cases hmem
    | destroyed ho hr =>
      simp only [List.mem_append, hr.released_not_mem, released_mem_giveUp, or_false] at hmem
      exact .inl ⟨id, _, rfl, ho, hmem⟩
  | act id action => cases hmem
  | register family =>
    simp only [perform] at hmem
    split at hmem <;> cases hmem

/-- Let any calls be made on a new host, failed and crashed ones too, and let it be closed with
families whose teardown does not crash, in any order. Then each family is set up and torn down in
turn, as often as it is set up. Each backend is opened while its family is up, and released once,
before the family is torn down. That is done by destroying its session, or else as the host is
closed; only if there is no slot left is the backend of a session that was not created released at
once. -/
theorem events_in_order {h₀ : Host ω β} (hnew : h₀.New) (calls : List (ω × Call ω β)) (w : ω)
    (hquiet : ∀ r ∈ (h₀.run calls).2.1.families, (r.family.teardown w).1 = .ok ()) :
    let h := (h₀.run calls).2.1
    (∀ rs : List (Registration ω β), rs.Perm h.families →
      (close w { h with families := rs }).1 = .ok () ∧
        InOrder ((h₀.run calls).2.2 ++ (close w { h with families := rs }).2)) ∧
      ∀ (w : ω) (call : Call ω β) (b : Nat), .released b ∈ (h.perform w call).2.2 →
        (∃ id o, call = .destroy id ∧ h.occupant? id = some o ∧ o.serial = b) ∨
          ∃ reference, call = .create reference ∧ b = h.opened ∧ h.free = [] ∧
            h.slots.length = maxSlots := by
  intro h
  obtain ⟨l, hrun, hm⟩ := Ledger.Matches.run calls hnew.matches hnew.balanced
  have hb : h.Balanced [] := run_keeps Balanced.perform calls hnew.balanced
  refine ⟨fun rs hrs => ?_, fun w call b hmem => released_mem_perform hb hmem⟩
  obtain ⟨hok, l', hclose, hup, hout⟩ := hm.close hquiet hrs
  exact ⟨hok, Ledger.inOrder_of_posts (Ledger.posts_append_eq_some hrun hclose) hup hout⟩

theorem events_in_order_crashes :
    let ran := (standard id : Host Unit Stub).run crashes
    ran.2.2 ++ (ran.2.1.close ()).2 =
        [.bootstrapped 0, .opened 0 0, .opened 0 1, .bootstrapped 2, .tornDown 2, .released 0,
          .released 1, .tornDown 0] ∧
      InOrder (ran.2.2 ++ (ran.2.1.close ()).2) := by
  have hquiet : ((standard id : Host Unit Stub).run crashes).2.1.families.map
      (fun r => (r.family.teardown ()).1) = [.ok (), .ok (), .ok ()] := by cbv
  obtain ⟨horder, -⟩ := events_in_order (.standard id) crashes () fun r hr => by
    have hmem := List.mem_map_of_mem (f := fun r => (r.family.teardown ()).1) hr
    rw [hquiet] at hmem
    simpa using hmem
  exact ⟨by cbv, (horder _ (.refl _)).2⟩

end Calls

end Decoding.Host

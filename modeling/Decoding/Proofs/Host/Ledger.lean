import Decoding.Host.Basic

/-!
Orderly lists of events. A ledger enters events one by one and refuses those that come
out of order: a family is set up once until it is torn down, backends are opened while it
is up, released once, and all released before it is torn down. What a list says that has
been entered to the end, with nothing left open, is `InOrder`.
-/

namespace Decoding.Host

/-- The event sets up a family or tears it down. -/
def Event.edges (k : Nat) : Event → Bool
  | .bootstrapped j | .tornDown j => j = k
  | _ => false

/-- The event opens a backend of any family. -/
def Event.opens (b : Nat) : Event → Bool
  | .opened _ c => c = b
  | _ => false

/-- The order of events that begins and ends with nothing set up. -/
structure InOrder (log : List Event) : Prop where
  /-- A family is set up and torn down in turn, and torn down as often as set up. -/
  edges : ∀ k, ∃ n, log.filter (Event.edges k) =
    (List.replicate n [.bootstrapped k, .tornDown k]).flatten
  /-- A backend is opened when its family has been set up and not torn down since. -/
  begun : ∀ {k b : Nat} {before after : List Event}, log = before ++ .opened k b :: after →
    ∃ earlier since, before = earlier ++ .bootstrapped k :: since ∧ .tornDown k ∉ since
  /-- It is released before the family is torn down next, which happens. -/
  ended : ∀ {k b : Nat} {before after : List Event}, log = before ++ .opened k b :: after →
    ∃ meanwhile later, after = meanwhile ++ .released b :: later ∧ .tornDown k ∉ meanwhile ∧
      .tornDown k ∈ later
  /-- No two backends have one number. -/
  once : ∀ b, log.countP (Event.opens b) ≤ 1
  /-- What is released is what was opened. -/
  released : ∀ b, log.count (.released b) = log.countP (Event.opens b)

/-- What is open: the families that are set up, and the backends that are out with the family of
each; and how many backends have been opened. -/
structure Ledger where
  up : List Nat := []
  out : List (Nat × Nat) := []
  opened : Nat := 0
  deriving DecidableEq, Repr

namespace Ledger

/-- Enter an event if it is in order. -/
def post (l : Ledger) : Event → Option Ledger
  | .bootstrapped k => if k ∈ l.up then none else some { l with up := k :: l.up }
  | .opened k b =>
    if k ∈ l.up ∧ b = l.opened then some { l with out := (k, b) :: l.out, opened := b + 1 }
    else none
  | .released b => (l.out.find? (·.2 = b)).map fun entry => { l with out := l.out.erase entry }
  | .tornDown k =>
    if k ∈ l.up ∧ ∀ entry ∈ l.out, entry.1 ≠ k then some { l with up := l.up.filter (· ≠ k) }
    else none
  | .logged _ => some l

def posts (l : Ledger) (log : List Event) : Option Ledger := log.foldlM post l

/-- The ways to enter an event. -/
inductive Posted (l : Ledger) : Event → Ledger → Prop
  | bootstrapped {k : Nat} (hk : k ∉ l.up) : Posted l (.bootstrapped k) { l with up := k :: l.up }
  | opened {k : Nat} (hk : k ∈ l.up) :
    Posted l (.opened k l.opened) { l with out := (k, l.opened) :: l.out, opened := l.opened + 1 }
  | released {k b : Nat} (hb : (k, b) ∈ l.out) :
    Posted l (.released b) { l with out := l.out.erase (k, b) }
  | tornDown {k : Nat} (hk : k ∈ l.up) (hout : ∀ entry ∈ l.out, entry.1 ≠ k) :
    Posted l (.tornDown k) { l with up := l.up.filter (· ≠ k) }
  | logged {line : String} : Posted l (.logged line) l

variable {l l' m : Ledger} {e : Event} {log before after : List Event} {k b : Nat}

theorem posted_of_post (h : l.post e = some m) : Posted l e m := by
  cases e with
  | bootstrapped k =>
    simp only [post] at h
    split at h <;> cases h
    exact .bootstrapped (by assumption)
  | opened k b =>
    simp only [post] at h
    split at h <;> cases h
    rename_i hk
    obtain ⟨hk, rfl⟩ := hk
    exact .opened hk
  | released b =>
    obtain ⟨⟨k, c⟩, hfind, rfl⟩ := Option.map_eq_some_iff.mp h
    have hc : c = b := by simpa using List.find?_some hfind
    subst hc
    exact .released (List.mem_of_find?_eq_some hfind)
  | tornDown k =>
    simp only [post] at h
    split at h <;> cases h
    rename_i hk
    exact .tornDown hk.1 hk.2
  | logged line =>
    cases h
    exact .logged

theorem posts_cons : l.posts (e :: log) = (l.post e).bind (·.posts log) := rfl

@[simp] theorem posts_singleton : l.posts [e] = l.post e := by
  rw [posts_cons]
  exact Option.bind_fun_some _

theorem posts_append : l.posts (before ++ after) = (l.posts before).bind (·.posts after) :=
  List.foldlM_append ..

/-- Lines of the log are never out of order. -/
@[simp] theorem posts_logged (lines : List String) : l.posts (lines.map .logged) = some l := by
  induction lines with
  | nil => rfl
  | cons line lines ih => simpa [posts_cons, post] using ih

theorem posts_append_eq_some (h : l.posts before = some m) (h' : m.posts after = some l') :
    l.posts (before ++ after) = some l' := by
  rw [posts_append, h]
  exact h'

/-- A backend that is out, and no other one of its number, can be released. -/
theorem post_released {rest : List (Nat × Nat)} (hp : l.out.Perm ((k, b) :: rest))
    (hfresh : b ∉ rest.map Prod.snd) :
    ∃ out, l.post (.released b) = some { l with out } ∧ out.Perm rest := by
  have hout : (k, b) ∈ l.out := hp.mem_iff.mpr (.head _)
  cases hfind : l.out.find? (·.2 = b) with
  | none => simpa using List.find?_eq_none.mp hfind _ hout
  | some found =>
    obtain ⟨j, c⟩ := found
    obtain rfl : c = b := by simpa using List.find?_some hfind
    rcases List.mem_cons.mp (hp.mem_iff.mp (List.mem_of_find?_eq_some hfind)) with he | hin
    · cases he
      refine ⟨l.out.erase (k, c), ?_, ?_⟩
      · simp only [post, hfind, Option.map_some]
      · simpa using hp.erase (k, c)
    · exact absurd (List.mem_map_of_mem hin) hfresh

theorem posts_cons_eq_some (h : l.posts (e :: log) = some l') :
    ∃ m, Posted l e m ∧ m.posts log = some l' := by
  obtain ⟨m, hm, hrest⟩ := Option.bind_eq_some_iff.mp h
  exact ⟨m, posted_of_post hm, hrest⟩

/-- Between a ledger and one in which a family is not up, it is torn down and set up in turn. -/
theorem filter_edges_of_posts (h : l.posts log = some l') (hk : k ∉ l'.up) :
    ∃ n, (if k ∈ l.up then [Event.bootstrapped k] else []) ++ log.filter (Event.edges k) =
      (List.replicate n [.bootstrapped k, .tornDown k]).flatten := by
  induction log generalizing l with
  | nil =>
    cases h
    exact ⟨0, by simp [hk]⟩
  | cons e log ih =>
    obtain ⟨m, hm, hrest⟩ := posts_cons_eq_some h
    obtain ⟨n, hn⟩ := ih hrest
    cases hm with
    | @bootstrapped j hj =>
      by_cases he : j = k
      · subst he
        exact ⟨n, by simpa [hj, Event.edges] using hn⟩
      · exact ⟨n, by simpa [he, Ne.symm he, Event.edges] using hn⟩
    | @tornDown j hj =>
      by_cases he : j = k
      · subst he
        refine ⟨n + 1, ?_⟩
        rw [List.replicate_succ, List.flatten_cons, ← hn]
        simp [hj, Event.edges]
      · exact ⟨n, by simpa [he, Ne.symm he, Event.edges] using hn⟩
    | opened | released | logged => exact ⟨n, by simpa [Event.edges] using hn⟩

/-- A family that is up has been so from the beginning, or it was set up and not torn down since. -/
theorem exists_bootstrapped_of_posts (h : l.posts log = some l') (hk : k ∈ l'.up) :
    (k ∈ l.up ∧ .tornDown k ∉ log) ∨
      ∃ earlier since, log = earlier ++ .bootstrapped k :: since ∧ .tornDown k ∉ since := by
  induction log generalizing l with
  | nil =>
    cases h
    exact .inl ⟨hk, List.not_mem_nil⟩
  | cons e log ih =>
    obtain ⟨m, hm, hrest⟩ := posts_cons_eq_some h
    rcases ih hrest with ⟨hup, hnone⟩ | ⟨earlier, since, rfl, hnone⟩
    · cases hm with
      | @bootstrapped j hj =>
        rcases List.mem_cons.mp hup with rfl | hup
        · exact .inr ⟨[], log, rfl, hnone⟩
        · exact .inl ⟨hup, by simp [hnone]⟩
      | @tornDown j hj =>
        obtain ⟨hup, hne⟩ := List.mem_filter.mp hup
        exact .inl ⟨hup, by simpa [hnone] using hne⟩
      | opened | released | logged => exact .inl ⟨hup, by simp [hnone]⟩
    · exact .inr ⟨e :: earlier, since, rfl, hnone⟩

/-- A family that is up and later is not has been torn down. -/
theorem mem_tornDown_of_posts (h : l.posts log = some l') (hk : k ∈ l.up) (hk' : k ∉ l'.up) :
    .tornDown k ∈ log := by
  induction log generalizing l with
  | nil =>
    cases h
    exact absurd hk hk'
  | cons e log ih =>
    obtain ⟨m, hm, hrest⟩ := posts_cons_eq_some h
    cases hm with
    | bootstrapped => exact .tail _ (ih hrest (.tail _ hk))
    | @tornDown j hj =>
      by_cases he : j = k
      · exact he ▸ .head _
      · exact .tail _ (ih hrest (List.mem_filter.mpr ⟨hk, by simpa using Ne.symm he⟩))
    | opened | released | logged => exact .tail _ (ih hrest hk)

/-- A backend that is out and later is not has been released before its family was torn down. -/
theorem exists_released_of_posts (h : l.posts log = some l') (hb : (k, b) ∈ l.out)
    (hb' : (k, b) ∉ l'.out) :
    ∃ meanwhile later, log = meanwhile ++ .released b :: later ∧ .tornDown k ∉ meanwhile := by
  induction log generalizing l with
  | nil =>
    cases h
    exact absurd hb hb'
  | cons e log ih =>
    obtain ⟨m, hm, hrest⟩ := posts_cons_eq_some h
    have hlater (hout : (k, b) ∈ m.out) (he : e ≠ .tornDown k) :
        ∃ meanwhile later, e :: log = meanwhile ++ .released b :: later ∧
          .tornDown k ∉ meanwhile := by
      obtain ⟨meanwhile, later, rfl, hnone⟩ := ih hrest hout
      exact ⟨e :: meanwhile, later, rfl, by simp [hnone, he.symm]⟩
    cases hm with
    | @released j c hc =>
      by_cases he : (j, c) = (k, b)
      · cases he
        exact ⟨[], log, rfl, List.not_mem_nil⟩
      · exact hlater ((List.mem_erase_of_ne (Ne.symm he)).mpr hb) nofun
    | opened => exact hlater (.tail _ hb) nofun
    | tornDown hj hout => exact hlater hb fun he => hout _ hb (Event.tornDown.inj he).symm
    | bootstrapped | logged => exact hlater hb nofun

/-- Whatever goes out comes in or is still out. -/
theorem countP_of_posts (h : l.posts log = some l') (b : Nat) :
    l.out.countP (·.2 = b) + log.countP (Event.opens b) =
      l'.out.countP (·.2 = b) + log.count (.released b) := by
  induction log generalizing l with
  | nil =>
    cases h
    rfl
  | cons e log ih =>
    obtain ⟨m, hm, hrest⟩ := posts_cons_eq_some h
    have hcount := ih hrest
    cases hm with
    | @opened k hk =>
      by_cases he : l.opened = b <;> simp [he, Event.opens] at hcount ⊢ <;> omega
    | @released k c hc =>
      rw [(List.perm_cons_erase hc).countP_eq]
      by_cases he : c = b <;> simp [he, Event.opens] at hcount ⊢ <;> omega
    | bootstrapped | tornDown | logged => simpa [List.countP_cons, Event.opens] using hcount

/-- Backends are numbered as they are opened. -/
theorem countP_opens_of_posts (h : l.posts log = some l') (b : Nat) :
    l.opened ≤ l'.opened ∧
      log.countP (Event.opens b) = if l.opened ≤ b ∧ b < l'.opened then 1 else 0 := by
  induction log generalizing l with
  | nil =>
    cases h
    refine ⟨Nat.le_refl _, ?_⟩
    rw [if_neg (by omega)]
    rfl
  | cons e log ih =>
    obtain ⟨m, hm, hrest⟩ := posts_cons_eq_some h
    obtain ⟨hle, hcount⟩ := ih hrest
    cases hm with
    | @opened k hk =>
      simp only at hle hcount
      refine ⟨by omega, ?_⟩
      rw [List.countP_cons, hcount]
      simp only [Event.opens, decide_eq_true_eq]
      split <;> split <;> split <;> omega
    | bootstrapped | released | tornDown | logged =>
      refine ⟨hle, ?_⟩
      rw [List.countP_cons, hcount]
      simp [Event.opens]

/-- Events that have been entered to the end with nothing left open are in order. -/
theorem inOrder_of_posts (h : posts {} log = some l) (hup : l.up = []) (hout : l.out = []) :
    InOrder log where
  edges k := by simpa using filter_edges_of_posts (k := k) h (by simp [hup])
  begun := by
    rintro k b before after rfl
    rw [posts_append] at h
    obtain ⟨l₁, hbefore, hafter⟩ := Option.bind_eq_some_iff.mp h
    obtain ⟨l₂, hl₂, -⟩ := posts_cons_eq_some hafter
    cases hl₂ with
    | opened hk =>
      rcases exists_bootstrapped_of_posts hbefore hk with ⟨hnone, -⟩ | hfound
      · cases hnone
      · exact hfound
  ended := by
    rintro k b before after rfl
    rw [posts_append] at h
    obtain ⟨l₁, -, hafter⟩ := Option.bind_eq_some_iff.mp h
    obtain ⟨l₂, hl₂, hrest⟩ := posts_cons_eq_some hafter
    cases hl₂ with
    | opened hk =>
      obtain ⟨meanwhile, later, rfl, hnone⟩ :=
        exists_released_of_posts hrest (.head _) (by simp [hout])
      refine ⟨meanwhile, later, rfl, hnone, ?_⟩
      simpa [hnone] using mem_tornDown_of_posts hrest hk (by simp [hup])
  once b := by
    rw [(countP_opens_of_posts h b).2]
    split <;> omega
  released b := by simpa [hout] using (countP_of_posts h b).symm

end Ledger

end Decoding.Host

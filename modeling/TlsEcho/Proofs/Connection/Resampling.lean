import Mathlib.Data.List.Perm.Subperm
import TlsEcho.Proofs.Connection.Registry

/-!
# The draws of a claim

A claim whose candidate is taken tries the next draw instead, and goes on until one is free.
`Settles` is this loop by itself, without the counter of collisions.  It comes to an end exactly if
the candidate or a later draw is free (`exists_settles_iff`), and a claim follows it as far as the
collisions can be counted (`Settles.claim`).

Draws that are all different cannot all be taken: one more of them than there are active ids is
enough (`exists_isFirstFree_of_distinct`).
-/

namespace TlsEcho.Registry

variable {r : Registry} {draws : Nat → ConnectionId} {taken : List ConnectionId}
  {candidate id : ConnectionId} {start n : Nat}

/-! ## The first free draw -/

/-- Whether the draw `n` places after `start` is free and all draws between are taken. -/
def IsFirstFree (draws : Nat → ConnectionId) (taken : List ConnectionId) (start n : Nat) : Prop :=
  draws (start + n) ∉ taken ∧ ∀ k < n, draws (start + k) ∈ taken

theorem isFirstFree_zero : IsFirstFree draws taken start 0 ↔ draws start ∉ taken := by
  simp [IsFirstFree]

theorem isFirstFree_succ : IsFirstFree draws taken start (n + 1) ↔
    draws start ∈ taken ∧ IsFirstFree draws taken (start + 1) n := by
  have hshift : ∀ k, start + 1 + k = start + (k + 1) := fun k => by omega
  simp only [IsFirstFree, hshift]
  constructor
  · rintro ⟨hfree, htaken⟩
    exact ⟨htaken 0 (Nat.succ_pos n), hfree, fun k hk => htaken (k + 1) (Nat.succ_lt_succ hk)⟩
  · rintro ⟨hfirst, hfree, htaken⟩
    refine ⟨hfree, fun k hk => ?_⟩
    cases k with
    | zero => exact hfirst
    | succ k => exact htaken k (Nat.lt_of_succ_lt_succ hk)

/-- There is only one first free draw. -/
theorem IsFirstFree.eq {m : Nat} (hn : IsFirstFree draws taken start n)
    (hm : IsFirstFree draws taken start m) : n = m := by
  rcases Nat.lt_trichotomy n m with hlt | heq | hgt
  · exact absurd (hm.2 n hlt) hn.1
  · exact heq
  · exact absurd (hn.2 m hgt) hm.1

/-- The search finds the first free draw, if that is among those that it looks at. -/
theorem firstFree?_eq_some_iff {fuel found : Nat} :
    firstFree? draws taken fuel start = some found ↔
      ∃ n < fuel, found = start + n ∧ IsFirstFree draws taken start n := by
  induction fuel generalizing start with
  | zero => simp [firstFree?]
  | succ fuel ih =>
    unfold firstFree?
    split
    · rename_i htaken
      rw [ih]
      constructor
      · rintro ⟨n, hn, rfl, hfirst⟩
        exact ⟨n + 1, by omega, by omega, isFirstFree_succ.2 ⟨htaken, hfirst⟩⟩
      · rintro ⟨n, hn, rfl, hfirst⟩
        cases n with
        | zero => exact absurd htaken (isFirstFree_zero.1 hfirst)
        | succ n => exact ⟨n, by omega, by omega, (isFirstFree_succ.1 hfirst).2⟩
    · rename_i hfree
      have hzero : IsFirstFree draws taken start 0 := isFirstFree_zero.2 hfree
      simp only [Option.some.injEq]
      constructor
      · rintro rfl
        exact ⟨0, Nat.succ_pos fuel, rfl, hzero⟩
      · rintro ⟨n, hn, rfl, hfirst⟩
        simp [hfirst.eq hzero]

/-- If any draw is free, there is a first one, and it does not come later. -/
theorem exists_isFirstFree (h : draws (start + n) ∉ taken) :
    ∃ m ≤ n, IsFirstFree draws taken start m := by
  cases hfound : firstFree? draws taken (n + 1) start with
  | none => exact absurd (mem_of_firstFree?_eq_none hfound (Nat.lt_succ_self n)) h
  | some found =>
    obtain ⟨m, hm, -, hfirst⟩ := firstFree?_eq_some_iff.1 hfound
    exact ⟨m, Nat.le_of_lt_succ hm, hfirst⟩

/-- Of more distinct draws than ids are taken, one is free. -/
theorem exists_isFirstFree_of_distinct
    (h : ∀ j ≤ taken.length, ∀ i < j, draws (start + i) ≠ draws (start + j)) :
    ∃ n ≤ taken.length, IsFirstFree draws taken start n := by
  by_cases hall : ∀ n ≤ taken.length, draws (start + n) ∈ taken
  · -- the draws are too many to have room among the taken ids
    have hnodup : ((List.range (taken.length + 1)).map fun n => draws (start + n)).Nodup := by
      refine List.pairwise_map.2 (List.pairwise_lt_range.imp_of_mem ?_)
      intro i j _ hj hlt
      exact h j (Nat.le_of_lt_succ (List.mem_range.1 hj)) i hlt
    have hsub : ((List.range (taken.length + 1)).map fun n => draws (start + n)) ⊆ taken := by
      intro c hc
      obtain ⟨n, hn, rfl⟩ := List.mem_map.1 hc
      exact hall n (Nat.le_of_lt_succ (List.mem_range.1 hn))
    have hlength := (hnodup.subperm hsub).length_le
    rw [List.length_map, List.length_range] at hlength
    omega
  · simp only [not_forall] at hall
    obtain ⟨n, hn, hfree⟩ := hall
    obtain ⟨m, hm, hfirst⟩ := exists_isFirstFree hfree
    exact ⟨m, Nat.le_trans hm hn, hfirst⟩

/-! ## The loop of a claim -/

/-- The loop of a claim: with this candidate, and the draws from `start` on still to come, it ends
    with an id after so many draws. -/
inductive Settles (r : Registry) : ConnectionId → Nat → ConnectionId → Nat → Prop
  | free {tried : ConnectionId} {next : Nat} : tried ∉ r.active → Settles r tried next tried 0
  /-- The candidate is taken, and the next draw is tried instead. -/
  | resample {tried settled : ConnectionId} {next used : Nat} : tried ∈ r.active →
      Settles r (r.draws next) (next + 1) settled used → Settles r tried next settled (used + 1)

theorem settles_of_isFirstFree (h : IsFirstFree r.draws r.active start n) :
    r.Settles (r.draws start) (start + 1) (r.draws (start + n)) n := by
  induction n generalizing start with
  | zero => exact .free h.1
  | succ n ih =>
    obtain ⟨htaken, hlater⟩ := isFirstFree_succ.1 h
    have hrest := ih hlater
    rw [Nat.add_assoc start 1 n, Nat.add_comm 1 n] at hrest
    exact .resample htaken hrest

/-- The loop ends with the candidate, or with the first free draw and all draws up to it. -/
theorem Settles.cases (h : r.Settles candidate start id n) :
    (candidate ∉ r.active ∧ id = candidate ∧ n = 0) ∨
      (candidate ∈ r.active ∧ ∃ k, IsFirstFree r.draws r.active start k ∧
        id = r.draws (start + k) ∧ n = k + 1) := by
  induction h with
  | free hfree => exact .inl ⟨hfree, rfl, rfl⟩
  | resample htaken _ ih =>
    refine .inr ⟨htaken, ?_⟩
    obtain ⟨hfree, rfl, rfl⟩ | ⟨htaken', k, hfirst, rfl, rfl⟩ := ih
    · exact ⟨0, isFirstFree_zero.2 hfree, rfl, rfl⟩
    · exact ⟨k + 1, isFirstFree_succ.2 ⟨htaken', hfirst⟩, by rw [Nat.add_right_comm]; rfl, rfl⟩

/-- The loop ends if the candidate or any draw to come is free, and not otherwise. -/
theorem exists_settles_iff : (∃ id n, r.Settles candidate start id n) ↔
    candidate ∉ r.active ∨ ∃ n, r.draws (start + n) ∉ r.active := by
  constructor
  · rintro ⟨id, n, h⟩
    obtain ⟨hfree, -⟩ | ⟨-, k, hfirst, -⟩ := h.cases
    · exact .inl hfree
    · exact .inr ⟨k, hfirst.1⟩
  · rintro h
    by_cases htaken : candidate ∈ r.active
    · obtain ⟨n, hfree⟩ := h.resolve_left (not_not_intro htaken)
      obtain ⟨m, -, hfirst⟩ := exists_isFirstFree hfree
      exact ⟨_, _, .resample htaken (settles_of_isFirstFree hfirst)⟩
    · exact ⟨_, _, .free htaken⟩

/-! ## Claims -/

/-- What a registry is after it has given an id for so many draws. -/
structure Grown (r : Registry) (id : ConnectionId) (n : Nat) (r' : Registry) : Prop where
  draws : r'.draws = r.draws
  drawn : r'.drawn = r.drawn + n
  active : r'.active = id :: r.active

theorem claim_of_free (h : candidate ∉ r.active) :
    ∃ r', r.claim candidate = (some candidate, r') ∧ r.Grown candidate 0 r' := by
  unfold claim
  rw [dif_pos h]
  exact ⟨_, rfl, rfl, rfl, rfl⟩

/-- A claim gives the first free draw, if the candidate is taken and the collisions up to that draw
    can be counted. -/
theorem claim_of_isFirstFree (h : candidate ∈ r.active)
    (hfirst : IsFirstFree r.draws r.active r.drawn n) (hn : n < maxCollisions) :
    ∃ r', r.claim candidate = (some (r.draws (r.drawn + n)), r') ∧
      r.Grown (r.draws (r.drawn + n)) (n + 1) r' := by
  have hfound : firstFree? r.draws r.active maxCollisions r.drawn = some (r.drawn + n) :=
    firstFree?_eq_some_iff.2 ⟨n, hn, rfl, hfirst⟩
  unfold claim
  rw [dif_neg (not_not_intro h)]
  split
  · rename_i found heq
    obtain rfl := Option.some.inj (heq.symm.trans hfound)
    exact ⟨_, rfl, rfl, Nat.add_assoc .., rfl⟩
  · rename_i heq
    exact nomatch heq.symm.trans hfound

/-- A claim gives no id if the collisions up to the first free draw cannot be counted. -/
theorem claim_of_maxCollisions_le (h : candidate ∈ r.active)
    (hfirst : IsFirstFree r.draws r.active r.drawn n) (hn : maxCollisions ≤ n) :
    ∃ r', r.claim candidate = (none, r') ∧ r'.active = r.active := by
  cases hclaim : r.claim candidate with
  | mk id? r' =>
    cases id? with
    | none => exact ⟨r', rfl, active_of_claim_none hclaim⟩
    | some id =>
      unfold claim at hclaim
      rw [dif_neg (not_not_intro h)] at hclaim
      split at hclaim
      · rename_i found heq
        obtain ⟨m, hm, -, hm'⟩ := firstFree?_eq_some_iff.1 heq
        obtain rfl := hfirst.eq hm'
        omega
      · exact nomatch hclaim

/-- A claim is its loop, as long as the collisions can be counted. -/
theorem Settles.claim (h : r.Settles candidate r.drawn id n) (hn : n ≤ maxCollisions) :
    ∃ r', r.claim candidate = (some id, r') ∧ r.Grown id n r' := by
  obtain ⟨hfree, rfl, rfl⟩ | ⟨htaken, k, hfirst, rfl, rfl⟩ := h.cases
  · exact claim_of_free hfree
  · exact claim_of_isFirstFree htaken hfirst hn

/-- What a claim of a candidate comes to, and an allocation. -/
structure Resamples (r : Registry) (candidate : ConnectionId) : Prop where
  /-- A free candidate is given, and nothing is drawn. -/
  free : candidate ∉ r.active →
    ∃ r', r.claim candidate = (some candidate, r') ∧ r.Grown candidate 0 r'
  /-- Otherwise the loop ends with the first free draw, and all draws up to it are used up. -/
  settles : candidate ∈ r.active → ∀ n, IsFirstFree r.draws r.active r.drawn n →
    r.Settles candidate r.drawn (r.draws (r.drawn + n)) (n + 1)
  /-- This is the id that is given, as long as the collisions can be counted, -/
  taken : candidate ∈ r.active → ∀ n, IsFirstFree r.draws r.active r.drawn n →
    n < maxCollisions → ∃ r', r.claim candidate = (some (r.draws (r.drawn + n)), r') ∧
      r.Grown (r.draws (r.drawn + n)) (n + 1) r'
  /-- and if they cannot, none is given. -/
  uncounted : candidate ∈ r.active → ∀ n, IsFirstFree r.draws r.active r.drawn n →
    maxCollisions ≤ n → ∃ r', r.claim candidate = (none, r') ∧ r'.active = r.active
  /-- To allocate is to claim a fresh draw. -/
  allocate : r.allocate = { r with drawn := r.drawn + 1 }.claim (r.draws r.drawn)
  /-- The loop ends exactly if the candidate or a later draw is free. -/
  ends_iff : (∃ id n, r.Settles candidate r.drawn id n) ↔
    candidate ∉ r.active ∨ ∃ n, r.draws (r.drawn + n) ∉ r.active
  /-- It ends within one draw more than there are active ids, if these draws are all different. -/
  bounded : (∀ j ≤ r.size, ∀ i < j, r.draws (r.drawn + i) ≠ r.draws (r.drawn + j)) →
    ∃ id n, r.Settles candidate r.drawn id n ∧ n ≤ r.size + 1 ∧
      (r.size < maxCollisions → ∃ r', r.claim candidate = (some id, r') ∧ r.Grown id n r')

/-- Whatever ids are active and whatever is drawn next: a claim gives its candidate and draws
    nothing, if that is free, and otherwise the first free draw, with all draws up to it used up.
    The active ids become more by that id, and to allocate is to claim a fresh draw.  The loop comes
    to an end exactly if the candidate or a later draw is free, and within one draw more than there
    are active ids if these draws are all different.  A claim that has to count more collisions than
    it can gives no id, which does not happen then unless as many ids are active. -/
theorem claim_eq_firstFree (r : Registry) (candidate : ConnectionId) :
    Resamples r candidate := by
  constructor
  case free => exact claim_of_free
  case settles => exact fun htaken n hfirst => .resample htaken (settles_of_isFirstFree hfirst)
  case taken => exact fun htaken n hfirst => claim_of_isFirstFree htaken hfirst
  case uncounted => exact fun htaken n hfirst => claim_of_maxCollisions_le htaken hfirst
  case allocate => rfl
  case ends_iff => exact exists_settles_iff
  case bounded =>
    intro hdistinct
    by_cases htaken : candidate ∈ r.active
    · obtain ⟨k, hk, hfirst⟩ := exists_isFirstFree_of_distinct hdistinct
      have hsettles := Settles.resample htaken (settles_of_isFirstFree hfirst)
      refine ⟨_, _, hsettles, Nat.succ_le_succ hk, fun hsize => hsettles.claim ?_⟩
      exact Nat.le_trans (Nat.succ_le_succ hk) hsize
    · exact ⟨_, _, .free htaken, Nat.zero_le _, fun _ => claim_of_free htaken⟩

/-- Three ids are in use, and the next three draws are these in another order. -/
def threeTaken : Registry where
  draws n := ⟨[7, 2, 3, 1, 9].getD n 0⟩
  drawn := 1
  active := [⟨1⟩, ⟨2⟩, ⟨3⟩]
  nodup := by decide

/-- As many draws as the bound allows are used up. -/
theorem claim_eq_firstFree_threeTaken :
    ∃ id n r', threeTaken.Settles ⟨1⟩ 1 id n ∧ n ≤ 4 ∧
      threeTaken.claim ⟨1⟩ = (some id, r') ∧ id = ⟨9⟩ ∧ r'.drawn = 5 ∧ r'.size = 4 := by
  have hresamples := claim_eq_firstFree threeTaken ⟨1⟩
  obtain ⟨id, n, hsettles, hn, hclaim⟩ := hresamples.bounded (by decide)
  obtain ⟨r', hclaim, hgrown⟩ := hclaim (by decide)
  have hid : (threeTaken.claim ⟨1⟩).1 = some ⟨9⟩ := by decide
  have hdrawn : (threeTaken.claim ⟨1⟩).2.drawn = 5 := by decide
  rw [hclaim] at hid hdrawn
  exact ⟨id, n, r', hsettles, hn, hclaim, Option.some.inj hid, hdrawn,
    congrArg List.length hgrown.active⟩

end TlsEcho.Registry

import TlsEcho.Connection.Request
import TlsEcho.Proofs.Connection.Registry

/-!
# Ids that are outstanding

An id is outstanding from the call that grants it to the call that releases it.  The callers of a
registry need not be careful: they may claim a candidate late or twice, or one that was never drawn,
and they may release an id twice, or one that was never granted.

`Answer` lists what a single call can come to.  `Faithful` says that the active ids are the
outstanding ones of all calls so far, and `Faithful.answer` that every call keeps it so.
-/

namespace TlsEcho.Registry

variable {r r' : Registry} {q : Request} {reply : Reply} {log : List Log.Record}
  {id : ConnectionId} {history : List (Request × Reply)}

/-! ## Single calls -/

/-- Whether a call asks for an id to be put in use. -/
def Request.isClaim : Request → Bool
  | .allocate | .claim _ => true
  | _ => false

/-- What a call can come to: the answer, and the registry afterwards. -/
inductive Answer (r : Registry) : Request → Reply → Registry → Prop
  | grant {request : Request} {granted : ConnectionId} {after : Registry} :
      request.isClaim = true → granted ∉ r.active → after.active = granted :: r.active →
      Answer r request (.granted granted) after
  /-- The collisions of a claim could not be counted any more. -/
  | lapse {request : Request} {after : Registry} : request.isClaim = true →
      after.active = r.active → (∃ start, ∀ n < maxCollisions, r.draws (start + n) ∈ r.active) →
      Answer r request .uncounted after
  | draw : Answer r .candidate (.drawn r.candidate.1) r.candidate.2
  | release {released : ConnectionId} {after : Registry} : released ∈ r.active →
      after.active = r.active.erase released → Answer r (.release released) .released after
  | refuse {refused : ConnectionId} : refused ∉ r.active →
      Answer r (.release refused) (.refused (.notActive refused)) r

private theorem serveClaim_answer {candidate : ConnectionId} {before : Registry}
    (h : before.serveClaim candidate = (reply, r', log)) (hq : q.isClaim = true)
    (hactive : before.active = r.active) (hdraws : before.draws = r.draws) :
    Answer r q reply r' := by
  unfold serveClaim at h
  split at h
  · rename_i id after hclaim
    obtain ⟨rfl, rfl, -⟩ := h
    have hfree := not_mem_of_claim hclaim
    have hgrown := active_of_claim hclaim
    rw [hactive] at hfree hgrown
    exact .grant hq hfree hgrown
  · rename_i after hclaim
    obtain ⟨rfl, rfl, -⟩ := h
    have hsame := active_of_claim_none hclaim
    have htaken := mem_active_of_claim_none hclaim
    rw [hactive] at hsame htaken
    rw [hdraws] at htaken
    exact .lapse hq hsame ⟨_, htaken⟩

/-- A call is answered in one of these ways. -/
theorem serve_answer (h : r.serve q = (reply, r', log)) : Answer r q reply r' := by
  cases q with
  | allocate =>
    have hfirst : r.candidate.2.serveClaim r.candidate.1 = (reply, r', log) := h
    exact serveClaim_answer hfirst rfl rfl rfl
  | claim candidate => exact serveClaim_answer h rfl rfl rfl
  | candidate =>
    obtain ⟨rfl, rfl, -⟩ := h
    exact .draw
  | release id =>
    simp only [serve] at h
    split at h
    · rename_i after hrelease
      obtain ⟨rfl, rfl, -⟩ := h
      exact .release (mem_of_release hrelease) (active_of_release hrelease)
    · rename_i e hrefused
      obtain ⟨rfl, rfl, -⟩ := h
      obtain ⟨rfl, hfree⟩ := not_mem_of_release_error hrefused
      exact .refuse hfree

/-! ## What the calls so far say -/

/-- Whether an id was granted and no release of it has succeeded since. -/
def IsOutstanding (history : List (Request × Reply)) (id : ConnectionId) : Prop :=
  ∃ before q after, history = before ++ (q, .granted id) :: after ∧
    (.release id, .released) ∉ after

/-- Whether an id that was granted twice was released in between. -/
def GrantsApart (history : List (Request × Reply)) : Prop :=
  ∀ before q between q' after id,
    history = before ++ (q, .granted id) :: (between ++ (q', .granted id) :: after) →
    (.release id, .released) ∈ between

/-- How many calls so far asked for an id. -/
def claims (history : List (Request × Reply)) : Nat := history.countP fun p => p.1.isClaim

/-- How many calls so far have released an id. -/
def releases (history : List (Request × Reply)) : Nat :=
  history.countP fun p => p.2 = .released

/-- How many calls so far gave up because they could not count their collisions. -/
def lapses (history : List (Request × Reply)) : Nat :=
  history.countP fun p => p.2 = .uncounted

/-- Where a list with one more element at its end can be split. -/
private theorem append_singleton_eq {α : Type} {l before after : List α} {x y : α}
    (h : l ++ [x] = before ++ y :: after) :
    (after = [] ∧ l = before ∧ x = y) ∨
      ∃ rest, after = rest ++ [x] ∧ l = before ++ y :: rest := by
  rcases List.eq_nil_or_concat after with rfl | ⟨rest, z, rfl⟩
  · obtain ⟨hl, hx⟩ := List.append_inj' h rfl
    exact .inl ⟨rfl, hl, List.singleton_inj.1 hx⟩
  · rw [List.concat_eq_append, ← List.cons_append, ← List.append_assoc] at h
    obtain ⟨hl, hx⟩ := List.append_inj' h rfl
    obtain rfl := List.singleton_inj.1 hx
    exact .inr ⟨rest, List.concat_eq_append, hl⟩

/-- After one more call an id is outstanding if the call granted it, or if it was outstanding and
    the call did not release it. -/
theorem isOutstanding_append :
    IsOutstanding (history ++ [(q, reply)]) id ↔ reply = .granted id ∨
      (IsOutstanding history id ∧ (q, reply) ≠ (.release id, .released)) := by
  constructor
  · rintro ⟨before, q', after, heq, hkept⟩
    obtain ⟨-, -, hlast⟩ | ⟨rest, rfl, hrest⟩ := append_singleton_eq heq
    · exact .inl (Prod.mk.inj hlast).2
    · simp only [List.mem_append, List.mem_singleton, not_or] at hkept
      exact .inr ⟨⟨before, q', rest, hrest, hkept.1⟩, Ne.symm hkept.2⟩
  · rintro (rfl | ⟨⟨before, q', after, rfl, hkept⟩, hne⟩)
    · exact ⟨history, q, [], rfl, by simp⟩
    · refine ⟨before, q', after ++ [(q, reply)], by simp, ?_⟩
      simp only [List.mem_append, List.mem_singleton, not_or]
      exact ⟨hkept, Ne.symm hne⟩

/-- Grants stay apart if nothing is granted that is outstanding. -/
theorem GrantsApart.append (h : GrantsApart history)
    (hfree : ∀ id, reply = .granted id → ¬ IsOutstanding history id) :
    GrantsApart (history ++ [(q, reply)]) := by
  intro before q₁ between q₂ after id heq
  rw [← List.cons_append, ← List.append_assoc] at heq
  obtain ⟨-, hhistory, hlast⟩ | ⟨rest, -, hrest⟩ := append_singleton_eq heq
  · -- the second grant is the last call, so the id was not outstanding before
    refine Decidable.byContradiction fun hkept => ?_
    exact hfree id (Prod.mk.inj hlast).2 ⟨before, q₁, between, hhistory, hkept⟩
  · rw [List.append_assoc, List.cons_append] at hrest
    exact h before q₁ between q₂ rest id hrest

/-! ## Registries and the calls so far -/

/-- A registry is as the calls so far say. -/
structure Faithful (history : List (Request × Reply)) (r : Registry) : Prop where
  active : ∀ id, id ∈ r.active ↔ IsOutstanding history id
  apart : GrantsApart history
  size : r.size + releases history + lapses history = claims history

/-- Every call keeps the registry as the calls say. -/
theorem Faithful.answer (h : Faithful history r) (ha : Answer r q reply r') :
    Faithful (history ++ [(q, reply)]) r' := by
  have hsize := h.size
  simp only [Registry.size] at hsize
  constructor
  case active =>
    intro id
    rw [isOutstanding_append, ← h.active]
    cases ha with
    | grant hq hfree hactive => simp [hactive, eq_comm]
    | lapse hq hactive => simp [hactive]
    | draw => simp [candidate]
    | release hmem hactive =>
      simp [hactive, r.nodup.mem_erase_iff, and_comm, eq_comm]
    | refuse hfree => simp
  case apart =>
    refine h.apart.append fun id hgranted => ?_
    rw [← h.active]
    cases ha with
    | grant hq hfree => cases hgranted; exact hfree
    | _ => simp at hgranted
  case size =>
    simp only [Registry.size, claims, releases, lapses, List.countP_append,
      List.countP_singleton] at hsize ⊢
    cases ha with
    | grant hq hfree hactive => simp [hactive, hq]; omega
    | lapse hq hactive => simp [hactive, hq]; omega
    | draw => simpa [candidate, Request.isClaim] using hsize
    | release hmem hactive =>
      have hpos := List.length_pos_of_mem hmem
      have hq : ∀ id, (Request.release id).isClaim = false := fun _ => rfl
      simp [hactive, List.length_erase_of_mem hmem, hq]
      omega
    | refuse hfree => simpa [Request.isClaim] using hsize

/-! ## Every sequence of calls -/

theorem faithful_ofDraws (draws : Nat → ConnectionId) : Faithful [] (ofDraws draws) := by
  constructor <;>
    simp [ofDraws, IsOutstanding, GrantsApart, Registry.size, claims, releases, lapses]

/-- The registry stays as the calls say, whatever the calls are. -/
theorem Faithful.serveAll {requests : List Request} {replies : List Reply}
    (h : Faithful history r) (hserve : r.serveAll requests = (replies, r')) :
    replies.length = requests.length ∧ Faithful (history ++ requests.zip replies) r' := by
  induction requests generalizing r history replies with
  | nil =>
    obtain ⟨rfl, rfl⟩ := hserve
    simpa using h
  | cons q rest ih =>
    obtain ⟨rfl, rfl⟩ := Prod.mk.inj hserve
    have hfirst := h.answer (serve_answer (r := r) (q := q) rfl)
    obtain ⟨hlength, hrest⟩ := ih hfirst rfl
    rw [List.append_assoc] at hrest
    exact ⟨congrArg Nat.succ hlength, hrest⟩

/-- What one more call comes to, after the calls so far. -/
structure Served (history : List (Request × Reply)) (r : Registry) (q : Request) (reply : Reply)
    (r' : Registry) : Prop where
  /-- An id that is granted was free and is active now, and nothing else changes. -/
  granted : ∀ id, reply = .granted id → r.isActive id = false ∧
    ∀ other, r'.isActive other = true ↔ other = id ∨ r.isActive other = true
  /-- A call that asks for an id gets one, unless more draws in a row than it can count are active.
      Then it changes nothing. -/
  claimed : q.isClaim = true → (∃ id, reply = .granted id) ∨ (r'.active = r.active ∧
    ∃ start, ∀ n < maxCollisions, r.isActive (r.draws (start + n)) = true)
  drawn : q = .candidate → r'.active = r.active
  refused : ∀ id, q = .release id → ¬ IsOutstanding history id →
    reply = .refused (.notActive id) ∧ r' = r
  released : ∀ id, q = .release id → IsOutstanding history id → reply = .released ∧
    ∀ other, r'.isActive other = true ↔ other ≠ id ∧ r.isActive other = true

theorem Faithful.served (h : Faithful history r) (ha : Answer r q reply r') :
    Served history r q reply r' := by
  constructor
  case granted =>
    intro id hgranted
    cases ha with
    | grant hq hfree hactive => cases hgranted; simp [isActive, hfree, hactive]
    | _ => simp at hgranted
  case claimed =>
    intro hq
    cases ha with
    | grant => exact .inl ⟨_, rfl⟩
    | lapse hq hactive htaken => exact .inr ⟨hactive, by simpa [isActive] using htaken⟩
    | _ => simp [Request.isClaim] at hq
  case drawn =>
    rintro rfl
    cases ha with
    | grant hq | lapse hq => simp [Request.isClaim] at hq
    | draw => rfl
  case refused =>
    rintro id rfl hfree
    rw [← h.active] at hfree
    cases ha with
    | grant hq | lapse hq => simp [Request.isClaim] at hq
    | release hmem => exact absurd hmem hfree
    | refuse => exact ⟨rfl, rfl⟩
  case released =>
    rintro id rfl hmem
    rw [← h.active] at hmem
    cases ha with
    | grant hq | lapse hq => simp [Request.isClaim] at hq
    | release hmem hactive => exact ⟨rfl, by simp [isActive, hactive, r.nodup.mem_erase_iff]⟩
    | refuse hfree => exact absurd hmem hfree

/-- Whatever calls a registry has answered, its active ids are those that were granted and not
    released since, each of them once.  No id was granted again before it was released, and there
    are as many active ids as calls that asked for one, less those that released one and those that
    could not count their collisions.  One more call grants only an id that is not active, refuses
    exactly the release of an id that is not outstanding, and changes nothing else. -/
theorem outstanding_of_serveAll (draws : Nat → ConnectionId) (requests : List Request)
    (replies : List Reply) (r : Registry)
    (h : (ofDraws draws).serveAll requests = (replies, r)) :
    replies.length = requests.length ∧
    (∀ id, r.isActive id = true ↔ IsOutstanding (requests.zip replies) id) ∧
    r.active.Nodup ∧ GrantsApart (requests.zip replies) ∧
    r.size + releases (requests.zip replies) + lapses (requests.zip replies) =
      claims (requests.zip replies) ∧
    (∀ q reply r' log, r.serve q = (reply, r', log) →
      Served (requests.zip replies) r q reply r') := by
  obtain ⟨hlength, hfaithful⟩ := (faithful_ofDraws draws).serveAll h
  rw [List.nil_append] at hfaithful
  refine ⟨hlength, ?_, r.nodup, hfaithful.apart, hfaithful.size, ?_⟩
  · simpa [isActive] using hfaithful.active
  · exact fun q reply r' log hserve => hfaithful.served (serve_answer hserve)

/-- Careless calls: a candidate is claimed twice, an id is released twice, and an id that was
    released is claimed again. -/
def carelessCalls : List Request :=
  [.candidate, .claim ⟨0⟩, .claim ⟨0⟩, .release ⟨0⟩, .release ⟨0⟩, .claim ⟨0⟩, .allocate,
    .release ⟨7⟩]

/-- Every draw comes twice, so that two of the calls meet collisions. -/
theorem outstanding_of_serveAll_carelessCalls :
    ∃ replies r, (ofDraws fun n => ⟨.ofNat (n / 2)⟩).serveAll carelessCalls = (replies, r) ∧
      replies = [.drawn ⟨0⟩, .granted ⟨0⟩, .granted ⟨1⟩, .released, .refused (.notActive ⟨0⟩),
        .granted ⟨0⟩, .granted ⟨2⟩, .refused (.notActive ⟨7⟩)] ∧
      IsOutstanding (carelessCalls.zip replies) ⟨0⟩ ∧ r.size = 3 := by
  cases hserve : (ofDraws fun n => ⟨.ofNat (n / 2)⟩).serveAll carelessCalls with
  | mk replies r =>
    have hreplies : ((ofDraws fun n => ⟨.ofNat (n / 2)⟩).serveAll carelessCalls).1 =
        [.drawn ⟨0⟩, .granted ⟨0⟩, .granted ⟨1⟩, .released, .refused (.notActive ⟨0⟩),
          .granted ⟨0⟩, .granted ⟨2⟩, .refused (.notActive ⟨7⟩)] := by decide
    have hzero : ((ofDraws fun n => ⟨.ofNat (n / 2)⟩).serveAll carelessCalls).2.isActive ⟨0⟩ =
        true := by decide
    rw [hserve] at hreplies hzero
    obtain ⟨-, hactive, -, -, hsize, -⟩ := outstanding_of_serveAll _ _ _ _ hserve
    refine ⟨replies, r, rfl, hreplies, (hactive _).1 hzero, ?_⟩
    -- four calls were granted an id and one has released its own
    simp only at hreplies
    subst hreplies
    have hsize : r.size + 1 + 0 = 4 := hsize
    omega

end TlsEcho.Registry

import TlsEcho.Connection.Registry

/-!
# What the registry holds after a call

A claim that gives an id adds it to the active ids, and one that gives none leaves them as they
were.  A release takes the id away.
-/

namespace TlsEcho.Registry

variable {r r' : Registry} {candidate id : ConnectionId}

/-- A claim adds the id that it hands out. -/
theorem active_of_claim (h : r.claim candidate = (some id, r')) :
    r'.active = id :: r.active := by
  unfold claim at h
  split at h
  · obtain ⟨rfl, rfl⟩ := h
    rfl
  · split at h
    · obtain ⟨rfl, rfl⟩ := h
      rfl
    · exact nomatch h

/-- A claim that finds no id changes nothing. -/
theorem active_of_claim_none (h : r.claim candidate = (none, r')) : r'.active = r.active := by
  unfold claim at h
  split at h
  · exact nomatch h
  · split at h
    · exact nomatch h
    · obtain ⟨-, rfl⟩ := h
      rfl

/-- A release takes its id out, and no other. -/
theorem active_of_release (h : r.release id = .ok r') : r'.active = r.active.erase id := by
  unfold release at h
  split at h
  · obtain rfl := Except.ok.inj h
    rfl
  · exact nomatch h

/-- An id that a claim gives was free. -/
theorem not_mem_of_claim (h : r.claim candidate = (some id, r')) : id ∉ r.active := by
  unfold claim at h
  split at h
  · obtain ⟨rfl, rfl⟩ := h
    assumption
  · split at h
    · rename_i found
      obtain ⟨rfl, rfl⟩ := h
      exact not_mem_of_firstFree? found
    · exact nomatch h

/-- If no free draw is found, all draws that were looked at are taken. -/
theorem mem_of_firstFree?_eq_none {draws : Nat → ConnectionId} {taken : List ConnectionId}
    {fuel start : Nat} (h : firstFree? draws taken fuel start = none) {n : Nat} (hn : n < fuel) :
    draws (start + n) ∈ taken := by
  induction fuel generalizing start n with
  | zero => omega
  | succ fuel ih =>
    unfold firstFree? at h
    split at h
    · cases n with
      | zero => assumption
      | succ n =>
        have hrest := ih h (Nat.lt_of_succ_lt_succ hn)
        rwa [Nat.add_right_comm] at hrest
    · simp at h

/-- A claim gives no id only if the next draws, as many as it can count, are all active. -/
theorem mem_active_of_claim_none (h : r.claim candidate = (none, r')) :
    ∀ n < maxCollisions, r.draws (r.drawn + n) ∈ r.active := by
  unfold claim at h
  split at h
  · exact nomatch h
  · split at h
    · exact nomatch h
    · rename_i hnone
      exact fun n hn => mem_of_firstFree?_eq_none hnone hn

/-- Only an active id is released. -/
theorem mem_of_release (h : r.release id = .ok r') : id ∈ r.active := by
  unfold release at h
  split at h
  · assumption
  · exact nomatch h

/-- Only the release of an id that is not active is refused, and the refusal names that id. -/
theorem not_mem_of_release_error {e : RegistryError} (h : r.release id = .error e) :
    e = .notActive id ∧ id ∉ r.active := by
  unfold release at h
  split at h
  · exact nomatch h
  · exact ⟨(Except.error.inj h).symm, by assumption⟩

end TlsEcho.Registry

import TlsEcho.Proofs.Server.Transition

/-!
# The sessions of a server

`sessions` and `waiting` are the connections that a server has: those with a session, and those
that have been made and wait for one.  `stepSession_sessions` says that a step of a session leaves
all others alone: its session is `Replaced`, and the list `Keeps` the others as before.
-/

namespace TlsEcho.Server

variable {s s' : Server} {effects : List Effect}

/-- The sessions that have not ended, with their connections. -/
def sessions (s : Server) : List (Nat × Session) := s.tasks.map fun t => (t.connection, t.session)

/-- The connections that have been made and have no session yet. -/
def waiting (s : Server) : List Nat :=
  s.running.elim [] fun r => (r.loop.admitted?.toList ++ r.backlog).map Incoming.connection

/-- Nobody waits any more once the accept loop has ended. -/
theorem waiting_endLoop (s : Server) (r : Running) (how : LoopEnd) :
    (s.endLoop r how).1.waiting = [] := by
  simp [waiting, AcceptLoop.admitted?]

/-! ## Lists with one session replaced -/

/-- The second list is the first one after a step of the session of a connection, which has no other
    session: the session is replaced, or taken away if it is over. -/
def Replaced (c : Nat) (session session' : Session) (l l' : List (Nat × Session)) : Prop :=
  ∃ before after, l = before ++ (c, session) :: after ∧
    l' = before ++ (if session'.isOver then [] else [(c, session')]) ++ after ∧
    ∀ p ∈ before ++ after, p.1 ≠ c

namespace Replaced

variable {c : Nat} {session session' : Session} {l l' : List (Nat × Session)}

/-- The session that took the step was there. -/
theorem mem (h : Replaced c session session' l l') : (c, session) ∈ l := by
  obtain ⟨before, after, rfl, -, -⟩ := h
  simp

/-- Whoever is there afterwards was there before, or is the session after its step. -/
theorem of_mem (h : Replaced c session session' l l') {p : Nat × Session} (hp : p ∈ l') :
    (p ∈ l ∧ p.1 ≠ c) ∨ (session'.isOver = false ∧ p = (c, session')) := by
  obtain ⟨before, after, rfl, rfl, hother⟩ := h
  simp only [List.mem_append] at hp hother
  obtain (hp | hp) | hp := hp
  · exact .inl ⟨by simp [hp], hother p (.inl hp)⟩
  · cases ho : session'.isOver <;> simp_all
  · exact .inl ⟨by simp [hp], hother p (.inr hp)⟩

/-- Every other session that was there is still there. -/
theorem mem_of_ne (h : Replaced c session session' l l') {p : Nat × Session} (hp : p ∈ l)
    (hne : p.1 ≠ c) : p ∈ l' := by
  obtain ⟨before, after, rfl, rfl, -⟩ := h
  simp only [List.mem_append, List.mem_cons] at hp ⊢
  obtain hp | rfl | hp := hp
  · exact .inl (.inl hp)
  · exact absurd rfl hne
  · exact .inr hp

/-- No connection is added. -/
theorem connections (h : Replaced c session session' l l') :
    (l'.map Prod.fst).Sublist (l.map Prod.fst) := by
  obtain ⟨before, after, rfl, rfl, -⟩ := h
  cases session'.isOver <;> simp

/-- The ids are those from before, but for the id of a session that is over. -/
theorem ids (h : Replaced c session session' l l') (hid : session'.id = session.id)
    {active : List ConnectionId} (ha : active.Perm (l.map fun p => p.2.id)) :
    (if session'.isOver then active.erase session.id else active).Perm
      (l'.map fun p => p.2.id) := by
  obtain ⟨before, after, rfl, rfl, -⟩ := h
  simp only [List.map_append, List.map_cons] at ha
  cases session'.isOver with
  | false => simpa [hid] using ha
  | true => simpa using (ha.trans List.perm_middle).erase session.id

/-- The number of counted sessions moves by the session's own slot. -/
theorem countP (h : Replaced c session session' l l')
    (ho : session'.isOver = true → session'.counted = false) :
    (l'.countP fun p => p.2.counted) + session.counted.toNat =
      (l.countP fun p => p.2.counted) + session'.counted.toNat := by
  obtain ⟨before, after, rfl, rfl, -⟩ := h
  cases hover : session'.isOver with
  | false =>
    cases hc : session.counted <;> cases hc' : session'.counted <;>
      simp [List.countP_append, hc, hc'] <;> omega
  | true =>
    cases hc : session.counted <;>
      simp [List.countP_append, hc, ho hover, Nat.add_assoc]

/-- The pairs of connection and id are those from before, but for that of a session that is over. -/
theorem pairs (h : Replaced c session session' l l') (hid : session'.id = session.id) :
    (l'.map fun p => (p.1, p.2.id)) =
      if session'.isOver then (l.map fun p => (p.1, p.2.id)).filter fun p => p.1 ≠ c
      else l.map fun p => (p.1, p.2.id) := by
  obtain ⟨before, after, rfl, rfl, hother⟩ := h
  cases session'.isOver with
  | false => simp [hid]
  | true =>
    -- the filter takes nothing from the other sessions
    have hkeep : ∀ k : List (Nat × Session), (∀ p ∈ k, p.1 ≠ c) →
        (k.map fun p => (p.1, p.2.id)).filter (fun p => p.1 ≠ c) =
          k.map fun p => (p.1, p.2.id) := by
      intro k hk
      refine List.filter_eq_self.2 fun p hp => ?_
      obtain ⟨q, hq, rfl⟩ := List.mem_map.1 hp
      simpa using hk q hq
    have hb := hkeep before fun p hp => hother p (List.mem_append_left _ hp)
    have ha := hkeep after fun p hp => hother p (List.mem_append_right _ hp)
    simp only [if_true, List.append_nil, List.map_append, List.map_cons, List.filter_append,
      hb, List.filter_cons, ha]
    simp

end Replaced

/-! ## Sessions that are kept -/

/-- Whether the session of a connection is kept in a list as long as it is not over, and nothing of
    the connection afterwards. -/
def Keeps (l : List (Nat × Session)) (c : Nat) (session : Session) : Prop :=
  if session.isOver then c ∉ l.map Prod.fst else (c, session) ∈ l

namespace Keeps

variable {c c' : Nat} {session session' other : Session} {l l' : List (Nat × Session)}

theorem of_mem (h : (c, session) ∈ l) (hover : session.isOver = false) : Keeps l c session := by
  rwa [Keeps, hover, if_neg Bool.false_ne_true]

/-- The session of another connection may come. -/
theorem append_singleton (h : Keeps l c session) (hne : c ≠ c') :
    Keeps (l ++ [(c', other)]) c session := by
  unfold Keeps at h ⊢
  split
  · rename_i hover
    rw [if_pos hover] at h
    simpa [hne] using h
  · rename_i hover
    rw [if_neg hover] at h
    exact List.mem_append_left _ h

/-- A session that is replaced is the one that was kept. -/
theorem eq_of_replaced (h : Keeps l c other) (hr : Replaced c session session' l l') :
    other = session := by
  obtain ⟨before, after, rfl, -, hother⟩ := hr
  unfold Keeps at h
  split at h
  · simp at h
  · simp only [List.mem_append, List.mem_cons] at h hother
    obtain h | h | h := h
    · exact absurd rfl (hother _ (.inl h))
    · exact (Prod.mk.inj h).2
    · exact absurd rfl (hother _ (.inr h))

/-- What it is replaced by is kept then. -/
theorem of_replaced (hr : Replaced c session session' l l') : Keeps l' c session' := by
  obtain ⟨before, after, -, rfl, hother⟩ := hr
  unfold Keeps
  split
  · intro hmem
    obtain ⟨p, hp, hc⟩ := List.mem_map.1 hmem
    exact hother p (by simpa using hp) hc
  · simp

/-- Every other session is kept as before. -/
theorem replaced (h : Keeps l c other) (hr : Replaced c' session session' l l') (hne : c ≠ c') :
    Keeps l' c other := by
  unfold Keeps at h ⊢
  split
  · rename_i hover
    rw [if_pos hover] at h
    exact fun hmem => h (hr.connections.mem hmem)
  · rename_i hover
    rw [if_neg hover] at h
    exact hr.mem_of_ne h hne

end Keeps

/-! ## A step of a session -/

/-- Replacing the session of a task leaves the tasks before and after it as they are. -/
private theorem replaceSession_eq {before after : List SessionTask} {task : SessionTask}
    (session : Session) (hb : ∀ t ∈ before, t.connection ≠ task.connection)
    (ha : ∀ t ∈ after, t.connection ≠ task.connection) :
    replaceSession (before ++ task :: after) task.connection session =
      before ++ (if session.isOver then [] else [{ task with session }]) ++ after := by
  unfold replaceSession
  split
  · have hb' : before.filter (fun t => t.connection ≠ task.connection) = before :=
      List.filter_eq_self.2 (by simpa using hb)
    have ha' : after.filter (fun t => t.connection ≠ task.connection) = after :=
      List.filter_eq_self.2 (by simpa using ha)
    rw [List.filter_append, List.filter_cons, hb', ha']
    simp
  · -- every other task is mapped to itself
    have hmap : ∀ l : List SessionTask, (∀ t ∈ l, t.connection ≠ task.connection) →
        l.map (fun t => if t.connection = task.connection then { t with session } else t) = l :=
      fun l hl => (List.map_congr_left fun t ht => if_neg (hl t ht)).trans (List.map_id l)
    rw [List.map_append, List.map_cons, hmap before hb, hmap after ha]
    simp

/-- A step of a session changes no other session and nothing about the connections that wait. -/
theorem stepSession_sessions {c : Nat} {signal : Session.Signal}
    (h : s.stepSession c signal = some (s', effects))
    (hd : (s.sessions.map Prod.fst).Nodup) :
    ∃ session session' emitted, Replaced c session session' s.sessions s'.sessions ∧
      session.step s.context signal = some (session', emitted) ∧
      s'.occupancy = (s.occupancy.applyAll session'.id emitted).occupancy ∧
      s'.waiting = s.waiting ∧ s'.connections = s.connections ∧
      effects = (s.occupancy.applyAll session'.id emitted).log.map Effect.log ++
        emitted.map (Effect.session c) := by
  obtain ⟨task, session', emitted, hfind, hstep, rfl, rfl⟩ := stepSession_eq_some.1 h
  obtain ⟨hc, before, after, htasks, hb⟩ := List.find?_eq_some_iff_append.1 hfind
  obtain rfl : task.connection = c := by simpa using hc
  have hb : ∀ t ∈ before, t.connection ≠ task.connection := by simpa using hb
  -- the task is the first one of its connection, and connections are distinct, so it is the only
  -- one
  have ha : ∀ t ∈ after, t.connection ≠ task.connection := by
    intro t ht heq
    simp only [sessions, htasks, List.map_append, List.map_cons, List.nodup_append,
      List.nodup_cons, List.map_map] at hd
    exact hd.2.1.1 (List.mem_map.2 ⟨t, ht, heq⟩)
  have hreplace := replaceSession_eq session' hb ha
  rw [← htasks] at hreplace
  let pair (t : SessionTask) : Nat × Session := (t.connection, t.session)
  refine ⟨task.session, session', emitted, ⟨before.map pair, after.map pair, ?_, ?_, ?_⟩, hstep,
    rfl, rfl, rfl, rfl⟩
  · simp [sessions, htasks, pair]
  · simp only [sessions, hreplace]
    split <;> simp [pair]
  · intro p hp
    rw [← List.map_append, List.mem_map] at hp
    obtain ⟨t, ht, rfl⟩ := hp
    exact (List.mem_append.1 ht).elim (hb t) (ha t)

end TlsEcho.Server

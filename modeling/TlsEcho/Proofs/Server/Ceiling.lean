import TlsEcho.Proofs.Server.WakeUp

/-!
# Sockets and the ceiling

When a socket and the news that the number of live connections has moved are there together, the
accept loop may heed either of them, so that a socket may be taken at the ceiling.

It is the only one.  Every socket has a check of its own, at which admission was listening and the
ceiling was not reached, and no other socket is taken after that check (`Permitted`).  If the
ceiling is reached by the time the socket is taken, the news of it was there to be heeded.
-/

namespace TlsEcho.Server

variable {s s' start : Server} {effects history : List Effect} {actions : List Action} {a : Action}

/-- Whether the loop asks admission next and will be permitted to take a socket. -/
def Permits (s : Server) : Prop :=
  ∃ r, s.running = some r ∧ r.loop.stage = .checking ∧ s.isListening = true ∧
    s.liveCount < s.config.maxConnections

/-- Whether a check of a run has permitted to take a socket, and none was taken since. -/
def Permitted (start : Server) (actions : List Action) : Prop :=
  ∃ before between s₀ past, actions = before ++ .event .proceed :: between ∧
    start.run before = some (s₀, past) ∧ s₀.Permits ∧ .event .accept ∉ between

/-- Whether the loop is about to take a socket. -/
def IsChoosing (s : Server) : Prop :=
  ∃ r, s.running = some r ∧ (r.loop.stage = .choosing ∨ r.loop.stage = .accepting)

/-- A permission lasts until a socket is taken. -/
theorem Permitted.append (h : Permitted start actions) (ha : a ≠ .event .accept) :
    Permitted start (actions ++ [a]) := by
  obtain ⟨before, between, s₀, past, rfl, hbefore, hpermits, hnone⟩ := h
  refine ⟨before, between ++ [a], s₀, past, by simp, hbefore, hpermits, ?_⟩
  simp only [List.mem_append, List.mem_singleton, not_or]
  exact ⟨hnone, Ne.symm ha⟩

/-- A step that leaves the loop choosing is a check that permits it, or is taken while the loop is
    choosing and takes no socket. -/
theorem isChoosing_step {e : Event} (ht : Transition s e s' effects)
    (hlimits : s.controller.limits = s.config.limits) (hs' : s'.IsChoosing) :
    (s.IsChoosing ∧ e ≠ .accept) ∨ (e = .proceed ∧ s.Permits) := by
  obtain ⟨r', hr', hst'⟩ := hs'
  cases ht with
  | permit hr hst hp hlive =>
    rw [hlimits] at hlive
    exact .inr ⟨rfl, _, hr, hst, isListening_iff.2 hp, hlive⟩
  | keepCandidate hr hst | spawnCandidate hr hst => exact .inl ⟨⟨_, hr, .inl hst⟩, nofun⟩
  | connect hr | draw hr | drawFails hr | signalStop hr =>
    obtain rfl := Option.some.inj hr'
    exact .inl ⟨⟨_, hr, hst'⟩, nofun⟩
  | session hstep =>
    obtain ⟨_, _, _, -, -, rfl, -⟩ := stepSession_eq_some.1 hstep
    exact .inl ⟨⟨r', hr', hst'⟩, nofun⟩
  | drawStray | advance => exact .inl ⟨⟨r', hr', hst'⟩, nofun⟩
  | _ =>
    -- in any other stage the loop does not choose
    obtain rfl := Option.some.inj hr'
    simp at hst'

/-- The owner of a server does not make a loop choose. -/
theorem isChoosing_act (hact : s.act a = some (s', effects))
    (hlimits : s.controller.limits = s.config.limits) (hs' : s'.IsChoosing) :
    (s.IsChoosing ∧ a ≠ .event .accept) ∨ (a = .event .proceed ∧ s.Permits) := by
  cases a with
  | event e => simpa using isChoosing_step (step_transition hact) hlimits hs'
  | start host =>
    obtain ⟨-, rfl | ⟨-, pool, rfl⟩ | ⟨-, pool, address, rfl⟩⟩ := act_start_eq_some hact
    · exact .inl ⟨hs', nofun⟩
    · exact .inl ⟨hs', nofun⟩
    · -- a new loop has not asked admission yet
      obtain ⟨r', hr', hst'⟩ := hs'
      obtain rfl := Option.some.inj hr'
      simp at hst'
  | shutdown context =>
    obtain ⟨-, rfl, -⟩ | ⟨r, -, rfl, -⟩ := act_shutdown_eq_some hact
    · exact .inl ⟨hs', nofun⟩
    · obtain ⟨r', hr', -⟩ := hs'
      simp [stopped_running s r context] at hr'

variable {config : Config} {draws : Nat → ConnectionId} {security : Security}

/-- A loop that is about to take a socket has been permitted to. -/
theorem permitted_of_run (h : (ofConfig config draws security).run actions = some (s, history))
    (hs : s.IsChoosing) : Permitted (ofConfig config draws security) actions := by
  -- the invariant is about the run itself, so that the check can be found in it
  refine (run_invariant (P := fun actions history s =>
    (ofConfig config draws security).run actions = some (s, history) ∧
      (s.IsChoosing → Permitted (ofConfig config draws security) actions)) ?_ ?_ h).2 hs
  · refine ⟨rfl, ?_⟩
    rintro ⟨r, hr, -⟩
    exact nomatch hr
  · rintro actions history s a s' more ⟨hrun, hpermitted⟩ hact
    refine ⟨run_append_singleton hrun hact, fun hs' => ?_⟩
    obtain ⟨hs, ha⟩ | ⟨rfl, hpermits⟩ := isChoosing_act hact (limits_of_run hrun).2 hs'
    · exact (hpermitted hs).append ha
    · exact ⟨actions, [], s, history, rfl, hrun, hpermits, by simp⟩

/-- A loop that waits for a connection can notice that the live counter has moved exactly if it has
    moved since the loop last looked. -/
theorem exists_liveChanged_iff {r : Running} (hr : s.running = some r)
    (hst : r.loop.stage = .accepting) :
    (∃ after, s.step .liveChanged = some (after, [])) ↔
      r.loop.watcher.hasChanged s.occupancy.live = true := by
  simp [step, hr, AcceptLoop.liveChanged?, hst]

/-- Whenever a socket is taken, the ceiling is not reached, or the news that the live counter has
    moved could have been heeded as well.  In any case there is a check since the last socket was
    taken, and at this check admission was listening and the ceiling was not reached. -/
theorem permitted_of_accept (config : Config) (draws : Nat → ConnectionId) (security : Security)
    (actions : List Action) (s s' : Server) (history effects : List Effect)
    (h : (ofConfig config draws security).run actions = some (s, history))
    (haccept : s.step .accept = some (s', effects)) :
    (s.liveCount < s.config.maxConnections ∨
      ∃ after, s.step .liveChanged = some (after, [])) ∧
    Permitted (ofConfig config draws security) actions := by
  cases step_transition haccept with
  | @accept r c backlog hr hst hbacklog =>
    refine ⟨?_, permitted_of_run h ⟨r, hr, .inr hst⟩⟩
    have hlive := ((alert_of_run h r hr).2 (.inr hst)).2
    rw [(limits_of_run h).2] at hlive
    cases hchanged : r.loop.watcher.hasChanged s.occupancy.live with
    | true => exact .inr ((exists_liveChanged_iff hr hst).2 hchanged)
    | false =>
      refine .inl (hlive ?_)
      simpa [Admission.Watcher.hasChanged, Admission.Watcher.hasMissed] using hchanged

/-- A client finishes its handshake and takes the only place while another one is there to be
    accepted. -/
def socketWaits : List Action :=
  [.start { bound := .ok { ip := .v4 127 0 0 1, port := 8443 } }, .event (.connect none),
    .event .proceed, .event .proceed, .event .proceed, .event .draw, .event .accept,
    .event .proceed, .event .proceed, .event .proceed, .event (.session 0 .go),
    .event (.session 0 .go), .event (.session 0 (.handshake (.ok ()))), .event (.connect none)]

theorem permitted_of_accept_socketWaits :
    ∃ s history s' effects, (ofConfig { Config.default 2 with maxConnections := 1 }
        (fun n => ⟨.ofNat n⟩)).run socketWaits = some (s, history) ∧
      s.step .accept = some (s', effects) ∧
      (∃ after, s.step .liveChanged = some (after, [])) ∧
      Permitted (ofConfig { Config.default 2 with maxConnections := 1 }
        (fun n => ⟨.ofNat n⟩)) socketWaits := by
  have hview : ((ofConfig { Config.default 2 with maxConnections := 1 }
      (fun n => ⟨.ofNat n⟩)).run socketWaits).map (fun out =>
        ((out.1.step .accept).isSome, decide (out.1.liveCount < out.1.config.maxConnections))) =
      some (true, false) := by decide
  obtain ⟨⟨s, history⟩, hrun, hview⟩ := Option.map_eq_some_iff.1 hview
  obtain ⟨haccepts, hfull⟩ := Prod.mk.inj hview
  obtain ⟨⟨s', effects⟩, haccept⟩ := Option.isSome_iff_exists.1 haccepts
  obtain ⟨hnews, hpermitted⟩ := permitted_of_accept _ _ _ _ s s' history effects hrun haccept
  exact ⟨s, history, s', effects, hrun, haccept, hnews.resolve_left (of_decide_eq_false hfull),
    hpermitted⟩

/-- The ceiling is reached, and still the other socket may be taken. -/
theorem taken_at_ceiling :
    ∃ s history s', (ofConfig { Config.default 2 with maxConnections := 1 }
        (fun n => ⟨.ofNat n⟩)).run socketWaits = some (s, history) ∧
      s.step .accept = some (s', [.acceptEnded (some 1)]) ∧
      s.liveCount = 1 ∧ s.config.maxConnections = 1 := by
  have hview : ((ofConfig { Config.default 2 with maxConnections := 1 }
      (fun n => ⟨.ofNat n⟩)).run socketWaits).map (fun out =>
        ((out.1.step .accept).map Prod.snd, out.1.liveCount, out.1.config.maxConnections)) =
      some (some [.acceptEnded (some 1)], 1, 1) := by decide
  obtain ⟨⟨s, history⟩, hrun, hview⟩ := Option.map_eq_some_iff.1 hview
  simp only [Prod.mk.injEq] at hview
  obtain ⟨haccept, hlive, hmax⟩ := hview
  obtain ⟨⟨s', effects⟩, haccept, rfl⟩ := Option.map_eq_some_iff.1 haccept
  exact ⟨s, history, s', hrun, haccept, hlive, hmax⟩

end TlsEcho.Server

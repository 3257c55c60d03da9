import TlsEcho.Admission.Gate

/-!
# Admission against its history

What admission answers depends on the calls that were made before: on the check that was the first
one since the last `resume` to find the ceiling reached.  `begun?` looks this check up in the list
of calls, and `Tracked` says that the controller is in the phase that it calls for and that the
counter counts the slots that are held.  Every call keeps it so (`Tracked.serve`).
-/

namespace TlsEcho.Admission.Gate

/-! ## Calls and what they say -/

/-- A call that was made: how many slots were held then, when it was, and what was answered. -/
structure Call where
  request : Request
  held : Nat
  time : Instant
  reply : Reply
  deriving DecidableEq

/-- What becomes of a gate by a sequence of calls. -/
def after (g : Gate) (requests : List Request) : Gate :=
  requests.foldl (fun g q => (g.serve q).2) g

/-- A call on a gate, with what is answered to it. -/
def call (g : Gate) (q : Request) : Call := ⟨q, g.held, g.clock, (g.serve q).1⟩

/-- A sequence of calls on a gate. -/
def calls (g : Gate) : List Request → List Call
  | [] => []
  | q :: rest => g.call q :: (g.serve q).2.calls rest

/-- How many slots have been taken. -/
def taken (history : List Call) : Nat := history.countP fun c => c.request = .acquire

/-- Whether a call has given a slot back. -/
def Call.givesBack (c : Call) : Bool :=
  match c.request, c.reply with
  | .drop _, .flag true => true
  | _, _ => false

/-- Whether a call is a check that finds the ceiling reached, and the cooldown that it has to begin
    has an end. -/
def Call.meetsCeiling (limits : Limits) (c : Call) : Bool :=
  c.request = .check && limits.validated.maxConnections ≤ c.held &&
    (c.time.add? limits.cooldown).isSome

/-- The calls since the last `resume`. -/
def sinceResume (history : List Call) : List Call :=
  history.foldl (fun since c => if c.request = .resume then [] else since ++ [c]) []

/-- The check that has begun the present cooldown: the first one since the last `resume` that met
    the ceiling. -/
def begun? (limits : Limits) (history : List Call) : Option Call :=
  (sinceResume history).find? (·.meetsCeiling limits)

variable {g g' : Gate} {limits : Limits} {history : List Call} {c begun : Call} {q : Request}
  {reply : Reply}

/-- Requests are served one after the other. -/
theorem after_cons (g : Gate) (q : Request) (rest : List Request) :
    g.after (q :: rest) = (g.serve q).2.after rest := rfl

/-- A history has one call for each request. -/
theorem map_request_calls (g : Gate) (requests : List Request) :
    (g.calls requests).map Call.request = requests := by
  induction requests generalizing g with
  | nil => rfl
  | cons q rest ih => rw [calls, List.map_cons, ih, call]

/-- How one more call changes which check began the cooldown. -/
theorem begun?_append_singleton : begun? limits (history ++ [c]) =
    if c.request = .resume then none
    else (begun? limits history).or (if c.meetsCeiling limits then some c else none) := by
  simp only [begun?, sinceResume, List.foldl_append, List.foldl_cons, List.foldl_nil]
  split
  · rfl
  · rw [List.find?_append, List.find?_singleton]

/-- A cooldown that has begun stays the present one as long as nothing resumes. -/
theorem begun?_append (h : begun? limits history = some begun) {more : List Call}
    (hresume : ∀ c ∈ more, c.request ≠ .resume) : begun? limits (history ++ more) = some begun := by
  induction more generalizing history with
  | nil => rwa [List.append_nil]
  | cons c more ih =>
    obtain ⟨hc, hmore⟩ := List.forall_mem_cons.1 hresume
    have hstep : begun? limits (history ++ [c]) = some begun := by
      rw [begun?_append_singleton, if_neg hc, h]
      rfl
    have hrest := ih hstep hmore
    rwa [List.append_assoc] at hrest

/-- The cooldown that a check has begun has an end. -/
theorem isSome_add?_of_begun? (h : begun? limits history = some begun) :
    (begun.time.add? limits.cooldown).isSome = true := by
  have hmeets := List.find?_some h
  simp only [Call.meetsCeiling, Bool.and_eq_true] at hmeets
  exact hmeets.2

/-! ## The phase that the calls call for -/

/-- The phase of a controller that has been asked in this way. -/
def phaseAfter (limits : Limits) (history : List Call) : Phase :=
  match (begun? limits history).bind fun c => c.time.add? limits.cooldown with
  | some ends => .coolingDown ends
  | none => .listening

/-- The gate listens as long as no cooldown was begun. -/
theorem phaseAfter_eq_listening_iff :
    phaseAfter limits history = .listening ↔ begun? limits history = none := by
  unfold phaseAfter
  cases h : begun? limits history with
  | none => simp
  | some begun =>
    obtain ⟨ends, hends⟩ := Option.isSome_iff_exists.1 (isSome_add?_of_begun? h)
    simp [hends]

/-- A cooldown ends when its length has passed since the call that began it. -/
theorem phaseAfter_eq_coolingDown_iff {ends : Instant} :
    phaseAfter limits history = .coolingDown ends ↔
      ∃ begun, begun? limits history = some begun ∧
        begun.time.add? limits.cooldown = some ends := by
  unfold phaseAfter
  cases h : begun? limits history with
  | none => simp
  | some begun =>
    obtain ⟨ends', hends⟩ := Option.isSome_iff_exists.1 (isSome_add?_of_begun? h)
    simp [hends]

/-- A call that neither resumes nor meets the ceiling first leaves the phase as it is. -/
theorem phaseAfter_append_of_idle (hresume : c.request ≠ .resume)
    (hidle : begun? limits history = none → c.meetsCeiling limits = false) :
    phaseAfter limits (history ++ [c]) = phaseAfter limits history := by
  have hsame : begun? limits (history ++ [c]) = begun? limits history := by
    rw [begun?_append_singleton, if_neg hresume]
    cases h : begun? limits history with
    | none => simp [hidle h]
    | some begun => rfl
  unfold phaseAfter
  rw [hsame]

/-- A call that is no check does not meet the ceiling. -/
private theorem meetsCeiling_of_ne (h : c.request ≠ .check) : c.meetsCeiling limits = false := by
  simp [Call.meetsCeiling, h]

/-- The phase depends on no calls but `check` and `resume`. -/
theorem phaseAfter_append_of_ne (hresume : c.request ≠ .resume) (hcheck : c.request ≠ .check) :
    phaseAfter limits (history ++ [c]) = phaseAfter limits history :=
  phaseAfter_append_of_idle hresume fun _ => meetsCeiling_of_ne hcheck

/-! ## Checks -/

section Checks

variable {ends : Instant}

/-- During a cooldown a check is answered with the rest of it. -/
theorem serve_check_of_coolingDown (hphase : g.controller.phase = .coolingDown ends) :
    g.serve .check = (.verdict (.coolDown (ends.since g.clock)), g) := by
  simp [serve, Controller.check, hphase]

/-- Below the ceiling a listening gate accepts. -/
theorem serve_check_of_lt (hphase : g.controller.phase = .listening)
    (hlive : g.counter.count < g.controller.limits.maxConnections) :
    g.serve .check = (.verdict .accept, g) := by
  simp [serve, Controller.check, hphase, hlive]

/-- A check that finds the ceiling reached begins a cooldown. -/
theorem serve_check_of_le (hphase : g.controller.phase = .listening)
    (hlive : g.controller.limits.maxConnections ≤ g.counter.count)
    (hends : g.clock.add? g.controller.limits.cooldown = some ends) :
    g.serve .check = (.verdict (.coolDown g.controller.limits.cooldown),
      { g with controller := { g.controller with phase := .coolingDown ends } }) := by
  simp [serve, Controller.check, hphase, Nat.not_lt_of_le hlive, hends]

/-- A check that would have to begin a cooldown without an end changes nothing. -/
theorem serve_check_of_add?_eq_none (hphase : g.controller.phase = .listening)
    (hlive : g.controller.limits.maxConnections ≤ g.counter.count)
    (hends : g.clock.add? g.controller.limits.cooldown = none) :
    g.serve .check = (.overflow {}, g) := by
  simp [serve, Controller.check, hphase, Nat.not_lt_of_le hlive, hends]

/-- What a check can find: a cooldown, room for another connection, or that the ceiling is reached,
    and then that the cooldown has an end or that it has none. -/
theorem serve_check_cases (g : Gate) :
    (∃ ends, g.controller.phase = .coolingDown ends ∧
      g.serve .check = (.verdict (.coolDown (ends.since g.clock)), g)) ∨
    (g.controller.phase = .listening ∧
      g.counter.count < g.controller.limits.maxConnections ∧
      g.serve .check = (.verdict .accept, g)) ∨
    (∃ ends, g.controller.phase = .listening ∧
      g.controller.limits.maxConnections ≤ g.counter.count ∧
      g.clock.add? g.controller.limits.cooldown = some ends ∧
      g.serve .check = (.verdict (.coolDown g.controller.limits.cooldown),
        { g with controller := { g.controller with phase := .coolingDown ends } })) ∨
    (g.controller.phase = .listening ∧
      g.clock.add? g.controller.limits.cooldown = none ∧ g.serve .check = (.overflow {}, g)) := by
  cases hphase : g.controller.phase with
  | coolingDown ends => exact .inl ⟨ends, rfl, serve_check_of_coolingDown hphase⟩
  | listening =>
    by_cases hlive : g.counter.count < g.controller.limits.maxConnections
    · exact .inr (.inl ⟨rfl, hlive, serve_check_of_lt hphase hlive⟩)
    · have hfull := Nat.le_of_not_lt hlive
      cases hends : g.clock.add? g.controller.limits.cooldown with
      | none =>
        exact .inr (.inr (.inr ⟨rfl, rfl, serve_check_of_add?_eq_none hphase hfull hends⟩))
      | some ends =>
        exact .inr (.inr (.inl ⟨ends, rfl, hfull, rfl, serve_check_of_le hphase hfull hends⟩))

/-- A check that fails changes nothing. -/
theorem serve_check_of_overflow {e : ClockOverflow}
    (hfails : (g.serve .check).1 = .overflow e) : (g.serve .check).2 = g := by
  obtain ⟨_, -, h⟩ | ⟨-, -, h⟩ | ⟨_, -, -, -, h⟩ | ⟨-, -, h⟩ := serve_check_cases g
  · rw [h]
  · rw [h]
  · rw [h] at hfails
    exact nomatch hfails
  · rw [h]

end Checks

/-! ## Gates and the calls so far -/

/-- A gate is as the calls so far say. -/
structure Tracked (limits : Limits) (history : List Call) (g : Gate) : Prop where
  limited : g.controller.limits = limits.validated
  live : g.counter.count = g.held
  balanced : g.held + history.countP Call.givesBack = taken history
  phase : g.controller.phase = phaseAfter limits history

/-- At the beginning there is nothing to track. -/
theorem tracked_ofLimits (limits : Limits) : Tracked limits [] (ofLimits limits) := by
  constructor <;> rfl

/-- A call that leaves the slots alone keeps the gate as the calls say, if the phase is. -/
private theorem Tracked.of_slots_eq (h : Tracked limits history g)
    (hlimits : g'.controller.limits = g.controller.limits) (hcounter : g'.counter = g.counter)
    (hslots : g'.slots = g.slots) (hacquire : c.request ≠ .acquire) (hdrop : c.givesBack = false)
    (hphase : g'.controller.phase = phaseAfter limits (history ++ [c])) :
    Tracked limits (history ++ [c]) g' := by
  have hheld : g'.held = g.held := by rw [Gate.held, Gate.held, hslots]
  constructor
  case limited => rw [hlimits, h.limited]
  case live => rw [hcounter, hheld, h.live]
  case balanced =>
    have hbalanced := h.balanced
    simpa [taken, hheld, hacquire, hdrop] using hbalanced
  case phase => exact hphase

/-- A call that leaves the controller alone, too, keeps it so if it need not begin a cooldown. -/
private theorem Tracked.of_controller_eq (h : Tracked limits history g)
    (hframe : g'.controller = g.controller ∧ g'.counter = g.counter ∧ g'.slots = g.slots)
    (hacquire : c.request ≠ .acquire) (hdrop : c.givesBack = false)
    (hresume : c.request ≠ .resume)
    (hidle : begun? limits history = none → c.meetsCeiling limits = false) :
    Tracked limits (history ++ [c]) g' := by
  obtain ⟨hcontroller, hcounter, hslots⟩ := hframe
  refine h.of_slots_eq (by rw [hcontroller]) hcounter hslots hacquire hdrop ?_
  rw [hcontroller, h.phase, phaseAfter_append_of_idle hresume hidle]

private theorem Tracked.check (h : Tracked limits history g) :
    Tracked limits (history ++ [g.call .check]) (g.serve .check).2 := by
  have hcooldown : g.controller.limits.cooldown = limits.cooldown := by rw [h.limited]; rfl
  obtain ⟨ends, hphase, hserve⟩ | ⟨hphase, hlive, hserve⟩ | ⟨ends, hphase, hfull, hends, hserve⟩ |
    ⟨hphase, hends, hserve⟩ := serve_check_cases g
  · -- the cooldown was begun by an earlier check
    obtain ⟨begun, hbegun, -⟩ := phaseAfter_eq_coolingDown_iff.1 (h.phase.symm.trans hphase)
    rw [hserve]
    exact h.of_controller_eq ⟨rfl, rfl, rfl⟩ nofun rfl nofun (by simp [hbegun])
  · have hmeets : (g.call .check).meetsCeiling limits = false := by
      rw [h.live, h.limited] at hlive
      simp [Call.meetsCeiling, call, Nat.not_le_of_lt hlive]
    rw [hserve]
    exact h.of_controller_eq ⟨rfl, rfl, rfl⟩ nofun rfl nofun fun _ => hmeets
  · -- this check is the first one to meet the ceiling
    have hnone := phaseAfter_eq_listening_iff.1 (h.phase.symm.trans hphase)
    rw [hcooldown] at hends
    have hheld : limits.validated.maxConnections ≤ g.held := by
      rwa [h.live, h.limited] at hfull
    have hmeets : (g.call .check).meetsCeiling limits = true := by
      simp [Call.meetsCeiling, call, hheld, hends]
    have hbegun : begun? limits (history ++ [g.call .check]) = some (g.call .check) := by
      rw [begun?_append_singleton, if_neg (by simp [call]), hnone, hmeets]
      rfl
    rw [hserve]
    exact h.of_slots_eq rfl rfl rfl nofun rfl
      (phaseAfter_eq_coolingDown_iff.2 ⟨_, hbegun, hends⟩).symm
  · have hmeets : (g.call .check).meetsCeiling limits = false := by
      rw [hcooldown] at hends
      simp [Call.meetsCeiling, call, hends]
    rw [hserve]
    exact h.of_controller_eq ⟨rfl, rfl, rfl⟩ nofun rfl nofun fun _ => hmeets

private theorem Tracked.acquire (h : Tracked limits history g) :
    Tracked limits (history ++ [g.call .acquire]) (g.serve .acquire).2 := by
  have hheld : (g.serve .acquire).2.held = g.held + 1 := by simp [Gate.serve, Gate.held]
  have hkeeps : (g.call .acquire).givesBack = false := rfl
  have htaken : taken (history ++ [g.call .acquire]) = taken history + 1 := by
    rw [taken, List.countP_append]
    rfl
  constructor
  case limited => exact h.limited
  case live =>
    rw [hheld, ← h.live]
    rfl
  case balanced =>
    have hbalanced := h.balanced
    rw [hheld, htaken, List.countP_append, List.countP_singleton, hkeeps]
    simp only [Bool.false_eq_true, if_false]
    omega
  case phase =>
    have hsame : phaseAfter limits (history ++ [g.call .acquire]) = phaseAfter limits history :=
      phaseAfter_append_of_ne nofun nofun
    rw [hsame]
    exact h.phase

/-- A slot that is held can be given back once. -/
private theorem Tracked.drop_held (h : Tracked limits history g) {slot : Nat}
    (hslot : g.slots[slot]? = some true) :
    Tracked limits (history ++ [g.call (.drop slot)]) (g.serve (.drop slot)).2 := by
  have hserve : g.serve (.drop slot) =
      (.flag true, { g with counter := g.counter.release, slots := g.slots.set slot false }) := by
    simp only [Gate.serve, hslot]
  obtain ⟨hlt, htrue⟩ := List.getElem?_eq_some_iff.1 hslot
  have hpos : 0 < g.held := List.count_pos_iff.2 (htrue ▸ List.getElem_mem hlt)
  have hheld : (g.serve (.drop slot)).2.held = g.held - 1 := by
    simp [hserve, Gate.held, List.count_set hlt, htrue]
  have hgives : (g.call (.drop slot)).givesBack = true := by
    simp only [call, hserve, Call.givesBack]
  have htaken : taken (history ++ [g.call (.drop slot)]) = taken history := by
    rw [taken, List.countP_append]
    rfl
  constructor
  case limited =>
    rw [hserve]
    exact h.limited
  case live =>
    rw [hheld, ← h.live, hserve]
    rfl
  case balanced =>
    have hbalanced := h.balanced
    rw [hheld, htaken, List.countP_append, List.countP_singleton, hgives, if_pos rfl]
    omega
  case phase =>
    have hsame : phaseAfter limits (history ++ [g.call (.drop slot)]) =
        phaseAfter limits history := phaseAfter_append_of_ne nofun nofun
    rw [hsame, hserve]
    exact h.phase

private theorem Tracked.drop (h : Tracked limits history g) (slot : Nat) :
    Tracked limits (history ++ [g.call (.drop slot)]) (g.serve (.drop slot)).2 := by
  by_cases hslot : g.slots[slot]? = some true
  · exact h.drop_held hslot
  · -- to give back what is not held changes nothing
    have hidle : (g.serve (.drop slot)).2 = g ∧ (g.serve (.drop slot)).1 ≠ .flag true := by
      simp only [Gate.serve]
      split
      · contradiction
      · exact ⟨rfl, nofun⟩
      · exact ⟨rfl, nofun⟩
    have hkeeps : (g.call (.drop slot)).givesBack = false := by
      simp only [call, Call.givesBack]
      split
      · exact absurd ‹_› hidle.2
      · rfl
    rw [hidle.1]
    exact h.of_controller_eq ⟨rfl, rfl, rfl⟩ nofun hkeeps nofun fun _ => meetsCeiling_of_ne nofun

private theorem Tracked.resume (h : Tracked limits history g) :
    Tracked limits (history ++ [g.call .resume]) (g.serve .resume).2 := by
  have hnone : begun? limits (history ++ [g.call .resume]) = none :=
    begun?_append_singleton.trans (if_pos rfl)
  exact h.of_slots_eq rfl rfl rfl nofun rfl (phaseAfter_eq_listening_iff.2 hnone).symm

/-- Every call keeps the gate as the calls say. -/
theorem Tracked.serve (h : Tracked limits history g) (q : Request) :
    Tracked limits (history ++ [g.call q]) (g.serve q).2 := by
  cases q with
  | check => exact h.check
  | resume => exact h.resume
  | acquire => exact h.acquire
  | drop slot => exact h.drop slot
  | phase | subscribe | limits =>
    exact h.of_controller_eq ⟨rfl, rfl, rfl⟩ nofun rfl nofun fun _ => meetsCeiling_of_ne nofun
  | advance | hasChanged | markSeen =>
    -- these may be refused, and then they change nothing at all
    refine h.of_controller_eq ?_ nofun rfl nofun fun _ => meetsCeiling_of_ne nofun
    simp only [Gate.serve]
    split <;> exact ⟨rfl, rfl, rfl⟩

/-- A gate stays as the calls say, whatever the calls are. -/
theorem Tracked.after (h : Tracked limits history g) (requests : List Request) :
    Tracked limits (history ++ g.calls requests) (g.after requests) := by
  induction requests generalizing g history with
  | nil => simpa [calls, Gate.after] using h
  | cons q rest ih =>
    have hrest := ih (h.serve q)
    rwa [List.append_assoc] at hrest

/-! ## What is answered -/

/-- A gate answers as the calls so far say. -/
structure Served (limits : Limits) (history : List Call) (g : Gate) : Prop where
  /-- The live connections are the slots that are held. -/
  live : g.counter.count = g.held
  /-- The slots that are held are those that have been taken and not given back. -/
  balanced : g.held + history.countP Call.givesBack = taken history
  /-- From the check on that has begun a cooldown, whatever calls come later and until they resume,
      a check answers the time that is left. -/
  cooling (begun : Call) (later : List Request) (hbegun : begun? limits history = some begun)
    (hlater : .resume ∉ later) :
    ∃ wait, (g.after later).serve .check = (.verdict (.coolDown wait), g.after later) ∧
      wait.nanos = begun.time.nanos + limits.cooldown.nanos - (g.after later).clock.nanos
  /-- The check that begins one answers its whole length. -/
  entering (hbegun : begun? limits history = none)
    (hfull : limits.validated.maxConnections ≤ g.held)
    (hends : (g.clock.add? limits.cooldown).isSome) :
    (g.serve .check).1 = .verdict (.coolDown limits.cooldown)
  accepting (hbegun : begun? limits history = none)
    (hroom : g.held < limits.validated.maxConnections) :
    g.serve .check = (.verdict .accept, g)
  /-- A check that would have to begin a cooldown without an end fails. -/
  overflowing (hbegun : begun? limits history = none)
    (hfull : limits.validated.maxConnections ≤ g.held)
    (hends : g.clock.add? limits.cooldown = none) :
    (g.serve .check).1 = .overflow {}
  /-- What comes after a check that failed is as if the check had not been made. -/
  skipped (e : ClockOverflow) (hfails : (g.serve .check).1 = .overflow e) (later : List Request) :
    g.after (.check :: later) = g.after later ∧
      g.calls (.check :: later) = g.call .check :: g.calls later
  /-- To resume when there is no cooldown changes nothing. -/
  resuming (hbegun : begun? limits history = none) : g.serve .resume = (.done, g)

/-- A gate that is as the calls say answers as they say. -/
private theorem Tracked.served (h : Tracked limits history g) : Served limits history g := by
  have hcooldown : g.controller.limits.cooldown = limits.cooldown := by rw [h.limited]; rfl
  have hlistening (hbegun : begun? limits history = none) : g.controller.phase = .listening :=
    h.phase.trans (phaseAfter_eq_listening_iff.2 hbegun)
  constructor
  case live => exact h.live
  case balanced => exact h.balanced
  case cooling =>
    intro begun later hbegun hlater
    have hthen := h.after later
    have hidle : ∀ c ∈ g.calls later, c.request ≠ .resume := by
      intro c hc heq
      have hmem : c.request ∈ (g.calls later).map Call.request := List.mem_map_of_mem hc
      rw [map_request_calls, heq] at hmem
      exact hlater hmem
    -- the later calls leave the cooldown with its end
    obtain ⟨ends, hends⟩ := Option.isSome_iff_exists.1 (isSome_add?_of_begun? hbegun)
    have hphase : (g.after later).controller.phase = .coolingDown ends :=
      hthen.phase.trans (phaseAfter_eq_coolingDown_iff.2 ⟨begun, begun?_append hbegun hidle, hends⟩)
    refine ⟨_, serve_check_of_coolingDown hphase, ?_⟩
    rw [← Instant.nanos_of_add? hends]
    rfl
  case entering =>
    intro hbegun hfull hends
    obtain ⟨ends, hends⟩ := Option.isSome_iff_exists.1 hends
    rw [serve_check_of_le (hlistening hbegun) (by rwa [h.limited, h.live]) (hcooldown ▸ hends),
      hcooldown]
  case accepting =>
    intro hbegun hroom
    exact serve_check_of_lt (hlistening hbegun) (by rwa [h.limited, h.live])
  case overflowing =>
    intro hbegun hfull hends
    rw [serve_check_of_add?_eq_none (hlistening hbegun) (by rwa [h.limited, h.live])
      (hcooldown ▸ hends)]
  case skipped =>
    intro e hfails later
    have hsame := serve_check_of_overflow hfails
    constructor
    · rw [after_cons, hsame]
    · rw [calls, hsame]
  case resuming =>
    intro hbegun
    have hcontroller : g.controller.resume = g.controller := by
      rw [Controller.resume, ← hlistening hbegun]
    rw [Gate.serve, hcontroller]

/-- A new gate answers every call as the calls before it say, whatever the limits and the calls
    are. -/
theorem served_ofLimits_after (limits : Limits) (requests : List Request) :
    Served limits ((ofLimits limits).calls requests) ((ofLimits limits).after requests) := by
  have h := (tracked_ofLimits limits).after requests
  rw [List.nil_append] at h
  exact h.served

/-- A ceiling of zero counts as one.  The connection that reached it has closed, and two of the five
    seconds are over. -/
theorem served_ofLimits_after_zeroCeiling :
    let g := (ofLimits ⟨0, .ofSeconds 5⟩).after [.acquire, .check]
    let later := [.drop 0, .advance (.ofSeconds 2)]
    ∃ wait, (g.after later).serve .check = (.verdict (.coolDown wait), g.after later) ∧
      wait.nanos = 3 * nanosPerSecond := by
  intro g later
  have hbegun : begun? ⟨0, .ofSeconds 5⟩ ((ofLimits ⟨0, .ofSeconds 5⟩).calls [.acquire, .check]) =
      some ⟨.check, 1, .start, .verdict (.coolDown (.ofSeconds 5))⟩ := by decide
  obtain ⟨wait, hcheck, hwait⟩ :=
    (served_ofLimits_after ⟨0, .ofSeconds 5⟩ [.acquire, .check]).cooling _ later hbegun (by decide)
  refine ⟨wait, hcheck, hwait.trans ?_⟩
  decide

end TlsEcho.Admission.Gate

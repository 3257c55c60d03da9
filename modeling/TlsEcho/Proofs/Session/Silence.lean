import TlsEcho.Proofs.Session.Closing
import TlsEcho.Session.Script

/-!
# Silent peers

A `Vigil` follows a session on a clock and notes when the peer was last heard: when the session
began, when the handshake was done, or when a read returned bytes.  It also notes for how long the
session has waited since then for the stream to take a reply.

The idle timeout limits the handshake and every read.  It limits neither a write nor a flush, so
that a peer may stay silent for the timeout and what is spent on replies (`Vigil.Watched`), and a
peer that takes no reply is never dropped.
-/

namespace TlsEcho.Session

variable {ctx : Context} {s s' : Session} {signal : Signal} {effects : List Effect}

/-! ## When a session takes its next step -/

namespace Player

variable {p : Player} {since time : Nat} {limit after : Option Nat} {result : Signal}
  {script : Script}

/-- A wait ends after it began, and within its limit. -/
theorem resolve_bounds (h : resolve since limit after signal = some (time, result)) :
    since ≤ time ∧ ∀ l, limit = some l → time ≤ since + l := by
  unfold resolve at h
  split at h
  · rename_i a l
    split at h <;> obtain ⟨rfl, -⟩ := h
    · exact ⟨by omega, fun _ hl => by cases hl; omega⟩
    · exact ⟨by omega, fun _ hl => by cases hl; omega⟩
  · obtain ⟨rfl, -⟩ := h
    exact ⟨by omega, nofun⟩
  · obtain ⟨rfl, -⟩ := h
    exact ⟨by omega, fun _ hl => by cases hl; omega⟩
  · exact nomatch h

/-- A limited wait comes to an end. -/
theorem isSome_resolve {l : Nat} : (resolve since (some l) after signal).isSome = true := by
  cases after with
  | none => rfl
  | some a =>
    simp only [resolve]
    split <;> rfl

/-- A step is not taken before its stage was entered, at once if the stage waits for nothing, and
    within the limit of the wait. -/
theorem upcoming_bounds (h : p.upcoming ctx = some (time, signal, script)) :
    p.since ≤ time ∧ (p.session.isWaiting = false → time = p.since) ∧
      ∀ l, p.session.waitLimit? ctx = some l → time ≤ p.since + l := by
  -- whatever becomes of the script, the time is that of the wait
  have hwait : ∀ {after : Option Nat} {result : Signal} (f : Nat × Signal → Nat × Signal × Script),
      (∀ t r, (f (t, r)).1 = t) →
      (resolve p.since (p.session.waitLimit? ctx) after result).map f =
        some (time, signal, script) →
      p.since ≤ time ∧ ∀ l, p.session.waitLimit? ctx = some l → time ≤ p.since + l := by
    intro after result f hf hmap
    obtain ⟨⟨t, r⟩, hr, heq⟩ := Option.map_eq_some_iff.1 hmap
    have ht : t = time := by
      rw [← hf t r, heq]
    subst ht
    exact resolve_bounds hr
  unfold upcoming at h
  cases hst : p.session.stage with
  | awaitingHandshake | awaitingRead | awaitingWrite | awaitingFlush | awaitingShutdown =>
    simp only [hst] at h
    obtain ⟨hle, hlimit⟩ := hwait _ (fun t r => by cases r <;> rfl) h
    exact ⟨hle, by simp [isWaiting, hst], hlimit⟩
  | ended => simp [hst] at h
  | _ =>
    simp only [hst, Option.some.injEq, Prod.mk.injEq] at h
    obtain ⟨rfl, -, -⟩ := h
    simp [waitLimit?, hst]

/-- A session always takes a next step while its wait is limited. -/
theorem isSome_upcoming {l : Nat} (h : p.session.waitLimit? ctx = some l) :
    (p.upcoming ctx).isSome = true := by
  unfold upcoming
  cases hst : p.session.stage with
  | awaitingHandshake | awaitingRead | awaitingShutdown => simp [h, isSome_resolve]
  | _ => simp [waitLimit?, hst] at h

/-- A step of a player is a transition of its session, at a time within the bounds. -/
theorem advance_eq_some {p : Player} {move : Move} (h : p.advance ctx = some move) :
    Transition ctx p.session move.signal move.after.session move.effects ∧
      move.after.since = move.time ∧ p.since ≤ move.time ∧
      (p.session.isWaiting = false → move.time = p.since) ∧
      ∀ l, p.session.waitLimit? ctx = some l → move.time ≤ p.since + l := by
  unfold advance at h
  split at h
  · exact nomatch h
  · rename_i time signal script hnext
    obtain ⟨⟨session, effects⟩, hstep, rfl⟩ := Option.map_eq_some_iff.1 h
    exact ⟨step_transition hstep, rfl, upcoming_bounds hnext⟩

end Player

/-! ## When the peer was last heard -/

/-- Whether the peer is heard: its handshake is done, or it has sent bytes. -/
def Signal.isHeard : Signal → Bool
  | .handshake (.ok ()) => true
  | .read (.ok data) => !data.isEmpty
  | _ => false

/-- A session on a clock, with what is known about the silence of its peer. -/
structure Vigil where
  player : Player
  /-- When the session began or the peer was last heard. -/
  heard : Nat
  /-- How long the session has waited since then for the stream to take a reply. -/
  stalled : Nat := 0

namespace Vigil

/-- A vigil over a session that begins now. -/
def start (ctx : Context) (id : ConnectionId) (peer : Option Address) (script : Script)
    (now : Nat) : Vigil :=
  { player := { session := Session.start ctx id peer, script, since := now }, heard := now }

/-- How long the session has waited by a time `t` for the stream to take a reply, since the peer was
    last heard. -/
def stalledBy (v : Vigil) (t : Nat) : Nat :=
  v.stalled + if v.player.session.stage.replying?.isSome then t - v.player.since else 0

/-- The vigil after a step of the session. -/
def note (v : Vigil) (move : Player.Move) : Vigil :=
  if move.signal.isHeard then { player := move.after, heard := move.time }
  else { v with player := move.after, stalled := v.stalledBy move.time }

/-- The vigil after `n` steps of the session, if it takes as many. -/
def after (ctx : Context) (v : Vigil) : Nat → Option Vigil
  | 0 => some v
  | n + 1 => (v.player.advance ctx).bind fun move => (v.note move).after ctx n

/-- Whether the session is in its present stage at a time `t`. -/
def IsAt (ctx : Context) (v : Vigil) (t : Nat) : Prop :=
  v.player.since ≤ t ∧ ∀ next ∈ v.player.upcoming ctx, t ≤ next.1

/-- An open session has entered its present stage without losing time since the peer was last heard,
    except on replies, and at most the timeout on the read that found the end of the stream. -/
def Watched (limit : Nat) (v : Vigil) : Prop :=
  v.player.session.isLeaving = false →
    v.player.since ≤ v.heard + v.stalled + if v.player.session.isDraining then limit else 0

end Vigil

/-- A session that goes on although the peer was not heard has waited for nothing, or for the stream
    to take a reply, or for a read that found the end of the stream. -/
theorem unheard_step (h : Transition ctx s signal s' effects) (hs' : s'.isLeaving = false)
    (hheard : signal.isHeard = false) :
    s.isWaiting = false ∨ s.stage.replying?.isSome ∨
      (s.stage = .awaitingRead ∧ s'.isDraining = true) := by
  cases h <;> simp_all [isWaiting, isLeaving, isDraining, Stage.replying?, Signal.isHeard]

namespace Vigil

variable {v v' : Vigil} {limit : Duration} {t : Nat}

/-- Every step that leaves the session open is taken in time. -/
theorem Watched.note (hv : v.Watched limit.ceilMillis) (hlimit : ctx.idleTimeout = some limit)
    {move : Player.Move} (h : v.player.advance ctx = some move) :
    (v.note move).Watched limit.ceilMillis := by
  obtain ⟨ht, hsince, -, hgo, hbound⟩ := Player.advance_eq_some h
  cases hheard : move.signal.isHeard with
  | true =>
    intro _
    simp only [Vigil.note, hheard, if_true]
    omega
  | false =>
    simp only [Watched, Vigil.note, hheard, Bool.false_eq_true, if_false, hsince]
    intro hs'
    have hv := hv (isLeaving_of_transition ht hs')
    have hdraining : v.player.session.isDraining = true →
        move.after.session.isDraining = true := fun hd => isDraining_step ht (.inl hd)
    have hstalled : v.stalled ≤ v.stalledBy move.time := Nat.le_add_right ..
    have hslack : (if v.player.session.isDraining = true then limit.ceilMillis else 0) ≤
        if move.after.session.isDraining = true then limit.ceilMillis else 0 := by
      split <;> simp_all
    obtain hwaits | hreplying | ⟨hst, hend⟩ := unheard_step ht hs' hheard
    · have := hgo hwaits
      omega
    · simp only [stalledBy, hreplying, if_true]
      omega
    · -- the read may have taken as long as the timeout allows, and was the last one
      have := hbound limit.ceilMillis (by simp [waitLimit?, hst, hlimit])
      have hd : v.player.session.isDraining = false := by simp [isDraining, hst]
      simp only [hd, Bool.false_eq_true, if_false] at hv
      simp only [hend, if_true]
      omega

/-- A session that begins watched stays so. -/
theorem Watched.after (hv : v.Watched limit.ceilMillis) (hlimit : ctx.idleTimeout = some limit)
    {n : Nat} (h : v.after ctx n = some v') : v'.Watched limit.ceilMillis := by
  induction n generalizing v with
  | zero =>
    cases h
    exact hv
  | succ n ih =>
    obtain ⟨move, hmove, hafter⟩ := Option.bind_eq_some_iff.1 h
    exact ih (hv.note hlimit hmove) hafter

/-- A session that is not on its way out leaves its present stage at once or within the timeout,
    unless it waits for the stream to take a reply. -/
theorem IsAt.le (hat : v.IsAt ctx t) (hlimit : ctx.idleTimeout = some limit)
    (hs : v.player.session.isLeaving = false) :
    v.player.session.stage.replying?.isSome = true ∨ t ≤ v.player.since ∨
      (v.player.session.isDraining = false ∧ t ≤ v.player.since + limit.ceilMillis) := by
  obtain ⟨-, hnext⟩ := hat
  have hlimited : v.player.session.waitLimit? ctx = some limit.ceilMillis →
      t ≤ v.player.since + limit.ceilMillis := by
    intro hl
    obtain ⟨⟨time, signal, script⟩, hup⟩ := Option.isSome_iff_exists.1 (Player.isSome_upcoming hl)
    exact Nat.le_trans (hnext _ hup) ((Player.upcoming_bounds hup).2.2 _ hl)
  cases hst : v.player.session.stage with
  | awaitingHandshake | awaitingRead =>
    exact .inr (.inr ⟨by simp [isDraining, hst], hlimited (by simp [waitLimit?, hst, hlimit])⟩)
  | writing | awaitingWrite | awaitingFlush => exact .inl rfl
  | closing | awaitingShutdown | ended => simp [isLeaving, hst] at hs
  | accepted | handshaking | reading | processing =>
    exact .inr (.inl (by simpa [Player.upcoming, hst] using hnext))

end Vigil

/-- A session with an idle timeout that has not gone to close has not been silent for longer than
    the timeout and the time that it has waited for the stream to take its replies. -/
theorem time_le_of_after (ctx : Context) (limit : Duration) (hlimit : ctx.idleTimeout = some limit)
    (id : ConnectionId) (peer : Option Address) (script : Script) (now n : Nat) (v : Vigil)
    (h : (Vigil.start ctx id peer script now).after ctx n = some v)
    (hs : v.player.session.isLeaving = false) (t : Nat) (hat : v.IsAt ctx t) :
    t ≤ v.heard + limit.ceilMillis + v.stalledBy t := by
  have hstart : (Vigil.start ctx id peer script now).Watched limit.ceilMillis := by
    simp [Vigil.Watched, Vigil.start]
  have hwatched := hstart.after hlimit h hs
  obtain hreplying | hle | ⟨hd, hle⟩ := hat.le hlimit hs
  · -- the time in the present stage is part of what the session has waited for the stream
    simp only [Vigil.stalledBy, hreplying, if_true]
    split at hwatched <;> omega
  · have : v.stalled ≤ v.stalledBy t := Nat.le_add_right ..
    split at hwatched <;> omega
  · have : v.stalled ≤ v.stalledBy t := Nat.le_add_right ..
    simp only [hd, Bool.false_eq_true, if_false] at hwatched
    omega

theorem tenthOfSecond_lt : 100 * nanosPerMilli < UInt64.size * nanosPerSecond := by
  decide

/-- A tenth of a second. -/
def tenthOfSecond : Duration := ⟨100 * nanosPerMilli, tenthOfSecond_lt⟩

/-- Settings with a short timeout. -/
def impatient : Context := { idleTimeout := some tenthOfSecond }

/-- A peer that sends a byte, takes the reply after 50 ms, and then sends nothing. -/
def slowPeer : Script :=
  { reads := [⟨some 0, .ok [97]⟩, ⟨none, .ok []⟩], writes := [⟨some 50, .ok none⟩] }

/-- The bound is reached. -/
theorem time_le_of_after_slowPeer :
    ∃ v, (Vigil.start impatient ⟨7⟩ none slowPeer 0).after impatient 10 = some v ∧
      v.player.session.stage = .awaitingRead ∧ v.IsAt impatient 150 ∧
      150 ≤ v.heard + tenthOfSecond.ceilMillis + v.stalledBy 150 ∧
      v.heard + tenthOfSecond.ceilMillis + v.stalledBy 150 = 150 := by
  refine ⟨_, rfl, rfl, ?_, ?_, rfl⟩
  · exact ⟨by decide, by decide⟩
  · exact time_le_of_after impatient tenthOfSecond rfl ⟨7⟩ none slowPeer 0 10 _ rfl rfl 150
      ⟨by decide, by decide⟩

/-- A peer that sends a byte and takes no reply. -/
def deafPeer : Script :=
  { reads := [⟨some 0, .ok [97]⟩], writes := [⟨none, .ok none⟩] }

/-- The timeout by itself does not bound the silence: a peer that takes no reply is never
    dropped. -/
theorem never_dropped_deafPeer :
    ∃ v, (Vigil.start impatient ⟨7⟩ none deafPeer 0).after impatient 7 = some v ∧
      v.player.session.isLeaving = false ∧ v.heard + tenthOfSecond.ceilMillis = 100 ∧
      ∀ t, v.IsAt impatient t :=
  ⟨_, rfl, rfl, rfl, fun t => ⟨Nat.zero_le t, nofun⟩⟩

end TlsEcho.Session

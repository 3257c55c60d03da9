import Mathlib.Logic.Function.Basic
import TlsEcho.Config.Decode

/-!
# Configurations by field

A configuration is what it has in its fields (`Config.get_injective`), and a setting changes the
field that it is one of and no other (`Config.get_set`).  What a sequence of steps leaves in a field
is therefore what the last step put there that touched the field.
-/

namespace TlsEcho

/-- What a field holds. -/
def ConfigField.Value : ConfigField → Type
  | .workerThreads => Nat
  | .port => UInt16
  | .maxConnections => Nat
  | .cooldown => Duration
  | .credentialsDir => String
  | .peerVerification => PeerVerification
  | .echoPolicy => Echo.PolicyKind
  | .accumulateLimit => Option Nat
  | .idleTimeout => Option Duration
  | .backlog => UInt32

namespace Setting

/-- The field that a setting is one of. -/
def field : Setting → ConfigField
  | .workerThreads _ => .workerThreads
  | .port _ => .port
  | .maxConnections _ => .maxConnections
  | .cooldown _ => .cooldown
  | .credentialsDir _ => .credentialsDir
  | .peerVerification _ => .peerVerification
  | .echoPolicy _ => .echoPolicy
  | .accumulateLimit _ => .accumulateLimit
  | .idleTimeout _ => .idleTimeout
  | .backlog _ => .backlog

/-- What a setting puts into its field. -/
def value : (s : Setting) → s.field.Value
  | .workerThreads n => n
  | .port p => p
  | .maxConnections n => n
  | .cooldown d => d
  | .credentialsDir path => path
  | .peerVerification v => v
  | .echoPolicy k => k
  | .accumulateLimit n => some n
  | .idleTimeout d => some d
  | .backlog n => n

end Setting

namespace Config

/-- What a configuration has in a field. -/
def get (c : Config) : (f : ConfigField) → f.Value
  | .workerThreads => c.workerThreads
  | .port => c.port
  | .maxConnections => c.maxConnections
  | .cooldown => c.cooldown
  | .credentialsDir => c.credentialsDir
  | .peerVerification => c.peerVerification
  | .echoPolicy => c.echoPolicy
  | .accumulateLimit => c.accumulateLimit
  | .idleTimeout => c.idleTimeout
  | .backlog => c.backlog

variable {c : Config} {s t : Setting} {f : ConfigField}

/-! ## Single settings -/

/-- A configuration is told by its fields. -/
theorem get_injective : Function.Injective get := by
  rintro ⟨_, _, _, _, _, _, _, _, _, _⟩ ⟨_, _, _, _, _, _, _, _, _, _⟩ heq
  have h := fun f => congrFun heq f
  obtain rfl := h .workerThreads
  obtain rfl := h .port
  obtain rfl := h .maxConnections
  obtain rfl := h .cooldown
  obtain rfl := h .credentialsDir
  obtain rfl := h .peerVerification
  obtain rfl := h .echoPolicy
  obtain rfl := h .accumulateLimit
  obtain rfl := h .idleTimeout
  obtain rfl := h .backlog
  rfl

/-- A setting changes the field that it is of, and no other. -/
theorem get_set (c : Config) (s : Setting) :
    (c.set s).get = Function.update c.get s.field s.value := by
  funext f
  cases s <;> cases f <;> rfl

theorem get_set_self (c : Config) (s : Setting) : (c.set s).get s.field = s.value := by
  rw [get_set, Function.update_self]

theorem get_set_of_ne (h : f ≠ s.field) : (c.set s).get f = c.get f := by
  rw [get_set, Function.update_of_ne h]

/-- Settings of different fields may be made in either order. -/
theorem set_comm (h : s.field ≠ t.field) : (c.set s).set t = (c.set t).set s := by
  apply get_injective
  simp only [get_set, Function.update_comm h]

/-! ## Sequences of steps -/

/-- Calls on a builder take effect one after the other. -/
theorem build_append (c : Config) (before after : List BuilderCall) :
    c.build (before ++ after) = (c.build before).build after :=
  List.foldl_append

/-- Settings are steps of building. -/
theorem setAll_eq_build (c : Config) (settings : List Setting) :
    c.setAll settings = c.build (settings.map .set) := by
  simp only [setAll, build, List.foldl_map]
  rfl

end Config

/-- Whether a step decides what a field holds. -/
def BuilderCall.Touches (f : ConfigField) : BuilderCall → Prop
  | .set s => s.field = f
  | .config _ => True

namespace Config

variable {c : Config} {f : ConfigField} {before after calls : List BuilderCall}

/-- Steps that do not touch a field leave it as it is. -/
theorem get_build_of_untouched (h : ∀ call ∈ calls, ¬ call.Touches f) :
    (c.build calls).get f = c.get f := by
  -- the steps are taken from the left, so that the configuration changes along the way
  induction calls generalizing c with
  | nil => rfl
  | cons call rest ih =>
    have hrest : (c.build (call :: rest)).get f = (call.apply c).get f :=
      ih fun later hlater => h later (List.mem_cons_of_mem _ hlater)
    have hcall := h call List.mem_cons_self
    rw [hrest]
    cases call with
    | set s => exact get_set_of_ne (Ne.symm hcall)
    | config whole => exact absurd trivial hcall

/-- The last step that touches a field decides what is left in it. -/
theorem get_build_of_last (c : Config) (before : List BuilderCall) (call : BuilderCall)
    (h : ∀ later ∈ after, ¬ later.Touches f) :
    (c.build (before ++ call :: after)).get f = (call.apply (c.build before)).get f := by
  rw [build_append]
  exact get_build_of_untouched h

/-- Of settings of different fields each one is kept. -/
theorem get_setAll_of_mem {settings : List Setting} {s : Setting}
    (hnodup : (settings.map Setting.field).Nodup) (hs : s ∈ settings) :
    (c.setAll settings).get s.field = s.value := by
  obtain ⟨before, after, rfl⟩ := List.append_of_mem hs
  have hlater : ∀ t ∈ after, t.field ≠ s.field := by
    simp only [List.map_append, List.map_cons, List.nodup_append, List.nodup_cons,
      List.mem_map, not_exists, not_and] at hnodup
    exact hnodup.2.1.1
  rw [setAll_eq_build, List.map_append, List.map_cons, get_build_of_last]
  · exact get_set_self _ s
  · simpa [BuilderCall.Touches] using hlater

/-- A field of no setting keeps its value. -/
theorem get_setAll_of_not_mem {settings : List Setting} (h : ∀ s ∈ settings, s.field ≠ f) :
    (c.setAll settings).get f = c.get f := by
  rw [setAll_eq_build, get_build_of_untouched]
  simpa [BuilderCall.Touches] using h

end Config

end TlsEcho

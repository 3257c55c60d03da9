import TlsEcho.Echo.Policy

/-!
# What an accumulator conserves

An accumulator may be called any number of times, also after it has refused a chunk and after it
has replied at the end of a message.  `Ledger` keeps the calls with their answers.  Whatever the
calls are, the bytes of the replies and then the buffer are the chunks that were accepted, in their
order (`replied_append_buffer`), and no call takes the buffer past the limit.

A `Family` is an accumulator with its clones.  Each member changes by its own calls alone
(`serveAll_member`).
-/

namespace TlsEcho.Echo.Accumulator

/-- A call: a chunk, and whether the peer has ended its side. -/
structure Call where
  chunk : Bytes
  eof : Bool
  deriving DecidableEq, Repr

/-- What a call is answered. -/
abbrev Answer := Except PolicyError Reply

/-- Calls with their answers, the first one first. -/
abbrev Ledger := List (Call × Answer)

/-- Makes calls, one after the other. -/
def processAll (a : Accumulator) : List Call → Ledger × Accumulator
  | [] => ([], a)
  | call :: rest =>
    let (answer, a) := a.process call.chunk call.eof
    let (ledger, a) := a.processAll rest
    ((call, answer) :: ledger, a)

/-- The bytes of all replies. -/
def replied (ledger : Ledger) : Bytes :=
  ledger.flatMap fun
    | (_, .ok reply) => reply.bytes
    | (_, .error _) => []

/-- The chunks of the calls that succeeded. -/
def accepted (ledger : Ledger) : Bytes :=
  ledger.flatMap fun
    | (call, .ok _) => call.chunk
    | (_, .error _) => []

/-- Whether so many more bytes do not fit. -/
def Overfull (a : Accumulator) (extra : Nat) : Prop :=
  ∃ limit, a.limit = some limit ∧ limit < a.buffer.length + extra

variable {a a' : Accumulator} {chunk : Bytes} {eof : Bool} {answer : Answer} {ledger : Ledger}

/-! ## Single calls -/

theorem passedLimit?_eq_none {extra : Nat} : a.passedLimit? extra = none ↔ ¬ a.Overfull extra := by
  simp [passedLimit?, Overfull, Option.filter_eq_none_iff]

/-- What a call can come to. -/
theorem process_cases (a : Accumulator) (chunk : Bytes) (eof : Bool) :
    (∃ limit, a.limit = some limit ∧ a.Overfull chunk.length ∧
      a.process chunk eof = (.error (.bufferLimit limit), a)) ∨
    (¬ a.Overfull chunk.length ∧ eof = false ∧
      a.process chunk eof = (.ok .pending, { a with buffer := a.buffer ++ chunk })) ∨
    (¬ a.Overfull chunk.length ∧ eof = true ∧
      a.process chunk eof = (.ok ⟨a.buffer ++ chunk, true⟩, { a with buffer := [] })) := by
  cases hpassed : a.passedLimit? chunk.length with
  | some limit =>
    obtain ⟨hlimit, hlt⟩ := Option.filter_eq_some_iff.1 hpassed
    exact .inl ⟨limit, hlimit, ⟨limit, hlimit, of_decide_eq_true hlt⟩, by simp [process, hpassed]⟩
  | none =>
    have hfits := passedLimit?_eq_none.1 hpassed
    cases eof with
    | false => exact .inr (.inl ⟨hfits, rfl, by simp [process, hpassed]⟩)
    | true => exact .inr (.inr ⟨hfits, rfl, by simp [process, hpassed]⟩)

theorem exists_error_iff :
    (∃ e, (a.process chunk eof).1 = .error e) ↔ a.Overfull chunk.length := by
  obtain ⟨_, -, hfull, hcall⟩ | ⟨hfits, -, hcall⟩ | ⟨hfits, -, hcall⟩ :=
    process_cases a chunk eof <;> rw [hcall]
  · simp [hfull]
  · simp [hfits]
  · simp [hfits]

/-- A refusal names the limit and changes nothing. -/
theorem of_process_error {e : PolicyError} (h : a.process chunk eof = (.error e, a')) :
    a' = a ∧ ∃ limit, a.limit = some limit ∧ e = .bufferLimit limit := by
  obtain ⟨limit, hlimit, -, hcall⟩ | ⟨-, -, hcall⟩ | ⟨-, -, hcall⟩ := process_cases a chunk eof
  · obtain ⟨he, rfl⟩ := Prod.mk.inj (hcall.symm.trans h)
    exact ⟨rfl, limit, hlimit, (Except.error.inj he).symm⟩
  · exact nomatch hcall.symm.trans h
  · exact nomatch hcall.symm.trans h

theorem of_process_pending {reply : Reply} (h : a.process chunk false = (.ok reply, a')) :
    reply = .pending := by
  obtain ⟨_, -, -, hcall⟩ | ⟨-, -, hcall⟩ | ⟨-, heof, -⟩ := process_cases a chunk false
  · exact nomatch hcall.symm.trans h
  · exact (Except.ok.inj (Prod.mk.inj (hcall.symm.trans h)).1).symm
  · exact nomatch heof

/-- The reply to a whole message is the last one, and the accumulator is as new. -/
theorem of_process_finished {reply : Reply} (h : a.process chunk true = (.ok reply, a')) :
    reply.atEnd = true ∧ a' = { limit := a.limit } := by
  obtain ⟨_, -, -, hcall⟩ | ⟨-, heof, -⟩ | ⟨-, -, hcall⟩ := process_cases a chunk true
  · exact nomatch hcall.symm.trans h
  · exact nomatch heof
  · obtain ⟨hreply, rfl⟩ := Prod.mk.inj (hcall.symm.trans h)
    obtain rfl := Except.ok.inj hreply
    exact ⟨rfl, rfl⟩

/-- Whatever a call comes to, its reply and the buffer afterwards are the buffer from before and, if
    the call succeeded, its chunk. -/
theorem buffer_append_accepted (h : a.process chunk eof = (answer, a')) :
    a.buffer ++ accepted [(⟨chunk, eof⟩, answer)] =
      replied [(⟨chunk, eof⟩, answer)] ++ a'.buffer := by
  obtain ⟨_, -, -, hcall⟩ | ⟨-, -, hcall⟩ | ⟨-, -, hcall⟩ := process_cases a chunk eof <;>
    obtain ⟨rfl, rfl⟩ := Prod.mk.inj (hcall.symm.trans h) <;>
    simp [accepted, replied, Reply.pending]

/-- No call changes the limit, and none takes the buffer past it. -/
theorem limit_of_process (h : a.process chunk eof = (answer, a')) (hfits : ¬ a.Overfull 0) :
    a'.limit = a.limit ∧ ¬ a'.Overfull 0 := by
  obtain ⟨_, -, -, hcall⟩ | ⟨hroom, -, hcall⟩ | ⟨-, -, hcall⟩ := process_cases a chunk eof <;>
    obtain ⟨-, rfl⟩ := Prod.mk.inj (hcall.symm.trans h)
  · exact ⟨rfl, hfits⟩
  · exact ⟨rfl, by simpa [Overfull] using hroom⟩
  · exact ⟨rfl, by simp [Overfull]⟩

/-! ## Sequences of calls -/

theorem replied_cons (entry : Call × Answer) :
    replied (entry :: ledger) = replied [entry] ++ replied ledger := by
  simp [replied]

theorem accepted_cons (entry : Call × Answer) :
    accepted (entry :: ledger) = accepted [entry] ++ accepted ledger := by
  simp [accepted]

/-- Bytes are neither lost nor made up, whatever is refused in between. -/
theorem replied_append_buffer (a : Accumulator) (calls : List Call) :
    replied (a.processAll calls).1 ++ (a.processAll calls).2.buffer =
      a.buffer ++ accepted (a.processAll calls).1 := by
  induction calls generalizing a with
  | nil => simp [processAll, replied, accepted]
  | cons call rest ih =>
    cases hcall : a.process call.chunk call.eof with
    | mk answer a' =>
      have hone := buffer_append_accepted hcall
      simp only [processAll, hcall]
      rw [replied_cons, accepted_cons, List.append_assoc, ih a', ← List.append_assoc, ← hone,
        List.append_assoc]

/-- The buffer stays within the limit. -/
theorem limit_of_processAll (calls : List Call) (hfits : ¬ a.Overfull 0) :
    (a.processAll calls).2.limit = a.limit ∧ ¬ (a.processAll calls).2.Overfull 0 := by
  induction calls generalizing a with
  | nil => exact ⟨rfl, hfits⟩
  | cons call rest ih =>
    obtain ⟨hlimit, hroom⟩ := limit_of_process (Prod.eta (a.process call.chunk call.eof)).symm hfits
    obtain ⟨hkept, hwithin⟩ := ih hroom
    exact ⟨hkept.trans hlimit, hwithin⟩

/-! ## Clones -/

/-- An accumulator and its clones, in the order in which they were made. -/
abbrev Family := List Accumulator

/-- Something that is asked of a member of a family. -/
inductive Request
  | process (member : Nat) (call : Call)
  | clone (member : Nat)
  deriving DecidableEq

namespace Family

/-- Answers a request.  A clone joins the family at its end. -/
def serve (family : Family) : Request → Option Answer × Family
  | .process member call =>
    match family[member]? with
    | none => (none, family)
    | some a =>
      let (answer, a) := a.process call.chunk call.eof
      (some answer, family.set member a)
  | .clone member => (none, family ++ family[member]?.toList)

/-- Answers requests, one after the other. -/
def serveAll (family : Family) : List Request → List (Request × Option Answer) × Family
  | [] => ([], family)
  | request :: rest =>
    let (answer, family) := family.serve request
    let (log, family) := serveAll family rest
    ((request, answer) :: log, family)

/-- The calls on a member. -/
def callsOn (member : Nat) (requests : List Request) : List Call :=
  requests.filterMap fun
    | .process m call => if m = member then some call else none
    | .clone _ => none

/-- The calls on a member with their answers. -/
def ledgerOf (member : Nat) (log : List (Request × Option Answer)) : Ledger :=
  log.filterMap fun
    | (.process m call, some answer) => if m = member then some (call, answer) else none
    | _ => none

variable {family : Family} {member : Nat}

theorem ledgerOf_cons (entry : Request × Option Answer) (log : List (Request × Option Answer)) :
    ledgerOf member (entry :: log) = ledgerOf member [entry] ++ ledgerOf member log :=
  List.filterMap_append (l := [entry])

/-- A request that is no call on a member leaves it as it is. -/
theorem serve_other {request : Request} (h : family[member]? = some a)
    (hother : ¬ ∃ call, request = .process member call) :
    (family.serve request).2[member]? = some a ∧
      ledgerOf member [(request, (family.serve request).1)] = [] := by
  have hlt : member < family.length := (List.getElem?_eq_some_iff.1 h).1
  cases request with
  | clone m => exact ⟨by rw [serve, List.getElem?_append_left hlt, h], rfl⟩
  | process m call =>
    have hne : m ≠ member := fun hm => hother ⟨call, by rw [hm]⟩
    cases hm : family[m]? with
    | none => exact ⟨by simp [serve, hm, h], by simp [serve, hm, ledgerOf]⟩
    | some b =>
      exact ⟨by simp [serve, hm, List.getElem?_set_ne hne, h], by simp [ledgerOf, serve, hm, hne]⟩

/-- A member answers a call as it would alone. -/
theorem serve_own {call : Call} (h : family[member]? = some a) :
    family.serve (.process member call) =
      (some (a.process call.chunk call.eof).1,
        family.set member (a.process call.chunk call.eof).2) := by
  simp only [serve, h]

/-- Whatever is asked of the others, a member comes to what its own calls alone bring it to. -/
theorem serveAll_member (requests : List Request) (h : family[member]? = some a) :
    (family.serveAll requests).2[member]? = some (a.processAll (callsOn member requests)).2 ∧
      ledgerOf member (family.serveAll requests).1 =
        (a.processAll (callsOn member requests)).1 := by
  induction requests generalizing family a with
  | nil => exact ⟨h, rfl⟩
  | cons request rest ih =>
    by_cases hown : ∃ call, request = .process member call
    · obtain ⟨call, rfl⟩ := hown
      have hlt : member < family.length := (List.getElem?_eq_some_iff.1 h).1
      obtain ⟨hstate, hledger⟩ := ih (List.getElem?_set_self hlt)
      have hcalls : callsOn member (.process member call :: rest) =
          call :: callsOn member rest := by
        simp [callsOn]
      rw [hcalls]
      simp only [serveAll, serve_own h, processAll]
      exact ⟨hstate, by rw [← hledger]; simp [ledgerOf]⟩
    · obtain ⟨hkept, hsilent⟩ := serve_other h hown
      obtain ⟨hstate, hledger⟩ := ih hkept
      have hcalls : callsOn member (request :: rest) = callsOn member rest := by
        cases request with
        | clone => rfl
        | process m call =>
          have hne : m ≠ member := fun hm => hown ⟨call, by rw [hm]⟩
          simp [callsOn, hne]
      rw [hcalls]
      refine ⟨hstate, ?_⟩
      rw [← hledger]
      simp only [serveAll]
      rw [ledgerOf_cons, hsilent, List.nil_append]

end Family

/-- What holds of an accumulator with a limit that some calls have brought to a state. -/
structure Conserved (limit : Option Nat) (ledger : Ledger) (a : Accumulator) : Prop where
  balance : replied ledger ++ a.buffer = accepted ledger
  within : ∀ most, limit = some most → a.buffer.length ≤ most
  /-- The next call is refused exactly if its chunk does not fit, at the end of a message too. -/
  refused_iff : ∀ chunk eof, (∃ e, (a.process chunk eof).1 = .error e) ↔
    ∃ most, limit = some most ∧ most < a.buffer.length + chunk.length
  refused : ∀ chunk eof e a', a.process chunk eof = (.error e, a') →
    a' = a ∧ ∃ most, limit = some most ∧ e = .bufferLimit most
  pending : ∀ chunk reply a', a.process chunk false = (.ok reply, a') → reply = .pending
  /-- After a whole message the accumulator is as new. -/
  finished : ∀ chunk reply a', a.process chunk true = (.ok reply, a') →
    reply.atEnd = true ∧ a' = { limit }
  /-- From a clone on, the accumulator and the clone each change by their own calls alone. -/
  cloned : ∀ (family : Family) (member : Nat) (requests : List Request),
    family[member]? = some a → ∀ i ∈ [member, family.length],
      (Family.serveAll (family.serve (.clone member)).2 requests).2[i]? =
          some (a.processAll (Family.callsOn i requests)).2 ∧
        Family.ledgerOf i (Family.serveAll (family.serve (.clone member)).2 requests).1 =
          (a.processAll (Family.callsOn i requests)).1

/-- Whatever calls are made on a new accumulator, also after refusals and after whole messages, it
    loses no byte and stays within its limit, and its clones go their own ways. -/
theorem conserved_of_calls (limit : Option Nat) (calls : List Call) :
    Conserved limit (processAll { limit } calls).1 (processAll { limit } calls).2 := by
  have hbalance := replied_append_buffer { limit } calls
  have hempty : ¬ Overfull { limit } 0 := by simp [Overfull]
  obtain ⟨hlimit, hroom⟩ := limit_of_processAll calls hempty
  revert hbalance hlimit hroom
  generalize (processAll { limit } calls).2 = a
  rintro hbalance rfl hroom
  constructor
  case balance => simpa using hbalance
  case within =>
    intro most hmost
    exact Nat.le_of_not_lt fun hlt => hroom ⟨most, hmost, hlt⟩
  case refused_iff => exact fun chunk eof => exists_error_iff
  case refused => exact fun chunk eof e a' h => of_process_error h
  case pending => exact fun chunk reply a' h => of_process_pending h
  case finished => exact fun chunk reply a' h => of_process_finished h
  case cloned =>
    intro family member requests h i hi
    have hlt : member < family.length := (List.getElem?_eq_some_iff.1 h).1
    have hgrown : (family.serve (.clone member)).2 = family ++ [a] := by simp [Family.serve, h]
    -- right after the clone both are in the same state
    have hsame : (family ++ [a])[i]? = some a := by
      obtain rfl | rfl : i = member ∨ i = family.length := by simpa using hi
      · rw [List.getElem?_append_left hlt, h]
      · simp
    rw [hgrown]
    exact Family.serveAll_member requests hsame

/-- A chunk that does not fit is refused at the end of a message as well, one that fits exactly is
    not, and the next message begins with nothing. -/
example :
    processAll { limit := some 3 }
        [⟨[1, 2], false⟩, ⟨[3, 4], true⟩, ⟨[3], true⟩, ⟨[5], false⟩] =
      ([(⟨[1, 2], false⟩, .ok .pending), (⟨[3, 4], true⟩, .error (.bufferLimit 3)),
        (⟨[3], true⟩, .ok ⟨[1, 2, 3], true⟩), (⟨[5], false⟩, .ok .pending)],
        { limit := some 3, buffer := [5] }) := rfl

end TlsEcho.Echo.Accumulator

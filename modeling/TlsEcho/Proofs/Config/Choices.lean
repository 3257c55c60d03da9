import TlsEcho.Config.Encode
import TlsEcho.Proofs.Config.Reading

/-!
# Choices read back

An echo policy and what is asked of clients' certificates are read as the values that they were
written from.  The second is written as a table, and a table of a document is read as it exactly if
all entries that were written are in it (`ReadsTable`): neither their order nor other keys matter.
In a value on its own a date or time may stand in the place of a text that names a file.  In the
same way both of them may be put into the table of a configuration.
-/

namespace TlsEcho

open Toml (Value Entries)

/-- The entries that are written for what is asked of clients' certificates. -/
def PeerVerification.entries : PeerVerification → Entries
  | .none => [("mode", .string "none")]
  | .required caFile => [("mode", .string "required"), ("ca_file", .string caFile)]

/-- These entries are written as a table. -/
theorem PeerVerification.toValue_eq (v : PeerVerification) : v.toValue = .table v.entries := by
  cases v <;> rfl

namespace Decode

variable {source : Source} {entries : Entries} {value : Value} {v : PeerVerification}
  {text : String}

/-! ## Tables by their entries -/

/-- A mode is read from its name and from nothing else. -/
theorem mode_eq_ok_iff {m : Mode} : mode source value = .ok m ↔ value = .string m.name := by
  constructor
  · intro h
    cases value with
    | string name =>
      simp only [mode] at h
      split at h
      · rename_i hname
        rw [hname, ← Except.ok.inj h]
      · split at h
        · rename_i hname
          rw [hname, ← Except.ok.inj h]
        · exact nomatch h
    | _ => exact nomatch h
  · intro h
    rw [h]
    cases m <;> rfl

/-- Whether a value is given to who reads it as a text: a text is, and a date or time of a value on
    its own. -/
def IsText (source : Source) (value : Value) (text : String) : Prop :=
  value = .string text ∨ (source = .value ∧ value = .datetime text)

theorem isText_document : IsText .document value text ↔ value = .string text := by
  simp [IsText]

/-- A path is read from what is given as a text. -/
theorem path_eq_ok_iff : path source value = .ok text ↔ IsText source value text := by
  cases value with
  | datetime written => cases source <;> simp [path, IsText]
  | _ => simp [path, IsText]

/-- What is done after something else succeeds if both do. -/
private theorem bind_eq_ok_iff {α β ε : Type} {x : Except ε α} {f : α → Except ε β} {b : β} :
    (x >>= f) = .ok b ↔ ∃ a, x = .ok a ∧ f a = .ok b := by
  cases x with
  | error e => exact ⟨nofun, fun ⟨_, hx, _⟩ => nomatch hx⟩
  | ok a =>
    show f a = .ok b ↔ _
    simp

/-- The mode of a table decides.  With the one that asks for nothing the other entries are not
    looked at, and with the one that requires certificates the file of the authorities is read as
    well. -/
theorem verificationTable_eq_ok_iff : verificationTable source entries = .ok v ↔
    (entries.get? modeKey = some (.string Mode.none.name) ∧ v = .none) ∨
    (entries.get? modeKey = some (.string Mode.required.name) ∧
      ∃ caFile file, entries.get? caFileKey = some file ∧ IsText source file caFile ∧
        v = .required caFile) := by
  unfold verificationTable
  cases entries.get? modeKey with
  | none => simp
  | some tag =>
    simp only [bind_eq_ok_iff, mode_eq_ok_iff]
    constructor
    · rintro ⟨m, rfl, hread⟩
      cases m with
      | none => exact .inl ⟨rfl, (Except.ok.inj hread).symm⟩
      | required =>
        cases hfile : entries.get? caFileKey with
        | none =>
          rw [hfile] at hread
          exact nomatch hread
        | some file =>
          simp only [hfile, bind_eq_ok_iff, path_eq_ok_iff] at hread
          obtain ⟨caFile, htext, hv⟩ := hread
          exact .inr ⟨rfl, caFile, file, rfl, htext, (Except.ok.inj hv).symm⟩
    · rintro (⟨htag, rfl⟩ | ⟨htag, caFile, file, hfile, htext, rfl⟩)
      · exact ⟨.none, Option.some.inj htag, rfl⟩
      · refine ⟨.required, Option.some.inj htag, ?_⟩
        simp only [hfile, bind_eq_ok_iff, path_eq_ok_iff]
        exact ⟨caFile, htext, rfl⟩

/-- A table asks for nothing exactly if that is its mode. -/
theorem peerVerification_eq_none_iff (h : entries.keys.Nodup) :
    peerVerification source (.table entries) = .ok .none ↔
      (modeKey, .string Mode.none.name) ∈ entries := by
  rw [← Entries.get?_eq_some_iff h, peerVerification, verificationTable_eq_ok_iff]
  simp

/-- A table requires certificates exactly if that is its mode and it names the file of the
    authorities. -/
theorem peerVerification_eq_required_iff (h : entries.keys.Nodup) {caFile : String} :
    peerVerification source (.table entries) = .ok (.required caFile) ↔
      (modeKey, .string Mode.required.name) ∈ entries ∧
        ∃ file, (caFileKey, file) ∈ entries ∧ IsText source file caFile := by
  simp only [← Entries.get?_eq_some_iff h]
  rw [peerVerification, verificationTable_eq_ok_iff]
  simp

/-- A policy is read from its name. -/
theorem echoPolicy_toValue (source : Source) (k : Echo.PolicyKind) :
    echoPolicy source k.toValue = .ok k := by
  cases k <;> rfl

end Decode

/-! ## What is written and read -/

/-- A table with the entries of another one, in any order and among others. -/
structure Toml.Entries.Extends (entries own : Entries) : Prop where
  nodup : entries.keys.Nodup
  perm : ∃ others : Entries, entries.Perm (own ++ others)

/-- What is written for the two choices is read as these choices. -/
structure ReadsBack (k : Echo.PolicyKind) (v : PeerVerification) (own : Entries) : Prop where
  policy : ∀ source, Decode.echoPolicy source k.toValue = .ok k
  verification : ∀ source, Decode.peerVerification source v.toValue = .ok v
  /-- The second one is written as a table, which may be put in another order and extended. -/
  written : v.toValue = .table own
  extended : ∀ (source : Source) (table : Entries), table.Extends own →
    Decode.peerVerification source (.table table) = .ok v
  /-- With both of them a table that is acceptable without them is read as the same configuration,
      but for these two fields. -/
  config : ∀ (source : Source) (others : Entries) settings,
    Setting.ofTable source others = .ok settings →
      ∀ table entries : Entries, table.Extends own → entries.keys.Nodup →
        entries.Perm (("echo_policy", k.toValue) :: ("peer_verification", .table table) :: others) →
          ∃ settings', Setting.ofTable source entries = .ok settings' ∧ ∀ base : Config,
            base.setAll settings' =
              { base.setAll settings with echoPolicy := k, peerVerification := v }

/-- What a table with distinct keys is read as, by its entries. -/
structure ReadsTable (entries : Entries) : Prop where
  none : ∀ source, Decode.peerVerification source (.table entries) = .ok .none ↔
    ("mode", .string "none") ∈ entries
  required : ∀ caFile,
    Decode.peerVerification .document (.table entries) = .ok (.required caFile) ↔
      ("mode", .string "required") ∈ entries ∧ ("ca_file", .string caFile) ∈ entries
  /-- In a value on its own the file may be named by a date or time as well. -/
  required_value : ∀ caFile,
    Decode.peerVerification .value (.table entries) = .ok (.required caFile) ↔
      ("mode", .string "required") ∈ entries ∧
        (("ca_file", .string caFile) ∈ entries ∨ ("ca_file", .datetime caFile) ∈ entries)

/-- A table with all entries that were written is read as what they were written for. -/
theorem peerVerification_of_extends {table : Entries} {v : PeerVerification}
    (h : table.Extends v.entries) (source : Source) :
    Decode.peerVerification source (.table table) = .ok v := by
  obtain ⟨others, hperm⟩ := h.perm
  have hmem : ∀ entry ∈ v.entries, entry ∈ table := fun entry hentry =>
    hperm.mem_iff.2 (List.mem_append_left others hentry)
  cases v with
  | none => exact (Decode.peerVerification_eq_none_iff h.nodup).2 (hmem _ List.mem_cons_self)
  | required caFile =>
    have hfile := hmem _ (List.mem_cons_of_mem _ List.mem_cons_self)
    exact (Decode.peerVerification_eq_required_iff h.nodup).2
      ⟨hmem _ List.mem_cons_self, _, hfile, .inl rfl⟩

/-- What was written has its own entries. -/
theorem extends_self (v : PeerVerification) : v.entries.Extends v.entries := by
  refine ⟨?_, [], by rw [List.append_nil]⟩
  cases v with
  | none => exact List.nodup_singleton "mode"
  | required caFile =>
    have hkeys : ["mode", "ca_file"].Nodup := by decide
    exact hkeys

/-- The fields of the two choices are added to a table one after the other. -/
theorem ofTable_of_perm_choices {source : Source} {others table entries : Entries}
    {settings : List Setting} {k : Echo.PolicyKind} {v : PeerVerification}
    (h : Setting.ofTable source others = .ok settings) (htable : table.Extends v.entries)
    (hkeys : entries.keys.Nodup)
    (hperm : entries.Perm
      (("echo_policy", k.toValue) :: ("peer_verification", .table table) :: others)) :
    ∃ settings', Setting.ofTable source entries = .ok settings' ∧ ∀ base : Config,
      base.setAll settings' =
        { base.setAll settings with echoPolicy := k, peerVerification := v } := by
  have hrest : (Entries.keys (("peer_verification", .table table) :: others)).Nodup :=
    (List.nodup_cons.1 ((hperm.map Prod.fst).nodup_iff.1 hkeys)).2
  have hpolicy : ConfigField.decode source k.toValue .echoPolicy = .ok (.echoPolicy k) := by
    rw [ConfigField.decode, Decode.echoPolicy_toValue]
    rfl
  have hverification : ConfigField.decode source (.table table) .peerVerification =
      .ok (.peerVerification v) := by
    rw [ConfigField.decode, peerVerification_of_extends htable source]
    rfl
  obtain ⟨settings₁, h₁, hset₁⟩ :=
    Setting.ofTable_of_perm_cons (s := .peerVerification v) hrest (List.Perm.refl _) hverification h
  obtain ⟨settings₂, h₂, hset₂⟩ :=
    Setting.ofTable_of_perm_cons (s := .echoPolicy k) hkeys hperm hpolicy h₁
  refine ⟨settings₂, h₂, fun base => ?_⟩
  -- setting the two fields one after the other is changing both
  rw [hset₂, hset₁]
  rfl

/-- A table is read by its mode, and by the file of the authorities if certificates are required. -/
theorem readsTable_of_nodup {entries : Entries} (h : entries.keys.Nodup) : ReadsTable entries := by
  constructor
  case none => exact fun source => Decode.peerVerification_eq_none_iff h
  case required =>
    intro caFile
    rw [Decode.peerVerification_eq_required_iff h]
    simp only [Decode.isText_document, exists_eq_right]
    exact Iff.rfl
  case required_value =>
    intro caFile
    rw [Decode.peerVerification_eq_required_iff h]
    -- the file is named by a text, or by a date that is one here
    simp only [Decode.IsText, true_and, and_or_left, exists_or, exists_eq_right]
    exact Iff.rfl

/-- Both choices are read back from what is written for them, in a document and in a value on its
    own.  Conversely a table asks for certificates, or for none, exactly if it has the entries that
    are written for it, but that in a value on its own a date may stand for its text. -/
theorem choices_readBack :
    (∀ (k : Echo.PolicyKind) (v : PeerVerification), ∃ own, ReadsBack k v own) ∧
    ∀ entries : Entries, entries.keys.Nodup → ReadsTable entries := by
  refine ⟨fun k v => ⟨v.entries, ?_⟩, fun entries hkeys => readsTable_of_nodup hkeys⟩
  constructor
  case policy => exact fun source => Decode.echoPolicy_toValue source k
  case verification =>
    rw [v.toValue_eq]
    exact peerVerification_of_extends (extends_self v)
  case written => exact v.toValue_eq
  case extended => exact fun source table htable => peerVerification_of_extends htable source
  case config =>
    intro source others settings h table entries htable hkeys hperm
    exact ofTable_of_perm_choices h htable hkeys hperm

/-- A table with the mode at its end and a key that nobody asks for. -/
def annotated : Entries :=
  [("note", .boolean true), ("ca_file", .string "/é.pem"), ("mode", .string "required")]

/-- The document that has the port, the annotated table and a policy. -/
def annotatedDocument : Entries :=
  [("port", .integer 443), ("peer_verification", .table annotated),
   ("echo_policy", .string "accumulate")]

/-- The annotated table is read by itself and in a document with a port. -/
theorem choices_readBack_annotated :
    annotated.keys.Nodup ∧ annotatedDocument.keys.Nodup ∧
    Decode.peerVerification .document (.table annotated) = .ok (.required "/é.pem") ∧
    ∃ settings, Setting.ofTable .document annotatedDocument = .ok settings ∧
      ∀ base : Config, base.setAll settings =
        { base with port := 443, echoPolicy := .accumulate,
                    peerVerification := .required "/é.pem" } := by
  have hkeys : annotated.keys.Nodup := by decide
  have hdocument : annotatedDocument.keys.Nodup := by decide
  obtain ⟨own, hreads⟩ := choices_readBack.1 .accumulate (.required "/é.pem")
  obtain rfl := Value.table.inj hreads.written
  have hextends : annotated.Extends
      [("mode", .string "required"), ("ca_file", .string "/é.pem")] :=
    ⟨hkeys, [("note", .boolean true)], (List.reverse_perm annotated).symm⟩
  have hport : Setting.ofTable .document [("port", .integer 443)] = .ok [.port 443] := rfl
  obtain ⟨settings, hok, hset⟩ := hreads.config .document [("port", .integer 443)] _ hport
    annotated annotatedDocument hextends hdocument (List.reverse_perm annotatedDocument).symm
  refine ⟨hkeys, hdocument, ?_, settings, hok, hset⟩
  exact ((choices_readBack.2 annotated hkeys).required "/é.pem").2 (by simp [annotated])

/-- In a value on its own a date is the text that names the file, and in a document it is none. -/
example :
    let table : Value := .table [("mode", .string "required"), ("ca_file", .datetime "1979-05-27")]
    Decode.peerVerification .value table = .ok (.required "1979-05-27") ∧
      Decode.peerVerification .document table = .error (.kind .map .path) :=
  ⟨rfl, rfl⟩

end TlsEcho

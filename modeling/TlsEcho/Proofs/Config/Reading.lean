import Mathlib.Data.List.Nodup
import TlsEcho.Config.Load
import TlsEcho.Proofs.Config.Fields
import TlsEcho.Proofs.Toml.Keys

/-!
# Reading configurations field by field

Each field is read for itself.  A table is read if the value of every field in it is acceptable, and
what is read does not depend on the order of the entries nor on keys that are no field's.  The order
decides which error is reported: that of the first entry that is not acceptable
(`error_iff`).
-/

namespace TlsEcho

open Toml (Value Entries)

/-! ## Fields and their keys -/

namespace ConfigField

/-- `all` leaves no field out. -/
theorem mem_all (f : ConfigField) : f ∈ all := by
  cases f <;> simp [all]

/-- Every field has a key of its own. -/
theorem key_injective : Function.Injective key := by
  intro f g h
  have hnodup : (all.map key).Nodup := by decide
  exact List.inj_on_of_nodup_map hnodup f.mem_all g.mem_all h

/-- A key is looked up as the field that has it. -/
theorem ofKey?_eq_some_iff {k : String} {f : ConfigField} : ofKey? k = some f ↔ k = f.key := by
  have hkey : ∀ {g : ConfigField}, ofKey? k = some g → g.key = k := fun h =>
    beq_iff_eq.1 (List.find?_some (p := fun g : ConfigField => g.key == k) h)
  constructor
  · exact fun h => (hkey h).symm
  · intro hk
    have hsome : (ofKey? k).isSome = true :=
      List.find?_isSome.2 ⟨f, f.mem_all, by rw [hk, beq_self_eq_true]⟩
    obtain ⟨g, hg⟩ := Option.isSome_iff_exists.1 hsome
    rw [hg, key_injective ((hkey hg).trans hk)]

/-- Texts are ordered by their characters.  For the keys of fields that is the order of their
    bytes. -/
theorem bytes_key_lt {f g : ConfigField} (hle : f.key ≤ g.key) (hne : f ≠ g) :
    Bytes.ofString f.key < Bytes.ofString g.key := by
  have hall : ∀ f ∈ all, ∀ g ∈ all, f.key ≤ g.key → f ≠ g →
      Bytes.ofString f.key < Bytes.ofString g.key := by
    decide +kernel
  exact hall f f.mem_all g g.mem_all hle hne

/-- What a mapped result holds comes from the map. -/
private theorem exists_of_map_eq_ok {α β ε : Type} {f : α → β} {x : Except ε α} {b : β}
    (h : x.map f = .ok b) : ∃ a, f a = b := by
  cases x with
  | error e => exact nomatch h
  | ok a => exact ⟨a, Except.ok.inj h⟩

/-- The value of a field is read as a setting of that field. -/
theorem field_of_decode {source : Source} {v : Toml.Value} {f : ConfigField} {s : Setting}
    (h : f.decode source v = .ok s) : s.field = f := by
  cases f <;> obtain ⟨_, rfl⟩ := exists_of_map_eq_ok h <;> rfl

end ConfigField

namespace Setting

variable {source : Source} {entries : Entries} {fields : List (ConfigField × Value)}
  {settings : List Setting} {f : ConfigField} {v : Value} {m : Mismatch}

/-! ## Fields one after the other -/

/-- Fields are read in order, and the first that is not acceptable ends the reading. -/
theorem ofFields_cons (source : Source) (f : ConfigField) (v : Value)
    (fields : List (ConfigField × Value)) :
    ofFields source ((f, v) :: fields) = (do
      let s ← f.decode source v
      let settings ← ofFields source fields
      return s :: settings) := by
  simp [ofFields, List.mapM_cons]

/-- Either all fields are read, one by one, or there is a first one that is not acceptable. -/
theorem ofFields_cases (source : Source) (fields : List (ConfigField × Value)) :
    (∃ settings, ofFields source fields = .ok settings ∧
      fields.map (fun p => p.1.decode source p.2) = settings.map .ok) ∨
    ∃ before f v after m, fields = before ++ (f, v) :: after ∧
      ofFields source fields = .error m ∧ f.decode source v = .error m ∧
      ∀ p ∈ before, ∃ s, p.1.decode source p.2 = .ok s := by
  induction fields with
  | nil => exact .inl ⟨[], rfl, rfl⟩
  | cons p rest ih =>
    obtain ⟨f, v⟩ := p
    rw [ofFields_cons]
    cases hf : f.decode source v with
    | error m => exact .inr ⟨[], f, v, rest, m, rfl, rfl, hf, by simp⟩
    | ok s =>
      obtain ⟨later, hrest, heach⟩ | ⟨before, g, w, after, m, rfl, hrest, hg, hbefore⟩ := ih
      · exact .inl ⟨s :: later, by rw [hrest]; rfl, by simp [hf, heach]⟩
      · refine .inr ⟨(f, v) :: before, g, w, after, m, rfl, by rw [hrest]; rfl, hg, ?_⟩
        intro p hp
        obtain rfl | hp := List.mem_cons.1 hp
        · exact ⟨s, hf⟩
        · exact hbefore p hp

/-- The first field that is not acceptable decides the error. -/
theorem ofFields_of_first {before after : List (ConfigField × Value)}
    (hbefore : ∀ p ∈ before, ∃ s, p.1.decode source p.2 = .ok s)
    (hf : f.decode source v = .error m) :
    ofFields source (before ++ (f, v) :: after) = .error m := by
  induction before with
  | nil => rw [List.nil_append, ofFields_cons, hf]; rfl
  | cons p rest ih =>
    obtain ⟨s, hs⟩ := hbefore p List.mem_cons_self
    have hrest := ih fun q hq => hbefore q (List.mem_cons_of_mem _ hq)
    rw [List.cons_append, ofFields_cons, hs, hrest]
    rfl

/-! ## Tables -/

/-- The recognised entries are those under the key of a field. -/
theorem mem_recognised : (f, v) ∈ recognised entries ↔ (f.key, v) ∈ entries := by
  simp only [recognised, List.mem_filterMap, Option.map_eq_some_iff, Prod.mk.injEq, Prod.exists,
    ConfigField.ofKey?_eq_some_iff]
  constructor
  · rintro ⟨k, w, hmem, g, rfl, rfl, rfl⟩
    exact hmem
  · exact fun hmem => ⟨f.key, v, hmem, f, rfl, rfl, rfl⟩

/-- Entries are recognised one by one. -/
theorem recognised_append (first later : Entries) :
    recognised (first ++ later) = recognised first ++ recognised later :=
  List.filterMap_append

/-- In a table with distinct keys no field is set twice. -/
theorem nodup_fields (h : entries.keys.Nodup) : ((recognised entries).map Prod.fst).Nodup := by
  have hsub : ((recognised entries).map fun p => p.1.key).Sublist entries.keys := by
    clear h
    -- a key that is no field's drops out, and the others keep their places
    induction entries with
    | nil => exact List.Sublist.refl _
    | cons entry rest ih =>
      obtain ⟨k, w⟩ := entry
      cases hk : ConfigField.ofKey? k with
      | none => simpa [recognised, Entries.keys, hk] using ih.cons k
      | some f =>
        obtain rfl := ConfigField.ofKey?_eq_some_iff.1 hk
        simpa [recognised, Entries.keys, hk] using ih
  refine List.Nodup.of_map ConfigField.key ?_
  rw [List.map_map]
  exact hsub.nodup h

/-- The entries of a table in the order in which they are visited. -/
def visited (source : Source) (entries : Entries) : Entries :=
  match source with
  | .document => entries
  | .value => entries.sorted

/-- The settings of a table of a document, or of a table that stands on its own. -/
def ofTable (source : Source) (entries : Entries) : Except Mismatch (List Setting) :=
  match source with
  | .document => ofEntries .document entries
  | .value => ofValue (.table entries)

/-- A table is read as its recognised entries, in the order in which they are visited. -/
theorem ofTable_eq (source : Source) (entries : Entries) :
    ofTable source entries = ofFields source (recognised (visited source entries)) := by
  cases source <;> rfl

/-- Visiting a table reorders its entries and loses none. -/
theorem visited_perm (source : Source) (entries : Entries) :
    (visited source entries).Perm entries := by
  cases source with
  | document => exact List.Perm.refl _
  | value => exact List.mergeSort_perm _ _

theorem nodup_fields_visited (source : Source) (h : entries.keys.Nodup) :
    ((recognised (visited source entries)).map Prod.fst).Nodup :=
  nodup_fields (((visited_perm source entries).map Prod.fst).nodup_iff.2 h)

/-- So the order of the visit makes no difference to which fields are set. -/
theorem mem_recognised_visited (source : Source) :
    (f, v) ∈ recognised (visited source entries) ↔ (f.key, v) ∈ entries :=
  mem_recognised.trans (visited_perm source entries).mem_iff

/-- A table that stands on its own is visited in the order of the bytes of its keys. -/
theorem pairwise_bytes (h : entries.keys.Nodup) :
    ((recognised (visited .value entries)).map fun p =>
      Bytes.ofString p.1.key).Pairwise (· < ·) := by
  have hsorted : (visited .value entries).Pairwise fun a b => a.1 ≤ b.1 := by
    have htrans : ∀ a b c : String × Value, decide (a.1 ≤ b.1) = true →
        decide (b.1 ≤ c.1) = true → decide (a.1 ≤ c.1) = true := by
      intro a b c hab hbc
      simp only [decide_eq_true_eq] at hab hbc ⊢
      exact String.le_trans hab hbc
    have htotal : ∀ a b : String × Value, (decide (a.1 ≤ b.1) || decide (b.1 ≤ a.1)) = true :=
      fun a b => by simpa using String.le_total a.1 b.1
    have hpairs := List.pairwise_mergeSort htrans htotal entries
    exact hpairs.imp of_decide_eq_true
  have hkeys : (recognised (visited .value entries)).Pairwise fun p q => p.1.key ≤ q.1.key := by
    refine List.pairwise_filterMap.2 (hsorted.imp ?_)
    rintro ⟨k, v⟩ ⟨l, w⟩ hle p hp q hq
    obtain ⟨f, hf, rfl⟩ := Option.map_eq_some_iff.1 hp
    obtain ⟨g, hg, rfl⟩ := Option.map_eq_some_iff.1 hq
    rwa [ConfigField.ofKey?_eq_some_iff.1 hf, ConfigField.ofKey?_eq_some_iff.1 hg] at hle
  have hdistinct := List.pairwise_map.1 (nodup_fields_visited .value h)
  refine List.pairwise_map.2 ((hkeys.and hdistinct).imp ?_)
  rintro p q ⟨hle, hne⟩
  exact ConfigField.bytes_key_lt hle hne

private theorem fields_of_decoded
    (h : fields.map (fun p => p.1.decode source p.2) = settings.map .ok) :
    settings.map field = fields.map Prod.fst := by
  induction fields generalizing settings with
  | nil =>
    obtain rfl := List.map_eq_nil_iff.1 h.symm
    rfl
  | cons p rest ih =>
    cases settings with
    | nil => exact nomatch h
    | cons s later =>
      obtain ⟨hs, hlater⟩ := List.cons.inj h
      rw [List.map_cons, List.map_cons, ih hlater, ConfigField.field_of_decode hs]

/-- What is read of a table are the settings of its fields, one for each. -/
theorem settings_of_ofTable (h : ofTable source entries = .ok settings) :
    (∀ (f : ConfigField) v, (f.key, v) ∈ entries →
      ∃ s ∈ settings, f.decode source v = .ok s ∧ s.field = f) ∧
    settings.map field = (recognised (visited source entries)).map Prod.fst := by
  rw [ofTable_eq] at h
  obtain ⟨_, hok, heach⟩ | ⟨_, _, _, _, _, _, herror, _⟩ := ofFields_cases source
    (recognised (visited source entries))
  · obtain rfl := Except.ok.inj (hok.symm.trans h)
    constructor
    · intro f v hmem
      have hdecoded := List.mem_map_of_mem (f := fun p => p.1.decode source p.2)
        ((mem_recognised_visited source).2 hmem)
      rw [heach] at hdecoded
      obtain ⟨s, hs, hdecode⟩ := List.mem_map.1 hdecoded
      exact ⟨s, hs, hdecode.symm, ConfigField.field_of_decode hdecode.symm⟩
    · exact fields_of_decoded heach
  · exact nomatch herror.symm.trans h

/-! ## Whole configurations -/

/-- What reading a table comes to. -/
structure FieldWise (source : Source) (entries : Entries) : Prop where
  isOk_iff : (∃ settings, ofTable source entries = .ok settings) ↔
    ∀ (f : ConfigField) v, (f.key, v) ∈ entries → ∃ s, f.decode source v = .ok s
  /-- A field that is given has its value, -/
  given : ∀ settings, ofTable source entries = .ok settings → ∀ (base : Config) (f : ConfigField) v,
    (f.key, v) ∈ entries →
      ∃ s, f.decode source v = .ok s ∧ s.field = f ∧ (base.setAll settings).get s.field = s.value
  /-- and one that is not given has the default. -/
  absent : ∀ settings, ofTable source entries = .ok settings → ∀ (base : Config) (f : ConfigField),
    (∀ v, (f.key, v) ∉ entries) → (base.setAll settings).get f = base.get f
  /-- Another table with the same fields, in whatever order and among whatever other keys, is read
      as the same configuration, or is not acceptable either. -/
  same : ∀ others : Entries, others.keys.Nodup →
    (∀ (f : ConfigField) v, (f.key, v) ∈ others ↔ (f.key, v) ∈ entries) → ∀ base : Config,
      (ofTable source others).toOption.map base.setAll =
        (ofTable source entries).toOption.map base.setAll
  /-- The error is that of the first field visited whose value is not acceptable. -/
  error_iff : ∀ m, ofTable source entries = .error m ↔
    ∃ before f v after, visited source entries = before ++ (ConfigField.key f, v) :: after ∧
      f.decode source v = .error m ∧
      ∀ (g : ConfigField) w, (g.key, w) ∈ before → ∃ s, g.decode source w = .ok s
  /-- A document is visited as it is written, and a table that stands on its own by its keys. -/
  order : (visited source entries).Perm entries ∧
    (source = .document → visited source entries = entries) ∧
    (source = .value → ((recognised (visited source entries)).map fun p =>
      Bytes.ofString p.1.key).Pairwise (· < ·))

/-- After a table was read, a field that is in it has the value that was read for it, and any other
    has the value it had before. -/
theorem get_of_ofTable (hkeys : entries.keys.Nodup) (h : ofTable source entries = .ok settings)
    (base : Config) :
    (∀ (f : ConfigField) v, (f.key, v) ∈ entries → ∃ s, f.decode source v = .ok s ∧ s.field = f ∧
      (base.setAll settings).get s.field = s.value) ∧
    ∀ f : ConfigField, (∀ v, (f.key, v) ∉ entries) →
      (base.setAll settings).get f = base.get f := by
  obtain ⟨hgiven, hfields⟩ := settings_of_ofTable h
  constructor
  · intro f v hmem
    obtain ⟨s, hs, hdecode, hfield⟩ := hgiven f v hmem
    have hnodup : (settings.map field).Nodup := hfields ▸ nodup_fields_visited source hkeys
    exact ⟨s, hdecode, hfield, Config.get_setAll_of_mem hnodup hs⟩
  · intro f hnone
    refine Config.get_setAll_of_not_mem fun s hs hfield => ?_
    have hmem : f ∈ settings.map field := List.mem_map.2 ⟨s, hs, hfield⟩
    rw [hfields] at hmem
    obtain ⟨⟨g, v⟩, hp, rfl⟩ := List.mem_map.1 hmem
    exact hnone v ((mem_recognised_visited source).1 hp)

/-- A table is read exactly if the value of every field in it is acceptable. -/
theorem isOk_iff (source : Source) (entries : Entries) :
    (∃ settings, ofTable source entries = .ok settings) ↔
      ∀ (f : ConfigField) v, (f.key, v) ∈ entries → ∃ s, f.decode source v = .ok s := by
  constructor
  · rintro ⟨settings, h⟩ f v hmem
    obtain ⟨s, -, hdecode, -⟩ := (settings_of_ofTable h).1 f v hmem
    exact ⟨s, hdecode⟩
  · intro hall
    obtain ⟨settings, hok, -⟩ | ⟨before, f, v, after, m, heq, -, hf, -⟩ :=
      ofFields_cases source (recognised (visited source entries))
    · exact ⟨settings, (ofTable_eq ..).trans hok⟩
    · have hmem : (f, v) ∈ recognised (visited source entries) := by simp [heq]
      obtain ⟨s, hs⟩ := hall f v ((mem_recognised_visited source).1 hmem)
      exact nomatch hf.symm.trans hs

/-- A field that two tables have in common, or that neither has, is the same in what they are read
    as. -/
theorem get_eq_of_same {others : Entries} {settings' : List Setting}
    (hkeys : entries.keys.Nodup) (hkeys' : others.keys.Nodup)
    (hsame : ∀ v, (f.key, v) ∈ others ↔ (f.key, v) ∈ entries)
    (h : ofTable source entries = .ok settings) (h' : ofTable source others = .ok settings')
    (base : Config) : (base.setAll settings').get f = (base.setAll settings).get f := by
  obtain ⟨hgiven, habsent⟩ := get_of_ofTable hkeys h base
  obtain ⟨hgiven', habsent'⟩ := get_of_ofTable hkeys' h' base
  -- both tables give the field the same value, or neither gives it one
  by_cases hf : ∃ v, (f.key, v) ∈ entries
  · obtain ⟨v, hmem⟩ := hf
    obtain ⟨s, hs, rfl, hget⟩ := hgiven f v hmem
    obtain ⟨s', hs', -, hget'⟩ := hgiven' s.field v ((hsame v).2 hmem)
    obtain rfl := Except.ok.inj (hs.symm.trans hs')
    rw [hget, hget']
  · rw [not_exists] at hf
    rw [habsent f hf, habsent' f fun v hmem => hf v ((hsame v).1 hmem)]

/-- Two tables with the same fields are read as the same configuration. -/
theorem setAll_eq_of_same {others : Entries} {settings' : List Setting}
    (hkeys : entries.keys.Nodup) (hkeys' : others.keys.Nodup)
    (hsame : ∀ (f : ConfigField) v, (f.key, v) ∈ others ↔ (f.key, v) ∈ entries)
    (h : ofTable source entries = .ok settings) (h' : ofTable source others = .ok settings')
    (base : Config) : base.setAll settings' = base.setAll settings := by
  apply Config.get_injective
  funext f
  exact get_eq_of_same hkeys hkeys' (hsame f) h h' base

/-- A table with one field more is read as the same configuration with that field set. -/
theorem ofTable_of_perm_cons {others : Entries} {s : Setting} (hkeys : entries.keys.Nodup)
    (hperm : entries.Perm ((s.field.key, v) :: others)) (hdecode : s.field.decode source v = .ok s)
    (h : ofTable source others = .ok settings) :
    ∃ settings', ofTable source entries = .ok settings' ∧
      ∀ base : Config, base.setAll settings' = (base.setAll settings).set s := by
  have hmem : ∀ (f : ConfigField) w, (f.key, w) ∈ entries ↔
      (f.key, w) = (s.field.key, v) ∨ (f.key, w) ∈ others := by
    intro f w
    rw [hperm.mem_iff, List.mem_cons]
  have hothers : others.keys.Nodup :=
    (List.nodup_cons.1 ((hperm.map Prod.fst).nodup_iff.1 hkeys)).2
  have hok : ∃ settings', ofTable source entries = .ok settings' := by
    rw [isOk_iff]
    intro f w hw
    cases (hmem f w).1 hw with
    | inl hnew =>
      obtain ⟨hkey, rfl⟩ := Prod.mk.inj hnew
      rw [ConfigField.key_injective hkey]
      exact ⟨s, hdecode⟩
    | inr hold => exact (isOk_iff source others).1 ⟨settings, h⟩ f w hold
  obtain ⟨settings', h'⟩ := hok
  refine ⟨settings', h', fun base => Config.get_injective (funext fun f => ?_)⟩
  by_cases hf : f = s.field
  · obtain rfl := hf
    obtain ⟨s', hs', -, hget⟩ := (get_of_ofTable hkeys h' base).1 s.field v
      ((hmem s.field v).2 (.inl rfl))
    obtain rfl := Except.ok.inj (hdecode.symm.trans hs')
    rw [hget, Config.get_set_self]
  · rw [Config.get_set_of_ne hf]
    -- the new entry is not one of this field
    have hsame : ∀ w, (f.key, w) ∈ entries ↔ (f.key, w) ∈ others := by
      intro w
      rw [hmem, or_iff_right]
      intro hnew
      exact hf (ConfigField.key_injective (Prod.mk.inj hnew).1)
    exact get_eq_of_same hothers hkeys hsame h h' base

/-- The error is that of the first entry visited that is not acceptable. -/
theorem error_iff (source : Source) (entries : Entries) (m : Mismatch) :
    ofTable source entries = .error m ↔
      ∃ before f v after, visited source entries = before ++ (ConfigField.key f, v) :: after ∧
        f.decode source v = .error m ∧
        ∀ (g : ConfigField) w, (g.key, w) ∈ before → ∃ s, g.decode source w = .ok s := by
  rw [ofTable_eq]
  constructor
  · intro h
    obtain ⟨_, hok, -⟩ | ⟨before, f, v, after, m', heq, herror, hf, hbefore⟩ :=
      ofFields_cases source (recognised (visited source entries))
    · exact nomatch hok.symm.trans h
    · obtain rfl := Except.error.inj (herror.symm.trans h)
      -- the entries in front of the field are those in front of it among the fields, and others
      obtain ⟨first, later, hvisited, rfl, hlater⟩ := List.filterMap_eq_append_iff.1 heq
      obtain ⟨unknown, ⟨k, w⟩, rest, rfl, hunknown, hk, -⟩ := List.filterMap_eq_cons_iff.1 hlater
      obtain ⟨g, hg, hpair⟩ := Option.map_eq_some_iff.1 hk
      obtain ⟨rfl, rfl⟩ := Prod.mk.inj hpair
      obtain rfl := ConfigField.ofKey?_eq_some_iff.1 hg
      refine ⟨first ++ unknown, g, w, rest, by rw [hvisited, List.append_assoc], hf, ?_⟩
      intro g' w' hmem
      have hnone : recognised unknown = [] := List.filterMap_eq_nil_iff.2 hunknown
      have hin := mem_recognised.2 hmem
      rw [recognised_append, hnone, List.append_nil] at hin
      exact hbefore (g', w') hin
  · rintro ⟨before, f, v, after, hvisited, hf, hbefore⟩
    have hfield : recognised [(f.key, v)] = [(f, v)] := by
      simp [recognised, ConfigField.ofKey?_eq_some_iff.2 rfl]
    have hsplit : recognised (visited source entries) =
        recognised before ++ (f, v) :: recognised after := by
      rw [hvisited, recognised_append, ← List.singleton_append, recognised_append, hfield]
      rfl
    rw [hsplit]
    exact ofFields_of_first (fun p hp => hbefore p.1 p.2 (mem_recognised.1 hp)) hf

/-- A table in which no key comes twice is read field by field, and documents are such tables. -/
theorem fieldWise_of_nodup_keys :
    (∀ (source : Source) (entries : Entries), entries.keys.Nodup → FieldWise source entries) ∧
    ∀ (text : List Char) (entries : Entries), Entries.parse? text = some entries →
      entries.keys.Nodup ∧
        ofText text = (ofTable .document entries).mapError LoadError.mismatch := by
  constructor
  · intro source entries hkeys
    constructor
    case isOk_iff => exact isOk_iff source entries
    case given => exact fun settings h base => (get_of_ofTable hkeys h base).1
    case absent => exact fun settings h base => (get_of_ofTable hkeys h base).2
    case error_iff => exact error_iff source entries
    case order =>
      refine ⟨visited_perm source entries, ?_, ?_⟩
      · rintro rfl
        rfl
      · rintro rfl
        exact pairwise_bytes hkeys
    case same =>
      intro others hothers hsame base
      -- the errors may differ, for the order decides which one it is
      have hiff : (∃ settings, ofTable source others = .ok settings) ↔
          ∃ settings, ofTable source entries = .ok settings := by
        simp only [isOk_iff, hsame]
      cases h : ofTable source entries with
      | ok settings =>
        obtain ⟨settings', h'⟩ := hiff.2 ⟨settings, h⟩
        rw [h']
        exact congrArg some (setAll_eq_of_same hkeys hothers hsame h h' base)
      | error m =>
        cases h' : ofTable source others with
        | ok settings' =>
          obtain ⟨settings, hok⟩ := hiff.1 ⟨settings', h'⟩
          exact nomatch h.symm.trans hok
        | error m' => rfl
  · intro text entries h
    exact ⟨Toml.nodup_keys_of_parse? h, by simp [ofText, h, ofTable]⟩

/-- A table with two values that are not acceptable. -/
def twoFaults : Entries :=
  [("port", .string "https"), ("colour", .boolean true), ("backlog", .integer (-1))]

/-- The document reports the port, which comes first, and the table on its own the backlog. -/
theorem fieldWise_of_nodup_keys_twoFaults :
    twoFaults.keys.Nodup ∧
    ofTable .document twoFaults = .error (.kind (.string "https") .word16) ∧
    ofTable .value twoFaults = .error (.range (-1) .word32) ∧
    ∃ entries, Entries.parse? "port = 1".toList = some entries ∧ entries.keys.Nodup := by
  have hkeys : twoFaults.keys.Nodup := by decide
  have hsorted : visited .value twoFaults =
      [("backlog", .integer (-1)), ("colour", .boolean true), ("port", .string "https")] := by
    have hport : ¬ "port" ≤ "colour" := by decide
    have hcolour : ¬ "colour" ≤ "backlog" := by decide
    simp [visited, Entries.sorted, twoFaults, List.mergeSort, List.MergeSort.Internal.splitInTwo,
      hport, hcolour]
  refine ⟨hkeys, ?_, ?_, ?_⟩
  · refine ((fieldWise_of_nodup_keys.1 .document _ hkeys).error_iff _).2
      ⟨[], .port, .string "https", _, rfl, rfl, ?_⟩
    simp
  · refine ((fieldWise_of_nodup_keys.1 .value _ hkeys).error_iff _).2
      ⟨[], .backlog, .integer (-1), _, hsorted, rfl, ?_⟩
    simp
  · have hsome : (Entries.parse? "port = 1".toList).isSome = true := by decide +kernel
    obtain ⟨entries, hparse⟩ := Option.isSome_iff_exists.1 hsome
    exact ⟨entries, hparse, (fieldWise_of_nodup_keys.2 _ entries hparse).1⟩

end Setting

end TlsEcho

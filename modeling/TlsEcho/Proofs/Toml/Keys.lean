import Mathlib.Data.List.Nodup
import TlsEcho.Toml.Document

/-!
# The keys of a document

No key comes twice in the entries of a document (`nodup_keys_of_parse?`).  A table under
construction changes at the end of a path: on the way there a key keeps its place or is appended as
a new one (`nodup_keys_put`), and at the end a key is added only if it is not there yet.
-/

namespace TlsEcho.Toml

/-- The keys of a table under construction. -/
def Nodes.keys (nodes : Nodes) : List String := nodes.map Prod.fst

/-- The keys of a table. -/
def Entries.keys (entries : Entries) : List String := entries.map Prod.fst

/-- What a key is looked up as is the only value that it has. -/
theorem Entries.get?_eq_some_iff {entries : Entries} {key : String} {value : Value}
    (h : entries.keys.Nodup) : entries.get? key = some value ↔ (key, value) ∈ entries := by
  have hfound : ∀ v, entries.get? key = some v → (key, v) ∈ entries := by
    intro v hget
    obtain ⟨entry, hfind, rfl⟩ := Option.map_eq_some_iff.1 hget
    have hkey : entry.1 = key := by simpa using List.find?_some hfind
    rw [← hkey]
    exact List.mem_of_find?_eq_some hfind
  constructor
  · exact hfound value
  · intro hmem
    have hsome : (entries.find? fun e => e.1 == key).isSome = true :=
      List.find?_isSome.2 ⟨(key, value), hmem, beq_self_eq_true key⟩
    obtain ⟨entry, hfind⟩ := Option.isSome_iff_exists.1 hsome
    have hget : entries.get? key = some entry.2 := by rw [get?, hfind]; rfl
    have heq : (key, entry.2) = (key, value) :=
      List.inj_on_of_nodup_map h (hfound _ hget) hmem rfl
    rw [hget, (Prod.mk.inj heq).2]

namespace Nodes

variable {nodes nodes' : Nodes} {key : String} {node : Node} {path : List String}

/-- A key whose look-up fails is not among the keys. -/
theorem not_mem_keys_of_get? (h : nodes.get? key = none) : key ∉ nodes.keys := by
  simp only [get?, Option.map_eq_none_iff, List.find?_eq_none, beq_iff_eq] at h
  simpa [keys] using fun node hmem => h (key, node) hmem rfl

/-- A new key may be appended. -/
theorem nodup_keys_append (h : nodes.keys.Nodup) (hkey : key ∉ nodes.keys) :
    (Nodes.keys (nodes ++ [(key, node)])).Nodup := by
  simp only [keys, List.map_append, List.map_cons, List.map_nil]
  refine List.nodup_append.2 ⟨h, by simp, ?_⟩
  rintro k hk _ hsingle rfl
  obtain rfl := List.mem_singleton.1 hsingle
  exact hkey hk

/-- `put` keeps the keys distinct. -/
theorem nodup_keys_put (h : nodes.keys.Nodup) : (nodes.put key node).keys.Nodup := by
  unfold put
  split
  · -- the node of the key is replaced, and the keys stay as they are
    have hkeys : (nodes.map fun e => if e.1 == key then (key, node) else e).map Prod.fst =
        nodes.map Prod.fst := by
      rw [List.map_map]
      apply List.map_congr_left
      intro e _
      by_cases he : e.1 = key <;> simp [he]
    unfold keys
    rwa [hkeys]
  · rename_i hnone
    exact nodup_keys_append h (by simpa [keys] using hnone)

/-- A change that keeps keys distinct keeps them so at the end of a path. -/
theorem nodup_keys_modifyAt {byKey : Bool} {change : Origin → Nodes → Option Nodes}
    {origin : Origin}
    (hchange : ∀ origin before after, change origin before = some after → before.keys.Nodup →
      after.keys.Nodup)
    (hmodify : modifyAt byKey change path origin nodes = some nodes') (h : nodes.keys.Nodup) :
    nodes'.keys.Nodup := by
  cases path with
  | nil => exact hchange _ _ _ hmodify h
  | cons key path =>
    -- whatever there is under the key, its node is put back
    unfold modifyAt at hmodify
    split at hmodify
    · obtain ⟨_, -, rfl⟩ := Option.map_eq_some_iff.1 hmodify
      exact nodup_keys_put h
    · exact nomatch hmodify
    · split at hmodify
      · exact nomatch hmodify
      · obtain ⟨_, -, rfl⟩ := Option.map_eq_some_iff.1 hmodify
        exact nodup_keys_put h
    · split at hmodify
      · obtain ⟨_, -, rfl⟩ := Option.map_eq_some_iff.1 hmodify
        exact nodup_keys_put h
      · exact nomatch hmodify

/-- An entry of a document is refused if its key is there already, so the keys stay distinct. -/
theorem nodup_keys_addValue {value : Value} (hadd : nodes.addValue path value = some nodes')
    (h : nodes.keys.Nodup) : nodes'.keys.Nodup := by
  unfold addValue at hadd
  split at hadd
  · exact nomatch hadd
  · refine nodup_keys_modifyAt ?_ hadd h
    intro origin before after hlast hbefore
    split at hlast
    · exact nomatch hlast
    · split at hlast
      · exact nomatch hlast
      · rename_i hnew
        obtain rfl := Option.some.inj hlast
        exact nodup_keys_append hbefore (not_mem_keys_of_get? (by simpa using hnew))

/-- Without one of its keys a table keeps the others distinct. -/
theorem nodup_keys_remove (h : nodes.keys.Nodup) : (nodes.remove key).keys.Nodup :=
  (List.filter_sublist.map Prod.fst).nodup h

/-- A finished table has the keys of the table under construction. -/
theorem keys_toEntries (nodes : Nodes) : (Nodes.toEntries nodes).keys = nodes.keys := by
  induction nodes with
  | nil => simp [toEntries, keys, Entries.keys]
  | cons entry rest ih =>
    obtain ⟨key, node⟩ := entry
    simp only [Entries.keys, keys] at ih ⊢
    simp [toEntries, ih]

end Nodes

namespace Draft

variable {d d' : Draft} {root : Nodes}

/-- What holds of a document while its lines are put together.  As long as there was no header, its
    entries are those that are collected. -/
structure Distinct (d : Draft) : Prop where
  root : d.root.keys.Nodup
  current : d.path = [] → d.current.keys.Nodup

/-- Putting the last table in its place keeps the keys distinct. -/
theorem Distinct.finish (h : Distinct d) (hfinish : d.finish = some root) : root.keys.Nodup := by
  unfold Draft.finish at hfinish
  split at hfinish
  · rename_i hlast
    obtain rfl := Option.some.inj hfinish
    exact h.current (List.getLast?_eq_none_iff.1 hlast)
  · refine Nodes.nodup_keys_modifyAt ?_ hfinish h.root
    intro _ before after hplace hbefore
    split at hplace
    · rename_i hnew
      obtain rfl := Option.some.inj hplace
      exact Nodes.nodup_keys_append hbefore (Nodes.not_mem_keys_of_get? hnew)
    · split at hplace
      · obtain rfl := Option.some.inj hplace
        exact Nodes.nodup_keys_put hbefore
      · exact nomatch hplace
    · exact nomatch hplace

/-- Every line keeps the keys distinct: an entry goes into the table that is collected, a header
    puts that table in its place first. -/
theorem Distinct.add {line : Line} (h : Distinct d) (hadd : d.add line = some d') :
    Distinct d' := by
  cases line with
  | entry path value =>
    obtain ⟨current, hvalue, rfl⟩ := Option.map_eq_some_iff.1 hadd
    exact ⟨h.root, fun hpath => Nodes.nodup_keys_addValue hvalue (h.current hpath)⟩
  | header path =>
    obtain ⟨root, hfinish, hadd⟩ := Option.bind_eq_some_iff.1 hadd
    obtain ⟨⟨current, root'⟩, hreopen, rfl⟩ := Option.map_eq_some_iff.1 hadd
    unfold reopen? at hreopen
    split at hreopen
    · exact nomatch hreopen
    · rename_i last hlast
      obtain ⟨_, hremove, hpair⟩ := Option.map_eq_some_iff.1 hreopen
      obtain ⟨-, rfl⟩ := Prod.mk.inj hpair
      refine ⟨Nodes.nodup_keys_modifyAt ?_ hremove (h.finish hfinish), fun hpath => ?_⟩
      · intro _ before after hchange hbefore
        split at hchange
        · obtain rfl := Option.some.inj hchange
          exact hbefore
        · obtain rfl := Option.some.inj hchange
          exact Nodes.nodup_keys_remove hbefore
        · exact nomatch hchange
      · simp [show path = [] from hpath] at hlast
  | item path =>
    obtain ⟨root, hfinish, hadd⟩ := Option.bind_eq_some_iff.1 hadd
    obtain ⟨root', hopen, rfl⟩ := Option.map_eq_some_iff.1 hadd
    unfold openItem? at hopen
    split at hopen
    · exact nomatch hopen
    · refine ⟨Nodes.nodup_keys_modifyAt ?_ hopen (h.finish hfinish), fun _ => List.nodup_nil⟩
      intro _ before after hchange hbefore
      split at hchange
      · obtain rfl := Option.some.inj hchange
        exact hbefore
      · obtain rfl := Option.some.inj hchange
        exact hbefore
      · exact nomatch hchange

/-- By induction on the lines, a document that is put together has distinct keys. -/
theorem Distinct.addAll {ls : List Line} (h : Distinct d) (hadd : ls.foldlM Draft.add d = some d') :
    Distinct d' := by
  induction ls generalizing d with
  | nil =>
    obtain rfl := Option.some.inj hadd
    exact h
  | cons line rest ih =>
    rw [List.foldlM_cons] at hadd
    obtain ⟨d₁, hline, hrest⟩ := Option.bind_eq_some_iff.1 hadd
    exact ih (h.add hline) hrest

end Draft

/-- No key of a document comes twice. -/
theorem nodup_keys_of_parse? {text : List Char} {entries : Entries}
    (h : Entries.parse? text = some entries) : entries.keys.Nodup := by
  obtain ⟨ls, -, hlines⟩ := Option.bind_eq_some_iff.1 h
  obtain ⟨d, hdraft, hfinish⟩ := Option.bind_eq_some_iff.1 hlines
  obtain ⟨nodes, hnodes, rfl⟩ := Option.map_eq_some_iff.1 hfinish
  have hempty : Draft.Distinct {} := ⟨List.nodup_nil, fun _ => List.nodup_nil⟩
  rw [Nodes.keys_toEntries]
  exact (hempty.addAll hdraft).finish hnodes

end TlsEcho.Toml

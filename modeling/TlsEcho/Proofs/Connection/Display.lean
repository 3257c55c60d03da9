import Mathlib.Data.List.Perm.Basic
import TlsEcho.Connection.Id
import TlsEcho.Proofs.Text.Hex

/-!
# Displayed ids

A displayed id tells the id, and displayed ids compare byte by byte as the ids do
(`byteOrder_display`).  So it makes no difference whether ids are sorted or their displayed forms.
-/

namespace TlsEcho

namespace ConnectionId

open Text

/-! ## The order of ids -/

/-- Ids compare as their values do. -/
theorem compare_eq_compare_toNat (a b : ConnectionId) :
    compare a b = compare a.val.toNat b.val.toNat := by
  show compareOfLessAndEq a.val b.val = compareOfLessAndEq a.val.toNat b.val.toNat
  simp only [compareOfLessAndEq, UInt64.lt_iff_toNat_lt, ← UInt64.toNat_inj]

/-- `≤` on ids is the order of `compare`. -/
theorem le_iff_isLE_compare (a b : ConnectionId) : a ≤ b ↔ (compare a b).isLE := by
  rw [compare_eq_compare_toNat, Nat.isLE_compare]
  exact UInt64.le_iff_toNat_le

/-- An id is told by its value. -/
theorem eq_of_toNat_eq {a b : ConnectionId} (h : a.val.toNat = b.val.toNat) : a = b := by
  cases a
  cases b
  exact congrArg mk (UInt64.toNat_inj.1 h)

/-- The order of ids is antisymmetric, so there is one way only to sort them. -/
theorem eq_of_le_of_le {a b : ConnectionId} (hab : a ≤ b) (hba : b ≤ a) : a = b :=
  eq_of_toNat_eq (Nat.le_antisymm (UInt64.le_iff_toNat_le.1 hab) (UInt64.le_iff_toNat_le.1 hba))

/-- Sorted ids are in ascending order. -/
theorem pairwise_sorted (ids : List ConnectionId) :
    (ids.mergeSort fun a b => decide (a ≤ b)).Pairwise (· ≤ ·) := by
  have htrans : ∀ a b c : ConnectionId, decide (a ≤ b) = true → decide (b ≤ c) = true →
      decide (a ≤ c) = true := by
    intro a b c hab hbc
    rw [decide_eq_true_eq] at hab hbc ⊢
    exact UInt64.le_trans hab hbc
  have htotal : ∀ a b : ConnectionId, (decide (a ≤ b) || decide (b ≤ a)) = true := by
    intro a b
    rw [Bool.or_eq_true, decide_eq_true_eq, decide_eq_true_eq]
    exact UInt64.le_total a.val b.val
  exact (List.pairwise_mergeSort htrans htotal ids).imp of_decide_eq_true

/-! ## The displayed form -/

/-- The value of an id has at most sixteen hexadecimal digits. -/
theorem toNat_lt (id : ConnectionId) : id.val.toNat < 16 ^ 16 := id.val.toNat_lt

/-- A displayed id is a fixed start and the sixteen digits of the id. -/
theorem display_eq (id : ConnectionId) :
    id.display = "client-" ++ String.ofList (Hex.digits 16 id.val.toNat) := by
  rw [display, displayChars, String.ofList_append]
  rfl

example : (ConnectionId.mk 0xbeef).display = "client-000000000000beef" := by decide

/-- Different ids are displayed differently: the digits can be read back. -/
theorem display_injective {a b : ConnectionId} (h : a.display = b.display) : a = b := by
  have hdigits : Hex.digits 16 a.val.toNat = Hex.digits 16 b.val.toNat :=
    List.append_cancel_left (String.ofList_injective h)
  have hvalue : some a.val.toNat = some b.val.toNat := by
    rw [← Hex.value?_digits a.toNat_lt, ← Hex.value?_digits b.toNat_lt, hdigits]
  exact eq_of_toNat_eq (Option.some.inj hvalue)

/-- The order of texts by their bytes. -/
def byteOrder (s t : String) : Ordering := compare (Bytes.ofString s) (Bytes.ofString t)

/-- What all displayed ids start with makes no difference, and the digits are compared as the ids
    are. -/
theorem byteOrder_display (a b : ConnectionId) : byteOrder a.display b.display = compare a b := by
  have hstart : ∀ c ∈ displayStart, c.utf8Size = 1 := by
    have hall : displayStart.all (fun c => c.utf8Size == 1) = true := by decide
    simpa only [List.all_eq_true, beq_iff_eq] using hall
  have hbytes : ∀ id : ConnectionId, Bytes.ofString id.display =
      (displayStart.map fun c => c.val.toUInt8) ++ Hex.digitBytes 16 id.val.toNat :=
    fun id => Hex.ofString_digits displayStart hstart 16 id.val.toNat
  have hsame : compare (displayStart.map fun c => c.val.toUInt8)
      (displayStart.map fun c => c.val.toUInt8) = .eq := by decide
  rw [byteOrder, hbytes, hbytes, Bytes.compare_append rfl, hsame, Ordering.eq_then,
    Hex.compare_digitBytes a.toNat_lt b.toNat_lt, compare_eq_compare_toNat]

/-- `byteOrder_display` for `≤`, the form that sorting asks for. -/
theorem isLE_byteOrder_display (a b : ConnectionId) :
    (byteOrder a.display b.display).isLE = true ↔ a ≤ b := by
  rw [byteOrder_display, le_iff_isLE_compare]

/-- Sorted displayed ids are the displayed forms of the sorted ids. -/
theorem eq_sorted_iff (ids : List ConnectionId) (texts : List String) :
    texts.Perm (ids.map display) ∧ texts.Pairwise (fun s t => (byteOrder s t).isLE) ↔
      texts = (ids.mergeSort fun a b => decide (a ≤ b)).map display := by
  have hperm : ((ids.mergeSort fun a b => decide (a ≤ b)).map display).Perm (ids.map display) :=
    (List.mergeSort_perm ids _).map display
  have hsorted : ((ids.mergeSort fun a b => decide (a ≤ b)).map display).Pairwise
      fun s t => (byteOrder s t).isLE := by
    refine List.pairwise_map.2 ((pairwise_sorted ids).imp ?_)
    exact fun hle => (isLE_byteOrder_display _ _).2 hle
  constructor
  · rintro ⟨htexts, hascending⟩
    -- both are ascending, and displayed ids that come before each other are the same
    refine List.Perm.eq_of_pairwise ?_ hascending hsorted (htexts.trans hperm.symm)
    intro s t hs ht hst hts
    obtain ⟨a, -, rfl⟩ := List.mem_map.1 (htexts.subset hs)
    obtain ⟨b, -, rfl⟩ := List.mem_map.1 (hperm.subset ht)
    have hab : a ≤ b := (isLE_byteOrder_display a b).1 hst
    have hba : b ≤ a := (isLE_byteOrder_display b a).1 hts
    rw [eq_of_le_of_le hab hba]
  · rintro rfl
    exact ⟨hperm, hsorted⟩

/-- Displayed ids stand for the ids: each has the sixteen digits of its id, two of them are the same
    or in order as the ids are, and whoever sorts them has sorted the ids. -/
theorem display_faithful :
    (∀ id : ConnectionId, ∃ hex : List Char, id.display = "client-" ++ String.ofList hex ∧
      hex.length = 16 ∧ hex ⊆ "0123456789abcdef".toList ∧
      Hex.value? hex = some id.val.toNat) ∧
    (∀ a b : ConnectionId, a.display = b.display ↔ a = b) ∧
    (∀ a b : ConnectionId, byteOrder a.display b.display = compare a b ∧
      compare a b = compare a.val.toNat b.val.toNat ∧ (a ≤ b ↔ (compare a b).isLE)) ∧
    ∀ (ids : List ConnectionId) (texts : List String),
      texts.Perm (ids.map display) ∧ texts.Pairwise (fun s t => (byteOrder s t).isLE) ↔
        texts = (ids.mergeSort fun a b => decide (a ≤ b)).map display := by
  refine ⟨fun id => ?_, fun a b => ⟨display_injective, congrArg display⟩, fun a b => ?_,
    eq_sorted_iff⟩
  · exact ⟨Hex.digits 16 id.val.toNat, display_eq id, Hex.length_digits 16 _,
      Hex.digits_subset 16 _, Hex.value?_digits id.toNat_lt⟩
  · exact ⟨byteOrder_display a b, compare_eq_compare_toNat a b, le_iff_isLE_compare a b⟩

end ConnectionId

end TlsEcho

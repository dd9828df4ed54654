import SensorLog.Frame.Error

/-!
# Packet orders

A `PacketOrder` is a permutation of `0, 1, …, n - 1` and says in which order the oldest packets are
read. Applied to another number of packets, indices that point nowhere are passed over and packets
beyond the permutation follow in arrival order; so it always visits each packet exactly once
(`resolve_perm`).
-/

namespace SensorLog

/-- A permutation of the first natural numbers. -/
structure PacketOrder where
  indices : List Nat
  perm : indices.Perm (List.range indices.length)

namespace PacketOrder

@[ext] theorem ext {o p : PacketOrder} (h : o.indices = p.indices) : o = p := by
  cases o
  cases p
  simp only at h
  subst h
  rfl

instance : DecidableEq PacketOrder := fun o p =>
  decidable_of_iff (o.indices = p.indices) ⟨ext, fun h => h ▸ rfl⟩

/-- The order with the given indices, if they are a permutation. -/
def ofIndices? (indices : List Nat) : Except FrameError PacketOrder :=
  if h : indices.Perm (List.range indices.length) then .ok ⟨indices, h⟩
  else .error (.invalidOrder indices)

/-- Arrival order. -/
def natural : PacketOrder :=
  ⟨[], .refl _⟩

/-- Arrival order, spelled out for `n` packets. -/
def identity (n : Nat) : PacketOrder :=
  ⟨List.range n, by rw [List.length_range]⟩

/-- The indices made longer, in arrival order, until there are `n`. -/
def padIndices (indices : List Nat) (n : Nat) : List Nat :=
  indices ++ List.range' indices.length (n - indices.length)

theorem length_padIndices (indices : List Nat) (n : Nat) :
    (padIndices indices n).length = max indices.length n := by
  simp only [padIndices, List.length_append, List.length_range']
  omega

theorem range_append_range' (k n : Nat) : List.range k ++ List.range' k n = List.range (k + n) := by
  rw [List.range_eq_range', List.range_eq_range', ← List.range'_append_1, Nat.zero_add]

theorem padIndices_perm {indices : List Nat} (h : indices.Perm (List.range indices.length))
    (n : Nat) : (padIndices indices n).Perm (List.range (max indices.length n)) := by
  have hsplit : List.range (max indices.length n)
      = List.range indices.length ++ List.range' indices.length (n - indices.length) := by
    rw [range_append_range']
    congr 1
    omega
  rw [hsplit]
  exact h.append_right _

/-- The order with the entries at two positions exchanged; it grows as far as needed. -/
def swapped (o : PacketOrder) (a b : Nat) : PacketOrder :=
  let full := (padIndices o.indices (max a b + 1)).toArray
  have ha : a < full.size := by simp only [full, List.size_toArray, length_padIndices]; omega
  have hb : b < full.size := by simp only [full, List.size_toArray, length_padIndices]; omega
  ⟨(full.swap a b ha hb).toList, by
    have hp : (full.swap a b ha hb).toList.Perm full.toList := (Array.swap_perm ha hb).toList
    refine hp.trans ?_
    have hlen : (full.swap a b ha hb).toList.length
        = max o.indices.length (max a b + 1) := by
      simp only [Array.length_toList, Array.size_swap, full, List.size_toArray, length_padIndices]
    rw [hlen]
    exact padIndices_perm o.perm _⟩

/-- Whether the order is arrival order. -/
def isNatural (o : PacketOrder) : Bool :=
  o.indices == List.range o.indices.length

/-- The indices of `count` packets in the order in which they are read. -/
def resolve (o : PacketOrder) (count : Nat) : List Nat :=
  let known := min o.indices.length count
  o.indices.filter (· < count) ++ List.range' known (count - known)

/-- Items in the order in which they are read. -/
def arrange {α : Type} (o : PacketOrder) (items : List α) : List α :=
  (o.resolve items.length).filterMap fun i => items[i]?

theorem filter_lt_range (n count : Nat) :
    (List.range n).filter (· < count) = List.range (min n count) := by
  induction n with
  | zero => simp
  | succ n ih =>
    rw [List.range_succ, List.filter_append, ih]
    by_cases h : n < count
    · have h1 : min n count = n := by omega
      have h2 : min (n + 1) count = n + 1 := by omega
      rw [h1, h2, List.range_succ]
      simp [h]
    · have h1 : min n count = count := by omega
      have h2 : min (n + 1) count = count := by omega
      simp [h, h1, h2]

/-- Each of `count` packets is visited exactly once. -/
theorem resolve_perm (o : PacketOrder) (count : Nat) :
    (o.resolve count).Perm (List.range count) := by
  have hsplit : List.range count = List.range (min o.indices.length count)
      ++ List.range' (min o.indices.length count)
        (count - min o.indices.length count) := by
    rw [range_append_range']
    congr 1
    omega
  rw [hsplit, ← filter_lt_range]
  exact (o.perm.filter _).append_right _

theorem filterMap_getElem?_range {α : Type} (items : List α) :
    (List.range items.length).filterMap (fun i => items[i]?) = items := by
  induction items with
  | nil => rfl
  | cons a items ih =>
    simp only [List.length_cons, List.range_succ_eq_map, List.filterMap_cons,
      List.getElem?_cons_zero, List.filterMap_map]
    congr 1

/-- Arranging loses and doubles nothing. -/
theorem arrange_perm {α : Type} (o : PacketOrder) (items : List α) :
    (o.arrange items).Perm items := by
  have h := (o.resolve_perm items.length).filterMap fun i => items[i]?
  rwa [filterMap_getElem?_range] at h

theorem resolve_of_isNatural {o : PacketOrder} (natural : o.isNatural = true) (count : Nat) :
    o.resolve count = List.range count := by
  have indices : o.indices = List.range o.indices.length := by simpa [isNatural] using natural
  rw [resolve, indices, filter_lt_range, List.length_range, range_append_range']
  congr 1
  omega

/-- Arrival order moves nothing, however it is spelled. -/
theorem arrange_of_isNatural {α : Type} {o : PacketOrder} (natural : o.isNatural = true)
    (items : List α) : o.arrange items = items := by
  rw [arrange, resolve_of_isNatural natural, filterMap_getElem?_range]

end PacketOrder

end SensorLog

import Mathlib.Data.List.Perm.Subperm
import Mathlib.Data.List.Nodup
import SensorLog.Packet.Queue

/-!
# Orders as bare indices

A `BareOrder` is a list of indices of which nothing is known. New indices are checked with one mark per place,
positions are exchanged in the list, and arrival order is recognized place by place. An `OrderRecipe` is any
combination of the ways to come to an order. Carried out on bare indices and on `PacketOrder`s it gives the same
indices and the same errors (`OrderRecipe.bare_eq`), so no recipe leads out of the permutations, and the orders
read each of any number of packets once (`OrderRecipe.bare_exact`).
-/

namespace SensorLog

/-- Indices as they come, whether they make an order or not. -/
structure BareOrder where
  indices : List Nat
deriving DecidableEq, Repr, Inhabited

namespace BareOrder

/-- Marks the places that indices point to, one after the other. Whether each of them points to a place, and to one
    that has no mark yet. -/
def allFresh : Array Bool → List Nat → Bool
  | _, [] => true
  | seen, i :: rest =>
    match seen[i]? with
    | some false => allFresh (seen.setIfInBounds i true) rest
    | _ => false

/-- The indices, if they point to as many places as there are indices, each to its own. -/
def new? (indices : List Nat) : Except FrameError BareOrder :=
  if allFresh (Array.replicate indices.length false) indices then .ok ⟨indices⟩ else .error (.invalidOrder indices)

def natural : BareOrder :=
  ⟨[]⟩

def identity (n : Nat) : BareOrder :=
  ⟨List.range n⟩

/-- The indices made long enough for two positions, which are then exchanged. -/
def swapped (o : BareOrder) (a b : Nat) : BareOrder :=
  ⟨((PacketOrder.padIndices o.indices (max a b + 1)).toArray.swapIfInBounds a b).toList⟩

/-- Whether every index is its own place. -/
def isNatural (o : BareOrder) : Bool :=
  o.indices.zipIdx.all fun (index, place) => place == index

/-- The indices that point to one of `count` packets, then the packets behind those that the list has places for. -/
def resolve (o : BareOrder) (count : Nat) : List Nat :=
  let known := min o.indices.length count
  o.indices.filter (· < count) ++ List.range' known (count - known)

/-! ## Checking indices -/

theorem perm_range_iff {indices : List Nat} {n : Nat} (length : indices.length = n) :
    indices.Perm (List.range n) ↔ indices.Nodup ∧ ∀ i ∈ indices, i < n := by
  constructor
  · intro same
    exact ⟨same.nodup_iff.2 List.nodup_range, fun i member => List.mem_range.1 (same.mem_iff.1 member)⟩
  · rintro ⟨apart, inside⟩
    have among : indices ⊆ List.range n := fun i member => List.mem_range.2 (inside i member)
    exact (List.subperm_of_subset apart among).perm_of_length_le (Nat.le_of_eq (List.length_range.trans length.symm))

/-- Of `n` places those have a mark that indices have pointed to. -/
def Marked (n : Nat) (before : List Nat) (seen : Array Bool) : Prop :=
  ∀ i, seen[i]? = if i < n then some (decide (i ∈ before)) else none

theorem Marked.fresh (n : Nat) : Marked n [] (Array.replicate n false) := by
  intro i
  simp [Array.getElem?_replicate]

theorem Marked.mark {n i : Nat} {before : List Nat} {seen : Array Bool} (marked : Marked n before seen) :
    Marked n (i :: before) (seen.setIfInBounds i true) := by
  intro j
  rw [Array.getElem?_setIfInBounds, marked j]
  have size : i < seen.size ↔ i < n := by
    rw [← not_iff_not, Nat.not_lt, ← Array.getElem?_eq_none_iff, marked i]
    simp
  by_cases same : i = j
  · subst same
    simp [size]
  · simp [same, Ne.symm same]

theorem Marked.free_iff {n i : Nat} {before : List Nat} {seen : Array Bool} (marked : Marked n before seen) :
    seen[i]? = some false ↔ i < n ∧ i ∉ before := by
  rw [marked i]
  split <;> simp [*]

theorem allFresh_cons (seen : Array Bool) (i : Nat) (rest : List Nat) :
    allFresh seen (i :: rest) = true ↔
      seen[i]? = some false ∧ allFresh (seen.setIfInBounds i true) rest = true := by
  rw [allFresh]
  split
  · rename_i free
    simp [free]
  · rename_i taken
    exact iff_of_false Bool.false_ne_true fun both => taken both.1

/-- The check passes if no index points outside, to a place that had a mark before, or where another index points. -/
theorem allFresh_iff {n : Nat} {before indices : List Nat} {seen : Array Bool} (marked : Marked n before seen) :
    allFresh seen indices = true ↔ indices.Nodup ∧ ∀ i ∈ indices, i < n ∧ i ∉ before := by
  induction indices generalizing before seen with
  | nil => simp [allFresh]
  | cons i rest ih =>
      -- For the rest, the new mark says that `i` does not stand there again.
      have later : (∀ j ∈ rest, j < n ∧ j ∉ i :: before) ↔ i ∉ rest ∧ ∀ j ∈ rest, j < n ∧ j ∉ before := by
        grind
      rw [allFresh_cons, marked.free_iff, ih marked.mark, later, List.nodup_cons, List.forall_mem_cons]
      tauto

theorem allFresh_replicate_iff {indices : List Nat} :
    allFresh (Array.replicate indices.length false) indices = true ↔
      indices.Perm (List.range indices.length) := by
  rw [allFresh_iff (.fresh _), perm_range_iff rfl]
  simp

theorem exists_new?_iff {indices : List Nat} :
    (∃ o, new? indices = .ok o) ↔ indices.Perm (List.range indices.length) := by
  rw [← allFresh_replicate_iff, new?]
  split <;> simp [*]

/-! ## Exchanging positions -/

/-- The grown list has both places, so the exchange takes place. -/
theorem lt_size_padIndices (indices : List Nat) (a b : Nat) :
    a < (PacketOrder.padIndices indices (max a b + 1)).toArray.size ∧
      b < (PacketOrder.padIndices indices (max a b + 1)).toArray.size := by
  rw [List.size_toArray, PacketOrder.length_padIndices]
  omega

theorem swapIfInBounds_of_lt {indices : Array Nat} {a b : Nat} (ha : a < indices.size) (hb : b < indices.size) :
    indices.swapIfInBounds a b = indices.swap a b ha hb := by
  rw [Array.swapIfInBounds_def, dif_pos ha, dif_pos hb]

theorem length_swapped (o : BareOrder) (a b : Nat) :
    (o.swapped a b).indices.length = max o.indices.length (max a b + 1) := by
  rw [swapped, Array.length_toList, Array.size_swapIfInBounds, List.size_toArray, PacketOrder.length_padIndices]

theorem padIndices_of_length_le {indices : List Nat} {n : Nat} (long : n ≤ indices.length) :
    PacketOrder.padIndices indices n = indices := by
  rw [PacketOrder.padIndices, Nat.sub_eq_zero_of_le long, List.range'_zero, List.append_nil]

/-- What is left of exchanging two positions twice is the length. -/
theorem swapped_swapped (o : BareOrder) (a b : Nat) :
    (o.swapped a b).swapped a b = ⟨PacketOrder.padIndices o.indices (max a b + 1)⟩ := by
  have long : max a b + 1 ≤ (o.swapped a b).indices.length := by
    rw [length_swapped]
    omega
  rw [swapped, padIndices_of_length_le long, swapped, Array.toArray_toList]
  obtain ⟨ha, hb⟩ := lt_size_padIndices o.indices a b
  rw [swapIfInBounds_of_lt ha hb, swapIfInBounds_of_lt (by rwa [Array.size_swap]) (by rwa [Array.size_swap]),
    Array.swap_swap]

/-! ## Reading packets -/

theorem filter_lt_range' (s n count : Nat) :
    (List.range' s n).filter (· < count) = List.range' s (min n (count - s)) := by
  rw [List.range'_eq_map_range, List.filter_map, List.range'_eq_map_range, ← PacketOrder.filter_lt_range]
  refine congrArg _ (List.filter_congr fun i _ => ?_)
  simp only [Function.comp_apply, decide_eq_decide]
  omega

/-- Places added in arrival order are where they would be read anyway. -/
theorem resolve_padIndices (indices : List Nat) (n count : Nat) :
    resolve ⟨PacketOrder.padIndices indices n⟩ count = resolve ⟨indices⟩ count := by
  simp only [resolve, PacketOrder.length_padIndices]
  rw [PacketOrder.padIndices, List.filter_append, filter_lt_range', List.append_assoc]
  refine congrArg _ ?_
  rcases Nat.le_total count indices.length with short | long
  · have added : min (n - indices.length) (count - indices.length) = 0 := by omega
    have beyond : count - min (max indices.length n) count = 0 := by omega
    have beyond' : count - min indices.length count = 0 := by omega
    rw [added, beyond, beyond']
    rfl
  · have known : min (max indices.length n) count
        = indices.length + min (n - indices.length) (count - indices.length) := by omega
    rw [known, List.range'_append_1, Nat.min_eq_left long]
    congr 1
    omega

theorem resolve_swapped_swapped (o : BareOrder) (a b count : Nat) :
    ((o.swapped a b).swapped a b).resolve count = o.resolve count := by
  rw [swapped_swapped, resolve_padIndices]

theorem isNatural_iff {o : BareOrder} : o.isNatural = true ↔ o.indices = List.range o.indices.length := by
  rw [isNatural, List.all_eq_true]
  constructor
  · intro own
    refine List.ext_getElem List.length_range.symm fun i inside _ => ?_
    have here := own (o.indices[i], i) (List.mem_zipIdx_iff_getElem?.2 (List.getElem?_eq_getElem inside))
    rw [List.getElem_range]
    exact (beq_iff_eq.1 here).symm
  · rintro same ⟨index, place⟩ member
    have found : o.indices[place]? = some index := List.mem_zipIdx_iff_getElem?.1 member
    obtain ⟨inside, rfl⟩ := List.getElem?_eq_some_iff.1 found
    rw [beq_iff_eq, List.getElem_of_eq same, List.getElem_range]

/-- Packets moved out of their places, one index after the other. An empty packet stays in each place, so an index
    that came again would lose the packet that it stands for. There is no packet to move where no place is. -/
def moveOut? : List Bytes → List Nat → Option (List Bytes)
  | _, [] => some []
  | packets, i :: rest => do
    let packet ← packets[i]?
    let moved ← moveOut? (packets.set i []) rest
    return packet :: moved

/-- Where no place comes again, every packet that is moved out is the one that stood there first. -/
theorem moveOut?_eq {packets : List Bytes} {indices : List Nat} (apart : indices.Nodup)
    (inside : ∀ i ∈ indices, i < packets.length) :
    moveOut? packets indices = some (indices.filterMap fun i => packets[i]?) := by
  induction indices generalizing packets with
  | nil => rfl
  | cons i rest ih =>
      obtain ⟨fresh, apart⟩ := List.nodup_cons.1 apart
      obtain ⟨here, inside⟩ := List.forall_mem_cons.1 inside
      have found : packets[i]? = some packets[i] := List.getElem?_eq_getElem here
      have later : moveOut? (packets.set i []) rest = some (rest.filterMap fun j => (packets.set i [])[j]?) :=
        ih apart fun j member => by rw [List.length_set]; exact inside j member
      have kept : (rest.filterMap fun j => (packets.set i [])[j]?) = rest.filterMap fun j => packets[j]? :=
        List.filterMap_congr fun j member => List.getElem?_set_ne (ne_of_mem_of_not_mem member fresh).symm
      rw [moveOut?, found, later, kept, List.filterMap_cons_some found]
      rfl

/-- A bare order and an order say the same of any number of packets. -/
structure ReadsAs (o : BareOrder) (p : PacketOrder) : Prop where
  indices : o.indices = p.indices
  isNatural : o.isNatural = p.isNatural
  resolve : ∀ count, o.resolve count = p.resolve count

end BareOrder

namespace PacketOrder

/-- The indices of an order, without the proof. -/
def bare (p : PacketOrder) : BareOrder :=
  ⟨p.indices⟩

theorem bare_swapped (p : PacketOrder) (a b : Nat) : (p.swapped a b).bare = p.bare.swapped a b := by
  obtain ⟨ha, hb⟩ := BareOrder.lt_size_padIndices p.indices a b
  have exchanged := BareOrder.swapIfInBounds_of_lt ha hb
  exact congrArg (BareOrder.mk ·.toList) exchanged.symm

theorem bare_isNatural (p : PacketOrder) : p.bare.isNatural = p.isNatural := by
  rw [Bool.eq_iff_iff, BareOrder.isNatural_iff, isNatural, beq_iff_eq]
  rfl

theorem bare_readsAs (p : PacketOrder) : p.bare.ReadsAs p :=
  ⟨rfl, p.bare_isNatural, fun _ => rfl⟩

/-- The marks refuse what is no permutation, and nothing else. -/
theorem new?_eq (indices : List Nat) : BareOrder.new? indices = (ofIndices? indices).map bare := by
  unfold BareOrder.new? ofIndices?
  simp only [BareOrder.allFresh_replicate_iff]
  split <;> rfl

/-- Over as many packets as it has indices an order reads in the order of its indices. -/
theorem resolve_length (p : PacketOrder) : p.resolve p.indices.length = p.indices := by
  have inside : ∀ i ∈ p.indices, decide (i < p.indices.length) = true := fun i member =>
    decide_eq_true (List.mem_range.1 (p.perm.mem_iff.1 member))
  rw [resolve, List.filter_eq_self.2 inside, Nat.min_self, Nat.sub_self, List.range'_zero, List.append_nil]

theorem isNatural_iff_resolve {p : PacketOrder} :
    p.isNatural = true ↔ ∀ count, p.resolve count = List.range count := by
  constructor
  · exact resolve_of_isNatural
  · intro natural
    rw [isNatural, beq_iff_eq]
    exact p.resolve_length.symm.trans (natural _)

theorem count_resolve (p : PacketOrder) (count i : Nat) :
    (p.resolve count).count i = if i < count then 1 else 0 := by
  rw [(p.resolve_perm count).count_eq, List.count_range]

theorem moveOut?_resolve (p : PacketOrder) (packets : List Bytes) :
    BareOrder.moveOut? packets (p.resolve packets.length) = some (p.arrange packets) := by
  have same := p.resolve_perm packets.length
  exact BareOrder.moveOut?_eq (same.nodup_iff.2 List.nodup_range)
    fun i member => List.mem_range.1 (same.mem_iff.1 member)

end PacketOrder

/-! ## Combinations -/

/-- The ways to come to an order. -/
inductive OrderRecipe
  | new (indices : List Nat)
  | natural
  | default
  | identity (n : Nat)
  | swapped (recipe : OrderRecipe) (a b : Nat)

namespace OrderRecipe

/-- The recipe carried out on bare indices. -/
def bare : OrderRecipe → Except FrameError BareOrder
  | .new indices => BareOrder.new? indices
  | .natural => .ok .natural
  | .default => .ok Inhabited.default
  | .identity n => .ok (.identity n)
  | .swapped recipe a b => recipe.bare.map (·.swapped a b)

/-- The recipe carried out on orders. -/
def order : OrderRecipe → Except FrameError PacketOrder
  | .new indices => PacketOrder.ofIndices? indices
  | .natural => .ok .natural
  | .default => .ok .natural
  | .identity n => .ok (.identity n)
  | .swapped recipe a b => recipe.order.map (·.swapped a b)

/-- The indices that a recipe takes from outside. -/
def given : OrderRecipe → List Nat
  | .new indices => indices
  | .natural | .default | .identity _ => []
  | .swapped recipe _ _ => recipe.given

/-- Carried out on bare indices, a recipe gives the indices of the order that it gives, or the same error. -/
theorem bare_eq (r : OrderRecipe) : r.bare = r.order.map PacketOrder.bare := by
  induction r with
  | new indices => exact PacketOrder.new?_eq indices
  | natural | default | identity n => rfl
  | swapped recipe a b ih =>
      rw [bare, order, ih]
      cases recipe.order with
      | error e => rfl
      | ok p => exact congrArg Except.ok (p.bare_swapped a b).symm

/-- Only the check can fail: exchanging positions never does. -/
theorem exists_bare_iff (r : OrderRecipe) :
    (∃ o, r.bare = .ok o) ↔ r.given.Perm (List.range r.given.length) := by
  induction r with
  | new indices => exact BareOrder.exists_new?_iff
  | natural | default | identity n => exact iff_of_true ⟨_, rfl⟩ (.refl _)
  | swapped recipe a b ih =>
      rw [given, ← ih, bare]
      cases recipe.bare with
      | error e => simp [Except.map]
      | ok o => simp [Except.map]

theorem exists_order_of_bare {r : OrderRecipe} {o : BareOrder} (built : r.bare = .ok o) :
    ∃ p, r.order = .ok p ∧ p.bare = o := by
  rw [bare_eq] at built
  cases made : r.order with
  | error e =>
      rw [made] at built
      cases built
  | ok p =>
      rw [made] at built
      exact ⟨p, rfl, Except.ok.inj built⟩

/-- Bare indices are taken for a new order exactly if they are a permutation of their places, and nothing else can
    fail. Any recipe gives the same on bare indices as on orders, or fails with the same error. What it gives is a
    permutation, and over any number of packets it reads each of them once and none besides, so that packets moved
    out of their places in that order are all there. It is recognized as arrival order exactly if it reads any
    number of packets as they arrived. Exchanging two positions twice leaves what is read as it was, even where the
    list has grown. -/
theorem bare_exact (r : OrderRecipe) :
    (∀ indices, (∃ o, BareOrder.new? indices = .ok o) ↔ indices.Perm (List.range indices.length)) ∧
    ((∃ o, r.bare = .ok o) ↔ r.given.Perm (List.range r.given.length)) ∧
    r.bare = r.order.map PacketOrder.bare ∧
    ∀ o, r.bare = .ok o → ∃ p, r.order = .ok p ∧ o.ReadsAs p ∧
      o.indices.Perm (List.range o.indices.length) ∧
      (∀ count i, (o.resolve count).count i = if i < count then 1 else 0) ∧
      (o.isNatural = true ↔ ∀ count, o.resolve count = List.range count) ∧
      (∀ a b count, ((o.swapped a b).swapped a b).resolve count = o.resolve count) ∧
      ∀ q : PacketQueue, BareOrder.moveOut? q.packets (o.resolve q.packets.length) = some (q.rearrange p).packets := by
  refine ⟨fun _ => BareOrder.exists_new?_iff, r.exists_bare_iff, r.bare_eq, ?_⟩
  intro o built
  obtain ⟨p, made, rfl⟩ := exists_order_of_bare built
  refine ⟨p, made, p.bare_readsAs, p.perm, p.count_resolve, ?_, BareOrder.resolve_swapped_swapped _,
    fun q => p.moveOut?_resolve q.packets⟩
  rw [p.bare_isNatural]
  exact PacketOrder.isNatural_iff_resolve

/-- The list grows up to the fourth place, where the index in the first place goes. -/
example : (swapped (new [1, 0]) 0 3).bare = .ok ⟨[3, 0, 2, 1]⟩ := by
  rfl

end OrderRecipe

end SensorLog

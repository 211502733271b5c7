import BlockHeap.Proofs.Estate.Basic
import BlockHeap.Proofs.Run.Sound

/-!
# The containers of an estate

The containers that were not dropped are `present`; `regions` are the regions of arenas among them, and `pools` the
numbers of the pools of sources. Most deeds leave the sources alone, and what was dropped: there each place `Stays`, and
so a block that has its owner there keeps it (`Backs.stays`). If no number occurs twice among the pools, no pool belongs
to two sources (`owner_unique`).
-/

namespace BlockHeap

/-! ## Pools of sources -/

namespace Source

theorem drop_eq (src : Source) (h : Heap) : src.drop h = src.poolNumbers.foldl Heap.dropPool h := by
  cases src <;> rfl

/-- The pools that serve requests are those of the source. -/
theorem poolOf_mem {src : Source} {bytes k : Nat} (h : src.poolOf bytes = some k) : k ∈ src.poolNumbers := by
  cases src with
  | pool j => simpa [poolOf, poolNumbers, eq_comm] using h
  | registry r =>
    by_cases hclass : SizeClass.fitting bytes = SizeClass.unclassed
    · have hroute := route_of_unclassed r hclass
      rw [route_eq, h] at hroute
      cases hroute
    · obtain ⟨i, hi, hroute, -⟩ := route_of_class r hclass
      rw [route_eq, h] at hroute
      obtain rfl : k = r.first + i := by simpa using hroute
      exact List.mem_map_of_mem (List.mem_range.mpr hi)

end Source

/-! ## Estates -/

namespace Container

/-- The mappings of containers other than pools. -/
def regions : Container → Multiset Mapping
  | .arena a _ => {a.region}
  | .source _ => 0

/-- The numbers of a container's pools. -/
def pools : Container → Multiset Nat
  | .arena .. => 0
  | .source src => src.poolNumbers

/-- An arena is sound, and its blocks in use are known. -/
def Sound : Container → Prop
  | .arena a live => a.held = live ∧ ∃ g, a.Sound g
  | .source _ => True

end Container

namespace Estate

variable {e e' e'' : Estate} {o o' : Nat} {c c' : Container} {u : Use}

/-- The containers that were not dropped. -/
def present (e : Estate) : Multiset Container := (e.containers.filterMap id : List Container)

/-- The regions of arenas. -/
def regions (e : Estate) : Multiset Mapping := e.present.bind Container.regions

/-- The numbers of the pools. -/
def pools (e : Estate) : Multiset Nat := e.present.bind Container.pools

/-- The blocks in use. -/
def blocks (e : Estate) : Multiset Block := (e.uses : Multiset Use).map Use.block

theorem container?_eq : e.container? o = some c ↔ e.containers[o]? = some (some c) := Option.join_eq_some_iff

theorem present_add (e : Estate) (c : Container) : (e.add c).present = c ::ₘ e.present := by
  rw [present, add, List.filterMap_append, ← Multiset.coe_add, add_comm]
  rfl

/-- One container and all the others. -/
theorem present_eq_cons (h : e.container? o = some c) : ∃ rest, e.present = c ::ₘ rest ∧
    (e.put o none).present = rest ∧ (∀ d, (e.put o (some d)).present = d ::ₘ rest) ∧
    ∀ o' d, o' ≠ o → e.container? o' = some d → d ∈ rest := by
  obtain ⟨hlen, hget⟩ := List.getElem?_eq_some_iff.mp (container?_eq.mp h)
  refine ⟨((e.containers.eraseIdx o).filterMap id : List _), ?_, ?_, fun d => ?_, fun o' d hne hd => ?_⟩
  · rw [present, ← Multiset.filterMap_coe, coe_eq_cons_eraseIdx hlen, hget,
      Multiset.filterMap_cons_some id (some c) _ rfl]
    rfl
  · rw [present, put, ← Multiset.filterMap_coe, coe_set_eq_cons_eraseIdx hlen,
      Multiset.filterMap_cons_none _ _ rfl]
    rfl
  · rw [present, put, ← Multiset.filterMap_coe, coe_set_eq_cons_eraseIdx hlen,
      Multiset.filterMap_cons_some id (some d) _ rfl]
    rfl
  · rw [Multiset.mem_coe, List.mem_filterMap]
    exact ⟨some d, List.mem_eraseIdx_iff_getElem?.mpr ⟨o', hne, container?_eq.mp hd⟩, rfl⟩

theorem mem_present (h : e.container? o = some c) : c ∈ e.present := by
  obtain ⟨rest, h1, -⟩ := present_eq_cons h
  rw [h1]
  exact Multiset.mem_cons_self _ _

/-- If there is a source in a place, or something was dropped there, it is still so. -/
def Stays (e e' : Estate) (o : Nat) : Prop :=
  ∀ c, e.containers[o]? = some c → (∀ a live, c ≠ some (.arena a live)) → e'.containers[o]? = some c

theorem Stays.refl (e : Estate) (o : Nat) : e.Stays e o := fun _ h _ => h

theorem Stays.trans (h : e.Stays e' o) (h' : e'.Stays e'' o) : e.Stays e'' o := fun c hc hn => h' c (h c hc hn) hn

theorem Stays.source {src : Source} (h : e.Stays e' o) (hc : e.container? o = some (.source src)) :
    e'.container? o = some (.source src) :=
  container?_eq.mpr (h _ (container?_eq.mp hc) fun _ _ he => Container.noConfusion (Option.some.inj he))

theorem stays_add (e : Estate) (c : Container) (o : Nat) : e.Stays (e.add c) o := by
  intro d hd _
  have hlt : o < e.containers.length := (List.getElem?_eq_some_iff.mp hd).1
  rw [add, List.getElem?_append_left hlt]
  exact hd

/-- Changing an arena, or taking one away, is nothing to sources. -/
theorem stays_put {a : Arena} {live : List Nat} (h : e.container? o = some (.arena a live)) (c : Option Container)
    (o' : Nat) : e.Stays (e.put o c) o' := by
  intro d hd hn
  by_cases ho : o = o'
  · subst ho
    rw [container?_eq.mp h] at hd
    exact absurd (Option.some.inj hd).symm (hn a live)
  · rw [put, List.getElem?_set_ne ho]
    exact hd

theorem stays_put_of_ne (h : o' ≠ o) (c : Option Container) : e.Stays (e.put o c) o' := by
  intro d hd _
  rw [put, List.getElem?_set_ne h.symm]
  exact hd

/-- A block is from its owner, or has a mapping of its own and outlived its owner. -/
def Backs (e : Estate) (u : Use) : Prop :=
  (∃ src, e.container? u.owner = some (.source src) ∧ u.block.pool = src.poolOf u.block.bytes) ∨
    (e.containers[u.owner]? = some none ∧ u.block.pool = none)

theorem Backs.stays (h : e.Backs u) (hs : e.Stays e' u.owner) : e'.Backs u := by
  rcases h with ⟨src, h1, h2⟩ | ⟨h1, h2⟩
  · exact .inl ⟨src, hs.source h1, h2⟩
  · exact .inr ⟨hs none h1 fun _ _ => (Option.some_ne_none _).symm, h2⟩

/-- No pool belongs to two sources. -/
theorem owner_unique {src src' : Source} {k : Nat} (hnodup : e.pools.Nodup) (h : e.container? o = some (.source src))
    (h' : e.container? o' = some (.source src')) (hk : k ∈ src.poolNumbers) (hk' : k ∈ src'.poolNumbers) : o' = o := by
  by_contra hne
  obtain ⟨rest, h1, -, -, h2⟩ := present_eq_cons h
  rw [pools, h1, Multiset.cons_bind] at hnodup
  exact Multiset.disjoint_left.mp (Multiset.nodup_add.mp hnodup).2.2 hk
    (Multiset.mem_bind.mpr ⟨_, h2 o' _ hne h', hk'⟩)

/-! ## Sources come and go -/

theorem pools_add (e : Estate) (c : Container) : (e.add c).pools = c.pools + e.pools := by
  rw [pools, present_add, Multiset.cons_bind, pools]

theorem regions_add (e : Estate) (c : Container) : (e.add c).regions = c.regions + e.regions := by
  rw [regions, present_add, Multiset.cons_bind, regions]

/-- Taking a source away takes its pools away, and no region. -/
theorem forget_source {src : Source} (h : e.container? o = some (.source src)) :
    e.pools = (src.poolNumbers : Multiset Nat) + (e.forget o).pools ∧ (e.forget o).regions = e.regions ∧
      ∀ d, d ∈ (e.forget o).present → d ∈ e.present := by
  obtain ⟨rest, h1, h2, -, -⟩ := present_eq_cons h
  have h3 : (e.forget o).present = rest := h2
  rw [pools, pools, regions, regions, h1, h3, Multiset.cons_bind, Multiset.cons_bind]
  exact ⟨rfl, (zero_add _).symm, fun d hd => Multiset.mem_cons_of_mem hd⟩

/-- Taking a source away leaves a gap. -/
theorem getElem?_forget (h : e.container? o = some c) : (e.forget o).containers[o]? = some none :=
  List.getElem?_set_self (List.getElem?_eq_some_iff.mp (container?_eq.mp h)).1

end Estate

end BlockHeap

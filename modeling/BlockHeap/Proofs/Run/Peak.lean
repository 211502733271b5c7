import BlockHeap.Proofs.Heap.Exhausted
import BlockHeap.Proofs.Run.Saturate
import Mathlib.Data.Multiset.Lattice
import Mathlib.Order.Lattice.Nat
import Mathlib.Order.Nat

/-!
# The number of arenas follows the peak

An operation is *plain* when no others are carried out during it. After any plain operations on a pool, whatever
mappings the operating system refused, the pool has as many arenas as are needed for its peak, the largest number of
blocks that were in use at once (`run_follows_peak`): it asks for a new arena only when all blocks of all arenas are in
use, and a growth that fails leaves nothing behind. The invariant of single operations is `Process.Peaked`.
-/

namespace BlockHeap

/-! ## Plain operations -/

/-- What others do in the meantime. -/
def Answer.meanwhile : Answer → List Op
  | .mk ops _ => ops

/-- No other operations are carried out during this one. -/
def Op.Plain : Op → Prop
  | .allocate _ maps grown => (∀ a ∈ maps, a.meanwhile = []) ∧ ∀ ops ∈ grown, ops = []
  | .deallocate .. => True

/-- The largest number of blocks that were in use at once. -/
def Ledger.peak (l : Ledger) : Nat := ((l.past : Multiset Moment).map (·.live.length)).sup

/-- More moments were recorded, with the same blocks in use. -/
structure Ledger.Noted (l l' : Ledger) : Prop where
  live : l'.live = l.live
  past : ∃ ms : List Moment, l'.past = l.past ++ ms ∧ ∀ m ∈ ms, m.live = l.live

instance : IsPreorder Ledger Ledger.Noted where
  refl l := ⟨rfl, [], by simp, by simp⟩
  trans := by
    rintro l l' l'' ⟨h1, ms, h2, h3⟩ ⟨k1, ns, k2, k3⟩
    refine ⟨k1.trans h1, ms ++ ns, by rw [k2, h2, List.append_assoc], fun m hm => ?_⟩
    rcases List.mem_append.mp hm with hm | hm
    · exact h3 m hm
    · exact (k3 m hm).trans h1

/-- Recording the present moment leaves the heap alone. -/
theorem Process.record_idle : Interlude.Idle Ledger.Noted Process.record :=
  fun s => ⟨rfl, rfl, [⟨s.1, s.2.live⟩], rfl, by simp⟩

/-- The peak after recording the present moment. -/
theorem Process.peak_record (s : Process) : s.record.2.peak = max s.2.peak s.2.live.length := by
  simp [Ledger.peak, record, ← Multiset.coe_add, Multiset.sup_add]

/-- Recording moments with the same blocks in use does not change the peak. -/
theorem Ledger.Noted.peak {l l' : Ledger} (h : l.Noted l') (hle : l.live.length ≤ l.peak) : l'.peak = l.peak := by
  obtain ⟨ms, hpast, hms⟩ := h.past
  have hnew : ((ms : Multiset Moment).map (·.live.length)).sup ≤ l.peak := by
    apply Multiset.sup_le.mpr
    intro n hn
    obtain ⟨m, hm, rfl⟩ := Multiset.mem_map.mp hn
    rw [hms m hm]
    exact hle
  rw [Ledger.peak, hpast, ← Multiset.coe_add, Multiset.map_add, Multiset.sup_add]
  exact sup_eq_left.mpr hnew

/-- An allocation with given answers of the operating system, during which others carry out given operations. -/
def Process.ask (src : Source) (s : Process) (bytes : Nat) (maps : List Answer) (grown : List (List Op)) :
    Except Failure Nat × Call Ledger :=
  src.allocate ⟨s.1, s.2, decisions src maps, interludes src grown, #[]⟩ bytes

theorem Op.run_allocate (src : Source) (s : Process) (bytes : Nat) (maps : List Answer) (grown : List (List Op)) :
    (Op.allocate bytes maps grown).run src s = (Process.settle src bytes (s.ask src bytes maps grown)).record := by
  rw [Op.run, Process.ask]

/-- During a plain operation nobody disturbs. -/
theorem Op.Plain.undisturbed {src : Source} {bytes : Nat} {maps : List Answer} {grown : List (List Op)}
    (h : (Op.allocate bytes maps grown).Plain) (s : Process) :
    Call.Undisturbed Ledger.Noted ⟨s.1, s.2, decisions src maps, interludes src grown, #[]⟩ := by
  obtain ⟨hmaps, hgrown⟩ := h
  constructor
  · change ∀ d ∈ decisions src maps, _
    clear hgrown
    induction maps with
    | nil =>
      rw [decisions]
      exact fun _ hd => nomatch hd
    | cons a maps ih =>
      obtain ⟨ops, refuse⟩ := a
      obtain rfl : ops = [] := hmaps _ List.mem_cons_self
      rw [decisions, Answer.decision]
      intro d hd
      rcases List.mem_cons.mp hd with rfl | hd
      · simp only [runAll]
        exact Process.record_idle
      · exact ih (fun a ha => hmaps a (List.mem_cons_of_mem _ ha)) d hd
  · change ∀ f ∈ interludes src grown, _
    clear hmaps
    induction grown with
    | nil =>
      rw [interludes]
      exact fun _ hf => nomatch hf
    | cons ops grown ih =>
      obtain rfl : ops = [] := hgrown _ List.mem_cons_self
      rw [interludes]
      intro f hf
      rcases List.mem_cons.mp hf with rfl | hf
      · simp only [runAll]
        exact Process.record_idle
      · exact ih (fun ops hops => hgrown ops (List.mem_cons_of_mem _ hops)) f hf

namespace Process

variable {h₀ : Heap} {k : Nat} {g : Arena.Geometry} {s t : Process}

/-- The process of a lone pool: nobody else's slots are claimed. -/
abbrev Orderly (h₀ : Heap) (k : Nat) (s : Process) : Prop :=
  s.Sound (.pool k) h₀ (fun _ => []) h₀.os.space.live

/-- All blocks in use are from the pool. -/
theorem Orderly.length_live (hs : s.Orderly h₀ k) : s.2.live.length = (s.1.pool k).held.card := by
  rw [← hs.liveOf_eq k, liveOf, eq_comm, List.countP_eq_length]
  intro b hb
  exact decide_eq_true (hs.routed b hb)

theorem Orderly.length_live_le (hs : s.Orderly h₀ k)
    (hg : Arena.Geometry.ofBlockSize (s.1.pool k).blockSize = .ok g) :
    s.2.live.length ≤ (s.1.pool k).count * g.blockCount := by
  have hcard := (hs.heap.pools k).slots.card_arenas
  rw [hs.length_live]
  calc
    (s.1.pool k).held.card ≤ (s.1.pool k).grid.card := Multiset.card_le_card (hs.heap.pools k).held_le_grid
    _ = (s.1.pool k).arenas.card * g.blockCount := (hs.heap.pools k).card_grid hg
    _ ≤ (s.1.pool k).count * g.blockCount := Nat.mul_le_mul_right _ (by omega)

/-- All blocks of all arenas are in use. -/
theorem Orderly.exists_live (hs : s.Orderly h₀ k) (hg : Arena.Geometry.ofBlockSize (s.1.pool k).blockSize = .ok g)
    (hfull : (s.1.pool k).held = (s.1.pool k).grid) {r : Resident Arena} (hr : r ∈ (s.1.pool k).published) {i : Nat}
    (hi : i < g.blockCount) : ∃ b ∈ s.2.live, b.address = r.value.base + i * g.blockSize := by
  obtain ⟨b, hb, -, haddress⟩ := hs.heap.exists_block_of_full hg hfull hr hi
  exact ⟨b, Multiset.mem_coe.mp hb, haddress⟩

/-! ## The invariant -/

/-- Every counted slot has an arena, and there are as many as the peak needs, which the present blocks do not exceed. -/
structure Peaked (k : Nat) (g : Arena.Geometry) (s : Process) : Prop where
  holes : (s.1.pool k).holes = 0
  count : (s.1.pool k).count = Size.ceilDiv s.2.peak g.blockCount
  live_le : s.2.live.length ≤ s.2.peak

/-- The moment after an operation: the number of arenas stays, or goes up by one because it must. -/
theorem Peaked.next (hs : s.Peaked k g) (hnb : 0 < g.blockCount) (hpeak : t.2.peak = s.2.peak)
    (hholes : (t.1.pool k).holes = 0) (hle : t.2.live.length ≤ (t.1.pool k).count * g.blockCount)
    (hcount : (t.1.pool k).count = (s.1.pool k).count ∨
      (t.1.pool k).count = (s.1.pool k).count + 1 ∧ (s.1.pool k).count * g.blockCount < t.2.live.length) :
    t.record.Peaked k g := by
  have hold : s.2.peak ≤ (s.1.pool k).count * g.blockCount := by
    rw [← Size.ceilDiv_le_iff hnb]
    exact Nat.le_of_eq hs.count.symm
  have hmono : (s.1.pool k).count * g.blockCount ≤ (t.1.pool k).count * g.blockCount :=
    Nat.mul_le_mul_right _ (by omega)
  constructor
  · exact hholes
  · rw [peak_record, hpeak]
    apply Nat.le_antisymm
    · rcases hcount with hcount | ⟨hcount, hlt⟩
      · rw [show (t.record.1.pool k).count = (s.1.pool k).count from hcount, hs.count]
        exact Size.ceilDiv_mono (Nat.le_max_left _ _)
      · rw [show (t.record.1.pool k).count = (s.1.pool k).count + 1 from hcount, Nat.succ_le_iff, ← Nat.not_le,
          Size.ceilDiv_le_iff hnb]
        omega
    · rw [Size.ceilDiv_le_iff hnb]
      exact max_le (hold.trans hmono) hle
  · rw [peak_record]
    exact Nat.le_max_right _ _

/-! ## Single operations -/

theorem Orderly.call_sound (hs : s.Orderly h₀ k) (maps : List Answer) (grown : List (List Op)) :
    Call.Sound (.pool k) h₀ ⟨s.1, s.2, decisions (.pool k) maps, interludes (.pool k) grown, #[]⟩ (fun _ => [])
      h₀.os.space.live :=
  ⟨hs, decisions_orderly maps, interludes_orderly grown⟩

/-- What comes of a plain allocation. -/
theorem Orderly.ask_decided (hs : s.Orderly h₀ k) {bytes : Nat} {maps : List Answer} {grown : List (List Op)}
    (hplain : (Op.allocate bytes maps grown).Plain) :
    Call.Decided Ledger.Noted ⟨s.1, s.2, decisions (.pool k) maps, interludes (.pool k) grown, #[]⟩ k
      (s.ask (.pool k) bytes maps grown) :=
  (hs.call_sound maps grown).allocate_undisturbed (hplain.undisturbed s) k

/-- **A plain allocation** keeps the number of arenas in step with the peak. -/
theorem Peaked.allocate (hp : s.Peaked k g) (hs : s.Orderly h₀ k)
    (hg : Arena.Geometry.ofBlockSize (s.1.pool k).blockSize = .ok g) {bytes : Nat} {maps : List Answer}
    {grown : List (List Op)} (hplain : (Op.allocate bytes maps grown).Plain) :
    ((Op.allocate bytes maps grown).run (.pool k) s).Peaked k g := by
  have hnb := (Arena.Geometry.ofBlockSize_fits hg).2.blockCount_pos
  have hsound : (settle (.pool k) bytes (s.ask (.pool k) bytes maps grown)).Orderly h₀ k :=
    ((hs.call_sound maps grown).source_allocate bytes).settle
  have hle := hsound.length_live_le (g := g) ((hs.pool_alike hsound k).1 ▸ hg)
  have hdecided := hs.ask_decided hplain
  rw [Op.run_allocate]
  generalize s.ask (.pool k) bytes maps grown = r at hdecided hle ⊢
  cases hdecided with
  | found htake hkept =>
    have hkept' := Heap.kept_setPool hkept k
    exact hp.next hnb rfl (hkept'.holes.trans hp.holes) hle (.inl hkept'.count)
  | exhausted hfull hlimit hkept hrest hheap =>
    have hkept' := Heap.kept_setPool hkept k
    rw [← hheap] at hkept'
    exact hp.next hnb (congrArg Ledger.peak hrest) (hkept'.holes.trans hp.holes) hle (.inl hkept'.count)
  | @grown x c hfull hlimit hrest hcount hholes =>
    have hcard := (hs.heap.pools k).slots.card_arenas
    rw [hp.holes, Nat.add_zero] at hcard
    have hlive : s.2.live.length = (s.1.pool k).count * g.blockCount := by
      rw [hs.length_live, hfull, (hs.heap.pools k).card_grid hg, hcard]
    refine hp.next hnb (hrest.peak hp.live_le) (hholes.trans hp.holes) hle (.inr ⟨hcount, ?_⟩)
    change _ < (c.rest.live ++ [_]).length
    rw [List.length_append, hrest.live, List.length_singleton, ← hlive]
    exact Nat.lt_succ_self _
  | refused hfull hlimit hlogged hrest hkept =>
    exact hp.next hnb (hrest.peak hp.live_le) (hkept.holes.trans hp.holes) hle (.inl hkept.count)

/-- **Giving a block back** changes neither the arenas nor the peak. -/
theorem Peaked.deallocate (hp : s.Peaked k g) (hs : s.Orderly h₀ k)
    (hg : Arena.Geometry.ofBlockSize (s.1.pool k).blockSize = .ok g) (i bytes : Nat) :
    ((Op.deallocate i bytes).run (.pool k) s).Peaked k g := by
  have hnb := (Arena.Geometry.ofBlockSize_fits hg).2.blockCount_pos
  have hsame : s.record.Peaked k g := hp.next hnb rfl hp.holes (hs.length_live_le hg) (.inl rfl)
  have hsound := hs.giveBack i bytes
  have hle := Orderly.length_live_le (g := g) hsound ((hs.pool_alike hsound k).1 ▸ hg)
  rw [Op.run]
  unfold giveBack at hle ⊢
  split
  · exact hsame
  · rename_i b hb
    have haccepts : (Source.pool k).accepts b.bytes bytes = true := rfl
    obtain ⟨c, hc, hrest, hkept, -⟩ := hs.deallocate_spec hb haccepts
    simp only [hb, haccepts, if_true, hc] at hle ⊢
    have hpeak : c.rest.peak = s.2.peak := congrArg Ledger.peak hrest
    exact hp.next hnb hpeak ((hkept k).holes.trans hp.holes) hle (.inl (hkept k).count)

/-- **Plain operations** keep the number of arenas in step with the peak. -/
theorem Peaked.runAll (ops : List Op) : ∀ {s : Process}, s.Peaked k g → s.Orderly h₀ k →
    Arena.Geometry.ofBlockSize (s.1.pool k).blockSize = .ok g → (∀ op ∈ ops, op.Plain) →
    (runAll (.pool k) ops s).Peaked k g := by
  induction ops with
  | nil =>
    intro s hp _ _ _
    rw [BlockHeap.runAll]
    exact hp
  | cons op ops ih =>
    intro s hp hs hg hplain
    have hsound : (op.run (.pool k) s).Orderly h₀ k := op.run_sound hs
    have hnext : (op.run (.pool k) s).Peaked k g := by
      cases op with
      | allocate bytes maps grown => exact hp.allocate hs hg (hplain _ List.mem_cons_self)
      | deallocate i bytes => exact hp.deallocate hs hg i bytes
    rw [BlockHeap.runAll]
    apply ih hnext hsound ((hs.pool_alike hsound k).1 ▸ hg)
    exact fun op hop => hplain op (List.mem_cons_of_mem _ hop)

/-- Before the first operation there are no arenas. -/
theorem Peaked.start (hfresh : h₀.Fresh) (hk : k < h₀.pools.size) (g : Arena.Geometry) :
    (start h₀).Peaked k g := by
  obtain ⟨hcount, -⟩ := hfresh.pool_start hk
  constructor
  · simp [Process.start, Pool.holes, hcount]
  · simp [Process.start, hcount, Ledger.peak, Size.ceilDiv]
  · simp [Process.start]

end Process

/-- **The number of arenas follows the peak.** After any plain operations on a pool that was just built, the pool counts
and has as many arenas as are needed for the largest number of blocks that were in use at once. A further allocation
turns to the operating system only when all blocks of all arenas are in use, and does not change the number of arenas
when it fails. -/
theorem run_follows_peak {h₀ : Heap} (hfresh : h₀.Fresh) {k : Nat} (hk : k < h₀.pools.size) (ops : List Op)
    (hplain : ∀ op ∈ ops, op.Plain) :
    ∃ g, Arena.Geometry.ofBlockSize (h₀.pool k).blockSize = .ok g ∧
      let s := runAll (.pool k) ops (Process.start h₀)
      (s.1.pool k).count = Size.ceilDiv s.2.peak g.blockCount ∧
      (s.1.pool k).published.length = Size.ceilDiv s.2.peak g.blockCount ∧
      ∀ bytes maps grown, (Op.allocate bytes maps grown).Plain →
        ((s.ask (.pool k) bytes maps grown).2.heap.os ≠ s.1.os → ∀ r ∈ (s.1.pool k).published,
          ∀ i < g.blockCount, ∃ b ∈ s.2.live, b.address = r.value.base + i * g.blockSize) ∧
        ∀ f, (s.ask (.pool k) bytes maps grown).1 = .error f →
          ((s.ask (.pool k) bytes maps grown).2.heap.pool k).count = (s.1.pool k).count ∧
          ((s.ask (.pool k) bytes maps grown).2.heap.pool k).published.length = (s.1.pool k).published.length := by
  obtain ⟨-, g, hg⟩ := hfresh.pool_start hk
  refine ⟨g, hg, ?_⟩
  intro s
  have hs : s.Orderly h₀ k := hfresh.run_sound _ ops
  have hg' : Arena.Geometry.ofBlockSize (s.1.pool k).blockSize = .ok g := (hs.alike.pool k).blockSize ▸ hg
  have hp : s.Peaked k g := (Process.Peaked.start hfresh hk g).runAll ops hfresh.start_sound hg hplain
  have hcard := (hs.heap.pools k).slots.card_arenas
  rw [hp.holes, Nat.add_zero] at hcard
  refine ⟨hp.count, hcard.trans hp.count, fun bytes maps grown hplain => ?_⟩
  have hdecided := hs.ask_decided hplain
  generalize s.ask (.pool k) bytes maps grown = r at hdecided ⊢
  cases hdecided with
  | found htake hkept => exact ⟨fun hos => absurd rfl hos, fun _ he => nomatch he⟩
  | exhausted hfull hlimit hkept hrest hheap =>
    have hkept' := Heap.kept_setPool hkept k
    rw [← hheap] at hkept'
    exact ⟨fun _ r hr i => hs.exists_live hg' hfull hr, fun _ _ => ⟨hkept'.count, hkept'.card_arenas⟩⟩
  | grown hfull => exact ⟨fun _ r hr i => hs.exists_live hg' hfull hr, fun _ he => nomatch he⟩
  | refused hfull hlimit hlogged hrest hkept =>
    exact ⟨fun _ r hr i => hs.exists_live hg' hfull hr, fun _ _ => ⟨hkept.count, hkept.card_arenas⟩⟩

/-- An arena is used up, two growths fail at the first and at the second mapping, a block is given back and taken again,
and then another arena is needed. -/
def refusedRun : List Op :=
  List.replicate 15 (.allocate 1 [] []) ++
    [.allocate 1 [.mk [] true] [], .allocate 1 [.mk [] false, .mk [] true] [], .deallocate 3 1, .allocate 1 [] [],
      .allocate 1 [] []]

theorem run_follows_peak_refused :
    let h := (Heap.onOs .standard).addPools [threeArenas]
    let s := runAll (.pool 0) refusedRun (Process.start h)
    h.Fresh ∧ 0 < h.pools.size ∧ (∀ op ∈ refusedRun, op.Plain) ∧ s.2.peak = 16 ∧ (s.1.pool 0).count = 2 ∧
      (s.1.pool 0).published.length = 2 ∧
      (((s.ask (.pool 0) 1 [.mk [] true] []).2.heap.pool 0).count = 2) := by
  intro h s
  have hplain : ∀ op ∈ refusedRun, op.Plain := by
    simp [refusedRun, Op.Plain, Answer.meanwhile]
  obtain ⟨g, hg, hcount, hlength, -⟩ := run_follows_peak threeArenas_fresh (k := 0) (by decide) refusedRun hplain
  have hpeak : s.2.peak = 16 := by decide +kernel
  have hneeded : Size.ceilDiv s.2.peak g.blockCount = 2 := by
    rw [hpeak, blockCount_greatest hg]
    decide
  exact ⟨threeArenas_fresh, by decide, hplain, hpeak, hcount.trans hneeded, hlength.trans hneeded, by decide +kernel⟩

end BlockHeap

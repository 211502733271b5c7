import BlockHeap.Proofs.FreeMap.Exact

/-!
# Free maps implement sets of blocks

The reference is `FreeSet`: a set of blocks and a counter of searches, which goes round at `2 ^ 64`. `release` adds a
block, `claim` removes the smallest block of the first region that has one, in cyclic order from the region that the
counter points at. A free map that starts empty answers every list of requests as the set does, and its bits are those
of the set after each of them (`serveAll_mirrors`).
-/

namespace BlockHeap

/-- A set of free blocks, and the number of searches so far. -/
structure FreeSet where
  members : Finset Nat
  searches : Nat
  deriving DecidableEq

/-- What can be asked of free maps and of sets of free blocks. -/
inductive FreeMap.Request where
  /-- Gives a block back. -/
  | release (i : Nat)
  /-- Takes a block. -/
  | claim

namespace FreeSet

open FreeMap (Request choice)

/-- No block is free, and there was no search. -/
def empty : FreeSet := ⟨∅, 0⟩

/-- Adds a block. -/
def release (s : FreeSet) (blockCount i : Nat) : Except Fault Unit × FreeSet :=
  if blockCount ≤ i then (.error .blockOutOfRange, s)
  else if i ∈ s.members then (.error .alreadyFree, s)
  else (.ok (), { s with members := insert i s.members })

/-- Removes a block. -/
def claim (s : FreeSet) (regions : Nat) : Option Nat × FreeSet :=
  let searches := (s.searches + 1) % 2 ^ 64
  match choice s.members regions (s.searches % regions) with
  | none => (none, { s with searches })
  | some i => (some i, ⟨s.members.erase i, searches⟩)

/-- Serves a request; giving a block back is answered by nothing. -/
def serve (s : FreeSet) (blockCount regions : Nat) : Request → Except Fault (Option Nat) × FreeSet
  | .release i => ((s.release blockCount i).1.map fun _ => none, (s.release blockCount i).2)
  | .claim => (.ok (s.claim regions).1, (s.claim regions).2)

/-- Serves requests in order. A fault does not stop the later ones. -/
def serveAll (s : FreeSet) (blockCount regions : Nat) : List Request → List (Except Fault (Option Nat)) × FreeSet
  | [] => ([], s)
  | q :: qs =>
    let r := s.serve blockCount regions q
    let rest := r.2.serveAll blockCount regions qs
    (r.1 :: rest.1, rest.2)

end FreeSet

namespace FreeMap

/-- Serves a request; giving a block back is answered by nothing. -/
def serve (m : FreeMap) : Request → Except Fault (Option Nat) × FreeMap
  | .release i => ((m.release i).1.map fun _ => none, (m.release i).2)
  | .claim => m.claim

/-- Serves requests in order. A fault does not stop the later ones. -/
def serveAll (m : FreeMap) : List Request → List (Except Fault (Option Nat)) × FreeMap
  | [] => ([], m)
  | q :: qs =>
    let r := m.serve q
    let rest := r.2.serveAll qs
    (r.1 :: rest.1, rest.2)

/-- The bits of a free map are those of a set of blocks: each word has the bits of its members, each summary word those
of the regions with members, and no others. -/
structure Mirrors (m : FreeMap) (s : FreeSet) : Prop where
  searches : m.searches.toNat = s.searches
  lt_blockCount : ∀ i ∈ s.members, i < m.blockCount
  words : ∀ w (hw : w < m.shape.wordCount) (b : Nat), b < 64 →
    (Word.has m.words[w] b = true ↔ w * 64 + b ∈ s.members)
  summary : ∀ w (hw : w < m.shape.summaryCount) (b : Nat), b < 64 →
    (Word.has m.summary[w] b = true ↔
      w * 64 + b < m.shape.regionCount ∧ ∃ i ∈ s.members, i / 4096 = w * 64 + b)
  hasFree : m.hasFree = true ↔ s.members.Nonempty

/-- The set of a free map. -/
def toSet (m : FreeMap) : FreeSet := ⟨m.freeSet, m.searches.toNat⟩

/-- An exact free map has the bits of its set. -/
theorem Exact.mirrors {m : FreeMap} (hm : m.Exact) : m.Mirrors m.toSet where
  searches := rfl
  lt_blockCount i hi := hm.lt_blockCount i (mem_freeSet.mp hi)
  words w hw b hb := by
    rw [← isFree_word m hw hb]
    exact mem_freeSet.symm
  summary w hw b hb := by
    rw [← isMarked_word m hw hb, hm.isMarked_iff]
    constructor
    · rintro ⟨i, hi, hf⟩
      exact ⟨hi ▸ region_lt_of_isFree hf, i, mem_freeSet.mpr hf, hi⟩
    · rintro ⟨-, i, hf, hi⟩
      exact ⟨i, hi, mem_freeSet.mp hf⟩
  hasFree := hm.hasFree_iff

/-- Giving a block back means the same to an exact free map and to its set. -/
theorem Exact.release_toSet {m : FreeMap} (hm : m.Exact) (i : Nat) :
    (m.release i).1 = (m.toSet.release m.blockCount i).1 ∧ (m.release i).2.Exact ∧
      (m.release i).2.toSet = (m.toSet.release m.blockCount i).2 ∧ m.Alike (m.release i).2 := by
  rw [FreeSet.release]
  by_cases hle : m.blockCount ≤ i
  · rw [if_pos hle, release_of_le hle]
    exact ⟨rfl, hm, rfl, rfl, rfl⟩
  · have hlt := Nat.lt_of_not_le hle
    rw [if_neg hle]
    by_cases hmem : i ∈ m.freeSet
    · rw [if_pos (show i ∈ m.toSet.members from hmem), release_of_isFree hlt (mem_freeSet.mp hmem)]
      exact ⟨rfl, hm, rfl, rfl, rfl⟩
    · obtain ⟨n, h1, h2, h3, h4, h5⟩ := release_spec hm hlt hmem
      rw [if_neg (show i ∉ m.toSet.members from hmem), h1]
      refine ⟨rfl, h2, ?_, h4⟩
      rw [toSet, h3, h5]
      rfl

/-- Taking a block means the same to an exact free map and to its set. -/
theorem Exact.claim_toSet {m : FreeMap} (hm : m.Exact) :
    m.claim.1 = .ok (m.toSet.claim m.shape.regionCount).1 ∧ m.claim.2.Exact ∧
      m.claim.2.toSet = (m.toSet.claim m.shape.regionCount).2 ∧ m.Alike m.claim.2 := by
  have hstart : m.toSet.searches % m.shape.regionCount = m.startRegion := rfl
  have hsucc : (m.searches + 1).toNat = (m.searches.toNat + 1) % 2 ^ 64 := UInt64.toNat_add _ _
  rw [FreeSet.claim, hstart]
  rcases m.freeSet.eq_empty_or_nonempty with hempty | hne
  · have hnone : choice m.toSet.members m.shape.regionCount m.startRegion = none := by
      rw [toSet, hempty]
      exact (choice_eq_none_iff (startRegion_lt m) (by simp)).mpr rfl
    rw [claim_of_empty hm hempty, hnone]
    refine ⟨rfl, hm.searched, ?_, rfl, rfl⟩
    rw [toSet, FreeMap.searched, hsucc]
    rfl
  · obtain ⟨i, n, h1, h2, -, h4, h5, h6, h7⟩ := claim_spec hm hne
    rw [h1, show choice m.toSet.members m.shape.regionCount m.startRegion = some i from h2]
    refine ⟨rfl, h4, ?_, h6⟩
    rw [toSet, h5, h7, hsucc]
    rfl

/-- **One request**: an exact free map answers as its set does, and becomes the free map of what the set becomes. -/
theorem Exact.serve_toSet {m : FreeMap} (hm : m.Exact) (q : Request) :
    (m.serve q).1 = (m.toSet.serve m.blockCount m.shape.regionCount q).1 ∧ (m.serve q).2.Exact ∧
      (m.serve q).2.toSet = (m.toSet.serve m.blockCount m.shape.regionCount q).2 ∧ m.Alike (m.serve q).2 := by
  cases q with
  | release i =>
    obtain ⟨h1, h2, h3, h4⟩ := hm.release_toSet i
    exact ⟨by rw [serve, FreeSet.serve, h1], h2, h3, h4⟩
  | claim =>
    obtain ⟨h1, h2, h3, h4⟩ := hm.claim_toSet
    exact ⟨h1, h2, h3, h4⟩

/-- **All requests**: the same for a list of requests. -/
theorem Exact.serveAll_toSet (qs : List Request) : ∀ {m : FreeMap}, m.Exact →
    (m.serveAll qs).1 = (m.toSet.serveAll m.blockCount m.shape.regionCount qs).1 ∧ (m.serveAll qs).2.Exact ∧
      (m.serveAll qs).2.toSet = (m.toSet.serveAll m.blockCount m.shape.regionCount qs).2 ∧
      m.Alike (m.serveAll qs).2 := by
  induction qs with
  | nil => intro m hm; exact ⟨rfl, hm, rfl, rfl, rfl⟩
  | cons q qs ih =>
    intro m hm
    obtain ⟨h1, h2, h3, h4⟩ := hm.serve_toSet q
    obtain ⟨k1, k2, k3, k4⟩ := ih h2
    rw [h3, h4.shape, h4.blockCount] at k1 k3
    refine ⟨?_, k2, k3, h4.trans k4⟩
    simp only [serveAll, FreeSet.serveAll, h1, k1]

/-- A request that ends in a fault changes nothing. -/
theorem Exact.release_of_error {m : FreeMap} (hm : m.Exact) {i : Nat} {f : Fault} (h : (m.release i).1 = .error f) :
    (m.release i).2 = m := by
  by_cases hle : m.blockCount ≤ i
  · rw [release_of_le hle]
  · by_cases hmem : i ∈ m.freeSet
    · rw [release_of_isFree (Nat.lt_of_not_le hle) (mem_freeSet.mp hmem)]
    · obtain ⟨n, h1, -⟩ := release_spec hm (Nat.lt_of_not_le hle) hmem
      rw [h1] at h
      cases h

/-- The set of a free map has a block to give unless it is empty. -/
theorem claim_eq_none_iff (m : FreeMap) :
    (m.toSet.claim m.shape.regionCount).1 = none ↔ m.toSet.members = ∅ := by
  have hlt : ∀ i ∈ m.freeSet, i / blocksPerRegion < m.shape.regionCount := fun i hi =>
    region_lt_of_isFree (mem_freeSet.mp hi)
  have hiff := choice_eq_none_iff (startRegion_lt m) hlt
  rw [show m.toSet.members = m.freeSet from rfl, ← hiff, FreeSet.claim]
  rw [show m.toSet.searches % m.shape.regionCount = m.startRegion from rfl,
    show m.toSet.members = m.freeSet from rfl]
  cases choice m.freeSet m.shape.regionCount m.startRegion <;> simp

/-- **Free maps implement sets of blocks.** A fresh free map of the smallest shape for `n` blocks, used for up to `n`
blocks, answers every list of requests as the empty set does; afterwards its bits are those of the set that the requests
lead to, in which a search finds nothing only when it is empty, and a block that cannot be given back changes
nothing. -/
theorem serveAll_mirrors {n blockCount : Nat} (hn : 1 ≤ n) (hle : blockCount ≤ n) (qs : List Request) :
    ∃ s m, Shape.ofBlocks n = .ok s ∧ create s blockCount = .ok m ∧
      (m.serveAll qs).1 = (FreeSet.empty.serveAll blockCount s.regionCount qs).1 ∧
      (m.serveAll qs).2.Mirrors (FreeSet.empty.serveAll blockCount s.regionCount qs).2 ∧
      (((FreeSet.empty.serveAll blockCount s.regionCount qs).2.claim s.regionCount).1 = none ↔
        (FreeSet.empty.serveAll blockCount s.regionCount qs).2.members = ∅) ∧
      ∀ i f, ((m.serveAll qs).2.release i).1 = .error f → ((m.serveAll qs).2.release i).2 = (m.serveAll qs).2 := by
  have hpos : 0 < Size.ceilDiv n bitsPerWord := Shape.ceilDiv_pos hn (by decide)
  have hfit : blockCount ≤ Size.ceilDiv n bitsPerWord * bitsPerWord := by
    have hword : 0 < bitsPerWord := by decide
    exact Nat.le_trans hle (Size.le_roundUp hword n)
  obtain ⟨m, h1, h2, h3, h4, h5, h6⟩ := create_spec (s := ⟨Size.ceilDiv n bitsPerWord, hpos⟩) hfit
  have hempty : m.toSet = FreeSet.empty := by
    rw [toSet, h3, h6]
    rfl
  obtain ⟨k1, k2, k3, k4⟩ := Exact.serveAll_toSet qs h2
  rw [hempty, h5, h4] at k1 k3
  refine ⟨_, m, dif_pos hn, h1, k1, ?_, ?_, fun i f => k2.release_of_error⟩
  · rw [← k3]
    exact k2.mirrors
  · have hnone := claim_eq_none_iff (m.serveAll qs).2
    rwa [k3, k4.shape, h4] at hnone

/-- Blocks of two regions are given back, one of them twice, and taken again; another one does not exist. -/
theorem serveAll_mirrors_two_regions :
    1 ≤ 5000 ∧ 4999 ≤ 5000 ∧
      ∃ s m, Shape.ofBlocks 5000 = .ok s ∧ create s 4999 = .ok m ∧
        (m.serveAll [.release 7, .release 4998, .release 7, .claim, .release 4999, .claim, .claim]).1 =
          [.ok none, .ok none, .error .alreadyFree, .ok (some 7), .error .blockOutOfRange, .ok (some 4998), .ok none] ∧
        (m.serveAll
          [.release 7, .release 4998, .release 7, .claim, .release 4999, .claim, .claim]).2.Mirrors ⟨∅, 3⟩ := by
  obtain ⟨s, m, h1, h2, h3, h4, -⟩ := serveAll_mirrors (n := 5000) (by decide) (show 4999 ≤ 5000 by decide)
    [.release 7, .release 4998, .release 7, .claim, .release 4999, .claim, .claim]
  obtain rfl : s = ⟨79, by decide⟩ := by
    injection h1 with h1
    exact h1.symm
  have hset : FreeSet.empty.serveAll 4999 2
      [.release 7, .release 4998, .release 7, .claim, .release 4999, .claim, .claim] =
      ([.ok none, .ok none, .error .alreadyFree, .ok (some 7), .error .blockOutOfRange, .ok (some 4998), .ok none],
        ⟨∅, 3⟩) := by
    decide +kernel
  have hregions : Shape.regionCount ⟨79, by decide⟩ = 2 := by decide
  rw [hregions, hset] at h3 h4
  exact ⟨by decide, by decide, _, m, h1, h2, h3, h4⟩

end FreeMap

end BlockHeap

import BlockHeap.Proofs.Checked.Arena
import BlockHeap.Proofs.Run.Onward

/-!
# Allocations in checked arithmetic

A whole allocation once more, from the size of the request to the address of the block, with every sum, difference and
product checked, no mapping at address 0, what lies in a new mapping aligned, and every access to a slot or to a pool of
a registry by a number that must be in range. Pools are searched as in `Pool.takeExisting`, slots claimed, filled and
given back as in `Call.round`; what others do meanwhile is the same. Behind an oversized block the handle must lie in
the mapping. What a block and its handle need together is `Oversized.footprint`: up to the address range it is what is
mapped (`Oversized.mappingSize?_of_footprint`), and beyond it the block is refused at once
(`Call.mapOversized_of_limit_le`).

In a regular heap whose other users are lawful, the checked allocation has the result of the allocation
(`Source.allocate?_eq`). So has the checked search for the owner of an address (`Pool.owns?_eq`).
-/

namespace BlockHeap

/-! ## Pools -/

namespace Pool

/-- Takes a block from the arena in a slot, if there is an arena and it has a block. -/
def takeFrom? (p : Pool) (i : Nat) : Option (Except Fault (Option Nat) × Pool) :=
  match p.slot? i with
  | none => some (.ok none, p)
  | some r => do
    let x ← r.value.allocate?
    return (x.1, p.putSlot i (some { r with value := x.2 }))

/-- Takes a block from the first of `n` slots from `i` on that can give one, leaving out the current slot. -/
def takeFromOthers? (p : Pool) : (i n : Nat) → Option (Except Fault (Option Nat) × Pool)
  | _, 0 => some (.ok none, p)
  | i, n + 1 =>
    if i = p.current then takeFromOthers? p (i + 1) n
    else do
      match ← p.takeFrom? i with
      | (.ok none, p) => takeFromOthers? p (i + 1) n
      | (.ok (some a), p) => return (.ok (some a), { p with current := i })
      | (.error f, p) => return (.error f, p)

/-- Takes a block from an existing arena. -/
def takeExisting? (p : Pool) (n : Nat) : Option (Except Fault (Option Nat) × Pool) := do
  match ← p.takeFrom? p.current with
  | (.ok none, p) => p.takeFromOthers? 0 n
  | r => return r

/-- Claims slot `n`, provided that it is still the next one. -/
def claimSlot? (p : Pool) (n : Nat) : Option (Bool × Pool) := do
  let next ← Size.add? n 1
  return if p.count = n then (true, { p with count := next }) else (false, p)

/-- Puts an arena into its slot, which must exist, and makes it the current one. -/
def publish? (p : Pool) (i : Nat) (resident : Resident Arena) : Option (Unit × Pool) :=
  if i < capacity then some ((), p.publish i resident) else none

/-- Gives a slot back, provided that it is still the last one. -/
def giveBack? (p : Pool) (i : Nat) : Option (Bool × Pool) := do
  let next ← Size.add? i 1
  return if p.count = next then (true, { p with count := i }) else (false, p)

/-- The first of `n` slots from `i` on whose arena owns an address. All of them must exist. -/
def ownerFrom? (p : Pool) (address : Nat) : (i n : Nat) → Option (Option Nat)
  | _, 0 => some none
  | i, n + 1 =>
    if i < capacity then
      match p.slot? i with
      | none => ownerFrom? p address (i + 1) n
      | some r => if r.value.owns address then some (some i) else ownerFrom? p address (i + 1) n
    else none

/-- Whether an arena of the pool owns an address. -/
def owns? (p : Pool) (address : Nat) : Option Bool :=
  (p.ownerFrom? address 0 (min p.count capacity)).map (·.isSome)

variable {p : Pool} {claimed : List Nat} {i n : Nat}

theorem ownerFrom?_eq (p : Pool) (address : Nat) (n : Nat) : ∀ {i : Nat}, i + n ≤ capacity →
    p.ownerFrom? address i n = some (p.ownerFrom address i n) := by
  induction n with
  | zero =>
    intro i _
    rfl
  | succ n ih =>
    intro i h
    rw [ownerFrom?, ownerFrom, if_pos (by omega)]
    cases p.slot? i with
    | none => exact ih (by omega)
    | some r =>
      dsimp only
      split
      · rfl
      · exact ih (by omega)

/-- **Looking for the owner of an address** does not go wrong. -/
theorem owns?_eq (p : Pool) (address : Nat) : p.owns? address = some (p.owns address) := by
  rw [owns?, ownerFrom?_eq p address _ (by omega)]
  rfl

theorem Regular.takeFrom?_eq (h : p.Regular claimed) (i : Nat) : p.takeFrom? i = some (p.takeFrom i) := by
  rw [takeFrom?]
  cases hs : p.slot? i with
  | none => rw [takeFrom_none hs]
  | some r =>
    rw [takeFrom_some hs]
    simp only [(h.arenas i r hs).safe.allocate]
    rfl

theorem takeFromOthers?_eq (n : Nat) : ∀ {p : Pool} {i : Nat}, p.Regular claimed →
    p.takeFromOthers? i n = some (p.takeFromOthers i n) := by
  induction n with
  | zero =>
    intro p i _
    rfl
  | succ n ih =>
    intro p i h
    rw [takeFromOthers?, takeFromOthers]
    split
    · exact ih h
    · have hwork := h.work (p.takeFrom_work i)
      rw [h.takeFrom?_eq i]
      generalize p.takeFrom i = x at hwork
      obtain ⟨f | _ | a, q⟩ := x
      · rfl
      · exact ih hwork
      · rfl

/-- **A search does not go wrong.** -/
theorem Regular.takeExisting?_eq (h : p.Regular claimed) (n : Nat) :
    p.takeExisting? n = some (p.takeExisting n) := by
  have hwork := h.work (p.takeFrom_work p.current)
  rw [takeExisting?, takeExisting, h.takeFrom?_eq p.current]
  generalize p.takeFrom p.current = x at hwork
  obtain ⟨f | _ | a, q⟩ := x
  · rfl
  · exact takeFromOthers?_eq n hwork
  · rfl

theorem add_one_lt_limit (hn : n ≤ capacity) : n + 1 < Size.limit :=
  Nat.lt_of_le_of_lt (Nat.add_le_add_right hn 1) (by decide)

theorem claimSlot?_eq (p : Pool) (hn : n ≤ capacity) : p.claimSlot? n = some (p.claimSlot n) := by
  rw [claimSlot?, Size.add?_eq (add_one_lt_limit hn)]
  rfl

theorem publish?_eq (p : Pool) (hi : i < capacity) (r : Resident Arena) : p.publish? i r = some ((), p.publish i r) :=
  if_pos hi

theorem giveBack?_eq (p : Pool) (hi : i ≤ capacity) : p.giveBack? i = some (p.giveBack i) := by
  rw [giveBack?, Size.add?_eq (add_one_lt_limit hi)]
  rfl

end Pool

/-! ## Calls -/

/-- The alignment of an arena's own data. -/
def Arena.headerAlign : Nat := 128

namespace Call

variable {ε : Type}

/-- Does something with a pool that may go wrong. -/
def onPool? {α : Type} (c : Call ε) (k : Nat) (f : Pool → Option (α × Pool)) : Option (α × Call ε) := do
  let r ← f (c.heap.pool k)
  return (r.1, { c with heap := c.heap.setPool k r.2 })

/-- Asks for a mapping, which must not be at address 0. -/
def map? (c : Call ε) (size : Nat) : Option (Except AllocError Mapping × Call ε) :=
  match c.map size with
  | (.ok m, c) => if 0 < m.start then some (.ok m, c) else none
  | r => some r

/-- Puts a value of `size` bytes into a mapping of its own; it must not need more alignment than mappings have. -/
def house? {α : Type} (c : Call ε) (value : α) (size align : Nat) :
    Option (Except AllocError (Resident α) × Call ε) := do
  guard (align ≤ pageSize)
  match ← c.map? size with
  | (.ok mapping, c) => return (.ok ⟨value, mapping⟩, c)
  | (.error e, c) => return (.error e, c)

/-- Maps the region of an arena. -/
def mapArena? (c : Call ε) (policy : Policy) (blockSize : Nat) : Option (Except Failure Arena × Call ε) := do
  match ← Arena.Geometry.ofBlockSize? blockSize with
  | .error f => return (.error (.fault f), c)
  | .ok g =>
    match ← c.map? Arena.regionBytes with
    | (.error e, c) => return (.error (.error e), c)
    | (.ok region, c) =>
      match ← Arena.create? policy g region with
      | .error f => return (.error (.fault f), c.unmap region)
      | .ok arena => return (.ok arena, c.log (.arenaMapped policy g.blockSize g.blockCount g.usable))

/-- Maps an arena and a place for its own data. -/
def houseArena? (c : Call ε) (policy : Policy) (blockSize : Nat) :
    Option (Except Failure (Resident Arena) × Call ε) := do
  match ← c.mapArena? policy blockSize with
  | (.error f, c) => return (.error f, c)
  | (.ok arena, c) =>
    match ← c.house? arena Arena.headerBytes Arena.headerAlign with
    | (.error e, c) => return (.error (.error e), c.unmap arena.region)
    | (.ok resident, c) => return (.ok resident, c)

/-- Fills a claimed slot of pool `k` with a new arena, or gives the slot back. -/
def fillSlot? (c : Call ε) (k slot : Nat) : Option (Except Failure Unit × Call ε) := do
  let policy := (c.heap.pool k).policy
  let blockSize := (c.heap.pool k).blockSize
  match ← c.houseArena? policy blockSize with
  | (.ok resident, c) =>
    let r ← c.onPool? k (·.publish? slot resident)
    return (.ok (), (r.2.log (.poolGrew policy blockSize slot)).announceGrowth)
  | (.error (.error e), c) =>
    let r ← c.onPool? k (·.giveBack? slot)
    return (.error (.error e), r.2.log (.growthFailed policy blockSize slot r.1))
  | (.error f, c) => return (.error f, c)

/-- One round of an allocation from pool `k`. -/
def round? (c : Call ε) (k : Nat) : Option (Option (Except Failure Nat) × Call ε) := do
  let n := (c.heap.pool k).count
  match ← c.onPool? k (·.takeExisting? n) with
  | (.error f, c) => return (some (.error (.fault f)), c)
  | (.ok (some a), c) => return (some (.ok a), c)
  | (.ok none, c) =>
    let policy := (c.heap.pool k).policy
    let blockSize := (c.heap.pool k).blockSize
    if (c.heap.pool k).maxArenas ≤ n then
      return (some (.error (.error (.poolExhausted blockSize n))), c.log (.poolExhausted policy blockSize n))
    else
      match ← c.onPool? k (·.claimSlot? n) with
      | (false, c) => return (none, c)
      | (true, c) =>
        match ← c.fillSlot? k n with
        | (.error f, c) => return (some (.error f), c)
        | (.ok (), c) =>
          match ← c.onPool? k (·.takeFrom? n) with
          | (.error f, c) => return (some (.error (.fault f)), c)
          | (.ok (some a), c) => return (some (.ok a), c)
          | (.ok none, c) => return (none, c)

/-- At most `fuel` rounds. -/
def rounds? (c : Call ε) (k : Nat) : (fuel : Nat) → Option (Except Failure Nat × Call ε)
  | 0 => some (.error .stalled, c)
  | fuel + 1 => do
    match ← c.round? k with
    | (some r, c) => return (r, c)
    | (none, c) => rounds? c k fuel

/-- Takes a block from pool `k`. -/
def allocate? (c : Call ε) (k : Nat) : Option (Except Failure Nat × Call ε) :=
  c.rounds? k (roundLimit (c.heap.pool k))

variable {P : Pact ε} {claimed : Nat → List Nat} {k slot : Nat} {c : Call ε} {held : List Nat}

theorem onPool?_eq {α : Type} {f : Pool → Option (α × Pool)} {g : Pool → α × Pool}
    (h : f (c.heap.pool k) = some (g (c.heap.pool k))) : c.onPool? k f = some (c.onPool k g) := by
  rw [onPool?, h, onPool_eq]
  rfl

theorem OnCourse.map?_eq (hx : OnCourse P claimed k (c, held)) (size : Nat) : c.map? size = some (c.map size) := by
  rw [map?]
  rcases hx.map_spec size with ⟨m, c', hm, -, -, -, -, hpos⟩ | ⟨e, c', hm, -⟩
  · simp only [hm, hpos, if_true]
  · simp only [hm]

theorem OnCourse.house?_eq {α : Type} (hx : OnCourse P claimed k (c, held)) (value : α) (size : Nat) {align : Nat}
    (halign : align ≤ pageSize) : c.house? value size align = some (c.house value size) := by
  rw [house?, house, hx.map?_eq]
  simp only [guard, halign, if_true]
  obtain ⟨e | m, c'⟩ := c.map size <;> rfl

theorem OnCourse.mapArena?_eq (hx : OnCourse P claimed k (c, held)) (policy : Policy) (size : Nat) :
    c.mapArena? policy size = some (c.mapArena policy size) := by
  rw [mapArena?, mapArena, Arena.Geometry.ofBlockSize?_eq]
  cases hg : Arena.Geometry.ofBlockSize size with
  | error f => rfl
  | ok g =>
    rcases hx.map_spec Arena.regionBytes with ⟨m, c', h1, -, hlen, hstop, hpage, -⟩ | ⟨e, c', h1, -⟩
    · simp only [hx.map?_eq, h1, Option.bind_eq_bind, Option.bind_some,
        Arena.create?_eq policy (Arena.Geometry.ofBlockSize_fits hg).2 hpage hlen hstop]
      cases Arena.create policy g m <;> rfl
    · simp only [hx.map?_eq, h1]
      rfl

theorem OnCourse.houseArena?_eq (hx : OnCourse P claimed k (c, held)) (policy : Policy) (size : Nat) :
    c.houseArena? policy size = some (c.houseArena policy size) := by
  rw [houseArena?, houseArena, hx.mapArena?_eq policy size]
  cases hg : Arena.Geometry.ofBlockSize size with
  | error f =>
    rw [mapArena, hg]
    rfl
  | ok g =>
    rcases hx.mapArena_spec policy hg with ⟨a, c1, h1, h2, -⟩ | ⟨n, e, c1, h1, -⟩
    · simp only [h1, Option.bind_eq_bind, Option.bind_some,
        (h2.keeps hx).1.house?_eq a Arena.headerBytes (show Arena.headerAlign ≤ pageSize by decide)]
      obtain ⟨e | r, c2⟩ := c1.house a Arena.headerBytes <;> rfl
    · rw [h1]
      rfl

/-- **Filling a claimed slot** does not go wrong. -/
theorem OnCourse.fillSlot?_eq (hx : OnCourse P claimed k (c, [slot])) :
    c.fillSlot? k slot = some (c.fillSlot k slot) := by
  have hslots := (hx.regular.pools k).slots
  rw [holding_self] at hslots
  have hcap := hslots.held_lt_capacity List.mem_cons_self
  rw [fillSlot?, fillSlot, hx.houseArena?_eq]
  obtain ⟨(e | f | _) | r, c1⟩ := c.houseArena (c.heap.pool k).policy (c.heap.pool k).blockSize
  · have hback : c1.onPool? k (·.giveBack? slot) = some (c1.onPool k (·.giveBack slot)) :=
      onPool?_eq (Pool.giveBack?_eq _ (Nat.le_of_lt hcap))
    simp only [Option.bind_eq_bind, Option.bind_some, hback]
    rfl
  · rfl
  · rfl
  · have hpublish : c1.onPool? k (·.publish? slot r) = some (c1.onPool k fun p => ((), p.publish slot r)) :=
      onPool?_eq (Pool.publish?_eq _ hcap r)
    simp only [Option.bind_eq_bind, Option.bind_some, hpublish]
    rfl

/-- **One round** does not go wrong. -/
theorem OnCourse.round?_eq (hx : OnCourse P claimed k (c, [])) : c.round? k = some (c.round k) := by
  have hregular := hx.regular.pools k
  have hcap : (c.heap.pool k).count ≤ Pool.capacity := Nat.le_trans hregular.slots.count_le (c.heap.pool k).maxArenas_le
  have hsearched : c.onPool? k (·.takeExisting? (c.heap.pool k).count) =
      some (c.onPool k (·.takeExisting (c.heap.pool k).count)) := onPool?_eq (hregular.takeExisting?_eq _)
  obtain ⟨found, c1, h1, hsearch, -, hcount⟩ := hx.search_spec
  rw [round?, hsearched, round, h1]
  cases found with
  | some x => rfl
  | none =>
    simp only [Option.bind_eq_bind, Option.bind_some]
    by_cases hmax : (c1.heap.pool k).maxArenas ≤ (c.heap.pool k).count
    · simp only [hmax, if_true]
      rfl
    have hclaimed : c1.onPool? k (·.claimSlot? (c.heap.pool k).count) =
        some (c1.onPool k (·.claimSlot (c.heap.pool k).count)) := onPool?_eq (Pool.claimSlot?_eq _ hcap)
    obtain ⟨c2, h2, hclaim⟩ := claim_path (k := k) (c := c1) (by omega)
    rw [hcount] at h2 hclaim
    have hx2 := (Path.keeps (hsearch.trans hclaim) hx).1
    simp only [hmax, if_false, hclaimed, h2, Option.bind_some, hx2.fillSlot?_eq]
    rcases hx2.fillSlot_spec with ⟨c3, h3, hpath, -⟩ | ⟨n, e, c3, h3, -⟩
    · have hregular3 := (hpath.keeps hx2).1.regular.pools k
      have htake : c3.onPool? k (·.takeFrom? (c.heap.pool k).count) =
          some (c3.onPool k (·.takeFrom (c.heap.pool k).count)) := onPool?_eq (hregular3.takeFrom?_eq _)
      simp only [h3, htake, Option.bind_some]
      obtain ⟨f | _ | x, c4⟩ := c3.onPool k (·.takeFrom (c.heap.pool k).count)
      · rfl
      · rfl
      · rfl
    · rw [h3]
      rfl

/-- **An allocation** does not go wrong in any of its rounds. -/
theorem OnCourse.rounds?_eq (fuel : Nat) : ∀ {c : Call ε}, OnCourse P claimed k (c, []) →
    c.rounds? k fuel = some (c.rounds k fuel) := by
  induction fuel with
  | zero =>
    intro c _
    rfl
  | succ fuel ih =>
    intro c hx
    rw [Call.rounds?, Call.rounds, hx.round?_eq]
    rcases hx.round_spec with ⟨r, c', h1, -⟩ | ⟨c', h1, hpath, -⟩
    · rw [h1]
      rfl
    · rw [h1]
      exact ih (hpath.keeps hx).1

theorem OnCourse.allocate?_eq (hx : OnCourse P claimed k (c, [])) : c.allocate? k = some (c.allocate k) :=
  hx.rounds?_eq _

end Call

/-! ## Oversized blocks -/

namespace Oversized

variable {size : Nat}

/-- What a mapping needs for a block of `size` bytes and the handle behind it. -/
def footprint (size : Nat) : Nat := Size.roundUp size handleAlign + handleBytes

theorem handleOffset?_of_footprint (h : footprint size < Size.limit) :
    handleOffset? size = some (Size.roundUp size handleAlign) := by
  have hle : size ≤ Size.roundUp size handleAlign := Size.le_roundUp (by decide) size
  have hbytes : handleBytes = 16 := rfl
  have halign : handleAlign = 8 := rfl
  have hsum : size + (handleAlign - 1) < Size.limit := by
    unfold footprint at h
    omega
  have hoffset : handleOffset? size = some ((size + (handleAlign - 1)) / handleAlign * handleAlign) := by
    rw [handleOffset?, Size.add?_eq hsum, Option.map_some]
  rw [hoffset, handleOffset_eq hoffset]

theorem mappingSize?_of_footprint (h : footprint size < Size.limit) : mappingSize? size = some (footprint size) := by
  rw [mappingSize?, handleOffset?_of_footprint h, Option.bind_some, Size.add?_eq h]
  rfl

/-- A block for whose handle there is no room. -/
theorem mappingSize?_eq_none (h : Size.limit ≤ footprint size) : mappingSize? size = none := by
  rw [mappingSize?]
  cases ho : handleOffset? size with
  | none => rfl
  | some offset =>
    obtain rfl := handleOffset_eq ho
    exact if_neg (Nat.not_lt_of_le h)

end Oversized

namespace Call

variable {ε : Type} {P : Pact ε} {claimed : Nat → List Nat} {k size : Nat} {c : Call ε} {held : List Nat}

/-- There is no room for the handle, and nothing happens. -/
theorem mapOversized_of_limit_le (c : Call ε) (h : Size.limit ≤ Oversized.footprint size) :
    c.mapOversized size = (.error (.error (.capacityOverflow size 1)), c) := by
  rw [mapOversized, Oversized.mappingSize?_eq_none h]
  cases Oversized.handleOffset? size <;> rfl

/-- The mapping is granted, and the handle goes behind the block. -/
theorem mapOversized_granted (h : Oversized.footprint size < Size.limit) {m : Mapping} {c' : Call ε}
    (hm : c.map (Oversized.footprint size) = (.ok m, c')) :
    let place := m.start + Size.roundUp size Oversized.handleAlign
    let memory := c'.heap.memory.write place Oversized.handleBytes (.handle m)
    c.mapOversized size = (.ok m.start, ({ c' with heap := { c'.heap with memory } }).log (.oversizedMapped size)) := by
  intro place memory
  rw [mapOversized, Oversized.handleOffset?_of_footprint h, Oversized.mappingSize?_of_footprint h]
  simp only [hm, memory, place]

/-- The mapping is refused. -/
theorem mapOversized_refused (h : Oversized.footprint size < Size.limit) {e : AllocError} {c' : Call ε}
    (hm : c.map (Oversized.footprint size) = (.error e, c')) : c.mapOversized size = (.error (.error e), c') := by
  rw [mapOversized, Oversized.handleOffset?_of_footprint h, Oversized.mappingSize?_of_footprint h]
  simp only [hm]

/-- Maps a block of `size` bytes; the handle must lie in the mapping. -/
def mapOversized? (c : Call ε) (size : Nat) : Option (Except Failure Nat × Call ε) :=
  match Oversized.handleOffset? size, Oversized.mappingSize? size with
  | some offset, some _ => do
    let total ← Size.add? offset Oversized.handleBytes
    match ← c.map? total with
    | (.error e, c) => return (.error (.error e), c)
    | (.ok m, c) =>
      let place ← Size.add? m.start offset
      if place + Oversized.handleBytes ≤ m.stop then
        let memory := c.heap.memory.write place Oversized.handleBytes (.handle m)
        return (.ok m.start, ({ c with heap := { c.heap with memory } }).log (.oversizedMapped size))
      else none
  | _, _ => some (.error (.error (.capacityOverflow size 1)), c)

/-- **Mapping an oversized block** does not go wrong. -/
theorem OnCourse.mapOversized?_eq (hx : OnCourse P claimed k (c, held)) (size : Nat) :
    c.mapOversized? size = some (c.mapOversized size) := by
  rcases Nat.lt_or_ge (Oversized.footprint size) Size.limit with hlt | hle
  · have htotal : Size.add? (Size.roundUp size Oversized.handleAlign) Oversized.handleBytes =
        some (Oversized.footprint size) := Size.add?_eq hlt
    rw [mapOversized?, Oversized.handleOffset?_of_footprint hlt, Oversized.mappingSize?_of_footprint hlt]
    simp only [htotal, hx.map?_eq, Option.bind_eq_bind, Option.bind_some]
    rcases hx.map_spec (Oversized.footprint size) with ⟨m, c', hm, -, hlen, hstop, -⟩ | ⟨e, c', hm, -⟩
    · -- the handle ends before the mapping does, which lies in the address range
      have hroom : Oversized.footprint size ≤ m.len := by
        rw [hlen]
        exact Size.le_roundUp (by decide) _
      have hbytes : Oversized.handleBytes = 16 := rfl
      unfold Oversized.footprint at hroom
      unfold Mapping.stop at hstop
      have hplace : m.start + Size.roundUp size Oversized.handleAlign < Size.limit := by omega
      have hin : m.start + Size.roundUp size Oversized.handleAlign + Oversized.handleBytes ≤ m.stop := by
        unfold Mapping.stop
        omega
      rw [mapOversized_granted hlt hm, hm]
      simp only [Size.add?_eq hplace, Option.bind_some, if_pos hin]
      rfl
    · rw [mapOversized_refused hlt hm, hm]
      rfl
  · rw [mapOversized_of_limit_le c hle, mapOversized?, Oversized.mappingSize?_eq_none hle]
    cases Oversized.handleOffset? size <;> rfl

end Call

/-! ## Registries -/

namespace SizeClass

/-- The least class of at least `bytes` bytes. -/
def fitting? (bytes : Nat) : Option Nat :=
  if bytes ≤ least then some least
  else if greatest < bytes then some unclassed
  else do
    let below ← Size.sub? bytes 1
    return (← Word.bit? (below.log2 + 1)).toNat

/-- The number of a class. -/
def index? (size : Nat) : Option (Except Fault Nat) :=
  if !Size.isPowerOfTwo size then some (.error .classNotPowerOfTwo)
  else if size < least ∨ greatest < size then some (.error .classOutOfRange)
  else do return .ok (← Size.sub? size.log2 least.log2)

theorem fitting?_eq (bytes : Nat) : fitting? bytes = some (fitting bytes) := by
  rw [fitting?, fitting]
  split
  · rfl
  · split
    · rfl
    · rename_i hlow hhigh
      have hleast : least = 8 := rfl
      have hgreatest : greatest = 2 ^ 22 := rfl
      have hlog : (bytes - 1).log2 < 22 := (Nat.log2_lt (by omega)).mpr (by omega)
      rw [Size.sub?_eq (by omega)]
      simp only [Option.bind_eq_bind, Option.bind_some]
      rw [Word.bit?_eq (by omega)]
      simp [Word.toNat_bit (show (bytes - 1).log2 + 1 < 64 by omega), Nat.shiftLeft_eq]

theorem index?_eq (size : Nat) : index? size = some (index size) := by
  rw [index?, index]
  split
  · rfl
  · split
    · rfl
    · rename_i hpow hrange
      have hlog : least.log2 ≤ size.log2 := by
        have hleast : least.log2 = 3 := by decide
        rw [hleast]
        have hlow : 2 ^ 3 ≤ size := by
          have : least = 2 ^ 3 := rfl
          omega
        exact (Nat.le_log2 (by omega)).mpr hlow
      rw [Size.sub?_eq hlog]
      rfl

end SizeClass

namespace Registry

variable {ε : Type} {P : Pact ε} {claimed : Nat → List Nat} {c : Call ε}

/-- What serves a request for a number of bytes. -/
def route? (r : Registry) (bytes : Nat) : Option (Except Fault (Option Nat)) := do
  let size ← SizeClass.fitting? bytes
  if size = SizeClass.unclassed then return .ok none
  else
    match ← SizeClass.index? size with
    | .error f => return .error f
    | .ok i => if i < SizeClass.count then return .ok (some (r.first + i)) else none

/-- Allocates a number of bytes. -/
def allocate? (r : Registry) (c : Call ε) (bytes : Nat) : Option (Except Failure Nat × Call ε) := do
  match ← r.route? bytes with
  | .error f => return (.error (.fault f), c)
  | .ok none => c.mapOversized? bytes
  | .ok (some k) => c.allocate? k

theorem route?_eq (r : Registry) (bytes : Nat) : r.route? bytes = some (r.route bytes) := by
  rw [route?, route, SizeClass.fitting?_eq]
  simp only [Option.bind_eq_bind, Option.bind_some]
  split
  · rfl
  · rename_i hclass
    obtain ⟨i, hi, hindex, -⟩ := SizeClass.index_fitting hclass
    rw [SizeClass.index?_eq, hindex]
    simp only [Option.bind_some, hi, if_true]
    rfl

theorem allocate?_eq (r : Registry) (hc : c.Fair P) (hr : c.heap.Regular claimed) (bytes : Nat) :
    r.allocate? c bytes = some (r.allocate c bytes) := by
  rw [allocate?, allocate, route?_eq]
  simp only [Option.bind_eq_bind, Option.bind_some]
  obtain f | _ | k := r.route bytes
  · rfl
  · exact (hc.onCourse hr 0).mapOversized?_eq bytes
  · exact (hc.onCourse hr k).allocate?_eq

end Registry

namespace Source

variable {ε : Type} {P : Pact ε} {claimed : Nat → List Nat} {c : Call ε}

/-- Allocates a number of bytes. -/
def allocate? (src : Source) (c : Call ε) (bytes : Nat) : Option (Except Failure Nat × Call ε) :=
  match src with
  | .pool k => c.allocate? k
  | .registry r => r.allocate? c bytes

/-- **Allocation does not go wrong** in a regular heap, when others are lawful. -/
theorem allocate?_eq (src : Source) (hc : c.Fair P) (hr : c.heap.Regular claimed) (bytes : Nat) :
    src.allocate? c bytes = some (src.allocate c bytes) := by
  cases src with
  | pool k => exact (hc.onCourse hr k).allocate?_eq
  | registry r => exact r.allocate?_eq hc hr bytes

end Source

end BlockHeap

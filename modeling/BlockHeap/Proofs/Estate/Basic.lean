import BlockHeap.Proofs.Run.Basic

/-!
# Containers that come and go

An `Estate` is what users of a heap have: arenas of their own, pools and registries, known by the order in which they
were made, and the blocks that they took from them. A `Deed` makes a container, takes a block from one, gives a block
back or drops a container. Deeds that ask for mappings say how the operating system answers, and which deeds others
carry out in the meantime, to any depth. A source whose own allocation is in progress is not dropped.
-/

namespace BlockHeap

namespace Source

/-- The numbers of the pools of a source. -/
def poolNumbers : Source → List Nat
  | .pool k => [k]
  | .registry r => r.poolNumbers

/-- Gives the arenas of a source back. -/
def drop (src : Source) (h : Heap) : Heap :=
  match src with
  | .pool k => h.dropPool k
  | .registry r => r.drop h

end Source

/-- Something that serves blocks. -/
inductive Container where
  /-- An arena, and the addresses of its blocks in use. -/
  | arena (a : Arena) (live : List Nat)
  /-- A pool or a registry. -/
  | source (src : Source)

/-- A block in use, and the number of the container that it was taken from. -/
structure Use where
  owner : Nat
  block : Block

/-- What the users of a heap have. -/
structure Estate where
  /-- The containers; `none` where one was dropped. -/
  containers : List (Option Container)
  /-- The blocks taken from pools and registries, the newest first. -/
  uses : List Use

namespace Estate

/-- Nothing. -/
def empty : Estate := ⟨[], []⟩

/-- The container of a given number. -/
def container? (e : Estate) (o : Nat) : Option Container := e.containers[o]?.join

/-- Adds a container. -/
def add (e : Estate) (c : Container) : Estate := { e with containers := e.containers ++ [some c] }

/-- Changes a container, or takes it away. -/
def put (e : Estate) (o : Nat) (c : Option Container) : Estate := { e with containers := e.containers.set o c }

/-- Enters a block. -/
def enter (e : Estate) (o : Nat) (b : Block) : Estate := { e with uses := ⟨o, b⟩ :: e.uses }

/-- Strikes block number `i` out. -/
def strike (e : Estate) (i : Nat) : Estate := { e with uses := e.uses.eraseIdx i }

/-- Takes a source away. The blocks of its pools are gone, those with mappings of their own are not. -/
def forget (e : Estate) (o : Nat) : Estate :=
  { e.put o none with uses := e.uses.filter fun u => u.owner ≠ o ∨ u.block.pool = none }

end Estate

/-- A heap, and what its users have. -/
abbrev World := Heap × Estate

namespace World

/-- Keeps an arena that was made. -/
def keepArena (r : Except Failure Arena × Call Estate) : World :=
  match r.1 with
  | .ok a => (r.2.heap, r.2.rest.add (.arena a []))
  | .error _ => (r.2.heap, r.2.rest)

/-- Makes a pool with given settings, if they are allowed. -/
def makePool (s : World) (policy : Policy) (changes : List Pool.Settings.Change) : World :=
  match (Pool.Settings.empty.changeAll changes).bind (·.build policy) with
  | .ok p => (s.1.addPools [p], s.2.add (.source (.pool s.1.pools.size)))
  | .error _ => s

/-- Makes a registry. -/
def makeRegistry (s : World) (policy : Policy) : World :=
  match Registry.create s.1 policy with
  | (.ok r, h) => (h, s.2.add (.source (.registry r)))
  | (.error _, h) => (h, s.2)

/-- Takes a block from arena number `o`. -/
def takeFromArena (s : World) (o : Nat) (a : Arena) (live : List Nat) : World :=
  match a.allocate with
  | (.ok (some x), a) => (s.1, s.2.put o (some (.arena a (x :: live))))
  | (_, a) => (s.1, s.2.put o (some (.arena a live)))

/-- Gives block number `i` of its own back to arena number `o`, if there is one. -/
def giveToArena (s : World) (o : Nat) (a : Arena) (live : List Nat) (i : Nat) : World :=
  match live[i]? with
  | none => s
  | some x => (s.1, s.2.put o (some (.arena (a.deallocate x).2 (live.eraseIdx i))))

/-- Enters the block with which an allocation from source number `o` has ended. -/
def settle (o : Nat) (src : Source) (bytes : Nat) (r : Except Failure Nat × Call Estate) : World :=
  match r.1 with
  | .ok x => (r.2.heap, r.2.rest.enter o ⟨src.poolOf bytes, x, bytes⟩)
  | .error _ => (r.2.heap, r.2.rest)

/-- Gives block number `i` back to source number `o`, if it is from there and the byte count is allowed for it. -/
def giveToSource (s : World) (o : Nat) (src : Source) (i bytes : Nat) : World :=
  match s.2.uses[i]? with
  | none => s
  | some u =>
    if u.owner = o ∧ src.accepts u.block.bytes bytes then
      let c := (src.deallocate (Call.alone s.1 s.2) u.block.address bytes).2
      (c.heap, c.rest.strike i)
    else s

/-- Gives block number `i` back to container number `o`: of an arena's own blocks, or of those from sources. -/
def giveBack (s : World) (o i bytes : Nat) : World :=
  match s.2.container? o with
  | none => s
  | some (.arena a live) => s.giveToArena o a live i
  | some (.source src) => s.giveToSource o src i bytes

/-- Drops container number `o`, unless it is one of those with an operation in progress. -/
def drop (s : World) (busy : List Nat) (o : Nat) : World :=
  if o ∈ busy then s
  else
    match s.2.container? o with
    | none => s
    | some (.arena a _) => (s.1.unmap a.region, s.2.put o none)
    | some (.source src) => (src.drop s.1, s.2.forget o)

end World

mutual

/-- Something that users do. -/
inductive Deed where
  /-- Makes an arena. -/
  | makeArena (policy : Policy) (blockSize : Nat) (maps : List Response)
  /-- Makes a pool. -/
  | makePool (policy : Policy) (changes : List Pool.Settings.Change)
  /-- Makes a registry. -/
  | makeRegistry (policy : Policy)
  /-- Takes a block from container number `o`. -/
  | allocate (o bytes : Nat) (maps : List Response) (grown : List (List Deed))
  /-- Gives block number `i` back to container number `o` as one of a number of bytes. -/
  | deallocate (o i bytes : Nat)
  /-- Drops container number `o`. -/
  | drop (o : Nat)

/-- How the operating system answers a request for a mapping. -/
inductive Response where
  /-- What others do in the meantime, and whether the request is turned down. -/
  | mk (meanwhile : List Deed) (refuse : Bool)

end

mutual

/-- Carries out a deed, while operations of `busy` sources are in progress. -/
def Deed.run : (busy : List Nat) → Deed → World → World
  | busy, .makeArena policy blockSize maps, s =>
    World.keepArena (Call.mapArena ⟨s.1, s.2, Deed.decisions busy maps, [], #[]⟩ policy blockSize)
  | _, .makePool policy changes, s => s.makePool policy changes
  | _, .makeRegistry policy, s => s.makeRegistry policy
  | busy, .allocate o bytes maps grown, s =>
    match s.2.container? o with
    | none => s
    | some (.arena a live) => s.takeFromArena o a live
    | some (.source src) => World.settle o src bytes (src.allocate
        ⟨s.1, s.2, Deed.decisions (o :: busy) maps, Deed.interludes (o :: busy) grown, #[]⟩ bytes)
  | _, .deallocate o i bytes, s => s.giveBack o i bytes
  | busy, .drop o, s => s.drop busy o

/-- Carries out deeds one after the other. -/
def Deed.runAll : (busy : List Nat) → List Deed → World → World
  | _, [], s => s
  | busy, d :: ds, s => Deed.runAll busy ds (d.run busy s)

/-- The decision of an operating system that answers in a given way. -/
def Response.decision : (busy : List Nat) → Response → Decision Estate
  | busy, .mk meanwhile refuse => ⟨Deed.runAll busy meanwhile, refuse⟩

/-- The decisions of an operating system that answers in given ways. -/
def Deed.decisions : (busy : List Nat) → List Response → List (Decision Estate)
  | _, [] => []
  | busy, r :: rs => r.decision busy :: Deed.decisions busy rs

/-- The interludes in which lists of deeds are carried out. -/
def Deed.interludes : (busy : List Nat) → List (List Deed) → List (Interlude Estate)
  | _, [] => []
  | busy, ds :: rest => Deed.runAll busy ds :: Deed.interludes busy rest

end

end BlockHeap

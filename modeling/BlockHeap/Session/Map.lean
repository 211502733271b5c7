import BlockHeap.FreeMap.Basic
import BlockHeap.Runs
import BlockHeap.Session.Range

/-!
# A session with a free map

Steps that release and claim blocks of one free map and look at its words.
-/

namespace BlockHeap.Session

/-- A step on a free map. -/
inductive MapStep where
  | malformed
  | release (blocks : Array Nat)
  | releaseRange (r : Range)
  | claim (count : Option Nat)
  /-- Tells the words. -/
  | words
  | describe
  | blockCount

/-- Some words of a free map: how many are not zero, and the first of these. -/
structure WordList where
  /-- The number of words that are not zero. -/
  nonzero : Nat
  /-- The first of them, with their positions. -/
  first : List (Nat × UInt64)

/-- What a step on a free map is answered with. -/
inductive MapBody where
  | badInput
  | failed (f : Fault)
  /-- Blocks were released; the fault ended it. -/
  | released (count : Nat) (stop : Option Fault)
  /-- Blocks were claimed; it ended for want of blocks, or by a fault. -/
  | claimed (count : Nat) (runs : Runs.Summary) (stop : Option (Option Fault))
  /-- The words of the blocks and those of the regions. -/
  | words (blocks regions : WordList)
  | description (text : String)
  | blockCount (n : Nat)

/-- Whether a step was carried out. -/
def MapBody.isCarriedOut : MapBody → Bool
  | .badInput | .failed _ => false
  | _ => true

/-- The answer to a step. -/
structure MapReply where
  body : MapBody
  /-- Whether the free map may have a free block afterwards, if the step was carried out. -/
  hasFree : Option Bool

namespace MapStep

/-- The largest number of words that are told. -/
def wordLimit : Nat := 16

/-- The words that are not zero, with their numbers. -/
def nonzeroWords (words : Array UInt64) : WordList :=
  let all := (words.foldl (fun (acc, i) w => (if w = 0 then acc else acc.push (i, w), i + 1)) (#[], 0)).1
  ⟨all.size, (all.extract 0 wordLimit).toList⟩

/-- Releases blocks number `i`, …, `i + n - 1` of a list. -/
def releaseMany (m : FreeMap) (block : Nat → Nat) (i : Nat) : (n : Nat) → Nat × Option Fault × FreeMap
  | 0 => (i, none, m)
  | n + 1 =>
    match m.release (block i) with
    | (.ok (), m) => releaseMany m block (i + 1) n
    | (.error f, m) => (i, some f, m)

/-- Claims up to `n` blocks. -/
def claimMany (m : FreeMap) (count : Nat) (runs : Runs) :
    (n : Nat) → Nat × Runs × Option (Option Fault) × FreeMap
  | 0 => (count, runs, none, m)
  | n + 1 =>
    match m.claim with
    | (.ok (some b), m) => claimMany m (count + 1) (runs.push 0 b) n
    | (.ok none, m) => (count, runs, some none, m)
    | (.error f, m) => (count, runs, some (some f), m)

/-- Carries out one step, apart from what can be seen afterwards. -/
def apply (m : FreeMap) : MapStep → MapBody × FreeMap
  | .malformed => (.badInput, m)
  | .release blocks =>
    let r := releaseMany m (fun i => blocks[i]?.getD 0) 0 blocks.size
    (.released r.1 r.2.1, r.2.2)
  | .releaseRange range =>
    match range.listable with
    | .error f => (.failed f, m)
    | .ok () =>
      let r := releaseMany m range.item 0 range.count
      (.released r.1 r.2.1, r.2.2)
  | .claim count =>
    let limit := count.getD (m.blockCount + 1)
    let r := claimMany m 0 .empty limit
    (.claimed r.1 r.2.1.summary r.2.2.1, r.2.2.2)
  | .words => (.words (nonzeroWords m.words.toArray) (nonzeroWords m.summary.toArray), m)
  | .describe => (.description m.describe, m)
  | .blockCount => (.blockCount m.blockCount, m)

/-- Carries out steps one after the other. -/
def runAll (m : FreeMap) : List MapStep → List MapReply
  | [] => []
  | step :: steps =>
    let r := step.apply m
    ⟨r.1, if r.1.isCarriedOut then some r.2.hasFree else none⟩ :: runAll r.2 steps

end MapStep

end BlockHeap.Session

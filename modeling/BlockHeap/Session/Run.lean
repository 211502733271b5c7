import BlockHeap.Session.Allocate
import BlockHeap.Session.Free

/-!
# Carrying out the steps of a session

`Step.run` carries out one step, `runAll` a list of them. The steps nested in an allocation become the interludes of the
call, so that they are carried out at their moment, on the state in which they find the heap.
-/

namespace BlockHeap.Session

/-- The state that steps change. -/
abbrev State := Heap × Session

/-- Adds a container. -/
def addContainer (s : Session) (k : Container) : Session := { s with containers := s.containers.push (some k) }

/-- Adds a pool as a container. -/
def createPool (h : Heap) (s : Session) : Except Fault Pool → Reply × State
  | .error f => ({ Reply.bad with body := .failed (.fault f) }, h, s)
  | .ok p =>
    let k := Container.pool h.pools.size
    let h := h.addPools [p]
    (s.replyMapped h (.created (k.info h s)) #[], h, addContainer s k)

/-- Makes changes to settings in order; `none` is an entry that is no change. -/
def settle (settings : Pool.Settings) : List (Option Pool.Settings.Change) → Option (Except Fault Pool.Settings)
  | [] => some (.ok settings)
  | none :: _ => none
  | some c :: cs =>
    match settings.change c with
    | (.error f, _) => some (.error f)
    | (.ok (), settings) => settle settings cs

/-- Makes a container. -/
def create (spec : Spec) (decisions : List (Decision Session)) (h : Heap) (s : Session) : Reply × State :=
  match spec with
  | .arena blockSize =>
    let c : Call Session := ⟨h, s, decisions, [], #[]⟩
    match c.mapArena s.policy blockSize with
    | (.error f, c) => ({ Reply.bad with body := .failed f, events := c.rest.told c.events }, c.heap, c.rest)
    | (.ok a, c) =>
      let k := Container.arena a
      let reply := c.rest.replyMapped c.heap (.created (k.info c.heap c.rest)) c.events
      (reply, c.heap, addContainer c.rest k)
  | .pool blockSize => createPool h s (Pool.ofBlockSize s.policy blockSize)
  | .poolWith changes =>
    match settle .empty changes with
    | none => (.bad, h, s)
    | some settings => createPool h s (settings.bind (·.build s.policy))
  | .registry =>
    match Registry.create h s.policy with
    | (.error f, h) => ({ Reply.bad with body := .failed (.fault f) }, h, s)
    | (.ok r, h) =>
      let k := Container.registry r
      (s.replyMapped h (.created (k.info h s)) #[], h, addContainer s k)
  | .allocator e =>
    let k := Container.allocator e
    (s.replyMapped h (.created (k.info h s)) #[], h, addContainer s k)

/-- Answers a question about a container; `none` is a question that cannot be asked. -/
def ask (on : Nat) (h : Heap) (s : Session) (question : Container → Option Body) : Reply × State :=
  match s.container? on with
  | none => (.bad, h, s)
  | some k =>
    match question k with
    | none => (.bad, h, s)
    | some body => (s.reply h k body [] #[], h, s)

/-- The question for the pool of a registry with blocks of a given size. -/
def askPool (size : Nat) (h : Heap) : Container → Option Body
  | .registry r =>
    match r.poolNumber? size with
    | .error f => some (.failed (.fault f))
    | .ok k => some (.pool (k.map fun k => .ofPool (h.pool k)))
  | _ => none

/-- Gives a container up. -/
def drop (on : Nat) (h : Heap) (s : Session) : Reply × State :=
  match s.container? on with
  | none => (.bad, h, s)
  | some k =>
    let h := k.drop h
    (s.replyMapped h .dropped #[], h, s.setContainer on none)

/-- Does something on another thread. A thread has a registry of its own, unless all threads share one. -/
def onThread (steps : State → List Reply × State) (h : Heap) (s : Session) : Reply × State :=
  match s.policy with
  | .shared =>
    let r := steps (h, s)
    ({ Reply.bad with body := .thread, inner := r.1 }, r.2)
  | .threadLocal =>
    match Registry.create h s.policy with
    | (.error f, h) => ({ Reply.bad with body := .failed (.fault f) }, h, s)
    | (.ok other, h) =>
      let home := s.home
      let r := steps (h, { s with home := other })
      ({ Reply.bad with body := .thread, inner := r.1 }, r.2.1, { r.2.2 with home })

/-- The interlude in which steps are carried out and their replies kept for later. -/
def interlude (steps : State → List Reply × State) : Interlude Session := fun state =>
  let r := steps state
  (r.2.1, { r.2.2 with replies := r.2.2.replies ++ r.1.toArray })

mutual

/-- Carries out one step. -/
def Step.run : Step → State → Reply × State
  | .malformed, state => (.bad, state)
  | .create spec maps, (h, s) => create spec (decisions maps) h s
  | .allocate on count request maps grew, (h, s) => allocate on count request (decisions maps) (interludes grew) h s
  | .free on blocks delta request, (h, s) => free on blocks delta request h s
  | .freeNull on request, (h, s) => freeNull on request h s
  | .owns on handle delta, (h, s) =>
    ask on h s fun k => do
      let b ← s.blocks[handle]?
      return .owns (← k.owns? h (b.offset delta))
  | .ownsOutside on, (h, s) => ask on h s fun k => (k.owns? h nowhere).map .owns
  | .info on, (h, s) => ask on h s fun k => some (.info (k.info h s))
  | .describe on, (h, s) => ask on h s fun k => some (.description (k.describe h s))
  | .pool on size, (h, s) => ask on h s (askPool size h)
  | .drop on, (h, s) => drop on h s
  | .thread steps, (h, s) => onThread (runAll steps) h s

/-- Carries out steps one after the other. -/
def runAll : List Step → State → List Reply × State
  | [], state => ([], state)
  | step :: steps, state =>
    match step.run state with
    | (reply, state) =>
      match runAll steps state with
      | (replies, state) => (reply :: replies, state)

/-- The decision of an operating system that reacts in a given way. -/
def Reaction.decision : Reaction → Decision Session
  | .mk meanwhile refuse => ⟨interlude (runAll meanwhile), refuse⟩

/-- The decisions of an operating system that reacts in given ways. -/
def decisions : List Reaction → List (Decision Session)
  | [] => []
  | r :: rs => r.decision :: decisions rs

/-- The interludes in which lists of steps are carried out. -/
def interludes : List (List Step) → List (Interlude Session)
  | [] => []
  | steps :: rest => interlude (runAll steps) :: interludes rest

end

end BlockHeap.Session
